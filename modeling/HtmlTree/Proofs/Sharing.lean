import HtmlTree.Proofs.Copies

namespace HtmlTree

namespace Forest

-- Every node is written down with the entries of its table. Where nodes have one table in common, they
-- have to agree on them.
def Coherent (f : Forest) : Prop := ∀ n m, f.SharesTable n m → f.attrs m = f.attrs n

variable {f g : Forest} {m n owner : NodeId} {attrs : Attributes}

theorem empty_coherent : Coherent .empty := by
  rintro n m (rfl | ⟨bears, _⟩)
  · rfl
  · rw [node_unknown (by simp [known, size, empty])] at bears
    exact absurd rfl bears

theorem Coherent.alike (coherent : Coherent f) (tables : ∀ m, (g.node m).table = (f.node m).table)
    (entries : ∀ m, g.attrs m = f.attrs m) : Coherent g := by
  intro a b shares
  rw [entries, entries]
  exact coherent a b ((SharesTable.same tables).mp shares)

-- A node that has no table in common with others may have any attributes.
theorem Coherent.alone (coherent : Coherent f) (own : (g.node n).table = none)
    (others : ∀ m, m ≠ n → g.node m = f.node m) : Coherent g := by
  rintro a b (rfl | ⟨bears, same⟩)
  · rfl
  have left : a ≠ n := fun here => bears (here ▸ own)
  have right : b ≠ n := fun here => bears (same.symm.trans (here ▸ own))
  rw [others a left] at bears
  rw [others a left, others b right] at same
  rw [Forest.attrs, Forest.attrs, others a left, others b right]
  exact coherent a b (.inr ⟨bears, same⟩)

theorem Coherent.setAttrs (coherent : Coherent f) (attrs : Option Attributes) :
    Coherent (f.setAttrs n attrs) := by
  by_cases known : f.known n = true
  swap
  · rwa [Forest.setAttrs, update_unknown (Bool.eq_false_iff.mpr known)]
  refine coherent.alone (n := n) ?_ fun m other => node_update_other _ _ _ _ other
  exact congrArg Node.table (node_update_same f n _ (known_iff.mp known))

theorem Coherent.writeAttrs (coherent : Coherent f) (attrs : Attributes) :
    Coherent (f.writeAttrs n attrs) := by
  by_cases known : f.known n = true
  swap
  · rwa [writeAttrs_unknown (Bool.eq_false_iff.mpr known)]
  intro a b shares
  have before := (SharesTable.same (table_writeAttrs attrs)).mp shares
  rw [attrs_writeAttrs known, attrs_writeAttrs known]
  by_cases written : f.SharesTable n a
  · rw [if_pos written, if_pos (written.trans before)]
  · rw [if_neg written, if_neg fun also => written (also.trans before.symm)]
    exact coherent a b before

theorem Coherent.shareAttrs (coherent : Coherent f) : Coherent (f.shareAttrs n owner) := by
  cases own : f.attrs n with
  | none => rwa [shareAttrs_bare (.inl own)]
  | some mine =>
    cases old : f.attrs owner with
    | none => rwa [shareAttrs_bare (.inr old)]
    | some theirs =>
      have joined (m : NodeId) (joins : m = n ∨ f.SharesTable owner m) :
          (f.shareAttrs n owner).attrs m = some theirs := by
        rw [attrs_shareAttrs own old]
        rcases joins with rfl | shares
        · exact if_pos rfl
        · rw [coherent owner m shares, old, ite_self]
      intro a b shares
      rcases shareAttrs_shares own old shares with ⟨left, right⟩ | ⟨here, there, before⟩
      · rw [joined a left, joined b right]
      · rw [attrs_shareAttrs own old, attrs_shareAttrs own old, if_neg here, if_neg there]
        exact coherent a b before

-- No call parts nodes that have a table in common, whatever nodes it is about.
theorem coherent_growing : Growing (fun _ => True) Coherent where
  closed _ _ _ := trivial
  fresh _ := trivial
  same coherent nodes := coherent.alike (fun m => by rw [node_of_nodes nodes])
    fun m => by rw [Forest.attrs, Forest.attrs, node_of_nodes nodes]
  write {f n change} coherent _ tabled _ := by
    by_cases known : f.known n = true
    swap
    · rwa [update_unknown (Bool.eq_false_iff.mpr known)]
    refine coherent.alike (fun m => ?_) fun m => ?_
    · rw [node_update known]
      split
      · exact (tabled _).table
      · rfl
    · rw [Forest.attrs, Forest.attrs, node_update known]
      split
      · exact (tabled _).attrs
      · rfl
  entered coherent _ attrs := coherent.writeAttrs attrs
  made {f content new} coherent made _ := by
    refine coherent.alone (n := f.size) ?_ fun m other => by rw [node_alloc, if_neg other]
    rw [node_alloc_new]
    exact made.unnumbered
  shared coherent _ _ := coherent.shareAttrs

-- Copies have tables of their own, in which the originals' entries are.
theorem Coherent.cloneTree (coherent : Coherent f) (n : NodeId) : Coherent (f.cloneTree n).2 := by
  rintro a b (rfl | ⟨bears, same⟩)
  · rfl
  have known (m : NodeId) (numbered : ((f.cloneTree n).2.node m).table ≠ none) :
      m < (f.cloneTree n).2.size := by
    by_contra beyond
    rw [node_unknown (Bool.eq_false_iff.mpr fun known => beyond (known_iff.mp known))] at numbered
    exact numbered rfl
  have shares : (f.cloneTree n).2.SharesTable a b := .inr ⟨bears, same⟩
  have also : ((f.cloneTree n).2.node b).table ≠ none := by rwa [same]
  by_cases left : a < f.size <;> by_cases right : b < f.size
  · rw [node_cloneTree_old (known_iff.mpr left)] at bears
    rw [node_cloneTree_old (known_iff.mpr left), node_cloneTree_old (known_iff.mpr right)] at same
    rw [Forest.attrs, Forest.attrs, node_cloneTree_old (known_iff.mpr left),
      node_cloneTree_old (known_iff.mpr right)]
    exact coherent a b (.inr ⟨bears, same⟩)
  · exact absurd shares (cloneTree_apart (known_iff.mpr left) (Nat.le_of_not_lt right))
  · exact absurd shares.symm (cloneTree_apart (known_iff.mpr right) (Nat.le_of_not_lt left))
  · obtain ⟨k, copied, rfl⟩ := copy_of_new (Nat.le_of_not_lt left) (known a bears)
    obtain ⟨l, second, rfl⟩ := copy_of_new (Nat.le_of_not_lt right) (known b also)
    rw [Forest.attrs, Forest.attrs, node_cloneTree_copy copied, node_cloneTree_copy second]
    rw [node_cloneTree_copy copied] at bears
    rw [node_cloneTree_copy copied, node_cloneTree_copy second] at same
    refine coherent k l (.inr ⟨fun bare => bears (congrArg (Option.map _) bare), ?_⟩)
    exact Option.map_injective (fun _ _ => Nat.add_left_cancel) same

-- What is set by way of one node shows at all that have the table, and at no others.
theorem Coherent.setAttribute_shown (coherent : Coherent f) (own : f.attrs n = some attrs)
    (name : String) (value : Option String) :
    ∃ g, Edit.setAttribute n name value f = .ok () g ∧ ∀ m, g.attrs m =
      if f.SharesTable n m then (f.attrs m).map (·.set name value) else f.attrs m := by
  refine ⟨f.writeAttrs n (attrs.set name value), ?_, fun m => ?_⟩
  · simp only [Edit.setAttribute, Edit.bind_run, Edit.get_run, own, Edit.modify_run]
  · rw [attrs_writeAttrs (known_of_attrs own)]
    refine ite_congr rfl (fun shares => ?_) fun _ => rfl
    rw [coherent n m shares, own]
    rfl

-- The table of the first node is handed over to the second one.
example : (Forest.empty.through [.element (some "b") (some "html"),
    .elementNode (some "i") (.of 0) (some "html"), .setAttribute 1 "id" none]).attrs 0 =
      some ⟨[("id", none)]⟩ := by decide +kernel

end Forest

namespace Builder
open Forest EStateM

theorem coherent_attended : Attended Coherent where
  plain name data := (Edit.make_confined coherent_growing (.plain name none data none)).keeps
  element name ns := (Edit.makeElement_confined coherent_growing name ns).keeps
  given _ attrs coherent := coherent.setAttrs attrs
  entered _ attrs coherent := coherent.writeAttrs attrs
  filled _ data coherent := coherent_growing.setData coherent trivial data
  freed _ := Edit.detach_confined coherent_growing.toConfined trivial

theorem move_coherent (move : Move) : Keeps Coherent move.run :=
  move.run_confined coherent_growing.toConfined fun _ _ => trivial

theorem appendChild_coherent (parent child : Site) :
    Keeps (Over Coherent) (appendChild parent child) :=
  Keeps.bind Keeps.read fun b =>
    onForest_keeps (move_coherent (.append (b.container parent) (some child.node)))

theorem insertBefore_coherent (parent child reference : Site) :
    Keeps (Over Coherent) (insertBefore parent child reference) :=
  Keeps.bind Keeps.read fun b => onForest_keeps
    (move_coherent (.before (b.container parent) (some reference.node) (some child.node)))

theorem insertText_coherent (s : Site) (data : Option String) (before : Option Site) :
    Keeps (Over Coherent) (insertText s data before) := by
  refine insertText_keeps coherent_attended s data before fun move _ => ?_
  exact Keeps.bind (Edit.make_confined coherent_growing (.text data)).keeps fun n =>
    move_coherent (move n)

theorem reparentChildren_coherent (source target : Site) :
    Keeps (Over Coherent) (reparentChildren source target) := by
  refine Keeps.bind Keeps.read fun b => ?_
  split
  · exact Keeps.throw _
  · exact Keeps.forM fun n _ => onForest_keeps (move_coherent (.append _ _))

theorem gatherFragment_coherent (source : Site) : Keeps (Over Coherent) (gatherFragment source) := by
  refine Keeps.bind (newFragment_keeps coherent_attended) fun fragment => ?_
  exact Keeps.bind (reparentChildren_coherent source fragment) fun _ => Keeps.pure fragment

end Builder

theorem BuildStep.run_coherent (step : BuildStep) :
    EStateM.Keeps (Builder.Over Forest.Coherent) step.run := by
  have attended := Builder.coherent_attended
  have done {e : Build Unit} (kept : EStateM.Keeps (Builder.Over Forest.Coherent) e) :
      EStateM.Keeps (Builder.Over Forest.Coherent) (do e; pure (none : Option Site)) :=
    EStateM.Keeps.bind kept fun _ => EStateM.Keeps.pure none
  cases step with
  | document => exact (Builder.newDocument_keeps attended).map _
  | doctype name => exact (Builder.newDoctype_keeps attended name).map _
  | comment data => exact (Builder.newComment_keeps attended data).map _
  | fragment => exact (Builder.newFragment_keeps attended).map _
  | element name uri => exact (Builder.newElement_keeps attended name uri).map _
  | clone site => exact (Builder.clone_keeps attended site).map _
  | attributes site attrs => exact done (Builder.setAttributes_keeps attended site attrs)
  | addAttributes site attrs => exact done (Builder.addAttributes_keeps attended site attrs)
  | append parent child => exact done (Builder.appendChild_coherent parent child)
  | before parent child reference =>
    exact done (Builder.insertBefore_coherent parent child reference)
  | text site data reference => exact done (Builder.insertText_coherent site data reference)
  | remove parent child => exact done (Builder.removeChild_keeps attended parent child)
  | reparent source target => exact done (Builder.reparentChildren_coherent source target)
  | gather source => exact (Builder.gatherFragment_coherent source).map _

-- Whatever has been asked of a forest so far, nodes that have one table of attributes read the same in it.
theorem Reached.coherent {f : Forest} (reached : Reached f) : f.Coherent := by
  induction reached with
  | empty => exact Forest.empty_coherent
  | call call _ _ ih => exact call.run_confined Forest.coherent_growing (fun _ _ => trivial) _ ih
  | build step _ _ ih =>
    rw [step.after_eq]
    exact step.run_coherent _ ih

end HtmlTree

import HtmlTree.Proofs.Placement

namespace HtmlTree

namespace Forest

variable {f g h : Forest} {a c n p : NodeId}
  {front block back gone parts one two : List NodeId}

-- What becomes of the links when a block of nodes comes between two parts of a list, out of other
-- lists, and the nodes that stood there go.
structure Spliced (f g : Forest) (p : NodeId) (front block back gone : List NodeId) : Prop where
  size : g.size = f.size
  node : ∀ m, g.node m = (f.node m).relink
    (if m ∈ block then some p else if m ∈ gone then none else f.parent m)
    (if m = p then some (front ++ block ++ back)
    else (f.children m).map (·.filter (· ∉ block ++ gone)))

theorem Spliced.parent (spliced : Spliced f g p front block back gone) (m : NodeId) :
    g.parent m = if m ∈ block then some p else if m ∈ gone then none else f.parent m := by
  rw [Forest.parent, spliced.node m, Node.relink_parent]

theorem Spliced.children (spliced : Spliced f g p front block back gone) (m : NodeId) :
    g.children m = if m = p then some (front ++ block ++ back)
      else (f.children m).map (·.filter (· ∉ block ++ gone)) := by
  rw [Forest.children, spliced.node m, Node.relink_children]

-- Nothing about the nodes is left open.
theorem Spliced.unique (spliced : Spliced f g p front block back gone)
    (other : Spliced f h p front block back gone) : h.nodes = g.nodes :=
  nodes_ext (other.size.trans spliced.size.symm) fun m => (other.node m).trans (spliced.node m).symm

theorem Spliced.none (owned : Owned f) (owns : f.children p = some (front ++ back)) :
    Spliced f f p front [] back [] := by
  refine ⟨rfl, fun m => ?_⟩
  rw [List.append_nil, List.append_nil, owned.children_filter (by simp)]
  by_cases here : m = p
  · subst here
    simp [← owns]
    rfl
  · simp [here]
    rfl

theorem filter_twice (lists : Option (List NodeId)) (one two : List NodeId) :
    (lists.map (·.filter (· ∉ one))).map (·.filter (· ∉ two)) =
      lists.map (·.filter (· ∉ one ++ two)) := by
  cases lists with
  | none => rfl
  | some list =>
    rw [Option.map_some, Option.map_some, Option.map_some, List.filter_filter]
    exact congrArg some (List.filter_congr fun c _ => by simp [Bool.and_comm])

-- What comes behind a block that came before makes one block with it.
theorem Spliced.further (first : Spliced f g p front one back [])
    (next : Spliced g h p (front ++ one) two back []) :
    Spliced f h p front (one ++ two) back [] := by
  refine ⟨next.size.trans first.size, fun m => ?_⟩
  rw [next.node m, first.parent m, first.children m, first.node m, Node.relink_relink]
  congr 1
  · by_cases early : m ∈ one <;> by_cases late : m ∈ two <;> simp [early, late]
  · by_cases here : m = p
    · simp [here]
    · rw [if_neg here, if_neg here, if_neg here, filter_twice]
      simp

theorem Relinked.spliced (relinked : Relinked f g p front.length block (block ++ gone))
    (owned : Owned f) (whole : f.kids p = front ++ gone ++ back)
    (apart : ∀ b ∈ block, b ∉ f.kids p) : Spliced f g p front block back gone := by
  have once := owned.once p
  rw [whole, List.nodup_append, List.nodup_append] at once
  obtain ⟨⟨_, _, before⟩, _, behind⟩ := once
  have stays {part : List NodeId} (among : part ⊆ f.kids p) (others : ∀ c ∈ part, c ∉ gone) :
      part.filter (· ∉ block ++ gone) = part := by
    refine List.filter_eq_self.mpr fun c member => decide_eq_true fun leaves => ?_
    rcases List.mem_append.mp leaves with joins | goes
    · exact apart c joins (among member)
    · exact others c member goes
  have goes : gone.filter (· ∉ block ++ gone) = [] :=
    List.filter_eq_nil_iff.mpr fun c goes stays =>
      of_decide_eq_true stays (List.mem_append_right _ goes)
  have left : ((f.kids p).take front.length).filter (· ∉ block ++ gone) = front := by
    rw [whole, List.append_assoc, List.take_left]
    exact stays (by simp [whole]) fun c member goes => before c member c goes rfl
  have right : ((f.kids p).drop front.length).filter (· ∉ block ++ gone) = back := by
    rw [whole, List.append_assoc, List.drop_left, List.filter_append, goes, List.nil_append]
    refine stays (by simp [whole]) fun c member goes => ?_
    exact behind c (List.mem_append_right _ goes) c member rfl
  refine ⟨relinked.size, fun m => ?_⟩
  rw [relinked.node m, left, right]
  congr 1
  by_cases joins : m ∈ block <;> simp [joins]

-- Nothing that comes with a node from elsewhere is in the list already.
theorem Owned.handed_elsewhere (owned : Owned f) (clear : ¬ Above f n p)
    (elsewhere : f.parent n ≠ some p) : ∀ b ∈ f.handed (some n), b ∉ f.kids p := by
  intro b joins member
  cases (Edit.mem_handed_sibling owned (by simpa using clear) member).mp joins
  exact elsewhere ((owned.listed p n).mp member)

-- The way up from a node that nothing of the block is above leads where it led.
theorem Spliced.above (spliced : Spliced f g p front block back [])
    (clear : ∀ b ∈ block, ¬ Above f b n) (above : Above g a n) : Above f a n := by
  induction above with
  | self => exact .self
  | @up n q upward _ ih =>
    have outside : n ∉ block := fun joins => clear n joins .self
    rw [spliced.parent, if_neg outside, if_neg List.not_mem_nil] at upward
    exact .up upward (ih fun b joins above => clear b joins (.up upward above))

-- Nodes of one list that are still to go to a parent.
structure Waiting (f : Forest) (n p : NodeId) (parts : List NodeId) : Prop where
  distinct : parts.Nodup
  below : ∀ c ∈ parts, f.parent c = some n
  clear : ¬ Above f n p

theorem Waiting.under (waiting : Waiting f n p (c :: parts)) : ¬ Above f c p := fun above =>
  waiting.clear (.trans (.up (waiting.below c List.mem_cons_self) .self) above)

theorem Waiting.elsewhere (waiting : Waiting f n p (c :: parts)) : f.parent c ≠ some p := by
  intro here
  cases (waiting.below c List.mem_cons_self).symm.trans here
  exact waiting.clear .self

-- When the first of them has come to its place, the others still wait.
theorem Waiting.next (waiting : Waiting f n p (c :: parts))
    (spliced : Spliced f g p front [c] back []) : Waiting g n p parts := by
  obtain ⟨fresh, rest⟩ := List.nodup_cons.mp waiting.distinct
  refine ⟨rest, fun b member => ?_, fun above => ?_⟩
  · have other : b ∉ [c] := fun same => fresh (List.mem_singleton.mp same ▸ member)
    rw [spliced.parent, if_neg other, if_neg List.not_mem_nil]
    exact waiting.below b (List.mem_cons_of_mem _ member)
  · exact waiting.clear (spliced.above (by simpa using waiting.under) above)

end Forest

namespace Edit
open Forest

variable {f g : Forest} {c n p old : NodeId} {front back parts : List NodeId}

-- Between two parts of a list there is a place, also where something stands between them.
theorem inRange_between (front back : List NodeId) (gives : Option NodeId) :
    InRange (front ++ gives.toList ++ back) front.length gives.isSome := by
  refine ⟨Int.natCast_nonneg _, ?_⟩
  cases gives with
  | none =>
    simp only [Option.isSome_none, Bool.false_eq_true, if_false, List.length_append]
    omega
  | some old =>
    simp only [Option.isSome_some, if_true, List.length_append, Option.toList_some,
      List.length_singleton]
    omega

theorem placeIn_split (owns : f.children p = some (front ++ c :: back))
    (once : (front ++ c :: back).Nodup) :
    f.placeIn p c = .ok (front ++ c :: back, front.length) := by
  have fresh : c ∉ front := fun again =>
    (List.nodup_append.mp once).2.2 c again c List.mem_cons_self rfl
  simp [placeIn, owns, List.idxOf?_append_cons fresh back]

-- A reference parts the list in front of it, none at its end.
theorem split_before {r : Option NodeId} {list : List NodeId} (among : ∀ c ∈ r, c ∈ list) :
    ∃ front back, list = front ++ back ∧ back.head? = r := by
  cases r with
  | none => exact ⟨list, [], by simp, rfl⟩
  | some c =>
    obtain ⟨front, back, split⟩ := List.append_of_mem (among c rfl)
    exact ⟨front, c :: back, split, rfl⟩

theorem insertBefore_between (owns : f.children p = some (front ++ back))
    (once : (front ++ back).Nodup) (linked : ∀ r ∈ back.head?, f.parent r = some p)
    (new : Option NodeId) :
    insertBefore p back.head? new f =
      (discard (insertNode p front.length new false) : Edit Unit) f := by
  rw [Move.insertBefore_plan]
  cases back with
  | nil =>
    rw [List.append_nil] at owns
    simp [Plan.inFront, Plan.atEnd, owns, Plan.run]
  | cons r back =>
    have placed := placeIn_split owns once
    have here : f.parent r = some p := linked r rfl
    simp [Plan.inFront, Plan.atPlace, owns, here, placed, Plan.run]

theorem replace_between (owns : f.children p = some (front ++ old :: back))
    (once : (front ++ old :: back).Nodup) (linked : f.parent old = some p) (new : Option NodeId) :
    replace old new f = match insertNode p front.length new true f with
      | .ok _ g => .ok old g
      | .error failure g => .error failure g := by
  have placed := placeIn_split owns once
  simp only [replace, bind_run, get_run, linked, placed, lift_ok]
  cases insertNode p front.length new true f <;> rfl

-- A node, or all that a fragment holds, comes from elsewhere between two parts of a list, and what
-- may have stood there gives way.
theorem insertNode_spliced (gives : Option NodeId) (owned : Owned f)
    (owns : f.children p = some (front ++ gives.toList ++ back)) (known : f.known n = true)
    (clear : ¬ Above f n p) (splits : Splits f n) (elsewhere : f.parent n ≠ some p) :
    ∃ g, insertNode p front.length (some n) gives.isSome f = .ok gives g ∧ Owned g ∧
      Spliced f g p front (f.handed (some n)) back gives.toList := by
  have whole : f.kids p = front ++ gives.toList ++ back := kids_eq owns
  have shown : displaced (front ++ gives.toList ++ back) front.length gives.isSome = gives := by
    cases gives <;> simp [displaced]
  have inside := inRange_between front back gives
  have other : ¬ (gives.isSome = true ∧
      some n = removedBy f (front ++ gives.toList ++ back) front.length gives.isSome) := by
    rintro ⟨_, same⟩
    rw [removedBy_owned owned owns, Int.toNat_natCast, shown] at same
    refine elsewhere ((owned.listed p n).mp ?_)
    simp [whole, ← same]
  obtain ⟨g, ran, relinked⟩ := insertNode_moved owned owns inside other (by simpa using known)
    (by simpa using clear) (by simpa using splits)
  rw [Int.toNat_natCast, shown] at ran relinked
  have admitted : Admitted f p (f.handed (some n)) := owned.handed_admitted (by simpa using clear)
  exact ⟨g, ran, owned.relinked relinked (List.subset_append_left _ _) admitted,
    relinked.spliced owned whole (owned.handed_elsewhere clear elsewhere)⟩

theorem insertBefore_spliced (owned : Owned f) (owns : f.children p = some (front ++ back))
    (known : f.known n = true) (clear : ¬ Above f n p) (splits : Splits f n)
    (elsewhere : f.parent n ≠ some p) :
    ∃ g, insertBefore p back.head? (some n) f = .ok () g ∧ Owned g ∧
      Spliced f g p front (f.handed (some n)) back [] := by
  obtain ⟨g, ran, after, spliced⟩ := insertNode_spliced none owned
    (by simpa using owns) known clear splits elsewhere
  refine ⟨g, ?_, after, spliced⟩
  have ran : insertNode p front.length (some n) false f = .ok none g := ran
  have whole : f.kids p = front ++ back := kids_eq owns
  have linked : ∀ r ∈ back.head?, f.parent r = some p := fun r first =>
    (owned.listed p r).mp (whole ▸ List.mem_append_right _ (List.mem_of_mem_head? first))
  rw [insertBefore_between owns (whole ▸ owned.once p) linked, discard_run, ran]

theorem replace_spliced (owned : Owned f) (owns : f.children p = some (front ++ old :: back))
    (known : f.known n = true) (clear : ¬ Above f n p) (splits : Splits f n)
    (elsewhere : f.parent n ≠ some p) :
    ∃ g, replace old (some n) f = .ok old g ∧
      Spliced f g p front (f.handed (some n)) back [old] := by
  obtain ⟨g, ran, _, spliced⟩ := insertNode_spliced (some old) owned
    (by simpa using owns) known clear splits elsewhere
  refine ⟨g, ?_, spliced⟩
  have ran : insertNode p front.length (some n) true f = .ok (some old) g := ran
  have whole : f.kids p = front ++ old :: back := kids_eq owns
  have linked : f.parent old = some p := (owned.listed p old).mp (by simp [whole])
  rw [replace_between owns (whole ▸ owned.once p) linked, ran]

-- A node that stands behind a block that came in goes, as if the block had come in its place.
theorem detach_spliced (owned : Owned g) (spliced : Spliced f g p front parts (old :: back) []) :
    ∃ h, detach old g = .ok () h ∧ Spliced f h p front parts back [old] := by
  have owns : g.children p = some (front ++ parts ++ old :: back) := by
    rw [spliced.children, if_pos rfl]
  have linked : g.parent old = some p := owned.link owns (by simp)
  obtain ⟨h, ran, relinked⟩ := detach_owned owned linked
  refine ⟨h, ran, relinked.size.trans spliced.size, fun m => ?_⟩
  have whole : g.kids p = front ++ parts ++ old :: back := kids_eq owns
  have once := owned.once p
  rw [whole] at once
  have list : (front ++ parts ++ old :: back).filter (· ∉ [old]) = front ++ parts ++ back :=
    filter_without [] once (by simp)
  have apart : old ∉ parts := fun joins => (List.nodup_append.mp once).2.2 old
    (List.mem_append_right _ joins) old List.mem_cons_self rfl
  rw [relinked.node m, spliced.parent, spliced.children, spliced.node m, Node.relink_relink, whole]
  congr 1
  · by_cases goes : m = old
    · subst goes
      simp [apart]
    · simp [goes]
  · by_cases here : m = p
    · simpa [here] using list
    · rw [if_neg here, if_neg here, if_neg here, filter_twice]
      simp

-- One after the other, the nodes come to stand as they stood in their own list.
theorem insertEach_spliced (owned : Owned f) (owns : f.children p = some (front ++ back))
    (waiting : Waiting f n p parts) :
    ∃ g, parts.forM (fun c => insertBefore p back.head? (some c)) f = .ok () g ∧ Owned g ∧
      Spliced f g p front parts back [] := by
  induction parts generalizing f front with
  | nil => exact ⟨f, rfl, owned, .none owned owns⟩
  | cons c parts ih =>
    have linked := waiting.below c List.mem_cons_self
    have plain := owned.plain linked
    have alone : f.handed (some c) = [c] := by simp [handed, plain]
    obtain ⟨g, ran, after, spliced⟩ := insertBefore_spliced owned owns (known_of_parent linked)
      waiting.under (fun fragment => by cases plain.symm.trans fragment) waiting.elsewhere
    rw [alone] at spliced
    have here : g.children p = some (front ++ [c] ++ back) := by rw [spliced.children, if_pos rfl]
    obtain ⟨h, later, last, further⟩ := ih after here (waiting.next spliced)
    refine ⟨h, ?_, last, spliced.further further⟩
    rw [List.forM, bind_run, ran]
    exact later

end Edit

namespace Forest
open Edit

variable {f : Forest} {n p : NodeId} {list parts : List NodeId}

-- A fragment comes into a parent as its children would one by one: in front of any child, behind
-- the last one, or in place of a child, which then would go after they have come in front of it.
-- Only the notes that are taken on the way differ.
theorem Owned.fragment_piecewise (owned : Owned f) (owns : f.children p = some list)
    (fragment : (f.node n).isFragment = true) (branch : (f.node n).kind.isBranch = true)
    (holds : f.children n = some parts) (clear : ¬ Above f n p) :
    (∀ r : Option NodeId, (∀ c ∈ r, c ∈ list) →
      ∃ g h, insertBefore p r (some n) f = .ok () g ∧
        parts.forM (fun c => insertBefore p r (some c)) f = .ok () h ∧ h.nodes = g.nodes) ∧
    ∀ old ∈ list,
      ∃ g h, replace old (some n) f = .ok old g ∧
        (do parts.forM fun c => insertBefore p (some old) (some c)
            detach old : Edit Unit) f = .ok () h ∧ h.nodes = g.nodes := by
  have known : f.known n = true := known_of_children holds
  have splits : Splits f n := fun _ => ⟨by rintro leaf; simp [leaf, Kind.isBranch] at branch,
    by simp [holds]⟩
  have own : f.kids n = parts := kids_eq holds
  have block : f.handed (some n) = parts := by simp [handed, fragment, own]
  have elsewhere : f.parent n ≠ some p := by simp [owned.free n fragment]
  have waiting : Waiting f n p parts :=
    ⟨own ▸ owned.once n, fun c member => (owned.listed n c).mp (own ▸ member), clear⟩
  constructor
  · intro r among
    obtain ⟨front, back, rfl, rfl⟩ := split_before among
    obtain ⟨g, whole, _, at_once⟩ := insertBefore_spliced owned owns known clear splits elsewhere
    obtain ⟨h, each, _, singly⟩ := insertEach_spliced owned owns waiting
    rw [block] at at_once
    exact ⟨g, h, whole, each, at_once.unique singly⟩
  · intro old among
    obtain ⟨front, back, rfl⟩ := List.append_of_mem among
    obtain ⟨g, whole, at_once⟩ := replace_spliced owned owns known clear splits elsewhere
    obtain ⟨between, each, still, singly⟩ := insertEach_spliced owned owns waiting
    obtain ⟨h, last, gone⟩ := detach_spliced still singly
    rw [block] at at_once
    refine ⟨g, h, whole, ?_, at_once.unique gone⟩
    rw [List.head?_cons] at each
    rw [bind_run, each]
    exact last

-- Two texts come into a list of two items, in front of the second one or in place of the first.
theorem Owned.fragment_piecewise_list :
    let f := Forest.empty.through [.fragment, .text (some "a"), .text (some "b"),
      .element (some "ul") (some "html"), .element (some "li") (some "html"),
      .element (some "li") (some "html"), .move (.append 0 (some 1)), .move (.append 0 (some 2)),
      .move (.append 3 (some 4)), .move (.append 3 (some 5))]
    f.children 0 = some [1, 2] ∧ f.children 3 = some [4, 5] ∧
      (∃ g h, insertBefore 3 (some 5) (some 0) f = .ok () g ∧ g.children 3 = some [4, 1, 2, 5] ∧
        [1, 2].forM (fun c => insertBefore 3 (some 5) (some c)) f = .ok () h ∧
        h.nodes = g.nodes) ∧
      ∃ g h, replace 4 (some 0) f = .ok 4 g ∧ g.children 3 = some [1, 2, 5] ∧
        (do [1, 2].forM fun c => insertBefore 3 (some 4) (some c)
            detach 4 : Edit Unit) f = .ok () h ∧ h.nodes = g.nodes := by
  intro f
  have owned : Owned f := (Reached.empty.through (by decide)).sound.owned
  have owns : f.children 3 = some [4, 5] := by decide
  have holds : f.children 0 = some [1, 2] := by decide
  have top : f.parent 3 = none := by decide
  have clear : ¬ Above f 0 3 := by
    intro above
    cases above with
    | up upward _ => cases top.symm.trans upward
  obtain ⟨before, instead⟩ :=
    Owned.fragment_piecewise owned owns (by decide) (by decide) holds clear
  obtain ⟨g, h, whole, each, same⟩ := before (some 5) (by decide)
  obtain ⟨g', h', whole', each', same'⟩ := instead 4 (by decide)
  refine ⟨holds, owns, ⟨g, h, whole, ?_, each, same⟩, ⟨g', h', whole', ?_, each', same'⟩⟩
  · rw [← EStateM.after_ok whole]
    decide
  · rw [← EStateM.after_ok whole']
    decide

end Forest
end HtmlTree

import HtmlTree.Proofs.Ownership

namespace HtmlTree

def Node.retable (node : Node) (attrs : Option Attributes) (table : Option Nat) : Node :=
  { node with attrs := attrs, table := table }

namespace Forest

-- One table of attributes holds for both nodes, or they are one.
def SharesTable (f : Forest) (n m : NodeId) : Prop :=
  m = n ∨ (f.node n).table ≠ none ∧ (f.node m).table = (f.node n).table

instance (f : Forest) (n m : NodeId) : Decidable (f.SharesTable n m) :=
  inferInstanceAs (Decidable (_ ∨ _ ∧ _))

-- Forests that differ in nothing but attributes and the tables that these are in.
structure Retabled (f g : Forest) : Prop where
  size : g.size = f.size
  node : ∀ m, ∃ attrs table, g.node m = (f.node m).retable attrs table

variable {f g : Forest} {a b m n owner : NodeId} {attrs : Attributes} {table : Nat}

theorem SharesTable.self (f : Forest) (n : NodeId) : f.SharesTable n n := .inl rfl

theorem SharesTable.symm (shares : f.SharesTable a b) : f.SharesTable b a := by
  rcases shares with rfl | ⟨bears, same⟩
  · exact .inl rfl
  · exact .inr ⟨same ▸ bears, same.symm⟩

theorem SharesTable.trans (first : f.SharesTable a b) (next : f.SharesTable b m) :
    f.SharesTable a m := by
  rcases first with rfl | ⟨bears, same⟩
  · exact next
  · rcases next with rfl | ⟨_, again⟩
    · exact .inr ⟨bears, same⟩
    · exact .inr ⟨bears, again.trans same⟩

theorem SharesTable.same (tables : ∀ m, (g.node m).table = (f.node m).table) :
    g.SharesTable a b ↔ f.SharesTable a b := by
  rw [SharesTable, SharesTable, tables, tables]

theorem Retabled.sameLinks (retabled : Retabled f g) : SameLinks f g := by
  refine .of_nodes_alike retabled.size fun m => ?_
  obtain ⟨attrs, table, same⟩ := retabled.node m
  rw [same]
  exact ⟨rfl, rfl, rfl, rfl⟩

theorem retabled_update {change : Node → Node}
    (attributes : ∀ node, ∃ attrs table, change node = node.retable attrs table) :
    Retabled f (f.update n change) := by
  refine ⟨size_update _ _ _, fun m => ?_⟩
  by_cases known : f.known n = true
  · rw [node_update known]
    split
    · exact attributes _
    · exact ⟨_, _, rfl⟩
  · rw [update_unknown (Bool.eq_false_iff.mpr known)]
    exact ⟨_, _, rfl⟩

theorem Retabled.trans {h : Forest} (first : Retabled f g) (next : Retabled g h) : Retabled f h := by
  refine ⟨next.size.trans first.size, fun m => ?_⟩
  obtain ⟨_, _, same⟩ := first.node m
  obtain ⟨attrs, table, again⟩ := next.node m
  exact ⟨attrs, table, by rw [again, same]; rfl⟩

theorem known_of_attrs (read : f.attrs n = some attrs) : f.known n = true := by
  by_contra unknown
  simp [Forest.attrs, node_unknown (Bool.eq_false_iff.mpr unknown), Node.newText] at read

theorem setAttrs_retabled (attrs : Option Attributes) : Retabled f (f.setAttrs n attrs) :=
  retabled_update fun _ => ⟨attrs, none, rfl⟩

theorem node_map_nodes {change : Node → Node} (bare : change (Node.newText none) = Node.newText none)
    (m : NodeId) : Forest.node { f with nodes := f.nodes.map change } m = change (f.node m) := by
  simp only [node, Array.getElem?_map]
  cases f.nodes[m]? <;> simp [bare]

-- What is written into a table shows at all nodes that have it, and at no others.
theorem node_writeAttrs (known : f.known n = true) (attrs : Attributes) (m : NodeId) :
    (f.writeAttrs n attrs).node m = if f.SharesTable n m
      then (f.node m).retable (some attrs) (f.node m).table else f.node m := by
  unfold writeAttrs
  cases own : (f.node n).table with
  | none =>
    have alone : f.SharesTable n m ↔ m = n := by simp [SharesTable, own]
    simp only [node_update known, alone]
    rfl
  | some table =>
    dsimp only
    rw [node_map_nodes (by simp [Node.newText])]
    have bears : (f.node m).table = some table ↔ f.SharesTable n m := by
      refine ⟨fun same => .inr ⟨by simp [own], same.trans own.symm⟩, fun shares => ?_⟩
      rcases shares with rfl | ⟨_, same⟩
      · exact own
      · exact same.trans own
    simp only [bears]
    rfl

theorem writeAttrs_unknown (unknown : f.known n = false) (attrs : Attributes) :
    f.writeAttrs n attrs = f := by
  unfold writeAttrs
  rw [node_unknown unknown]
  exact update_unknown unknown _

theorem size_writeAttrs (attrs : Attributes) : (f.writeAttrs n attrs).size = f.size := by
  unfold writeAttrs
  split
  · exact size_update _ _ _
  · simp [size]

theorem writeAttrs_retabled (attrs : Attributes) : Retabled f (f.writeAttrs n attrs) := by
  refine ⟨size_writeAttrs attrs, fun m => ?_⟩
  by_cases known : f.known n = true
  · rw [node_writeAttrs known]
    split
    · exact ⟨_, _, rfl⟩
    · exact ⟨_, _, rfl⟩
  · rw [writeAttrs_unknown (Bool.eq_false_iff.mpr known)]
    exact ⟨_, _, rfl⟩

theorem table_writeAttrs (attrs : Attributes) (m : NodeId) :
    ((f.writeAttrs n attrs).node m).table = (f.node m).table := by
  by_cases known : f.known n = true
  · rw [node_writeAttrs known]
    split <;> rfl
  · rw [writeAttrs_unknown (Bool.eq_false_iff.mpr known)]

theorem attrs_writeAttrs (known : f.known n = true) (attrs : Attributes) (m : NodeId) :
    (f.writeAttrs n attrs).attrs m = if f.SharesTable n m then some attrs else f.attrs m := by
  rw [Forest.attrs, node_writeAttrs known]
  split <;> rfl

theorem foldl_tables (nodes : List Node) (start : Nat) :
    let next := nodes.foldl (fun next node => max next ((node.table.map (· + 1)).getD 0)) start
    start ≤ next ∧ ∀ node ∈ nodes, ∀ table, node.table = some table → table < next := by
  induction nodes generalizing start with
  | nil => exact ⟨Nat.le_refl _, fun _ member => absurd member List.not_mem_nil⟩
  | cons node nodes ih =>
    obtain ⟨above, later⟩ := ih (max start ((node.table.map (· + 1)).getD 0))
    rw [List.foldl_cons]
    refine ⟨Nat.le_trans (Nat.le_max_left _ _) above, fun other member table bears => ?_⟩
    rcases List.mem_cons.mp member with rfl | among
    · refine Nat.lt_of_lt_of_le ?_ above
      rw [bears, Option.map_some, Option.getD_some]
      exact Nat.le_max_right start (table + 1)
    · exact later other among table bears

-- Every table that a node bears is below the next one.
theorem table_lt_nextTable (bears : (f.node n).table = some table) : table < f.nextTable := by
  have all : ∀ node ∈ f.nodes.toList, ∀ table, node.table = some table → table < f.nextTable := by
    rw [nextTable, ← Array.foldl_toList]
    exact (foldl_tables f.nodes.toList 0).2
  exact node_all all nofun n table bears

-- The table under which a node's attributes are to be had in common.
def tableOf (f : Forest) (owner : NodeId) : Nat := (f.node owner).table.getD f.nextTable

theorem shareAttrs_bare (bare : f.attrs n = none ∨ f.attrs owner = none) :
    f.shareAttrs n owner = f := by
  unfold shareAttrs
  rw [if_neg]
  rcases bare with new | old
  · simp [new]
  · simp [old]

variable {mine theirs : Attributes}

theorem node_shareAttrs (own : f.attrs n = some mine) (old : f.attrs owner = some theirs)
    (m : NodeId) : (f.shareAttrs n owner).node m =
      if m = n then (f.node m).retable (some theirs) (some (f.tableOf owner))
      else if m = owner then (f.node m).retable (f.attrs m) (some (f.tableOf owner))
      else f.node m := by
  have still (change : Node → Node) : (f.update owner change).known n = true := by
    rw [known_iff, size_update]
    exact known_iff.mp (known_of_attrs own)
  simp only [shareAttrs, own, old, Option.isSome_some, Bool.and_self, if_true, node_update (still _),
    node_update (known_of_attrs old)]
  split
  · split <;> rfl
  · split <;> rfl

theorem shareAttrs_retabled : Retabled f (f.shareAttrs n owner) := by
  unfold shareAttrs
  split
  · have numbered : Retabled f (f.update owner ({ · with table := some (f.tableOf owner) })) :=
      retabled_update fun node => ⟨node.attrs, _, rfl⟩
    exact numbered.trans (retabled_update fun _ => ⟨f.attrs owner, some (f.tableOf owner), rfl⟩)
  · exact ⟨rfl, fun m => ⟨_, _, rfl⟩⟩

theorem attrs_shareAttrs (own : f.attrs n = some mine) (old : f.attrs owner = some theirs)
    (m : NodeId) : (f.shareAttrs n owner).attrs m = if m = n then some theirs else f.attrs m := by
  rw [Forest.attrs, node_shareAttrs own old]
  split
  · rfl
  · split <;> rfl

-- The node joins those that have the table of the owner.
theorem table_shareAttrs (own : f.attrs n = some mine) (old : f.attrs owner = some theirs)
    (m : NodeId) : ((f.shareAttrs n owner).node m).table =
      if m = n ∨ f.SharesTable owner m then some (f.tableOf owner) else (f.node m).table := by
  rw [node_shareAttrs own old]
  by_cases new : m = n
  · rw [if_pos new, if_pos (.inl new)]
    rfl
  rw [if_neg new]
  by_cases here : m = owner
  · rw [if_pos here, if_pos (.inr (.inl here))]
    rfl
  rw [if_neg here]
  split
  · rename_i joined
    rcases joined with same | same | ⟨bears, same⟩
    · exact absurd same new
    · exact absurd same here
    · obtain ⟨table, bears⟩ := Option.ne_none_iff_exists'.mp bears
      rw [same, tableOf, bears]
      rfl
  · rfl

theorem tableOf_apart (apart : ¬ f.SharesTable owner m) : (f.node m).table ≠ some (f.tableOf owner) := by
  intro bears
  unfold tableOf at bears
  cases own : (f.node owner).table with
  | some table =>
    rw [own] at bears
    exact apart (.inr ⟨by simp [own], bears.trans own.symm⟩)
  | none =>
    rw [own] at bears
    exact Nat.lt_irrefl _ (table_lt_nextTable bears)

theorem shareAttrs_shares (own : f.attrs n = some mine) (old : f.attrs owner = some theirs)
    (shares : (f.shareAttrs n owner).SharesTable a b) :
    ((a = n ∨ f.SharesTable owner a) ∧ (b = n ∨ f.SharesTable owner b)) ∨
      (a ≠ n ∧ b ≠ n ∧ f.SharesTable a b) := by
  by_cases left : a = n ∨ f.SharesTable owner a <;> by_cases right : b = n ∨ f.SharesTable owner b
  · exact .inl ⟨left, right⟩
  · rcases shares with rfl | ⟨_, same⟩
    · exact absurd left right
    · rw [table_shareAttrs own old, table_shareAttrs own old, if_neg right, if_pos left] at same
      exact absurd same (tableOf_apart (not_or.mp right).2)
  · rcases shares with rfl | ⟨_, same⟩
    · exact absurd right left
    · rw [table_shareAttrs own old, table_shareAttrs own old, if_pos right, if_neg left] at same
      exact absurd same.symm (tableOf_apart (not_or.mp left).2)
  · refine .inr ⟨(not_or.mp left).1, (not_or.mp right).1, ?_⟩
    rcases shares with rfl | ⟨bears, same⟩
    · exact .inl rfl
    · rw [table_shareAttrs own old, if_neg left] at bears
      rw [table_shareAttrs own old, table_shareAttrs own old, if_neg left, if_neg right] at same
      exact .inr ⟨bears, same⟩

end Forest
end HtmlTree

import HtmlTree.Proofs.Footprint
import HtmlTree.Proofs.Traversals
import Mathlib

namespace HtmlTree.Forest
open Relation

variable {f g origin : Forest} {area : NodeId → Prop} {c k m n p : NodeId}

-- Nothing leads out of the area, no table of attributes is had in common with a node outside of it,
-- and all that is outside is as it was.
structure Untouched (area : NodeId → Prop) (origin f : Forest) : Prop where
  closed : ∀ n m, area n → (f.node n).LeadsTo m → area m
  joined : ∀ n m, area n → f.SharesTable n m → area m
  later : ∀ n, f.size ≤ n → area n
  outside : ∀ n, ¬ area n → f.node n = origin.node n

theorem Untouched.write (untouched : Untouched area origin f) (inside : area n)
    {change : Node → Node} (tabled : ∀ node : Node, node.Tabled (change node))
    (within : ∀ m, (change (f.node n)).LeadsTo m → area m) :
    Untouched area origin (f.update n change) := by
  by_cases known : f.known n = true
  swap
  · rwa [update_unknown (Bool.eq_false_iff.mpr known)]
  have tables (m : NodeId) : ((f.update n change).node m).table = (f.node m).table := by
    rw [node_update known]
    split
    · exact (tabled _).table
    · rfl
  refine ⟨?_, ?_, ?_, ?_⟩
  · intro a b member leads
    rw [node_update known] at leads
    split at leads
    · rename_i here
      exact within b (here ▸ leads)
    · exact untouched.closed a b member leads
  · intro a b member shares
    exact untouched.joined a b member ((SharesTable.same tables).mp shares)
  · intro a beyond
    exact untouched.later a (by rwa [size_update] at beyond)
  · intro a away
    have other : a ≠ n := fun same => away (same ▸ inside)
    rw [node_update known, if_neg other]
    exact untouched.outside a away

theorem Untouched.made (untouched : Untouched area origin f) {content : Option NodeId} {new : Node}
    (made : Node.Made content new) (within : ∀ c ∈ content, area c) :
    Untouched area origin (f.alloc new).2 := by
  have tables (m : NodeId) : ((f.alloc new).2.node m).table = (f.node m).table := by
    rw [node_alloc]
    split
    · rename_i here
      rw [here, node_size, made.unnumbered]
      rfl
    · rfl
  refine ⟨?_, ?_, ?_, ?_⟩
  · intro a b member leads
    rw [node_alloc] at leads
    split at leads
    · exact within b (made.leadsTo leads)
    · exact untouched.closed a b member leads
  · intro a b member shares
    exact untouched.joined a b member ((SharesTable.same tables).mp shares)
  · intro a beyond
    rw [size_alloc] at beyond
    exact untouched.later a (Nat.le_of_succ_le beyond)
  · intro a away
    have other : a ≠ f.size := fun same => away (same ▸ untouched.later f.size (Nat.le_refl _))
    rw [node_alloc, if_neg other]
    exact untouched.outside a away

-- Links stay as they are where only attributes change.
theorem Untouched.retabled (untouched : Untouched area origin f) (retabled : Retabled f g)
    (joined : ∀ n m, area n → g.SharesTable n m → area m)
    (outside : ∀ n, ¬ area n → g.node n = f.node n) : Untouched area origin g := by
  refine ⟨fun a b member leads => ?_, joined, fun a beyond => ?_, fun a away => ?_⟩
  · obtain ⟨attrs, table, same⟩ := retabled.node a
    rw [same] at leads
    exact untouched.closed a b member leads
  · exact untouched.later a (by rwa [retabled.size] at beyond)
  · rw [outside a away, untouched.outside a away]

-- What is written into a table is seen by those who have it, and none of them is outside.
theorem Untouched.entered (untouched : Untouched area origin f) (inside : area n)
    (attrs : Attributes) : Untouched area origin (f.writeAttrs n attrs) := by
  refine untouched.retabled (writeAttrs_retabled attrs) (fun a b member shares => ?_)
    fun a away => ?_
  · exact untouched.joined a b member ((SharesTable.same (table_writeAttrs attrs)).mp shares)
  · by_cases known : f.known n = true
    · rw [node_writeAttrs known, if_neg fun shares => away (untouched.joined n a inside shares)]
    · rw [writeAttrs_unknown (Bool.eq_false_iff.mpr known)]

theorem Untouched.shared (untouched : Untouched area origin f) {owner : NodeId} (new : area n)
    (inside : area owner) : Untouched area origin (f.shareAttrs n owner) := by
  cases own : f.attrs n with
  | none => rwa [shareAttrs_bare (.inl own)]
  | some mine =>
    cases old : f.attrs owner with
    | none => rwa [shareAttrs_bare (.inr old)]
    | some theirs =>
      refine untouched.retabled shareAttrs_retabled (fun a b member shares => ?_) fun a away => ?_
      · rcases shareAttrs_shares own old shares with ⟨_, rfl | same⟩ | ⟨_, _, before⟩
        · exact new
        · exact untouched.joined owner b inside same
        · exact untouched.joined a b member before
      · have here : a ≠ n := fun same => away (same ▸ new)
        have there : a ≠ owner := fun same => away (same ▸ inside)
        rw [node_shareAttrs own old, if_neg here, if_neg there]

theorem untouched_growing (area : NodeId → Prop) (origin : Forest) :
    Growing area (Untouched area origin) where
  closed untouched inside leads := untouched.closed _ _ inside leads
  fresh untouched := untouched.later _ (Nat.le_refl _)
  same {f g} untouched nodes := by
    have reads (n : NodeId) : g.node n = f.node n := node_of_nodes nodes
    refine ⟨fun n m inside leads => ?_, fun n m inside shares => ?_, fun n beyond => ?_,
      fun n away => ?_⟩
    · exact untouched.closed n m inside (reads n ▸ leads)
    · exact untouched.joined n m inside ((SharesTable.same fun m => by rw [reads]).mp shares)
    · exact untouched.later n (by simpa [size, nodes] using beyond)
    · rw [reads, untouched.outside n away]
  write untouched inside tabled within := untouched.write inside tabled within
  entered untouched inside attrs := untouched.entered inside attrs
  made untouched made within := untouched.made made within
  shared untouched new inside := untouched.shared new inside

-- The search for what belongs to a copy. Each step takes one node off the pending ones, and a node
-- brings its links with it once only, so the links of the nodes not found yet bound what is to come.
def ahead (f : Forest) (found : List NodeId) : Nat :=
  (((List.range f.size).filter (· ∉ found)).map fun m => (f.links m).length).sum

theorem links_unknown (unknown : f.known n = false) : f.links n = [] := by
  simp [links, content, children, parent, node_unknown unknown, Node.newText]

theorem ahead_found {found : List NodeId} (fresh : n ∉ found) :
    (f.links n).length + f.ahead (n :: found) = f.ahead found := by
  cases known : f.known n with
  | false =>
    have same : (List.range f.size).filter (· ∉ n :: found) =
        (List.range f.size).filter (· ∉ found) := by
      refine List.filter_congr fun m member => ?_
      have below : f.known m = true := decide_eq_true (List.mem_range.mp member)
      have other : m ≠ n := by
        rintro rfl
        cases known.symm.trans below
      simp [other]
    rw [links_unknown known, ahead, ahead, same, List.length_nil, Nat.zero_add]
  | true =>
    have member : n ∈ (List.range f.size).filter (· ∉ found) :=
      List.mem_filter.mpr ⟨List.mem_range.mpr (known_iff.mp known), by simpa using fresh⟩
    have nodup : ((List.range f.size).filter (· ∉ found)).Nodup := List.nodup_range.filter _
    have less : (List.range f.size).filter (· ∉ n :: found) =
        ((List.range f.size).filter (· ∉ found)).erase n := by
      rw [nodup.erase_eq_filter, List.filter_filter]
      refine List.filter_congr fun m _ => ?_
      by_cases same : m = n <;> simp [same]
    rw [ahead, ahead, less]
    exact List.sum_map_erase (fun m => (f.links m).length) member

structure Searched (f : Forest) (found pending result : List NodeId) : Prop where
  nodup : result.Nodup
  found : ∀ m ∈ found, m ∈ result
  pending : ∀ m ∈ pending, m ∈ result
  closed : ∀ m ∈ result, ∀ k ∈ f.links m, k ∈ result

theorem closure_searched (fuel : Nat) (found pending : List NodeId) (nodup : found.Nodup)
    (onward : ∀ m ∈ found, ∀ k ∈ f.links m, k ∈ found ∨ k ∈ pending)
    (enough : pending.length + f.ahead found < fuel) :
    Searched f found pending (f.closure fuel found pending) := by
  induction fuel generalizing found pending with
  | zero => omega
  | succ fuel ih =>
    cases pending with
    | nil =>
      rw [closure]
      refine ⟨List.nodup_reverse.mpr nodup, fun m member => List.mem_reverse.mpr member, by simp, ?_⟩
      intro m member k leads
      refine List.mem_reverse.mpr ?_
      exact (onward m (List.mem_reverse.mp member) k leads).resolve_right List.not_mem_nil
    | cons n pending =>
      rw [closure]
      rw [List.length_cons] at enough
      by_cases met : n ∈ found
      · rw [if_pos (by simpa using met)]
        have rest := ih found pending nodup (fun m member k leads => ?_) (by omega)
        · refine ⟨rest.nodup, rest.found, ?_, rest.closed⟩
          intro m member
          rcases List.mem_cons.mp member with rfl | later
          · exact rest.found m met
          · exact rest.pending m later
        · rcases onward m member k leads with before | waits
          · exact .inl before
          · rcases List.mem_cons.mp waits with rfl | later
            · exact .inl met
            · exact .inr later
      · rw [if_neg (by simpa using met)]
        have less := ahead_found (f := f) met
        have rest := ih (n :: found) (f.links n ++ pending) (List.nodup_cons.mpr ⟨met, nodup⟩)
          (fun m member k leads => ?_) (by rw [List.length_append]; omega)
        · refine ⟨rest.nodup, fun m member => rest.found m (List.mem_cons_of_mem _ member), ?_,
            rest.closed⟩
          intro m member
          rcases List.mem_cons.mp member with rfl | later
          · exact rest.found m List.mem_cons_self
          · exact rest.pending m (List.mem_append_right _ later)
        · rcases List.mem_cons.mp member with rfl | earlier
          · exact .inr (List.mem_append_left _ leads)
          · rcases onward m earlier k leads with before | waits
            · exact .inl (List.mem_cons_of_mem _ before)
            · rcases List.mem_cons.mp waits with rfl | later
              · exact .inl List.mem_cons_self
              · exact .inr (List.mem_append_right _ later)

-- Nothing is found that links do not lead to.
theorem closure_from {good : NodeId → Prop} (onward : ∀ m, good m → ∀ k ∈ f.links m, good k)
    (fuel : Nat) (found pending : List NodeId) (before : ∀ m ∈ found, good m)
    (waits : ∀ m ∈ pending, good m) : ∀ m ∈ f.closure fuel found pending, good m := by
  induction fuel generalizing found pending with
  | zero =>
    intro m member
    exact before m (List.mem_reverse.mp member)
  | succ fuel ih =>
    cases pending with
    | nil =>
      intro m member
      exact before m (List.mem_reverse.mp member)
    | cons n pending =>
      have here := waits n List.mem_cons_self
      have later : ∀ m ∈ pending, good m := fun m member => waits m (List.mem_cons_of_mem _ member)
      rw [closure]
      split
      · exact ih found pending before later
      · refine ih (n :: found) (f.links n ++ pending) ?_ ?_
        · intro m member
          rcases List.mem_cons.mp member with rfl | earlier
          · exact here
          · exact before m earlier
        · intro m member
          rcases List.mem_append.mp member with leads | waiting
          · exact onward n here m leads
          · exact later m waiting

theorem foldl_links (weight : Node → Nat) (nodes : List Node) (total : Nat) :
    nodes.foldl (fun total node => total + 3 + weight node) total =
      total + (nodes.map fun node => 3 + weight node).sum := by
  induction nodes generalizing total with
  | nil => simp
  | cons node nodes ih =>
    rw [List.foldl_cons, ih, List.map_cons, List.sum_cons]
    omega

theorem length_links (f : Forest) (n : NodeId) :
    (f.links n).length ≤ 3 + ((f.node n).children.getD []).length := by
  have content : (f.content n).toList.length ≤ 1 := by cases f.content n <;> simp
  have parent : (f.parent n).toList.length ≤ 1 := by cases f.parent n <;> simp
  refine (List.length_filter_le _ _).trans ?_
  rw [List.length_append, List.length_append, children]
  omega

theorem nodes_eq_map (f : Forest) : f.nodes.toList = (List.range f.size).map f.node := by
  refine List.ext_getElem (by simp [size]) fun i short _ => ?_
  have inside : i < f.nodes.size := by simpa using short
  simp [node, inside]

theorem ahead_lt_linkCount (f : Forest) : f.ahead [] < f.linkCount := by
  have bound : f.ahead [] ≤
      ((List.range f.size).map fun m => 3 + ((f.node m).children.getD []).length).sum := by
    have all : (List.range f.size).filter (· ∉ ([] : List NodeId)) = List.range f.size := by simp
    rw [ahead, all]
    exact List.sum_le_sum fun m _ => f.length_links m
  have total : f.linkCount =
      1 + ((List.range f.size).map fun m => 3 + ((f.node m).children.getD []).length).sum := by
    rw [linkCount, ← Array.foldl_toList, foldl_links (fun node => (node.children.getD []).length),
      nodes_eq_map, List.map_map]
    rfl
  omega

variable (f n) in
theorem copied_searched : Searched (f.setParent n none) [] [n] (f.copied n) := by
  refine closure_searched _ [] [n] List.nodup_nil (by simp) ?_
  have bound := ahead_lt_linkCount (f.setParent n none)
  rw [List.length_singleton]
  omega

theorem node_cut (f : Forest) (n m : NodeId) : (f.setParent n none).node m =
    (f.node m).relink (if m = n then none else f.parent m) (f.children m) := by
  by_cases known : f.known n = true
  · exact node_setParent known none
  · have unknown := Bool.eq_false_iff.mpr known
    rw [setParent, update_unknown unknown]
    split
    · rename_i same
      subst same
      have free : f.parent m = none := by simp [parent, node_unknown unknown, Node.newText]
      rw [← free]
      rfl
    · rfl

theorem Consistent.known_led (consistent : Consistent f) (leads : (f.node n).LeadsTo m) :
    f.known m = true := by
  rcases leads with linked | listed | content
  · exact known_of_kids ((consistent.listed m n).mpr linked)
  · exact consistent.known_held (.inl listed)
  · exact consistent.known_held (.inr content)

-- Where links agree, all that belongs to a copy is found, and nothing but what the node holds.
theorem Consistent.copied_closed (consistent : Consistent f) (member : m ∈ f.copied n)
    (leads : ((f.setParent n none).node m).LeadsTo k) : k ∈ f.copied n := by
  refine (copied_searched f n).closed m member k (List.mem_filter.mpr ⟨?_, ?_⟩)
  · rcases leads with linked | listed | content
    · simp [parent, linked]
    · simp [children, listed]
    · simp [Forest.content, content]
  · have before : (f.node m).LeadsTo k := by
      rw [node_cut] at leads
      rcases leads with linked | listed | content
      · rw [Node.relink_parent] at linked
        split at linked
        · cases linked
        · exact .inl linked
      · exact .inr (.inl listed)
      · exact .inr (.inr content)
    have known := consistent.known_led before
    rw [known_iff] at known ⊢
    rwa [size_setParent]

-- A node other than the first was come to from its parent, for a content has no parent.
theorem Consistent.parent_held (consistent : Consistent f) (held : ReflTransGen f.Holds n m)
    (other : m ≠ n) (linked : f.parent m = some p) : ReflTransGen f.Holds n p := by
  rcases ReflTransGen.cases_tail held with same | ⟨q, before, listed | content⟩
  · exact absurd same other
  · cases linked.symm.trans ((consistent.listed q m).mp listed)
    exact before
  · cases (consistent.free q m content).symm.trans linked

theorem Consistent.copied_held (consistent : Consistent f) :
    ∀ m ∈ f.copied n, ReflTransGen f.Holds n m := by
  refine closure_from (f := f.setParent n none) (fun m held k leads => ?_) _ [] [n] (by simp) ?_
  · have leads := List.mem_of_mem_filter leads
    simp only [Forest.content, children, parent, node_cut] at leads
    rcases List.mem_append.mp leads with downward | upward
    · rcases List.mem_append.mp downward with content | listed
      · exact held.tail (.inr (Option.mem_toList.mp content))
      · exact held.tail (.inl listed)
    · have linked : (if m = n then none else f.parent m) = some k := Option.mem_toList.mp upward
      split at linked
      · cases linked
      · rename_i other
        exact consistent.parent_held held other linked
  · intro m member
    cases List.mem_singleton.mp member
    exact .refl

variable {sources : List NodeId} {base tables i : Nat}

theorem rename_at (nodup : sources.Nodup) (placed : sources[i]? = some m) :
    rename sources base m = base + i := by
  obtain ⟨short, here⟩ := List.getElem?_eq_some_iff.mp placed
  have found : sources.idxOf? m = some i := by
    refine List.idxOf?_eq_some_iff.mpr ⟨short, here, fun j before same => ?_⟩
    have equal := (nodup.getElem_inj_iff).mp (same.trans here.symm)
    omega
  rw [rename, found]

theorem leadsTo_renamed {node : Node} (leads : (renamed sources base tables node).LeadsTo k) :
    ∃ m, node.LeadsTo m ∧ rename sources base m = k := by
  rcases leads with linked | listed | content
  · obtain ⟨m, parent, same⟩ := Option.map_eq_some_iff.mp linked
    exact ⟨m, .inl parent, same⟩
  · rw [renamed] at listed
    cases owns : node.children with
    | none => simp [owns] at listed
    | some list =>
      obtain ⟨m, member, same⟩ := List.mem_map.mp (by simpa [owns] using listed)
      exact ⟨m, .inr (.inl (by simpa [owns] using member)), same⟩
  · obtain ⟨m, held, same⟩ := Option.map_eq_some_iff.mp content
    exact ⟨m, .inr (.inr held), same⟩

theorem size_cloneTree (f : Forest) (n : NodeId) :
    (f.cloneTree n).2.size = f.size + (f.copied n).length := by
  simp [cloneTree, size]

theorem node_cloneTree_old (known : f.known m = true) : (f.cloneTree n).2.node m = f.node m := by
  have below : m < f.nodes.size := known_iff.mp known
  simp [cloneTree, node, Array.getElem?_append, below]

theorem node_cloneTree_new (placed : (f.copied n)[i]? = some m) :
    (f.cloneTree n).2.node (f.size + i) =
      renamed (f.copied n) f.size f.nextTable ((f.setParent n none).node m) := by
  simp [cloneTree, node, size, Array.getElem?_append, placed]

theorem rename_copied (copied : m ∈ f.copied n) : f.size ≤ rename (f.copied n) f.size m ∧
    rename (f.copied n) f.size m < (f.cloneTree n).2.size := by
  obtain ⟨i, short, here⟩ := List.getElem_of_mem copied
  have placed := List.getElem?_eq_some_iff.mpr ⟨short, here⟩
  rw [rename_at (copied_searched f n).nodup placed, size_cloneTree]
  exact ⟨Nat.le_add_right _ _, Nat.add_lt_add_left short _⟩

-- The copies are among themselves, and so are the nodes that were there before.
theorem Consistent.cloneTree_new_closed (consistent : Consistent f) (new : f.size ≤ m)
    (leads : ((f.cloneTree n).2.node m).LeadsTo k) :
    f.size ≤ k ∧ k < (f.cloneTree n).2.size := by
  by_cases known : (f.cloneTree n).2.known m = true
  swap
  · rw [node_unknown (Bool.eq_false_iff.mpr known)] at leads
    cases (Node.Made.text none).leadsTo leads
  obtain ⟨i, rfl⟩ := Nat.exists_eq_add_of_le new
  rw [known_iff, size_cloneTree] at known
  have short : i < (f.copied n).length := Nat.lt_of_add_lt_add_left known
  rw [node_cloneTree_new (List.getElem?_eq_getElem short)] at leads
  obtain ⟨source, links, rfl⟩ := leadsTo_renamed leads
  exact rename_copied (consistent.copied_closed (List.getElem_mem short) links)

theorem Consistent.cloneTree_old_closed (consistent : Consistent f) (old : f.known m = true)
    (leads : ((f.cloneTree n).2.node m).LeadsTo k) : f.known k = true := by
  rw [node_cloneTree_old old] at leads
  exact consistent.known_led leads

-- What belongs to a copy is exactly what the node holds.
theorem Consistent.mem_copied (consistent : Consistent f) :
    m ∈ f.copied n ↔ ReflTransGen f.Holds n m := by
  refine ⟨consistent.copied_held m, fun held => ?_⟩
  induction held with
  | refl => exact (copied_searched f n).pending n List.mem_cons_self
  | tail _ last ih =>
    refine consistent.copied_closed ih ?_
    rw [node_cut]
    rcases last with listed | content
    · exact .inr (.inl listed)
    · exact .inr (.inr content)

theorem node_cloneTree_copy (copied : m ∈ f.copied n) :
    (f.cloneTree n).2.node (rename (f.copied n) f.size m) =
      renamed (f.copied n) f.size f.nextTable
        ((f.node m).relink (if m = n then none else f.parent m) (f.children m)) := by
  obtain ⟨i, short, here⟩ := List.getElem_of_mem copied
  have placed := List.getElem?_eq_some_iff.mpr ⟨short, here⟩
  rw [rename_at (copied_searched f n).nodup placed, node_cloneTree_new placed, node_cut]

theorem cloneTree_holds (copied : m ∈ f.copied n) (held : f.Holds m k) :
    (f.cloneTree n).2.Holds (rename (f.copied n) f.size m) (rename (f.copied n) f.size k) := by
  rw [Holds, kids, children, Forest.content, node_cloneTree_copy copied]
  rcases held with listed | content
  · left
    cases owns : f.children m with
    | none => simp [kids, owns] at listed
    | some list =>
      rw [kids, owns] at listed
      exact List.mem_map_of_mem listed
  · right
    exact congrArg (Option.map _) content

-- All nodes that are new are copies.
theorem copy_of_new (new : f.size ≤ m) (below : m < (f.cloneTree n).2.size) :
    ∃ k ∈ f.copied n, rename (f.copied n) f.size k = m := by
  obtain ⟨i, rfl⟩ := Nat.exists_eq_add_of_le new
  rw [size_cloneTree] at below
  have short : i < (f.copied n).length := Nat.lt_of_add_lt_add_left below
  exact ⟨_, List.getElem_mem short,
    rename_at (copied_searched f n).nodup (List.getElem?_eq_getElem short)⟩

-- The copy of a node holds all the copies, and nothing but them.
theorem Consistent.cloneTree_held_iff (consistent : Consistent f) (n m : NodeId) :
    ReflTransGen (f.cloneTree n).2.Holds (f.cloneTree n).1 m ↔
      f.size ≤ m ∧ m < (f.cloneTree n).2.size := by
  constructor
  · intro held
    induction held with
    | refl => exact rename_copied (consistent.mem_copied.mpr .refl)
    | tail _ last ih =>
      refine consistent.cloneTree_new_closed ih.1 ?_
      rcases last with listed | content
      · exact .inr (.inl listed)
      · exact .inr (.inr content)
  · rintro ⟨new, below⟩
    obtain ⟨k, copied, rfl⟩ := copy_of_new new below
    have path := consistent.copied_held k copied
    clear new below copied
    induction path with
    | refl => exact .refl
    | tail before last ih => exact ih.tail (cloneTree_holds (consistent.mem_copied.mpr before) last)

-- The numbers of the tables that copies have are above those that were given out before.
theorem cloneTree_apart (old : f.known m = true) (new : f.size ≤ k) :
    ¬ (f.cloneTree n).2.SharesTable m k := by
  rintro (same | ⟨bears, same⟩)
  · exact Nat.not_lt.mpr new (same ▸ known_iff.mp old)
  obtain ⟨table, own⟩ := Option.ne_none_iff_exists'.mp bears
  rw [own] at same
  rw [node_cloneTree_old old] at own
  by_cases known : (f.cloneTree n).2.known k = true
  · obtain ⟨source, copied, rfl⟩ := copy_of_new new (known_iff.mp known)
    rw [node_cloneTree_copy copied] at same
    obtain ⟨number, _, sum⟩ := Option.map_eq_some_iff.mp same
    have below := table_lt_nextTable own
    omega
  · rw [node_unknown (Bool.eq_false_iff.mpr known)] at same
    cases same

theorem Consistent.cloneTree_untouched_old (consistent : Consistent f) (n : NodeId) :
    Untouched (fun m => f.size ≤ m) f (f.cloneTree n).2 where
  closed _ _ new leads := (consistent.cloneTree_new_closed new leads).1
  joined _ _ new shares := Nat.le_of_not_lt fun below =>
    cloneTree_apart (known_iff.mpr below) new shares.symm
  later m beyond := by
    rw [size_cloneTree] at beyond
    exact Nat.le_trans (Nat.le_add_right _ _) beyond
  outside _ old := node_cloneTree_old (known_iff.mpr (Nat.lt_of_not_le old))

theorem Consistent.cloneTree_untouched_new (consistent : Consistent f) (n : NodeId) :
    Untouched (fun m => m < f.size ∨ (f.cloneTree n).2.size ≤ m) (f.cloneTree n).2
      (f.cloneTree n).2 where
  closed m k away leads := by
    rcases away with old | later
    · exact .inl (known_iff.mp (consistent.cloneTree_old_closed (known_iff.mpr old) leads))
    · have unknown : (f.cloneTree n).2.known m = false :=
        Bool.eq_false_iff.mpr fun known => Nat.not_lt.mpr later (known_iff.mp known)
      rw [node_unknown unknown] at leads
      cases (Node.Made.text none).leadsTo leads
  joined m k away shares := by
    rcases away with old | later
    · exact .inl (Nat.lt_of_not_le fun new => cloneTree_apart (known_iff.mpr old) new shares)
    · rcases shares with rfl | ⟨bears, _⟩
      · exact .inr later
      · have unknown : (f.cloneTree n).2.known m = false :=
          Bool.eq_false_iff.mpr fun known => Nat.not_lt.mpr later (known_iff.mp known)
        rw [node_unknown unknown] at bears
        exact absurd rfl bears
  later _ beyond := .inr beyond
  outside _ _ := rfl

-- A copy and what was there before have nothing to do with each other any more, whatever calls
-- follow: those on the copy and on newer nodes change nothing of what was there, and those on
-- everything but the copy change nothing of the copy. Tables of attributes may be had in common
-- anywhere before; later a call that hands one over is a call on the node that has it.
theorem Consistent.clone_independent (consistent : Consistent f) (n : NodeId) :
    ∃ k g, Edit.clone n f = .ok k g ∧
      (∀ m, ReflTransGen g.Holds k m ↔ f.size ≤ m ∧ m < g.size) ∧
      (∀ calls : List Call,
        (∀ call ∈ calls, ∀ m ∈ call.arguments, ReflTransGen g.Holds k m ∨ g.size ≤ m) →
        ∀ m, f.known m = true → (g.through calls).node m = f.node m) ∧
      ∀ calls : List Call,
        (∀ call ∈ calls, ∀ m ∈ call.arguments, ¬ ReflTransGen g.Holds k m) →
        ∀ m, ReflTransGen g.Holds k m → (g.through calls).node m = g.node m := by
  have held := consistent.cloneTree_held_iff n
  refine ⟨_, _, rfl, held, ?_, ?_⟩
  · intro calls named m known
    have start := consistent.cloneTree_untouched_old n
    have inside : ∀ call ∈ calls, ∀ m ∈ call.arguments, f.size ≤ m := by
      intro call member m among
      rcases named call member m among with copy | later
      · exact ((held m).mp copy).1
      · exact start.later m later
    have kept := (untouched_growing _ f).through start inside
    exact kept.outside m (Nat.not_le.mpr (known_iff.mp known))
  · intro calls named m copy
    have start := consistent.cloneTree_untouched_new n
    have inside : ∀ call ∈ calls, ∀ m ∈ call.arguments,
        m < f.size ∨ (f.cloneTree n).2.size ≤ m := by
      intro call member m among
      have away := named call member m among
      rw [held] at away
      by_cases old : m < f.size
      · exact .inl old
      · exact .inr (Nat.le_of_not_lt fun below => away ⟨Nat.le_of_not_lt old, below⟩)
    have kept := (untouched_growing _ _).through start inside
    obtain ⟨new, below⟩ := (held m).mp copy
    exact kept.outside m (not_or.mpr ⟨Nat.not_lt.mpr new, Nat.not_le.mpr below⟩)

-- A template with a text is copied, when another element has its attributes in common with it. Text and
-- an attribute are put into the copy; the original is emptied and gets an attribute by way of the other
-- element.
theorem Consistent.clone_independent_template :
    let f := Forest.empty.through [.element (some "template") (some "html"), .text (some "a"),
      .move (.append 0 (some 2)), .elementNode (some "b") (.of 1) (some "html")]
    f.Consistent ∧ f.SharesTable 1 3 ∧ ∃ k g, Edit.clone 1 f = .ok k g ∧
      (g.through [.setTextContent k (some "b"), .setAttribute k "id" none]).node 1 = f.node 1 ∧
      (g.through [.setTextContent 0 (some "b"), .setAttribute 3 "id" none]).node k = g.node k := by
  intro f
  have consistent : f.Consistent := (Reached.empty.through (by decide)).sound.consistent
  obtain ⟨k, g, copied, held, before, copy⟩ := Consistent.clone_independent consistent 1
  have small : f.size = 4 := by decide
  refine ⟨consistent, by decide, k, g, copied, before _ ?_ 1 (by decide), copy _ ?_ k .refl⟩
  · intro call member m among
    left
    have here : m = k := by
      simp only [List.mem_cons, List.not_mem_nil, or_false] at member
      rcases member with rfl | rfl <;> exact List.mem_singleton.mp among
    exact here ▸ .refl
  · intro call member m among
    rw [held, small]
    simp only [List.mem_cons, List.not_mem_nil, or_false] at member
    rcases member with rfl | rfl
    · cases List.mem_singleton.mp among
      simp
    · cases List.mem_singleton.mp among
      simp

end HtmlTree.Forest

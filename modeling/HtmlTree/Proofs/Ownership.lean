import HtmlTree.Proofs.Edits

namespace HtmlTree

namespace Forest

-- Links agree: a node is listed once by its parent and by nobody else, the parents above every
-- node come to an end, and fragments stand by themselves.
structure Owned (f : Forest) : Prop where
  listed : ∀ n c, c ∈ f.kids n ↔ f.parent c = some n
  once : ∀ n, (f.kids n).Nodup
  rooted : ∀ n, f.Rooted n
  free : ∀ n, (f.node n).isFragment = true → f.parent n = none

-- The content of a template is a fragment that no other template has for its content.
structure Housed (f : Forest) : Prop where
  known : ∀ n c, f.content n = some c → f.known c = true ∧ (f.node c).isFragment = true
  single : ∀ m n c, f.content m = some c → f.content n = some c → m = n

structure Sound (f : Forest) : Prop where
  owned : Owned f
  housed : Housed f

variable {f g : Forest} {a b c m n p : NodeId}

theorem Owned.known_child (owned : Owned f) (member : c ∈ f.kids n) : f.known c = true :=
  known_of_parent ((owned.listed n c).mp member)

theorem Owned.children_of_parent (owned : Owned f) (linked : f.parent c = some n) :
    ∃ list, f.children n = some list ∧ c ∈ list :=
  children_of_kids ((owned.listed n c).mpr linked)

theorem Owned.nodup (owned : Owned f) {list : List NodeId} (owns : f.children n = some list) :
    list.Nodup :=
  kids_eq owns ▸ owned.once n

theorem Owned.link (owned : Owned f) {list : List NodeId} (owns : f.children n = some list)
    (member : c ∈ list) : f.parent c = some n :=
  (owned.listed n c).mp ((mem_kids owns).mpr member)

theorem Owned.plain (owned : Owned f) (linked : f.parent c = some n) :
    (f.node c).isFragment = false := by
  refine Bool.eq_false_iff.mpr fun fragment => ?_
  cases (owned.free c fragment).symm.trans linked

-- One parent lists a node, so lists of different parents have nothing in common.
theorem Owned.apart (owned : Owned f) (left : c ∈ f.kids m) (right : c ∈ f.kids n) : m = n :=
  Option.some.inj (((owned.listed m c).mp left).symm.trans ((owned.listed n c).mp right))

theorem empty_owned : Owned empty := by
  have bare (n : NodeId) : empty.node n = Node.newText none := by simp [node, empty]
  have unlisted (n : NodeId) : empty.kids n = [] := by simp [kids, children, bare, Node.newText]
  have free (n : NodeId) : empty.parent n = none := by simp [parent, bare, Node.newText]
  exact ⟨fun n c => by simp [unlisted, free], fun n => by simp [unlisted],
    fun n => .root (free n), fun n _ => free n⟩

theorem empty_housed : Housed empty := by
  have bare (n : NodeId) : empty.content n = none := by simp [content, node, empty, Node.newText]
  exact ⟨fun n c holds => by simp [bare] at holds, fun m n c left => by simp [bare] at left⟩

-- Forests that differ in nothing that ownership is about.
structure SameLinks (f g : Forest) : Prop where
  size : g.size = f.size
  kids : ∀ n, g.kids n = f.kids n
  parent : ∀ n, g.parent n = f.parent n
  content : ∀ n, g.content n = f.content n
  isFragment : ∀ n, (g.node n).isFragment = (f.node n).isFragment

theorem SameLinks.of_nodes_alike (size : g.size = f.size)
    (alike : ∀ m, (g.node m).children = (f.node m).children ∧
      (g.node m).parent = (f.node m).parent ∧ (g.node m).content = (f.node m).content ∧
      (g.node m).name? = (f.node m).name?) : SameLinks f g where
  size := size
  kids m := by rw [Forest.kids, Forest.children, (alike m).1, Forest.kids, Forest.children]
  parent m := (alike m).2.1
  content m := (alike m).2.2.1
  isFragment m := by rw [Node.isFragment, Node.name, (alike m).2.2.2, Node.isFragment, Node.name]

theorem SameLinks.of_nodes (nodes : g.nodes = f.nodes) : SameLinks f g := by
  refine .of_nodes_alike (by rw [Forest.size, nodes, Forest.size]) fun m => ?_
  rw [node_of_nodes nodes]
  exact ⟨rfl, rfl, rfl, rfl⟩

theorem SameLinks.update {change : Node → Node}
    (kept : ∀ node : Node, (change node).children = node.children ∧
      (change node).parent = node.parent ∧ (change node).content = node.content ∧
      (change node).name? = node.name?) : SameLinks f (f.update n change) := by
  by_cases inside : f.known n = true
  swap
  · rw [update_unknown (Bool.eq_false_iff.mpr inside)]
    exact .of_nodes rfl
  refine .of_nodes_alike (size_update _ _ _) fun m => ?_
  rw [node_update inside]
  split
  · exact kept (f.node m)
  · exact ⟨rfl, rfl, rfl, rfl⟩

-- Whether a node has an empty list or none makes no difference.
theorem SameLinks.emptied (missing : f.children n = none)
    (nodes : g.nodes = (f.setChildren n (some [])).nodes) : SameLinks f g := by
  by_cases inside : f.known n = true
  swap
  · rw [setChildren, update_unknown (Bool.eq_false_iff.mpr inside)] at nodes
    exact .of_nodes nodes
  have reads (m : NodeId) : g.node m =
      (f.node m).relink (f.parent m) (if m = n then some [] else f.children m) := by
    rw [node_of_nodes nodes, node_setChildren inside]
  refine ⟨by simp [Forest.size, nodes, setChildren, Forest.update], ?_, ?_, ?_, ?_⟩
  · intro m
    rw [Forest.kids, children, reads, Node.relink_children]
    by_cases here : m = n <;> simp [Forest.kids, here, missing]
  · intro m
    rw [Forest.parent, reads, Node.relink_parent]
  · intro m
    rw [Forest.content, reads]
    rfl
  · intro m
    rw [reads]
    rfl

theorem rooted_congr (parent : ∀ n, g.parent n = f.parent n) (rooted : f.Rooted n) : g.Rooted n := by
  induction rooted with
  | root free => exact .root (by rw [parent, free])
  | child linked _ ih => exact .child (by rw [parent, linked]) ih

theorem Owned.same (owned : Owned f) (same : SameLinks f g) : Owned g := by
  refine ⟨?_, ?_, fun n => rooted_congr same.parent (owned.rooted n), ?_⟩
  · intro n c
    rw [same.kids, same.parent]
    exact owned.listed n c
  · intro n
    rw [same.kids]
    exact owned.once n
  · intro n fragment
    rw [same.parent]
    exact owned.free n (by rw [← same.isFragment, fragment])

theorem Housed.same (housed : Housed f) (same : SameLinks f g) : Housed g := by
  refine ⟨?_, ?_⟩
  · intro n c holds
    rw [same.content] at holds
    obtain ⟨known, fragment⟩ := housed.known n c holds
    exact ⟨by simpa [Forest.known, same.size] using known, by rw [same.isFragment, fragment]⟩
  · intro m n c left right
    rw [same.content] at left right
    exact housed.single m n c left right

-- A node as it is made: without a parent, without children, and with a content that is new too.
structure Fresh (f : Forest) (new : Node) : Prop where
  free : new.parent = none
  childless : new.children.getD [] = []
  content : ∀ c ∈ new.content, f.known c = true ∧ (f.node c).isFragment = true ∧
    ∀ m, f.content m ≠ some c

theorem node_alloc (f : Forest) (new : Node) (m : NodeId) :
    (f.alloc new).2.node m = if m = f.size then new else f.node m := by
  rcases Nat.lt_trichotomy m f.size with old | last | beyond
  · rw [node_alloc_old f new m old, if_neg (Nat.ne_of_lt old)]
  · rw [if_pos last, last, node_alloc_new]
  · have outside : f.known m = false := decide_eq_false (Nat.not_lt.mpr (Nat.le_of_lt beyond))
    have still : (f.alloc new).2.known m = false := by
      rw [known, size_alloc]
      exact decide_eq_false (Nat.not_lt.mpr beyond)
    rw [node_unknown still, node_unknown outside, if_neg (Nat.ne_of_gt beyond)]

theorem known_alloc_new (f : Forest) (new : Node) : (f.alloc new).2.known f.size = true := by
  rw [known_iff, size_alloc]
  exact Nat.lt_succ_self _

theorem node_size (f : Forest) : f.node f.size = Node.newText none :=
  node_unknown (by simp [known])

theorem Fresh.kids {new : Node} (fresh : Fresh f new) (n : NodeId) :
    (f.alloc new).2.kids n = f.kids n := by
  by_cases here : n = f.size
  · simp [Forest.kids, children, node_alloc, here, fresh.childless, node_size, Node.newText]
  · simp [Forest.kids, children, node_alloc, here]

theorem Fresh.parent {new : Node} (fresh : Fresh f new) (n : NodeId) :
    (f.alloc new).2.parent n = f.parent n := by
  by_cases here : n = f.size
  · simp [Forest.parent, node_alloc, here, fresh.free, node_size, Node.newText]
  · simp [Forest.parent, node_alloc, here]

theorem content_alloc (f : Forest) (new : Node) (n : NodeId) :
    (f.alloc new).2.content n = if n = f.size then new.content else f.content n := by
  by_cases here : n = f.size <;> simp [Forest.content, node_alloc, here]

theorem Owned.alloc (owned : Owned f) {new : Node} (fresh : Fresh f new) :
    Owned (f.alloc new).2 := by
  refine ⟨?_, ?_, fun n => rooted_congr fresh.parent (owned.rooted n), ?_⟩
  · intro n c
    rw [fresh.kids, fresh.parent]
    exact owned.listed n c
  · intro n
    rw [fresh.kids]
    exact owned.once n
  · intro n fragment
    rw [fresh.parent]
    by_cases here : n = f.size
    · simp [Forest.parent, here, node_size, Node.newText]
    · exact owned.free n (by rwa [node_alloc, if_neg here] at fragment)

theorem Housed.alloc (housed : Housed f) {new : Node} (fresh : Fresh f new) :
    Housed (f.alloc new).2 := by
  have old (c : NodeId) (known : f.known c = true) (fragment : (f.node c).isFragment = true) :
      (f.alloc new).2.known c = true ∧ ((f.alloc new).2.node c).isFragment = true := by
    have below := known_iff.mp known
    have still : (f.alloc new).2.known c = true := by
      rw [known_iff, size_alloc]
      exact Nat.lt_succ_of_lt below
    refine ⟨still, ?_⟩
    rw [node_alloc, if_neg (Nat.ne_of_lt below), fragment]
  refine ⟨?_, ?_⟩
  · intro n c holds
    rw [content_alloc] at holds
    split at holds
    · obtain ⟨known, fragment, _⟩ := fresh.content c holds
      exact old c known fragment
    · obtain ⟨known, fragment⟩ := housed.known n c holds
      exact old c known fragment
  · intro m n c left right
    rw [content_alloc] at left right
    split at left <;> split at right
    · rename_i first second
      exact first.trans second.symm
    · exact absurd right ((fresh.content c left).2.2 n)
    · exact absurd left ((fresh.content c right).2.2 m)
    · exact housed.single m n c left right

-- How the links of two forests differ when some nodes leave where they stand and a block of them
-- goes into one parent, behind as many of its children as stand before the place.
structure Relinked (f g : Forest) (p : NodeId) (place : Nat) (block gone : List NodeId) :
    Prop where
  size : g.size = f.size
  node : ∀ m, g.node m = (f.node m).relink
    (if m ∈ block then some p else if m ∈ gone then none else f.parent m)
    (if m = p then
      some (((f.kids p).take place).filter (· ∉ gone) ++ block ++
        ((f.kids p).drop place).filter (· ∉ gone))
    else (f.children m).map (·.filter (· ∉ gone)))

variable {place : Nat} {block gone : List NodeId}

theorem Relinked.parent (relinked : Relinked f g p place block gone) :
    g.parent m = if m ∈ block then some p else if m ∈ gone then none else f.parent m := by
  simp [Forest.parent, relinked.node m]

theorem Relinked.kids_here (relinked : Relinked f g p place block gone) :
    g.kids p = ((f.kids p).take place).filter (· ∉ gone) ++ block ++
      ((f.kids p).drop place).filter (· ∉ gone) := by
  simp [Forest.kids, children, relinked.node p]

theorem Relinked.kids_other (relinked : Relinked f g p place block gone) (other : m ≠ p) :
    g.kids m = (f.kids m).filter (· ∉ gone) := by
  cases owns : f.children m <;> simp_all [Forest.kids, children, relinked.node m]

theorem Relinked.isFragment (relinked : Relinked f g p place block gone) :
    (g.node m).isFragment = (f.node m).isFragment := by
  simp [Node.isFragment, Node.name, relinked.node m, Node.relink]

theorem Relinked.perm (relinked : Relinked f g p place block gone) :
    (g.kids p).Perm (block ++ (f.kids p).filter (· ∉ gone)) := by
  have split : (f.kids p).filter (· ∉ gone) =
      ((f.kids p).take place).filter (· ∉ gone) ++ ((f.kids p).drop place).filter (· ∉ gone) := by
    rw [← List.filter_append, List.take_append_drop]
  rw [relinked.kids_here, split, ← List.append_assoc]
  exact List.perm_append_comm.append_right _

-- Above the new parent nothing of the block is met, so its chain of parents is only cut shorter.
theorem Relinked.rooted_parent (relinked : Relinked f g p place block gone)
    (rooted : f.Rooted n) (clear : ∀ b ∈ block, ¬ Above f b n) : g.Rooted n := by
  induction rooted with
  | @root n free =>
    have outside : n ∉ block := fun member => clear n member .self
    exact .root (by simp [relinked.parent, outside, free])
  | @child n q linked _ ih =>
    have outside : n ∉ block := fun member => clear n member .self
    by_cases leaves : n ∈ gone
    · exact .root (by simp [relinked.parent, outside, leaves])
    · refine .child (p := q) (by simp [relinked.parent, outside, leaves, linked]) (ih ?_)
      intro b member above
      exact clear b member (.up linked above)

theorem Relinked.rooted (relinked : Relinked f g p place block gone) (base : g.Rooted p)
    (rooted : f.Rooted n) : g.Rooted n := by
  induction rooted with
  | @root n free =>
    by_cases joins : n ∈ block
    · exact .child (by simp [relinked.parent, joins]) base
    · exact .root (by simp [relinked.parent, joins, free])
  | @child n q linked _ ih =>
    by_cases joins : n ∈ block
    · exact .child (by simp [relinked.parent, joins]) base
    · by_cases leaves : n ∈ gone
      · exact .root (by simp [relinked.parent, joins, leaves])
      · exact .child (by simp [relinked.parent, joins, leaves, linked]) ih

theorem Relinked.content (relinked : Relinked f g p place block gone) :
    g.content m = f.content m := by
  rw [Forest.content, relinked.node m]
  rfl

theorem Housed.relinked (housed : Housed f) (relinked : Relinked f g p place block gone) :
    Housed g := by
  refine ⟨?_, ?_⟩
  · intro n c holds
    rw [relinked.content] at holds
    obtain ⟨known, fragment⟩ := housed.known n c holds
    exact ⟨by simpa [Forest.known, relinked.size] using known, by rw [relinked.isFragment, fragment]⟩
  · intro m n c left right
    rw [relinked.content] at left right
    exact housed.single m n c left right

structure Admitted (f : Forest) (p : NodeId) (block : List NodeId) : Prop where
  nodup : block.Nodup
  clear : ∀ b ∈ block, ¬ Above f b p
  plain : ∀ b ∈ block, (f.node b).isFragment = false

theorem Owned.relinked (owned : Owned f) (relinked : Relinked f g p place block gone)
    (within : block ⊆ gone) (admitted : Admitted f p block) : Owned g := by
  refine ⟨?_, ?_, ?_, ?_⟩
  · intro n c
    have old := owned.listed n c
    have taken : c ∈ block → c ∈ gone := fun member => within member
    rw [relinked.parent]
    by_cases here : n = p
    · subst here
      rw [relinked.perm.mem_iff, List.mem_append, List.mem_filter]
      by_cases joins : c ∈ block
      · simp [joins]
      · by_cases leaves : c ∈ gone <;> simp [joins, leaves, old]
    · rw [relinked.kids_other here, List.mem_filter]
      by_cases joins : c ∈ block
      · simp [joins, taken joins, Ne.symm here]
      · by_cases leaves : c ∈ gone <;> simp [joins, leaves, old]
  · intro n
    by_cases here : n = p
    · subst here
      rw [relinked.perm.nodup_iff, List.nodup_append]
      refine ⟨admitted.nodup, (owned.once n).filter _, ?_⟩
      intro b joins c stays same
      have leaves := within joins
      simp_all
    · rw [relinked.kids_other here]
      exact (owned.once n).filter _
  · intro n
    exact relinked.rooted (relinked.rooted_parent (owned.rooted p) admitted.clear) (owned.rooted n)
  · intro n fragment
    rw [relinked.isFragment] at fragment
    have outside : n ∉ block := by
      intro joins
      rw [admitted.plain n joins] at fragment
      cases fragment
    rw [relinked.parent, if_neg outside]
    split
    · rfl
    · exact owned.free n fragment

theorem admitted_nil : Admitted f p [] := ⟨by simp, by simp, by simp⟩

theorem Sound.same (sound : Sound f) (same : SameLinks f g) : Sound g :=
  ⟨sound.owned.same same, sound.housed.same same⟩

theorem Sound.alloc (sound : Sound f) {new : Node} (fresh : Fresh f new) :
    Sound (f.alloc new).2 :=
  ⟨sound.owned.alloc fresh, sound.housed.alloc fresh⟩

theorem Sound.relinked (sound : Sound f) (relinked : Relinked f g p place block gone)
    (within : block ⊆ gone) (admitted : Admitted f p block) : Sound g :=
  ⟨sound.owned.relinked relinked within admitted, sound.housed.relinked relinked⟩

end Forest
end HtmlTree

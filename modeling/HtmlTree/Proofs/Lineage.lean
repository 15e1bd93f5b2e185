import HtmlTree.Walk
import Mathlib.Data.List.Perm.Subperm

namespace HtmlTree.Forest
open Walk

-- The children of a node; a missing list has none.
def kids (f : Forest) (n : NodeId) : List NodeId := (f.children n).getD []

inductive Rooted (f : Forest) : NodeId → Prop where
  | root {n : NodeId} (free : f.parent n = none) : Rooted f n
  | child {n p : NodeId} (linked : f.parent n = some p) (rest : Rooted f p) : Rooted f n

-- The node itself, or one that parent links lead to from it.
inductive Above (f : Forest) (a : NodeId) : NodeId → Prop where
  | self : Above f a a
  | up {n p : NodeId} (linked : f.parent n = some p) (rest : Above f a p) : Above f a n

variable {f : Forest} {a b c n p : NodeId}

theorem kids_eq {list : List NodeId} (owns : f.children n = some list) : f.kids n = list := by
  rw [kids, owns]
  rfl

theorem mem_kids {list : List NodeId} (owns : f.children n = some list) : c ∈ f.kids n ↔ c ∈ list := by
  rw [kids_eq owns]

theorem children_of_kids (member : c ∈ f.kids n) : ∃ list, f.children n = some list ∧ c ∈ list := by
  cases owns : f.children n with
  | none => simp [kids, owns] at member
  | some list => exact ⟨list, rfl, (mem_kids owns).mp member⟩

theorem node_unknown (unknown : f.known n = false) : f.node n = Node.newText none := by
  have outside : f.nodes.size ≤ n := Nat.le_of_not_lt (of_decide_eq_false unknown)
  simp [node, outside]

-- What holds of all nodes given out, and of a bare text, holds under every identifier.
theorem node_all {good : Node → Prop} (all : ∀ node ∈ f.nodes.toList, good node)
    (bare : good (Node.newText none)) (n : NodeId) : good (f.node n) := by
  unfold node
  cases found : f.nodes[n]? with
  | none => exact bare
  | some made => exact all made (Array.mem_toList_iff.mpr (Array.mem_of_getElem? found))

-- Whatever has a link of its own has been given out.
theorem known_of_parent (linked : f.parent n = some p) : f.known n = true := by
  by_contra unknown
  simp [parent, node_unknown (Bool.eq_false_iff.mpr unknown), Node.newText] at linked

theorem known_of_fragment (fragment : (f.node n).isFragment = true) : f.known n = true := by
  by_contra unknown
  rw [node_unknown (Bool.eq_false_iff.mpr unknown)] at fragment
  cases fragment

theorem known_of_children {list : List NodeId} (owns : f.children n = some list) :
    f.known n = true := by
  by_contra unknown
  simp [children, node_unknown (Bool.eq_false_iff.mpr unknown), Node.newText] at owns

theorem known_of_kids (member : c ∈ f.kids n) : f.known n = true := by
  obtain ⟨list, owns, _⟩ := children_of_kids member
  exact known_of_children owns

theorem known_of_content (holds : f.content n = some c) : f.known n = true := by
  by_contra unknown
  simp [content, node_unknown (Bool.eq_false_iff.mpr unknown), Node.newText] at holds

theorem Above.trans (left : Above f a b) (right : Above f b n) : Above f a n := by
  induction right with
  | self => exact left
  | up linked _ ih => exact .up linked ih

theorem Rooted.no_return (rooted : Rooted f n) (linked : f.parent n = some p) : ¬ Above f n p := by
  induction rooted generalizing p with
  | root free => simp [free] at linked
  | @child n q linked' _ ih =>
    cases linked'.symm.trans linked
    intro back
    cases back with
    | self => exact ih linked .self
    | up onward rest =>
      have upward : Above f q n := .up linked .self
      exact ih onward (upward.trans rest)

-- The whole chain as a list. Every node on it but the last has a parent.
theorem Rooted.lineage (rooted : Rooted f n) :
    ∃ line : List NodeId, line.Nodup ∧ (∀ a, a ∈ line ↔ Above f a n) ∧
      (∀ a ∈ line.dropLast, f.known a = true) ∧
      ∀ fuel, chain f.parent fuel n = line.take fuel := by
  induction rooted with
  | @root n free =>
    refine ⟨[n], by simp, ?_, by simp, ?_⟩
    · intro a
      constructor
      · intro member
        cases List.mem_singleton.mp member
        exact .self
      · intro above
        cases above with
        | self => simp
        | up linked _ => simp [free] at linked
    · intro fuel
      cases fuel <;> simp [chain, free]
  | @child n p linked rest ih =>
    obtain ⟨line, nodup, members, known, chained⟩ := ih
    have fresh : n ∉ line := fun member =>
      (Rooted.child linked rest).no_return linked ((members n).mp member)
    refine ⟨n :: line, List.nodup_cons.mpr ⟨fresh, nodup⟩, ?_, ?_, ?_⟩
    · intro a
      constructor
      · intro member
        rcases List.mem_cons.mp member with rfl | later
        · exact .self
        · exact .up linked ((members a).mp later)
      · intro above
        cases above with
        | self => simp
        | up other above =>
          cases linked.symm.trans other
          exact List.mem_cons_of_mem _ ((members a).mpr above)
    · intro a member
      have nonempty : line ≠ [] := List.ne_nil_of_mem ((members p).mpr .self)
      rw [List.dropLast_cons_of_ne_nil nonempty] at member
      rcases List.mem_cons.mp member with rfl | later
      · exact known_of_parent linked
      · exact known a later
    · intro fuel
      cases fuel with
      | zero => rfl
      | succ fuel => simp [chain, linked, chained]

-- Distinct nodes that have been given out are no more than there are.
theorem length_le_size {line : List NodeId} (nodup : line.Nodup)
    (known : ∀ a ∈ line, f.known a = true) : line.length ≤ f.size := by
  have within : line ⊆ List.range f.size := by
    intro a member
    simpa [Forest.known] using known a member
  simpa using (List.subperm_of_subset nodup within).length_le

-- Where the chain ends by itself, the limit on the steps upward cuts off nothing.
theorem Rooted.line (rooted : Rooted f n) :
    ∃ line : List NodeId, line.Nodup ∧ (∀ a, a ∈ line ↔ Above f a n) ∧ line.length ≤ f.reach ∧
      ∀ fuel, chain f.parent fuel n = line.take fuel := by
  obtain ⟨line, nodup, members, known, chained⟩ := rooted.lineage
  refine ⟨line, nodup, members, ?_, chained⟩
  have bound := length_le_size (nodup.sublist line.dropLast_sublist) known
  rw [List.length_dropLast] at bound
  unfold reach
  omega

theorem mem_ancestors (rooted : Rooted f n) : a ∈ f.ancestors n ↔ Above f a n := by
  obtain ⟨line, _, members, short, chained⟩ := rooted.line
  rw [ancestors, ancestorsWithin, chained, List.take_of_length_le short]
  exact members a

end HtmlTree.Forest

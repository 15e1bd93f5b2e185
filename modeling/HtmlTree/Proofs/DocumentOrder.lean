import HtmlTree.Proofs.Traversals

namespace HtmlTree.Forest
open Walk Relation

variable {f : Forest} {c n p r : NodeId}

-- Only parent and child links are looked at here. That they agree and that parents come to an end
-- is enough for the walk down from a node to end.
theorem Linked.above_of_goes (linked : Linked f) (way : TransGen (Goes (f.below .visible)) n c) :
    ∃ p, f.parent c = some p ∧ Above f n p := by
  induction way with
  | single leads => exact ⟨n, (linked.listed n _).mp leads, .self⟩
  | tail _ leads ih =>
    obtain ⟨p, upward, above⟩ := ih
    exact ⟨_, (linked.listed _ _).mp leads, .up upward above⟩

theorem Linked.shallow (linked : Linked f) (n : NodeId) : Shallow f.kids f.size n := by
  have leads (m c : NodeId) (member : c ∈ f.below .visible m) : f.known m = true :=
    below_known member
  refine shallow_of_no_return leads fun m _ again => ?_
  obtain ⟨p, upward, above⟩ := linked.above_of_goes again
  exact (linked.rooted m).no_return upward above

theorem Linked.order_unfolds (linked : Linked f) (n : NodeId) :
    Unfolds (f.below .visible) [n] (f.depthFirst .visible n) := by
  have shallow : Shallow (f.below .visible) f.size n := linked.shallow n
  rw [depthFirst_eq shallow.unfolds]
  exact shallow.unfolds

theorem Linked.orders_unfold (linked : Linked f) (ns : List NodeId) :
    Unfolds (f.below .visible) ns (ns.flatMap (f.depthFirst .visible)) := by
  induction ns with
  | nil => exact .nil
  | cons c ns rest =>
    rw [List.flatMap_cons]
    exact (linked.order_unfolds c).append rest

theorem Linked.order_eq (linked : Linked f) (n : NodeId) :
    f.depthFirst .visible n = n :: (f.kids n).flatMap (f.depthFirst .visible) :=
  (linked.order_unfolds n).unique (.alone (linked.orders_unfold (f.kids n)))

-- Down to a node from the nodes that are above it, and from no other.
theorem Linked.mem_order (linked : Linked f) : c ∈ f.depthFirst .visible n ↔ Above f n c := by
  have unfolds := linked.order_unfolds n
  constructor
  · intro member
    refine unfolds.all (fun m first => ?_) (fun m _ above c leads => ?_) c member
    · exact List.mem_singleton.mp first ▸ .self
    · exact .up ((linked.listed m c).mp leads) above
  · intro above
    induction above with
    | self => exact unfolds.head_mem List.mem_cons_self
    | @up c m upward _ ih => exact unfolds.closed ih ((linked.listed m c).mpr upward)

theorem Linked.order_nodup (linked : Linked f) (n : NodeId) : (f.depthFirst .visible n).Nodup :=
  linked.unfolds_once (linked.order_unfolds n) fun _ _ _ _ _ => linked.sole_lister

theorem Linked.order_known (linked : Linked f) (known : f.known n = true) :
    ∀ m ∈ f.depthFirst .visible n, f.known m = true :=
  linked.unfolds_known known (linked.order_unfolds n)

theorem Linked.trail_order (linked : Linked f) (known : f.known n = true) :
    f.trail .visible n = ⟨f.depthFirst .visible n, none⟩ :=
  linked.trail_unfolds known (linked.order_unfolds n)

theorem Linked.known_above (linked : Linked f) (above : Above f r n) (known : f.known n = true) :
    f.known r = true := by
  induction above with
  | self => exact known
  | @up n p upward _ ih =>
    have member : n ∈ f.below .visible p := (linked.listed p n).mpr upward
    exact ih (below_known member)

-- The list of the parent, split at the node.
theorem Linked.split_at (linked : Linked f) (upward : f.parent n = some p) :
    ∃ left right, f.children p = some (left ++ n :: right) ∧ (left ++ n :: right).Nodup := by
  obtain ⟨list, owns, member⟩ := children_of_kids ((linked.listed p n).mpr upward)
  have once : list.Nodup := kids_eq owns ▸ linked.once p
  obtain ⟨left, right, rfl⟩ := List.append_of_mem member
  exact ⟨left, right, owns, once⟩

theorem Linked.siblings_split (linked : Linked f) (upward : f.parent n = some p) :
    ∃ left right, f.kids p = left ++ n :: right ∧ f.previousSiblings n = .ok left.reverse := by
  obtain ⟨left, right, owns, once⟩ := linked.split_at upward
  have absent : n ∉ left := fun again =>
    (List.nodup_append.mp once).2.2 n again n List.mem_cons_self rfl
  refine ⟨left, right, by rw [kids, owns, Option.getD_some], ?_⟩
  simp [previousSiblings, upward, placeIn, owns, List.idxOf?_append_cons absent right, Except.map]

-- Up along the chain of parents, the walk from the root has gone through the trees of the earlier
-- siblings at each level. As many levels as the chain is long are enough.
theorem Linked.prior_prefix (linked : Linked f) (above : Above f r n) (top : f.parent r = none) :
    ∃ before after,
      f.depthFirst .visible r = before ++ f.depthFirst .visible n ++ after ∧
        ∀ levels, (chain f.parent (levels + 1) n).length ≤ levels →
          f.priorWithin levels n = ⟨before.reverse, none⟩ := by
  induction above with
  | self =>
    refine ⟨[], [], by simp, ?_⟩
    rintro (_ | levels) enough
    · rfl
    · simp [priorWithin, previousSiblings, top]
  | @up n p upward _ ih =>
    obtain ⟨before, after, order, walked⟩ := ih
    obtain ⟨left, right, split, siblings⟩ := linked.siblings_split upward
    refine ⟨before ++ p :: left.flatMap (f.depthFirst .visible),
      right.flatMap (f.depthFirst .visible) ++ after, ?_, ?_⟩
    · rw [order, linked.order_eq p, split]
      simp
    · rintro (_ | levels) enough
      · rw [chain] at enough
        exact absurd enough (by simp)
      · have further : (chain f.parent (levels + 1) p).length ≤ levels := by
          rw [chain, upward, List.length_cons] at enough
          exact Nat.le_of_succ_le_succ enough
        have trees : left.reverse.flatMap (f.depthFirstReversed .visible) =
            (left.flatMap (f.depthFirst .visible)).reverse := by
          rw [List.reverse_flatMap]
          exact List.flatMap_congr fun c _ => depthFirstReversed_eq (linked.order_unfolds c)
        simp [priorWithin, siblings, upward, walked levels further, trees]

theorem Linked.chain_within (linked : Linked f) (n : NodeId) {levels : Nat}
    (enough : f.reach ≤ levels) : (chain f.parent (levels + 1) n).length ≤ levels := by
  obtain ⟨line, _, _, short, chained⟩ := (linked.rooted n).line
  rw [chained, List.length_take]
  exact (Nat.min_le_right _ _).trans (short.trans enough)

-- The walk from the root comes to a node once. What comes before is what the walk backward names.
theorem Linked.order_parted (linked : Linked f) (known : f.known n = true) (above : Above f r n)
    (top : f.parent r = none) :
    ∃ before after, f.depthFirst .visible r = before ++ n :: after ∧ n ∉ before ∧ n ∉ after ∧
      ∀ levels, f.reach ≤ levels → f.priorTrailWithin levels n = ⟨before.reverse, none⟩ := by
  obtain ⟨before, later, order, walked⟩ := linked.prior_prefix above top
  rw [linked.order_eq n, List.append_assoc, List.cons_append] at order
  have once := linked.order_nodup r
  rw [order, List.nodup_append, List.nodup_cons] at once
  obtain ⟨_, ⟨fresh, _⟩, apart⟩ := once
  refine ⟨before, _, order, fun again => apart n again n List.mem_cons_self rfl, fresh, ?_⟩
  intro levels enough
  rw [priorTrailWithin, if_pos known, walked levels (linked.chain_within n enough), upTo_known]
  intro m member
  apply linked.order_known (linked.known_above above known)
  rw [order]
  exact List.mem_append_left _ (List.mem_reverse.mp member)

theorem priorIncluding_of_prior {before : List NodeId}
    (backward : f.priorTrailWithin f.reach n = ⟨before.reverse, none⟩) :
    f.priorIncludingTrail n = ⟨(before ++ [n]).reverse, none⟩ := by
  rw [priorIncludingTrail, priorTrail, backward, including, List.reverse_append,
    List.reverse_singleton, List.singleton_append]

-- In the document that a node is in, the walk backward from it names what the walk from the root
-- has named up to it, from the last to the first, and then ends. The walk from the root comes to
-- it once.
theorem Linked.prior_reversed (linked : Linked f) (known : f.known n = true)
    (above : Above f r n) (top : f.parent r = none) :
    ∃ before after, f.depthFirst .visible r = before ++ n :: after ∧ n ∉ before ∧ n ∉ after ∧
      f.trail .visible r = ⟨before ++ n :: after, none⟩ ∧
      f.priorIncludingTrail n = ⟨(before ++ [n]).reverse, none⟩ ∧
      ∀ levels, f.reach ≤ levels → f.priorTrailWithin levels n = ⟨before.reverse, none⟩ := by
  obtain ⟨before, after, order, early, late, backward⟩ := linked.order_parted known above top
  refine ⟨before, after, order, early, late, ?_, priorIncluding_of_prior (backward f.reach le_rfl),
    backward⟩
  rw [linked.trail_order (linked.known_above above known), order]

theorem Linked.prior_reversed_list :
    let f := Forest.empty.through [.element (some "ul") (some "html"),
      .element (some "li") (some "html"), .element (some "li") (some "html"), .text (some "a"),
      .text (some "b"), .move (.append 0 (some 1)), .move (.append 0 (some 2)),
      .move (.append 1 (some 3)), .move (.append 2 (some 4))]
    f.parent 2 = some 0 ∧ f.parent 0 = none ∧
      f.priorIncludingTrail 2 = ⟨[2, 3, 1, 0], none⟩ ∧ f.trail .visible 0 = ⟨[0, 1, 3, 2, 4], none⟩ := by
  intro f
  have linked : Linked f := (Reached.empty.through (by decide)).sound.owned.linked
  have upward : f.parent 2 = some 0 := by decide
  have top : f.parent 0 = none := by decide
  obtain ⟨before, after, order, fresh, _, forward, backward, _⟩ :=
    linked.prior_reversed (by decide) (.up upward .self) top
  have walked : f.depthFirst .visible 0 = [0, 1, 3, 2, 4] := by decide
  rw [walked] at order
  rw [← order] at forward
  have split : before = [0, 1, 3] := by
    rcases before with _ | ⟨a, _ | ⟨b, _ | ⟨c, _ | ⟨d, before⟩⟩⟩⟩ <;> simp_all
  rw [split] at backward
  exact ⟨upward, top, backward, forward⟩

end HtmlTree.Forest

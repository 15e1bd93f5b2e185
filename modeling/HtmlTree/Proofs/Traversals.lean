import HtmlTree.Walk.Trails
import HtmlTree.Proofs.Depths

namespace HtmlTree

namespace Walk
open Relation

variable {next : NodeId → List NodeId} {c n : NodeId} {ms ns list rest inside : List NodeId}
  {depth : Nat}

-- What the nodes of a list unfold to, one after the other: each of them, then what its children
-- unfold to. Nothing is said of a list from which some way down has no end.
inductive Unfolds (next : NodeId → List NodeId) : List NodeId → List NodeId → Prop where
  | nil : Unfolds next [] []
  | cons {n : NodeId} {ns inside later : List NodeId} (below : Unfolds next (next n) inside)
    (after : Unfolds next ns later) : Unfolds next (n :: ns) (n :: (inside ++ later))

theorem Unfolds.append (first : Unfolds next ns list) (second : Unfolds next ms rest) :
    Unfolds next (ns ++ ms) (list ++ rest) := by
  induction first with
  | nil => exact second
  | cons below _ _ ih =>
    rw [List.cons_append, List.cons_append, List.append_assoc]
    exact .cons below ih

theorem Unfolds.alone (below : Unfolds next (next n) inside) :
    Unfolds next [n] (n :: inside) := by
  simpa using Unfolds.cons below (.nil : Unfolds next [] [])

theorem Unfolds.inside_of (unfolds : Unfolds next [n] list) :
    ∃ inside, list = n :: inside ∧ Unfolds next (next n) inside := by
  cases unfolds with
  | cons below after =>
    cases after
    exact ⟨_, by rw [List.append_nil], below⟩

theorem Unfolds.unique (one : Unfolds next ns list) (other : Unfolds next ns rest) :
    list = rest := by
  induction one generalizing rest with
  | nil =>
    cases other
    rfl
  | cons below after inner outer =>
    cases other with
    | cons below' after' => rw [inner below', outer after']

-- The stack holds what is still to be unfolded.
theorem Unfolds.forward_eq (unfolds : Unfolds next ns list) (limit : Nat) :
    forward next limit ns = list.take limit := by
  induction limit generalizing ns list with
  | zero => rw [forward, List.take_zero]
  | succ limit ih =>
    cases unfolds with
    | nil => rw [forward, List.take_nil]
    | cons below after => rw [forward, ih (below.append after), List.take_succ_cons]

-- Every node costs two steps, one to come to it and one to name it. By then its pending children are
-- all named, those that were pending with it before are not touched, and the rest of the stack waits.
theorem Unfolds.backward_eq (unfolds : Unfolds next ns list) (p : NodeId) (earlier : List NodeId)
    (stack : List (NodeId × List NodeId)) (fuel : Nat) :
    backward next (2 * list.length + fuel) ((p, ns.reverse ++ earlier) :: stack) =
      list.reverse ++ backward next fuel ((p, earlier) :: stack) := by
  induction unfolds generalizing p earlier stack fuel with
  | nil => simp
  | @cons n ns inside later _ _ inner outer =>
    have steps : 2 * (n :: (inside ++ later)).length + fuel =
        2 * later.length + (2 * inside.length + (fuel + 1) + 1) := by
      simp only [List.length_cons, List.length_append]
      omega
    have entered : backward next (2 * inside.length + (fuel + 1) + 1) ((p, n :: earlier) :: stack) =
        inside.reverse ++ n :: backward next fuel ((p, earlier) :: stack) := by
      have went := inner n [] ((p, earlier) :: stack) (fuel + 1)
      rw [List.append_nil] at went
      rw [backward, went, backward]
    rw [steps, List.reverse_cons, List.append_assoc, List.singleton_append, outer, entered]
    simp

theorem Unfolds.head_mem (unfolds : Unfolds next ns list) (member : n ∈ ns) : n ∈ list := by
  induction unfolds with
  | nil => cases member
  | cons _ _ _ outer =>
    rcases List.mem_cons.mp member with rfl | later
    · exact List.mem_cons_self
    · exact List.mem_cons_of_mem _ (List.mem_append_right _ (outer later))

-- What holds of the nodes to begin with and is handed down to children holds of all.
theorem Unfolds.all {holds : NodeId → Prop} (unfolds : Unfolds next ns list)
    (first : ∀ n ∈ ns, holds n) (onward : ∀ a ∈ list, holds a → ∀ c ∈ next a, holds c) :
    ∀ n ∈ list, holds n := by
  induction unfolds with
  | nil => exact first
  | @cons n ns inside later below after inner outer =>
    have here : holds n := first n List.mem_cons_self
    have within : ∀ m ∈ inside, holds m :=
      inner (onward n List.mem_cons_self here) fun a member =>
        onward a (List.mem_cons_of_mem _ (List.mem_append_left _ member))
    have beyond : ∀ m ∈ later, holds m :=
      outer (fun m member => first m (List.mem_cons_of_mem _ member)) fun a member =>
        onward a (List.mem_cons_of_mem _ (List.mem_append_right _ member))
    intro m member
    rcases List.mem_cons.mp member with rfl | member
    · exact here
    · rcases List.mem_append.mp member with inward | later
      · exact within m inward
      · exact beyond m later

theorem Unfolds.part (unfolds : Unfolds next ns list) (member : n ∈ list) :
    ∃ inside, Unfolds next (next n) inside ∧ inside ⊆ list ∧ inside.length < list.length := by
  induction unfolds with
  | nil => cases member
  | @cons m ns inside later below after inner outer =>
    rw [List.length_cons, List.length_append]
    rcases List.mem_cons.mp member with rfl | member
    · exact ⟨inside, below, fun x among => List.mem_cons_of_mem _ (List.mem_append_left _ among),
        by omega⟩
    · rcases List.mem_append.mp member with inward | further
      · obtain ⟨own, unfolds, among, short⟩ := inner inward
        refine ⟨own, unfolds, fun x member => ?_, by omega⟩
        exact List.mem_cons_of_mem _ (List.mem_append_left _ (among member))
      · obtain ⟨own, unfolds, among, short⟩ := outer further
        refine ⟨own, unfolds, fun x member => ?_, by omega⟩
        exact List.mem_cons_of_mem _ (List.mem_append_right _ (among member))

theorem Unfolds.closed (unfolds : Unfolds next ns list) (member : n ∈ list) (leads : c ∈ next n) :
    c ∈ list := by
  obtain ⟨inside, below, among, _⟩ := unfolds.part member
  exact among (below.head_mem leads)

-- A node that were met below itself would bring its whole unfolding with it once more.
theorem Unfolds.fresh (below : Unfolds next (next n) inside) : n ∉ inside := by
  intro member
  obtain ⟨again, repeated, _, short⟩ := below.part member
  rw [repeated.unique below] at short
  exact Nat.lt_irrefl _ short

-- Every node is one of those to begin with, or the child of another one.
theorem Unfolds.origin (unfolds : Unfolds next ns list) (member : c ∈ list) :
    c ∈ ns ∨ ∃ n ∈ list, c ∈ next n := by
  have all : ∀ c ∈ list, c ∈ ns ∨ ∃ n ∈ list, c ∈ next n :=
    unfolds.all (fun _ first => .inl first) fun n among _ _ leads => .inr ⟨n, among, leads⟩
  exact all c member

-- Where no two of the nodes share a child, and none has one twice or has one of the first nodes for
-- a child, no node is met twice.
theorem Unfolds.nodup (unfolds : Unfolds next ns list) (distinct : ns.Nodup)
    (once : ∀ n ∈ list, (next n).Nodup)
    (sole : ∀ a ∈ list, ∀ b ∈ list, ∀ c ∈ next a, c ∈ next b → a = b)
    (first : ∀ n ∈ ns, ∀ a ∈ list, n ∉ next a) : list.Nodup := by
  induction unfolds with
  | nil => exact distinct
  | @cons n ns inside later below after inner outer =>
    obtain ⟨other, distinct⟩ := List.nodup_cons.mp distinct
    have here : n ∈ n :: (inside ++ later) := List.mem_cons_self
    have left : ∀ m ∈ inside, m ∈ n :: (inside ++ later) := fun m member =>
      List.mem_cons_of_mem _ (List.mem_append_left _ member)
    have right : ∀ m ∈ later, m ∈ n :: (inside ++ later) := fun m member =>
      List.mem_cons_of_mem _ (List.mem_append_right _ member)
    have unmet : n ∉ later := by
      intro member
      rcases after.origin member with among | ⟨b, further, leads⟩
      · exact other among
      · exact first n List.mem_cons_self b (right b further) leads
    -- A common node would be a child on both sides, and so its parent would be common too.
    have split {a : NodeId} (above : a ∈ n :: (inside ++ later)) (outside : a ∉ later) :
        ∀ c ∈ next a, c ∉ later := by
      intro c leads member
      rcases after.origin member with among | ⟨b, further, shared⟩
      · exact first c (List.mem_cons_of_mem _ among) a above leads
      · exact outside (sole a above b (right b further) c leads shared ▸ further)
    have apart : ∀ m ∈ inside, m ∉ later :=
      below.all (split here unmet) fun a member outside => split (left a member) outside
    have within : inside.Nodup := by
      refine inner (once n here) (fun m member => once m (left m member)) ?_ ?_
      · exact fun a member b further => sole a (left a member) b (left b further)
      · intro c leads a member again
        exact below.fresh (sole n here a (left a member) c leads again ▸ member)
    have beyond : later.Nodup := by
      refine outer distinct (fun m member => once m (right m member)) ?_ ?_
      · exact fun a member b further => sole a (right a member) b (right b further)
      · exact fun m member a among => first m (List.mem_cons_of_mem _ member) a (right a among)
    refine List.nodup_cons.mpr ⟨?_, List.nodup_append.mpr ⟨within, beyond, ?_⟩⟩
    · intro member
      rcases List.mem_append.mp member with inward | further
      · exact below.fresh inward
      · exact unmet further
    · rintro m inward _ further rfl
      exact apart m inward further

theorem Shallow.unfolds (shallow : Shallow next depth n) :
    Unfolds next [n] (preorder next depth n) := by
  induction depth generalizing n with
  | zero =>
    have nothing : next n = [] := shallow
    exact .alone (by rw [nothing]; exact .nil)
  | succ depth ih =>
    have each (ns : List NodeId) (member : ∀ c ∈ ns, Shallow next depth c) :
        Unfolds next ns (ns.flatMap (preorder next depth)) := by
      induction ns with
      | nil => exact .nil
      | cons c ns rest =>
        rw [List.flatMap_cons]
        exact (ih (member c List.mem_cons_self)).append
          (rest fun d later => member d (List.mem_cons_of_mem _ later))
    exact .alone (each (next n) shallow)

theorem Unfolds.leads (below : Unfolds next (next n) inside)
    (onward : TransGen (Goes next) n c) : c ∈ inside := by
  induction onward with
  | single leads => exact below.head_mem leads
  | tail _ leads ih => exact below.closed ih leads

theorem Unfolds.no_return (unfolds : Unfolds next [n] list) (m : NodeId)
    (reached : ReflTransGen (Goes next) n m) : ¬ TransGen (Goes next) m m := by
  have member : m ∈ list := by
    induction reached with
    | refl => exact unfolds.head_mem List.mem_cons_self
    | tail _ leads ih => exact unfolds.closed ih leads
  obtain ⟨inside, below, _⟩ := unfolds.part member
  exact fun again => below.fresh (below.leads again)

end Walk

namespace Forest
open Walk

variable {f : Forest} {scope : Scope} {a b c n : NodeId} {list : List NodeId} {depth : Nat}

-- Parents and children agree: a node is listed by its parent, once, and by no other, and the parents
-- above every node come to an end.
structure Linked (f : Forest) : Prop where
  listed : ∀ n c, c ∈ f.kids n ↔ f.parent c = some n
  once : ∀ n, (f.kids n).Nodup
  rooted : ∀ n, f.Rooted n

-- What is in a template hangs nowhere else and is the content of this one only.
structure Lone (f : Forest) : Prop where
  free : ∀ n c, f.content n = some c → f.parent c = none
  single : ∀ m n c, f.content m = some c → f.content n = some c → m = n

theorem Owned.linked (owned : Owned f) : Linked f := ⟨owned.listed, owned.once, owned.rooted⟩

theorem Linked.same {g : Forest} (linked : Linked f) (same : SameLinks f g) : Linked g := by
  refine ⟨fun n c => ?_, fun n => ?_, fun n => rooted_congr same.parent (linked.rooted n)⟩
  · rw [same.kids, same.parent]
    exact linked.listed n c
  · rw [same.kids]
    exact linked.once n

theorem Linked.known_child (linked : Linked f) (member : c ∈ f.kids n) : f.known c = true :=
  known_of_parent ((linked.listed n c).mp member)

theorem Sound.lone (sound : Sound f) : Lone f :=
  ⟨fun n c holds => sound.owned.free c (sound.housed.known n c holds).2, sound.housed.single⟩

-- A forest in which all links agree and every content is there.
structure Consistent (f : Forest) : Prop extends Linked f, Lone f where
  stored : ∀ n c, f.content n = some c → f.known c = true

theorem Sound.consistent (sound : Sound f) : Consistent f :=
  ⟨sound.owned.linked, sound.lone, fun n c holds => (sound.housed.known n c holds).1⟩

theorem Consistent.known_held (consistent : Consistent f) (held : f.Holds n c) :
    f.known c = true := by
  rcases held with listed | content
  · exact consistent.known_child listed
  · exact consistent.stored n c content

theorem below_known (member : c ∈ f.below scope n) : f.known n = true := by
  by_contra unknown
  have bare := node_unknown (Bool.eq_false_iff.mpr unknown)
  cases scope <;>
    simp [below, childrenIn, children, content, bare, Node.newText] at member

-- The node whose list a walk follows below a node: the node itself, or the content that it shows.
theorem below_eq (f : Forest) (scope : Scope) (n : NodeId) :
    f.below scope n = f.kids n ∨ ∃ c, f.content n = some c ∧ f.name n = "template" ∧
      f.below scope n = f.kids c := by
  cases scope with
  | visible => exact .inl rfl
  | templates =>
    cases holds : f.content n with
    | none => exact .inl (by simp [below, childrenIn, kids, holds])
    | some c =>
      by_cases named : f.name n = "template"
      · exact .inr ⟨c, rfl, named, by simp [below, childrenIn, kids, holds, named]⟩
      · exact .inl (by simp [below, childrenIn, kids, holds, named])

theorem Linked.below_nodup (linked : Linked f) (scope : Scope) (n : NodeId) :
    (f.below scope n).Nodup := by
  rcases below_eq f scope n with own | ⟨c, _, _, shown⟩
  · exact own ▸ linked.once n
  · exact shown ▸ linked.once c

theorem Linked.sole_lister (linked : Linked f) (left : c ∈ f.kids a) (right : c ∈ f.kids b) :
    a = b :=
  Option.some.inj (((linked.listed a c).mp left).symm.trans ((linked.listed b c).mp right))

theorem Linked.below_linked (linked : Linked f) (member : c ∈ f.below scope n) :
    ∃ p, f.parent c = some p := by
  rcases below_eq f scope n with own | ⟨h, _, _, shown⟩
  · exact ⟨n, (linked.listed n c).mp (own ▸ member)⟩
  · exact ⟨h, (linked.listed h c).mp (shown ▸ member)⟩

-- A content that is walked through by itself has no part in the walk of a template that shows it:
-- hanging nowhere, it would be where the walk began, and the walk would come back to its beginning.
theorem Linked.unshown (linked : Linked f) (lone : Lone f)
    (unfolds : Unfolds (f.below scope) [n] list) (left : a ∈ list) (right : b ∈ list)
    (holds : f.content b = some a) (own : f.below scope a = f.kids a)
    (shown : f.below scope b = f.kids a) : a = b := by
  by_contra other
  obtain ⟨inside, rfl, below⟩ := unfolds.inside_of
  have first : a = n := by
    rcases unfolds.origin left with begun | ⟨m, _, leads⟩
    · exact List.mem_singleton.mp begun
    · obtain ⟨p, up⟩ := linked.below_linked leads
      cases (lone.free b a holds).symm.trans up
  subst first
  have inward : b ∈ inside := (List.mem_cons.mp right).resolve_left (Ne.symm other)
  have again : Unfolds (f.below scope) (f.below scope b) inside := by
    rw [shown, ← own]
    exact below
  exact again.fresh inward

theorem Linked.below_sole (linked : Linked f) (lone : Lone f)
    (unfolds : Unfolds (f.below scope) [n] list) (left : a ∈ list) (right : b ∈ list)
    (one : c ∈ f.below scope a) (other : c ∈ f.below scope b) : a = b := by
  rcases below_eq f scope a with ownA | ⟨h, holdsA, _, shownA⟩ <;>
    rcases below_eq f scope b with ownB | ⟨k, holdsB, _, shownB⟩
  · exact linked.sole_lister (ownA ▸ one) (ownB ▸ other)
  · obtain rfl := linked.sole_lister (ownA ▸ one) (shownB ▸ other)
    exact linked.unshown lone unfolds left right holdsB ownA shownB
  · obtain rfl := linked.sole_lister (shownA ▸ one) (ownB ▸ other)
    exact (linked.unshown lone unfolds right left holdsA ownB shownA).symm
  · obtain rfl := linked.sole_lister (shownA ▸ one) (shownB ▸ other)
    exact lone.single a b h holdsA holdsB

theorem Linked.unfolds_once (linked : Linked f) (unfolds : Unfolds (f.below scope) [n] list)
    (sole : ∀ a ∈ list, ∀ b ∈ list, ∀ c ∈ f.below scope a, c ∈ f.below scope b → a = b) :
    list.Nodup := by
  refine unfolds.nodup (List.nodup_singleton n) (fun m _ => linked.below_nodup scope m) sole ?_
  intro m member a among leads
  obtain rfl := List.mem_singleton.mp member
  obtain ⟨inside, rfl, below⟩ := unfolds.inside_of
  rcases List.mem_cons.mp among with rfl | inward
  · exact below.fresh (below.head_mem leads)
  · exact below.fresh (below.closed inward leads)

theorem Linked.unfolds_nodup (linked : Linked f) (lone : Lone f)
    (unfolds : Unfolds (f.below scope) [n] list) : list.Nodup :=
  linked.unfolds_once unfolds fun _ left _ right _ one other =>
    linked.below_sole lone unfolds left right one other

theorem unfolds_preorder (unfolds : Unfolds (f.below scope) [n] list) (depth : Nat)
    (enough : f.size ≤ depth) : preorder (f.below scope) depth n = list := by
  have shallow : Shallow (f.below scope) f.size n :=
    shallow_of_no_return (fun _ _ => below_known) unfolds.no_return
  have deeper := shallow.more (depth - f.size)
  rw [Nat.add_sub_cancel' enough] at deeper
  exact deeper.unfolds.unique unfolds

theorem depthFirst_eq (unfolds : Unfolds (f.below scope) [n] list) :
    f.depthFirst scope n = list := by
  rw [depthFirst, depthFirstWithin, unfolds.forward_eq, extent_eq,
    unfolds_preorder unfolds f.reach (Nat.le_succ _), List.take_length]

theorem backward_unfolds (unfolds : Unfolds (f.below scope) [n] list) (fuel : Nat)
    (enough : 2 * list.length ≤ fuel) :
    backward (f.below scope) fuel [(n, (f.below scope n).reverse)] = list.reverse := by
  obtain ⟨inside, rfl, below⟩ := unfolds.inside_of
  obtain ⟨extra, rfl⟩ := Nat.exists_eq_add_of_le enough
  have steps : 2 * (n :: inside).length + extra = 2 * inside.length + (extra + 1 + 1) := by
    rw [List.length_cons]
    omega
  have named := below.backward_eq n [] [] (extra + 1 + 1)
  rw [List.append_nil] at named
  rw [steps, named, backward, backward, List.reverse_cons]

theorem depthFirstReversed_eq (unfolds : Unfolds (f.below scope) [n] list) :
    f.depthFirstReversed scope n = list.reverse := by
  refine backward_unfolds unfolds _ ?_
  rw [extent_eq, unfolds_preorder unfolds f.reach (Nat.le_succ _)]

theorem Linked.unfolds_known (linked : Linked f) (known : f.known n = true)
    (unfolds : Unfolds (f.below scope) [n] list) : ∀ m ∈ list, f.known m = true := by
  refine unfolds.all (fun m first => List.mem_singleton.mp first ▸ known) fun a _ _ c leads => ?_
  obtain ⟨p, upward⟩ := linked.below_linked leads
  exact known_of_parent upward

theorem downTo_known {items : List NodeId} (known : ∀ m ∈ items, f.known m = true) :
    Trail.downTo f.known items = ⟨items, none⟩ := by
  have whole : items.dropWhile f.known = [] := List.dropWhile_eq_nil_iff.mpr known
  rw [Trail.downTo, whole]

theorem Linked.trail_unfolds (linked : Linked f) (known : f.known n = true)
    (unfolds : Unfolds (f.below scope) [n] list) : f.trail scope n = ⟨list, none⟩ := by
  rw [trail, depthFirst_eq unfolds, downTo_known (linked.unfolds_known known unfolds)]

theorem upTo_known {items : List NodeId} (known : ∀ m ∈ items, f.known m = true)
    (failure : Option Failure) : Trail.upTo f.known ⟨items, failure⟩ = ⟨items, failure⟩ := by
  have all : items.all f.known = true := List.all_eq_true.mpr known
  rw [Trail.upTo, if_pos all]

-- If every way down from a node comes to an end, whatever the links are else, the walks with a stack
-- name what the node unfolds to, in order and from the last to the first, and then end. Where links
-- agree no node is named twice.
theorem walks_unfold (finite : Shallow (f.below scope) depth n) :
    ∃ list, Unfolds (f.below scope) [n] list ∧
      (∀ depth, f.size ≤ depth → preorder (f.below scope) depth n = list) ∧
      (∀ limit, f.depthFirstWithin scope limit n = list.take limit) ∧
      f.depthFirst scope n = list ∧
      (∀ fuel, 2 * list.length ≤ fuel →
        backward (f.below scope) fuel [(n, (f.below scope n).reverse)] = list.reverse) ∧
      f.depthFirstReversed scope n = list.reverse ∧
      ((∀ m ∈ list, f.known m = true) →
        f.trail scope n = ⟨list, none⟩ ∧ f.trailReversed scope n = ⟨list.reverse, none⟩) ∧
      (Linked f → Lone f → list.Nodup) := by
  have unfolds := finite.unfolds
  refine ⟨_, unfolds, unfolds_preorder unfolds, unfolds.forward_eq, depthFirst_eq unfolds,
    backward_unfolds unfolds, depthFirstReversed_eq unfolds, ?_, ?_⟩
  · intro known
    refine ⟨?_, ?_⟩
    · rw [trail, depthFirst_eq unfolds, downTo_known known]
    · rw [trailReversed, depthFirstReversed_eq unfolds,
        upTo_known fun m member => known m (List.mem_reverse.mp member)]
  · exact fun linked lone => linked.unfolds_nodup lone unfolds

-- A template whose paragraph has an element and a text in it. The content itself is not named.
theorem walks_unfold_template :
    let f := Forest.empty.through [.element (some "template") (some "html"),
      .element (some "p") (some "html"), .element (some "b") (some "html"), .text (some "a"),
      .move (.append 0 (some 2)), .move (.append 2 (some 3)), .move (.append 2 (some 4))]
    Shallow (f.below .templates) 2 1 ∧ f.trail .templates 1 = ⟨[1, 2, 3, 4], none⟩ ∧
      f.trailReversed .templates 1 = ⟨[4, 3, 2, 1], none⟩ ∧ (f.depthFirst .templates 1).Nodup := by
  intro f
  have sound : Sound f := (Reached.empty.through (by decide)).sound
  have content : f.below .templates 1 = [2] := by decide
  have paragraph : f.below .templates 2 = [3, 4] := by decide
  have finite : Shallow (f.below .templates) 2 1 := by
    intro c member
    cases List.mem_singleton.mp (content ▸ member)
    intro c member
    rcases List.mem_pair.mp (paragraph ▸ member) with rfl | rfl <;> rfl
  obtain ⟨list, _, recursive, _, forward, _, _, trails, nodup⟩ := walks_unfold finite
  have named : [1, 2, 3, 4] = list := recursive f.size le_rfl
  subst named
  obtain ⟨trail, reversed⟩ := trails (by decide)
  exact ⟨finite, trail, reversed, forward ▸ nodup sound.owned.linked sound.lone⟩

end Forest

end HtmlTree

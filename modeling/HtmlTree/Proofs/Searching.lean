import HtmlTree.Search
import HtmlTree.Proofs.Normalizing

namespace HtmlTree

namespace Predicate

variable {f : Forest} {p : Predicate} {holds : NodeId → Bool} {n : NodeId}

-- What is no element does not pass, and its condition is not asked.
theorem onElements_check (known : f.known n = true) (named : (f.node n).isNamed = true) :
    p.onElements.check f n =
      if (f.node n).isElement then asPart (p.check f n) else pure false := by
  have told : (f.known n && (f.node n).isNamed) = true := by rw [known, named]; rfl
  have element : check f .element n = pure (f.node n).isElement := by
    rw [check, testElement, if_pos told, Bool.and_true]
  have part (b : Bool) : asPart (pure b) = pure b := rfl
  rw [onElements, check, checkAll, checkAll, checkAll, element, part, pure_bind]
  cases (f.node n).isElement with
  | false => rfl
  | true =>
    funext t
    simp only [if_true, bind, EStateM.bind]
    cases asPart (check f p n) t with
    | error failure u => rfl
    | ok passes u => cases passes <;> rfl

-- A condition without side effects: at every node it has an answer, and it leaves no trace.
def Answers (p : Predicate) (f : Forest) (holds : NodeId → Bool) : Prop :=
  ∀ n, f.known n = true → p.check f n = pure (holds n)

theorem Answers.onElements (answers : p.Answers f holds)
    (named : ∀ n, (f.node n).isNamed = true) :
    p.onElements.Answers f fun n => (f.node n).isElement && holds n := by
  intro n known
  rw [onElements_check known (named n), answers n known]
  dsimp only
  cases (f.node n).isElement <;> rfl

end Predicate

namespace Search
open Walk

variable {check : NodeId → Check} {holds : NodeId → Bool} {list : List NodeId}
  {failure : Option Failure}

theorem first_pure (answers : ∀ n ∈ list, check n = pure (holds n)) :
    first check list = pure (list.find? holds) := by
  induction list with
  | nil => rfl
  | cons n list ih =>
    have rest := ih fun m member => answers m (List.mem_cons_of_mem _ member)
    rw [first, answers n List.mem_cons_self, pure_bind, rest, List.find?_cons]
    cases holds n <;> rfl

theorem every_pure (answers : ∀ n ∈ list, check n = pure (holds n)) :
    every check failure list = pure ⟨list.filter holds, failure⟩ := by
  funext trace
  induction list with
  | nil => rfl
  | cons n list ih =>
    have rest := ih fun m member => answers m (List.mem_cons_of_mem _ member)
    rw [every, answers n List.mem_cons_self]
    cases passes : holds n with
    | true =>
      rw [List.filter_cons_of_pos passes]
      simp only [pure, EStateM.pure, rest]
      rfl
    | false =>
      rw [List.filter_cons_of_neg (by simp [passes])]
      exact rest

-- What was found before stays in front, whatever the condition does.
theorem everyInto_eq (found : List NodeId) (trace : Trace) :
    everyInto check failure found list trace =
      let (trail, trace) := every check failure list trace
      (⟨found ++ trail.items, trail.failure⟩, trace) := by
  induction list generalizing found trace with
  | nil => simp [everyInto, every]
  | cons n list ih =>
    unfold everyInto every
    cases check n trace with
    | error failure trace => simp
    | ok passes trace =>
      cases passes with
      | false => exact ih found trace
      | true =>
        dsimp only
        simp only [ih, List.append_assoc, List.singleton_append]
        rfl

theorem everyInto_pure (answers : ∀ n ∈ list, check n = pure (holds n)) (found : List NodeId) :
    everyInto check failure found list = pure ⟨found ++ list.filter holds, failure⟩ := by
  funext trace
  rw [everyInto_eq, every_pure answers]
  rfl

theorem firstOnTrail_pure (answers : ∀ n ∈ list, check n = pure (holds n)) :
    firstOnTrail check ⟨list, none⟩ = pure (list.find? holds) := by
  rw [firstOnTrail, first_pure answers, pure_bind]
  cases list.find? holds <;> rfl

theorem find?_reverse_filter : list.reverse.find? holds = (list.filter holds).getLast? := by
  rw [List.getLast?_eq_head?_reverse, ← List.filter_reverse, List.head?_filter]

theorem none_passes : list.find? holds = none ↔ ∀ m ∈ list, holds m = false := by
  simp only [List.find?_eq_none, Bool.not_eq_true]

-- What the searches of one family find from the root of a document and back from a node in it. The
-- document is parted behind the node.
structure Agree (holds : NodeId → Bool) (upTo after back : List NodeId)
    (first firstPrior : Searching (Option NodeId)) (all allPrior : StateM Trace (Trail NodeId))
    (allInto allPriorInto : List NodeId → StateM Trace (Trail NodeId)) : Prop where
  backward : allPrior = pure ⟨back, none⟩
  reversed : back.reverse = upTo.filter holds
  forward : all = pure ⟨back.reverse ++ after.filter holds, none⟩
  nearest : ∃ found, firstPrior = pure found ∧ found = (upTo.filter holds).getLast? ∧
    (found = none ↔ ∀ m ∈ upTo, holds m = false)
  foremost : ∃ found, first = pure found ∧ found = (upTo ++ after).find? holds ∧
    (found = none ↔ ∀ m ∈ upTo ++ after, holds m = false)
  onward : ∀ earlier, allInto earlier = pure ⟨earlier ++ (back.reverse ++ after.filter holds), none⟩
  onwardBack : ∀ earlier, allPriorInto earlier = pure ⟨earlier ++ back, none⟩

end Search
namespace Forest
open Walk Search

variable {f : Forest} {p : Predicate} {holds : NodeId → Bool} {n r : NodeId}
  {before after list : List NodeId}

-- The root and the way back to a node name the same nodes up to it, so a family of searches goes by
-- one list.
theorem Linked.walks_agree (linked : Linked f) (root : f.known r = true)
    (order : f.depthFirst .visible r = before ++ n :: after)
    (backward : f.priorTrailWithin f.reach n = ⟨before.reverse, none⟩)
    (answers : p.Answers f holds) :
    Agree holds (before ++ [n]) after ((before ++ [n]).filter holds).reverse
      (f.walkFirst .visible p r) (f.walkFirstPrior p n)
      (f.walkAll .visible p r) (f.walkAllPrior p n)
      (fun earlier => f.walkAllInto .visible p earlier r)
      (fun earlier => f.walkAllPriorInto p earlier n) := by
  have whole : before ++ n :: after = before ++ [n] ++ after := by simp
  have inside : ∀ m ∈ before ++ [n] ++ after, p.check f m = pure (holds m) := by
    intro m member
    apply answers
    apply linked.order_known root
    rwa [order, whole]
  have upTo : ∀ m ∈ (before ++ [n]).reverse, p.check f m = pure (holds m) := fun m member =>
    inside m (List.mem_append_left _ (List.mem_reverse.mp member))
  have forth : f.trail .visible r = ⟨before ++ [n] ++ after, none⟩ := by
    rw [linked.trail_order root, order, whole]
  have back := priorIncluding_of_prior backward
  refine ⟨?_, List.reverse_reverse _, ?_, ⟨_, ?_, find?_reverse_filter, ?_⟩,
    ⟨_, ?_, rfl, none_passes⟩, fun earlier => ?_, fun earlier => ?_⟩
  · rw [walkAllPrior, everyOnTrail, back, every_pure upTo, List.filter_reverse]
  · rw [walkAll, everyOnTrail, forth, every_pure inside, List.filter_append, List.reverse_reverse]
  · rw [walkFirstPrior, back, firstOnTrail_pure upTo]
  · rw [none_passes]
    simp only [List.mem_reverse]
  · rw [walkFirst, forth, firstOnTrail_pure inside]
  · rw [walkAllInto, everyOnTrailInto, forth, everyInto_pure inside, List.filter_append,
      List.reverse_reverse]
  · rw [walkAllPriorInto, everyOnTrailInto, back, everyInto_pure upTo, List.filter_reverse]

-- Where a walk ends, a search along it finds all that passes.
theorem walkAll_trail {scope : Scope} (walk : f.trail scope n = ⟨list, none⟩)
    (known : ∀ m ∈ list, f.known m = true) (answers : p.Answers f holds) :
    f.walkAll scope p n = pure ⟨list.filter holds, none⟩ := by
  rw [walkAll, everyOnTrail, walk, every_pure]
  exact fun m member => answers m (known m member)

theorem Linked.walkAll_pure (linked : Linked f) (known : f.known n = true)
    (answers : p.Answers f holds) :
    f.walkAll .visible p n = pure ⟨(f.depthFirst .visible n).filter holds, none⟩ :=
  walkAll_trail (linked.trail_order known) (linked.order_known known) answers

-- From any node of a document, the searches back from it and those down from the root give one
-- answer, also for elements alone, and what was found before stays in front.
theorem Linked.searches_agree (linked : Linked f) (known : f.known n = true)
    (above : Above f r n) (top : f.parent r = none) (answers : p.Answers f holds) :
    ∃ before after, f.trail .visible r = ⟨before ++ n :: after, none⟩ ∧ n ∉ before ∧ n ∉ after ∧
      (∃ back, Agree holds (before ++ [n]) after back
        (f.walkFirst .visible p r) (f.walkFirstPrior p n)
        (f.walkAll .visible p r) (f.walkAllPrior p n)
        (fun earlier => f.walkAllInto .visible p earlier r)
        (fun earlier => f.walkAllPriorInto p earlier n)) ∧
      ((∀ m, (f.node m).isNamed = true) →
        (∃ back, Agree (fun m => (f.node m).isElement && holds m) (before ++ [n]) after back
          (f.query .visible p r) (f.queryPrior p n)
          (f.queryAll .visible p r) (f.queryAllPrior p n)
          (fun earlier => f.queryAllInto .visible p earlier r)
          (fun earlier => f.queryAllPriorInto p earlier n)) ∧
        ∀ x, f.known x = true → ∃ matched, f.walkAll .visible p x = pure ⟨matched, none⟩ ∧
          f.queryAll .visible p x =
            pure ⟨matched.filter fun m => (f.node m).isElement, none⟩) := by
  obtain ⟨before, after, order, early, late, backward⟩ := linked.order_parted known above top
  have root := linked.known_above above known
  have back := backward f.reach le_rfl
  refine ⟨before, after, by rw [linked.trail_order root, order], early, late,
    ⟨_, linked.walks_agree root order back answers⟩, fun named => ?_⟩
  have elements := answers.onElements named
  refine ⟨⟨_, linked.walks_agree root order back elements⟩, fun x given => ?_⟩
  refine ⟨_, linked.walkAll_pure given answers, ?_⟩
  rw [queryAll, linked.walkAll_pure given elements, List.filter_filter]

-- A list in a fragment, searched for all that is no fragment from its second item. The text of the
-- first one lies behind, that of the second one ahead.
theorem Linked.searches_agree_list :
    let f := Forest.empty.through [.fragment, .element (some "ul") (some "html"),
      .element (some "li") (some "html"), .element (some "li") (some "html"), .text (some "a"),
      .text (some "b"), .move (.append 0 (some 1)), .move (.append 1 (some 2)),
      .move (.append 1 (some 3)), .move (.append 2 (some 4)), .move (.append 3 (some 5))]
    let p : Predicate := .not .fragment
    p.Answers f (fun n => !(f.node n).isFragment) ∧ f.parent 0 = none ∧
      f.walkAll .visible p 0 = pure ⟨[1, 2, 4, 3, 5], none⟩ ∧
      f.walkAllPrior p 3 = pure ⟨[3, 4, 2, 1], none⟩ ∧
      f.queryPrior p 3 = pure (some 3) ∧
      f.queryAllInto .visible p [5] 0 = pure ⟨[5, 1, 2, 3], none⟩ := by
  intro f p
  have orderly : Orderly f := orderly_through (by decide) (by decide)
  have top : f.parent 0 = none := by decide
  have above : Above f 0 3 := .up (p := 1) (by decide) (.up (p := 0) (by decide) .self)
  have answers : p.Answers f (fun n => !(f.node n).isFragment) := by
    intro n known
    simp [p, Predicate.check, Predicate.test, known]
  obtain ⟨before, after, order, early, late, ⟨back, walks⟩, elements⟩ :=
    orderly.linked.searches_agree (n := 3) (by decide) above top answers
  obtain ⟨⟨behind, queries⟩, _⟩ := elements orderly.named
  have walked : f.trail .visible 0 = ⟨[0, 1, 2, 4] ++ 3 :: [5], none⟩ := by decide
  obtain ⟨rfl, _, rfl⟩ :=
    (List.append_cons_inj_of_notMem early late).mp (congrArg Trail.items (order.symm.trans walked))
  have first : back = [3, 4, 2, 1] := by
    rw [List.reverse_eq_iff.mp walks.reversed]
    decide
  have second : behind = [3, 2, 1] := by
    rw [List.reverse_eq_iff.mp queries.reversed]
    decide
  have ahead : [5].filter (fun n => !(f.node n).isFragment) = [5] := by decide
  have none_ahead : [5].filter (fun n => (f.node n).isElement && !(f.node n).isFragment) = [] := by
    decide
  refine ⟨answers, top, ?_, ?_, ?_, ?_⟩
  · rw [walks.forward, first, ahead]
    rfl
  · rw [walks.backward, first]
  · obtain ⟨found, nearest, last, _⟩ := queries.nearest
    rw [nearest, last, ← queries.reversed, second]
    rfl
  · rw [queries.onward [5], second, none_ahead]
    rfl

end Forest
end HtmlTree

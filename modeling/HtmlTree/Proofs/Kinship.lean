import HtmlTree.Proofs.Refusals
import HtmlTree.Proofs.Searching

namespace HtmlTree

theorem Predicate.someOf_pure {check : NodeId → Check} {holds : NodeId → Bool} {list : List NodeId}
    (answers : ∀ n ∈ list, check n = pure (holds n)) :
    someOf check list = pure (list.any holds) := by
  induction list with
  | nil => rfl
  | cons n list ih =>
    have rest := ih fun m member => answers m (List.mem_cons_of_mem _ member)
    rw [someOf, answers n List.mem_cons_self, pure_bind, rest, List.any_cons]
    cases holds n <;> rfl

namespace Edit
open Forest

variable {f g : Forest} {n p q : NodeId} {failure : Failure}

theorem placeIn_failed (found : f.placeIn q n = .error failure) :
    ∃ fault, failure = .inconsistent fault n := by
  unfold placeIn at found
  split at found
  · cases found
    exact ⟨_, rfl⟩
  · split at found
    · cases found
    · cases found
      exact ⟨_, rfl⟩

theorem detach_failed (ran : detach n f = .error failure g) (fault : TreeFault) (m : NodeId) :
    failure ≠ .hierarchy fault m := by
  cases linked : f.parent n with
  | none =>
    cases known : f.known n with
    | false =>
      rw [detach_unknown known] at ran
      cases ran
      exact nofun
    | true =>
      rw [detach_free known linked] at ran
      cases ran
  | some q =>
    cases found : f.placeIn q n with
    | error reason =>
      rw [detach_refused linked found] at ran
      cases ran
      obtain ⟨_, rfl⟩ := placeIn_failed found
      exact nofun
    | ok place =>
      rw [detach_placed linked found] at ran
      cases ran

-- Once the ancestors have been looked through, nothing is said about ancestors any more.
theorem release_failed (checked : n ∉ f.ancestors p) (ran : release p n f = .error failure g)
    (fault : TreeFault) (m : NodeId) : failure ≠ .hierarchy fault m := by
  cases fragment : (f.node n).isFragment with
  | true =>
    rw [release_fragment checked fragment] at ran
    by_cases leaf : (f.node n).kind = .text
    · rw [takeChildren_text leaf] at ran
      cases ran
      exact nofun
    · obtain ⟨h, taken, _⟩ := takeChildren_run leaf
      rw [taken] at ran
      cases ran
  | false =>
    cases linked : f.parent n with
    | none =>
      rw [release_free checked fragment linked] at ran
      cases ran
    | some q =>
      rw [release_linked checked fragment linked] at ran
      cases left : detach n (f.note (.detaching (f.summary n) (f.summary q))) with
      | ok value h =>
        rw [left] at ran
        cases ran
      | error reason h =>
        rw [left] at ran
        cases ran
        exact detach_failed left fault m

-- What would be put in place of itself is a child.
theorem mem_of_itself {list : List NodeId} {index : Int} {replacing : Bool}
    (itself : replacing = true ∧ some n = removedBy f list index replacing) : n ∈ list := by
  obtain ⟨rfl, found⟩ := itself
  rw [removedBy, if_pos rfl, childAt] at found
  exact List.mem_of_getElem? (Option.filter_eq_some_iff.mp found.symm).1

theorem insertNode_circular_iff (linked : Linked f) {list : List NodeId} {index : Int}
    {replacing : Bool} (owns : f.children p = some list) (inside : InRange list index replacing) :
    (∃ m g, insertNode p index (some n) replacing f =
      .error (.hierarchy .insertIntoDescendant m) g) ↔ n ∈ f.ancestors p := by
  constructor
  · rintro ⟨m, g, ran⟩
    by_contra checked
    by_cases itself : replacing = true ∧ some n = removedBy f list index replacing
    · rw [insertNode_itself owns inside itself] at ran
      cases ran
    rw [insertNode_begun owns inside itself, bind_run, freeing] at ran
    have freed := release_careful f p n
    cases begun : release p n f with
    | error reason h =>
      rw [begun] at ran
      cases ran
      exact release_failed checked begun _ m rfl
    | ok block h =>
      rw [begun] at ran freed
      obtain ⟨rest, still⟩ := Option.isSome_iff_exists.mp (freed p (by rw [owns]; rfl))
      cases settling_failed still ran
  · intro circular
    have above := (mem_ancestors (linked.rooted p)).mp circular
    have other : ¬ (replacing = true ∧ some n = removedBy f list index replacing) := by
      intro itself
      have upward : f.parent n = some p :=
        (linked.listed p n).mp ((mem_kids owns).mpr (mem_of_itself itself))
      exact (linked.rooted n).no_return upward above
    refine ⟨n, f, ?_⟩
    rw [insertNode_begun owns inside other, bind_run, freeing, release_circular circular]

end Edit

namespace Forest
open Walk Search Edit

variable {f : Forest} {m n : NodeId} {holds : NodeId → Bool} {p : Predicate}

theorem Rooted.ancestors_line (rooted : f.Rooted n) :
    (f.ancestors n).Nodup ∧
      ∀ levels, f.reach ≤ levels → f.ancestorsWithin levels n = f.ancestors n := by
  obtain ⟨line, nodup, _, short, chained⟩ := rooted.line
  have whole (levels : Nat) (enough : f.reach ≤ levels) : f.ancestorsWithin levels n = line := by
    rw [ancestorsWithin, chained, List.take_of_length_le (short.trans enough)]
  have here : f.ancestors n = line := whole f.reach le_rfl
  rw [here]
  exact ⟨nodup, whole⟩

theorem Rooted.mem_strictAncestors (rooted : f.Rooted n) :
    m ∈ f.strictAncestors n ↔ m ≠ n ∧ Above f m n := by
  obtain ⟨nodup, _⟩ := rooted.ancestors_line
  have begins : f.ancestors n = n :: f.strictAncestors n := rfl
  rw [begins, List.nodup_cons] at nodup
  rw [← mem_ancestors rooted, begins, List.mem_cons]
  constructor
  · intro member
    exact ⟨fun same => nodup.1 (same ▸ member), .inr member⟩
  · rintro ⟨other, same | member⟩
    · exact absurd same other
    · exact member

theorem Linked.parent_check (linked : Linked f) (known : f.known n = true)
    (answers : p.Answers f holds) :
    p.parent.check f n = pure ((f.strictAncestors n).any holds) ∧
      f.walkAncestors p n = pure ((f.strictAncestors n).find? holds) := by
  have asked : ∀ m ∈ f.strictAncestors n, p.check f m = pure (holds m) := by
    intro m member
    obtain ⟨_, above⟩ := (linked.rooted n).mem_strictAncestors.mp member
    exact answers m (linked.known_above above known)
  refine ⟨?_, ?_⟩
  · rw [Predicate.check, if_pos known, Predicate.someOf_pure asked]
  · rw [walkAncestors, if_pos known, first_pure asked]

-- What is found on the way up from a node is what the node is found below. So a condition on some
-- ancestor can be asked either way, and the ancestors tell whether a node would come below itself.
theorem Linked.kinship (linked : Linked f) :
    (∀ m n, m ∈ f.ancestors n ↔ n ∈ f.depthFirst .visible m) ∧
    (∀ n, f.known n = true → f.trail .visible n = ⟨f.depthFirst .visible n, none⟩ ∧
      ∀ levels, f.reach ≤ levels → f.ancestorsTrail levels n = ⟨f.ancestors n, none⟩) ∧
    (∀ (p : Predicate) (holds : NodeId → Bool), p.Answers f holds → ∀ n, f.known n = true →
      ∃ passes found, p.parent.check f n = pure passes ∧ f.walkAncestors p n = pure found ∧
        (passes = true ↔ found ≠ none) ∧
        (passes = true ↔ ∃ m, m ≠ n ∧ holds m = true ∧ n ∈ f.depthFirst .visible m)) ∧
    ∀ p list index replacing n, f.children p = some list → InRange list index replacing →
      ((∃ m g, insertNode p index (some n) replacing f =
        .error (.hierarchy .insertIntoDescendant m) g) ↔ p ∈ f.depthFirst .visible n) := by
  have turned (m n : NodeId) : m ∈ f.ancestors n ↔ n ∈ f.depthFirst .visible m :=
    (mem_ancestors (linked.rooted n)).trans linked.mem_order.symm
  refine ⟨turned, fun n known => ⟨linked.trail_order known, fun levels enough => ?_⟩, ?_, ?_⟩
  · rw [ancestorsTrail, if_pos known, (linked.rooted n).ancestors_line.2 levels enough]
  · intro p holds answers n known
    obtain ⟨checked, walked⟩ := linked.parent_check known answers
    refine ⟨_, _, checked, walked, ?_, ?_⟩
    · rw [Ne, List.find?_eq_none, List.any_eq_true]
      push Not
      rfl
    · rw [List.any_eq_true]
      refine exists_congr fun m => ?_
      rw [(linked.rooted n).mem_strictAncestors, linked.mem_order]
      constructor
      · rintro ⟨⟨other, above⟩, passes⟩
        exact ⟨other, passes, above⟩
      · rintro ⟨other, passes, above⟩
        exact ⟨⟨other, above⟩, passes⟩
  · intro p list index replacing n owns inside
    rw [insertNode_circular_iff linked owns inside, turned]

-- A text in an item of a list. The list cannot come into its own item.
theorem Linked.kinship_list :
    let f := Forest.empty.through [.element (some "ul") (some "html"),
      .element (some "li") (some "html"), .text (some "a"), .move (.append 0 (some 1)),
      .move (.append 1 (some 2))]
    Linked f ∧ f.trail .visible 0 = ⟨[0, 1, 2], none⟩ ∧ 0 ∈ f.ancestors 2 ∧
      (∃ passes, (Predicate.parent (.not .text)).check f 2 = pure passes ∧ passes = true) ∧
      (∃ m g, insertNode 1 0 (some 0) false f =
        .error (.hierarchy .insertIntoDescendant m) g) ∧
      ¬ ∃ m g, insertNode 0 0 (some 2) false f =
        .error (.hierarchy .insertIntoDescendant m) g := by
  intro f
  have linked : Linked f := (Reached.empty.through (by decide)).sound.owned.linked
  have answers : (Predicate.not .text).Answers f (fun n => !(f.node n).isText) := by
    intro n known
    simp [Predicate.check, Predicate.test, known]
  have order : f.depthFirst .visible 0 = [0, 1, 2] := by decide
  obtain ⟨turned, walks, searched, circular⟩ := linked.kinship
  obtain ⟨passes, _, checked, _, _, passed⟩ := searched _ _ answers 2 (by decide)
  refine ⟨linked, ?_, ?_, ⟨passes, checked, ?_⟩, ?_, ?_⟩
  · rw [(walks 0 (by decide)).1, order]
  · rw [turned, order]
    decide
  · refine passed.mpr ⟨0, by decide, by decide, ?_⟩
    rw [order]
    decide
  · rw [circular 1 [2] 0 false 0 (by decide) (by constructor <;> decide), order]
    decide
  · rw [circular 0 [1] 0 false 2 (by decide) (by constructor <;> decide)]
    decide

end Forest
end HtmlTree

import HtmlTree.Proofs.Requests

namespace HtmlTree
open Forest

-- Nothing is assumed about the forests here: links may disagree in any way. A request is refused
-- with a tree error only while it still looks; once it has begun to move nodes it may break off,
-- but for other reasons.

namespace Edit

variable {α : Type} {f g : Forest} {n p q : NodeId} {failure : Failure}

-- A failure that has touched no node, or a success after which every node with a list of children
-- still has one.
def Careful (f : Forest) : EStateM.Result Failure Forest α → Prop
  | .ok _ g => ∀ p, (f.children p).isSome = true → (g.children p).isSome = true
  | .error _ g => g.nodes = f.nodes

theorem setChildren_listed {list : List NodeId} (owns : (f.children p).isSome = true) :
    ((f.setChildren n (some list)).children p).isSome = true := by
  cases inside : f.known n with
  | false => rwa [setChildren, update_unknown inside]
  | true =>
    rw [children_setChildren inside]
    split
    · rfl
    · exact owns

theorem detach_careful (f : Forest) (n : NodeId) : Careful f (detach n f) := by
  cases linked : f.parent n with
  | none =>
    cases known : f.known n with
    | false =>
      rw [detach_unknown known]
      rfl
    | true =>
      rw [detach_free known linked]
      exact fun p owns => owns
  | some q =>
    cases found : f.placeIn q n with
    | error reason =>
      rw [detach_refused linked found]
      rfl
    | ok place =>
      rw [detach_placed linked found]
      intro p owns
      have known : (f.setChildren q (some (place.1.eraseIdx place.2))).known n = true := by
        simpa [Forest.known] using known_of_parent linked
      rw [children_setParent known]
      exact setChildren_listed owns

theorem takeChildren_careful (f : Forest) (n : NodeId) : Careful f (takeChildren n f) := by
  by_cases leaf : (f.node n).kind = .text
  · rw [takeChildren_text leaf]
    rfl
  · obtain ⟨g, taken, nodes⟩ := takeChildren_run leaf
    rw [taken]
    intro p owns
    rw [children, node_of_nodes nodes]
    exact setChildren_listed owns

theorem release_careful (f : Forest) (p n : NodeId) : Careful f (release p n f) := by
  by_cases circular : n ∈ f.ancestors p
  · rw [release_circular circular]
    rfl
  cases fragment : (f.node n).isFragment with
  | true =>
    rw [release_fragment circular fragment]
    exact takeChildren_careful f n
  | false =>
    cases linked : f.parent n with
    | none =>
      rw [release_free circular fragment linked]
      exact fun p owns => owns
    | some q =>
      rw [release_linked circular fragment linked]
      have left := detach_careful (f.note (.detaching (f.summary n) (f.summary q))) n
      cases ran : detach n (f.note (.detaching (f.summary n) (f.summary q))) with
      | ok value g =>
        rw [ran] at left
        exact left
      | error reason g =>
        rw [ran] at left
        exact left

theorem freeing_careful (f : Forest) (p : NodeId) (new : Option NodeId) :
    Careful f (freeing p new f) := by
  cases new with
  | none => exact fun p owns => owns
  | some n => exact release_careful f p n

theorem splice_failed {reference : Option NodeId} {block : Option (List NodeId)} {width : Nat}
    {list : List NodeId} (owns : f.children p = some list)
    (ran : splice p reference block width f = .error failure g) : failure.isTreeError = false := by
  cases reference with
  | none =>
    simp only [splice, bind_run, owned_run owns, pure_run] at ran
    cases block <;> cases ran
    rfl
  | some r =>
    cases found : list.idxOf? r with
    | none =>
      simp only [splice, bind_run, owned_run owns, found, throw_run] at ran
      cases ran
      rfl
    | some i =>
      simp only [splice, bind_run, owned_run owns, found, pure_run] at ran
      cases block <;> cases ran
      rfl

theorem adopt_failed {nodes : List NodeId} (ran : adopt p nodes f = .error failure g) :
    failure.isTreeError = false := by
  simp only [adopt, bind_run, get_run, modify_run] at ran
  split at ran
  · cases ran
    rfl
  · cases ran

theorem settling_failed {reference removed : Option NodeId} {block : Option (List NodeId)}
    {width : Nat} {list : List NodeId} (owns : f.children p = some list)
    (ran : settling p reference removed width block f = .error failure g) :
    failure.isTreeError = false := by
  simp only [settling, bind_run] at ran
  cases spliced : splice p reference block width f with
  | error reason h =>
    rw [spliced] at ran
    cases ran
    exact splice_failed owns spliced
  | ok nodes h =>
    rw [spliced] at ran
    dsimp only at ran
    cases adopted : adopt p nodes h with
    | error reason k =>
      rw [adopted] at ran
      cases ran
      exact adopt_failed adopted
    | ok value k =>
      rw [adopted] at ran
      cases removed <;> cases ran

theorem insertNode_refused {index : Int} {new : Option NodeId} {replacing : Bool}
    (ran : insertNode p index new replacing f = .error failure g)
    (refused : failure.isTreeError = true) : g.nodes = f.nodes := by
  cases owns : f.children p with
  | none =>
    rw [insertNode_barren owns] at ran
    cases ran
    rfl
  | some list =>
    by_cases inside : InRange list index replacing
    swap
    · rw [insertNode_outside owns inside] at ran
      cases ran
      rfl
    by_cases itself : replacing = true ∧ new = removedBy f list index replacing
    · rw [insertNode_itself owns inside itself] at ran
      cases ran
    rw [insertNode_begun owns inside itself, bind_run] at ran
    have freed := freeing_careful f p new
    cases begun : freeing p new f with
    | error reason h =>
      rw [begun] at ran freed
      cases ran
      exact freed
    | ok block h =>
      -- From here on nodes have moved, and what fails is no tree error.
      rw [begun] at ran freed
      obtain ⟨rest, still⟩ := Option.isSome_iff_exists.mp (freed p (by rw [owns]; rfl))
      rw [settling_failed still ran] at refused
      cases refused

end Edit

-- A request that is refused with a tree error has touched no node: the nodes are the same, each
-- with all it holds. What was noted in the journal may stay.
theorem Move.refused_untouched (move : Move) {f g : Forest} {failure : Failure}
    (ran : move.run f = .error failure g) (refused : failure.isTreeError = true) :
    g.nodes = f.nodes := by
  rw [move.run_plan f] at ran
  cases planned : move.plan f with
  | refuse reason =>
    rw [planned] at ran
    cases ran
    rfl
  | detach n =>
    have careful := Edit.detach_careful f n
    rw [planned, Plan.run] at ran
    rw [ran] at careful
    exact careful
  | insert p index replacing =>
    rw [planned, Plan.run, Edit.discard_run] at ran
    cases inserted : Edit.insertNode p index move.given replacing f with
    | ok value h =>
      rw [inserted] at ran
      cases ran
    | error reason h =>
      rw [inserted] at ran
      cases ran
      exact Edit.insertNode_refused inserted refused

-- A text is linked to a comment, which has no list of children. It is asked for elsewhere, and the
-- refusal comes after its departure was noted.
theorem Move.refused_untouched_midway :
    let f : Forest := ⟨#[.newComment none, { Node.newText (some "a") with parent := some 0 },
      .newElement (some "p") none (some "html")], #[]⟩
    let g := (Move.append 2 (some 1)).run.after f
    (Move.append 2 (some 1)).run f = .error (.inconsistent .parentMissingChildren 1) g ∧
      g.journal.size = 1 ∧ g.nodes = f.nodes := by
  intro f g
  have ran : (Move.append 2 (some 1)).run f = .error (.inconsistent .parentMissingChildren 1) g := rfl
  exact ⟨ran, rfl, Move.refused_untouched _ ran rfl⟩

end HtmlTree

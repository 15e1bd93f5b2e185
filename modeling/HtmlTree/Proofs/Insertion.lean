import HtmlTree.Proofs.Edits

namespace HtmlTree.Edit
open Forest

variable {f g : Forest} {n p : NodeId} {list : List NodeId} {index : Int} {new : Option NodeId}
  {replacing : Bool}

-- The stages of an insertion, in any forest: what is handed over is freed, then it is put in its
-- new place. Only before the first of them can a request be refused with nothing done.

theorem owned_run (owns : f.children p = some list) : owned p f = .ok list f := by
  simp [owned, bind_run, owns]

theorem owned_barren (barren : f.children p = none) :
    owned p f = .error (.hierarchy .nodeCannotHaveChildren p) f := by
  simp [owned, bind_run, barren]

def freeing (p : NodeId) : Option NodeId → Edit (Option (List NodeId))
  | none => pure (some [])
  | some n => release p n

-- Puts a freed block in its place and links it, and unlinks the child that it stands in for.
def settling (p : NodeId) (reference removed : Option NodeId) (width : Nat)
    (block : Option (List NodeId)) : Edit (Option NodeId) := do
  let nodes ← splice p reference block width
  adopt p nodes
  match removed with
  | some old => modify (·.setParent old none)
  | none => pure ()
  pure removed

def removedBy (f : Forest) (list : List NodeId) (index : Int) (replacing : Bool) : Option NodeId :=
  if replacing then childAt f list index.toNat else none

def InRange (list : List NodeId) (index : Int) (replacing : Bool) : Prop :=
  0 ≤ index ∧ index ≤ if replacing then (list.length : Int) - 1 else list.length

theorem inRange_iff : InRange list index replacing ↔
    ¬ (index < 0 ∨ (if replacing = true then (list.length : Int) - 1 else list.length) < index) := by
  simp only [InRange, not_or, Int.not_lt]

theorem insertNode_barren (barren : f.children p = none) :
    insertNode p index new replacing f = .error (.hierarchy .nodeCannotHaveChildren p) f := by
  simp [insertNode, bind_run, owned_barren barren]

theorem insertNode_outside (owns : f.children p = some list)
    (outside : ¬ InRange list index replacing) :
    insertNode p index new replacing f = .error (.hierarchy .indexOutOfRange p) f := by
  have beyond := Classical.not_not.mp (mt inRange_iff.mpr outside)
  simp only [insertNode, bind_run, owned_run owns, if_pos beyond, throw_run]

theorem insertNode_itself (owns : f.children p = some list) (inside : InRange list index replacing)
    (itself : replacing = true ∧ new = removedBy f list index replacing) :
    insertNode p index new replacing f = .ok (removedBy f list index replacing) f := by
  simp only [removedBy] at itself
  simp only [insertNode, bind_run, owned_run owns, if_neg (inRange_iff.mp inside), get_run,
    if_pos itself, pure_run, removedBy]

theorem insertNode_begun (owns : f.children p = some list) (inside : InRange list index replacing)
    (other : ¬ (replacing = true ∧ new = removedBy f list index replacing)) :
    insertNode p index new replacing f =
      (freeing p new >>= settling p (neighbour f list index.toNat new)
        (removedBy f list index replacing) (if replacing then 1 else 0)) f := by
  simp only [removedBy] at other
  simp only [insertNode, bind_run, owned_run owns, if_neg (inRange_iff.mp inside), get_run,
    if_neg other]
  cases new with
  | none => rfl
  | some n =>
    dsimp only
    rw [bind_run]
    rfl

theorem takeChildren_text (leaf : (f.node n).kind = .text) :
    takeChildren n f = .error .unsupported f := by
  simp [takeChildren, bind_run, leaf]

theorem takeChildren_run (branch : (f.node n).kind ≠ .text) :
    ∃ g, takeChildren n f = .ok (f.children n) g ∧ g.nodes = (f.setChildren n (some [])).nodes := by
  by_cases full : 0 < ((f.children n).getD []).length
  · exact ⟨(f.setChildren n (some [])).note (.splicing ((f.children n).getD []).length),
      by simp [takeChildren, bind_run, map_run, branch, full], rfl⟩
  · exact ⟨f.setChildren n (some []), by simp [takeChildren, bind_run, branch, full], rfl⟩

theorem release_circular (circular : n ∈ f.ancestors p) :
    release p n f = .error (.hierarchy .insertIntoDescendant n) f := by
  simp [release, bind_run, circular]

theorem release_fragment (checked : n ∉ f.ancestors p)
    (fragment : (f.node n).isFragment = true) : release p n f = takeChildren n f := by
  simp [release, bind_run, checked, fragment]

theorem release_free (checked : n ∉ f.ancestors p) (plain : (f.node n).isFragment = false)
    (free : f.parent n = none) : release p n f = .ok (some [n]) f := by
  simp [release, bind_run, checked, plain, free]

theorem release_linked {q : NodeId} (checked : n ∉ f.ancestors p)
    (plain : (f.node n).isFragment = false) (linked : f.parent n = some q) :
    release p n f = match detach n (f.note (.detaching (f.summary n) (f.summary q))) with
      | .ok _ g => .ok (some [n]) g
      | .error failure g => .error failure g := by
  cases ran : detach n (f.note (.detaching (f.summary n) (f.summary q))) <;>
    simp [release, bind_run, map_run, checked, plain, linked, ran]

theorem detach_unknown (unknown : f.known n = false) : detach n f = .error .noNode f := by
  simp [detach, bind_run, unknown]

theorem detach_free (known : f.known n = true) (free : f.parent n = none) :
    detach n f = .ok () f := by
  simp [detach, bind_run, known, free]

theorem detach_refused {q : NodeId} {failure : Failure} (linked : f.parent n = some q)
    (refused : f.placeIn q n = .error failure) : detach n f = .error failure f := by
  simp [detach, bind_run, known_of_parent linked, linked, refused]

theorem detach_placed {q : NodeId} {place : Nat} (linked : f.parent n = some q)
    (placed : f.placeIn q n = .ok (list, place)) :
    detach n f =
      .ok () ((f.setChildren q (some (list.eraseIdx place))).setParent n none) := by
  simp [detach, bind_run, known_of_parent linked, linked, placed]

end HtmlTree.Edit

import HtmlTree.Proofs.Histories
import Mathlib.Logic.Relation

namespace HtmlTree
open Relation

namespace Forest

-- What a node holds directly: its children and, for a template, the fragment with its content.
-- Parent links do not lead from the fragment back to the template.
def Holds (f : Forest) (n c : NodeId) : Prop := c ∈ f.kids n ∨ f.content n = some c

def Untangled (f : Forest) : Prop := ∀ n, ¬ TransGen f.Holds n n

variable {f g : Forest} {b c m n p : NodeId} {place : Nat} {block gone : List NodeId}

theorem Sound.known_held (sound : Sound f) (held : f.Holds n c) : f.known c = true := by
  rcases held with listed | content
  · exact sound.owned.known_child listed
  · exact (sound.housed.known n c content).1

theorem known_of_holds (held : f.Holds n c) : f.known n = true :=
  held.elim known_of_kids known_of_content

-- If every node was made after all that it holds, nothing is below itself.
theorem untangled_of_earlier
    (earlier : ∀ n < f.size, ∀ c ∈ f.kids n ++ (f.content n).toList, c < n) : f.Untangled := by
  have falls {n c : NodeId} (held : f.Holds n c) : c < n := by
    have known := known_of_holds held
    refine earlier n (by simpa [Forest.known] using known) c (List.mem_append.mpr ?_)
    exact held.imp id fun content => by simp [content]
  have lower {n c : NodeId} (way : TransGen f.Holds n c) : c < n := by
    induction way with
    | single held => exact falls held
    | tail _ held ih => exact (falls held).trans ih
  exact fun n round => Nat.lt_irrefl n (lower round)

theorem Untangled.same (untangled : Untangled f) (same : SameLinks f g) : Untangled g := by
  have within : g.Holds ≤ f.Holds := by
    intro a b held
    rw [Holds, same.kids, same.content] at held
    exact held
  exact fun n round => untangled n (TransGen.mono within n n round)

-- Nothing holds a node that is only just made, so no round leads through it.
theorem Untangled.alloc (untangled : Untangled f) (sound : Sound f) {new : Node}
    (fresh : Fresh f new) : Untangled (f.alloc new).2 := by
  have old {a b : NodeId} (held : (f.alloc new).2.Holds a b) : b ≠ f.size := by
    intro last
    subst last
    rcases held with listed | content
    · rw [fresh.kids] at listed
      exact Nat.lt_irrefl _ (known_iff.mp (sound.owned.known_child listed))
    · rw [content_alloc] at content
      split at content
      · exact Nat.lt_irrefl _ (known_iff.mp (fresh.content f.size content).1)
      · exact Nat.lt_irrefl _ (known_iff.mp (sound.housed.known a f.size content).1)
  have before {a b : NodeId} (held : (f.alloc new).2.Holds a b) (other : a ≠ f.size) :
      f.Holds a b := by
    rwa [Holds, fresh.kids, content_alloc, if_neg other] at held
  have path {a b : NodeId} (path : TransGen (f.alloc new).2.Holds a b) (other : a ≠ f.size) :
      TransGen f.Holds a b ∧ b ≠ f.size := by
    induction path with
    | single held => exact ⟨.single (before held other), old held⟩
    | tail _ held ih => exact ⟨ih.1.tail (before held ih.2), old held⟩
  intro n round
  by_cases last : n = f.size
  · obtain ⟨b, _, held⟩ := TransGen.tail'_iff.mp round
    exact old held last
  · exact untangled n (path round last).1

-- The only new links are those from the parent to the block.
theorem Relinked.holds (relinked : Relinked f g p place block gone) (held : g.Holds n c) :
    f.Holds n c ∨ n = p ∧ c ∈ block := by
  rcases held with listed | content
  · by_cases here : n = p
    · subst here
      rcases List.mem_append.mp (relinked.perm.mem_iff.mp listed) with joins | stays
      · exact .inr ⟨rfl, joins⟩
      · exact .inl (.inl (List.mem_of_mem_filter stays))
    · rw [relinked.kids_other here] at listed
      exact .inl (.inl (List.mem_of_mem_filter listed))
  · rw [relinked.content] at content
    exact .inl (.inr content)

-- And the only links that are lost lead to nodes that leave.
theorem Relinked.still_holds (relinked : Relinked f g p place block gone) (held : f.Holds n c)
    (stays : c ∉ gone) : g.Holds n c := by
  rcases held with listed | content
  · by_cases here : n = p
    · subst here
      refine .inl (relinked.perm.mem_iff.mpr (List.mem_append_right _ ?_))
      exact List.mem_filter.mpr ⟨listed, by simpa using stays⟩
    · rw [Holds, relinked.kids_other here]
      exact .inl (List.mem_filter.mpr ⟨listed, by simpa using stays⟩)
  · exact .inr (by rw [relinked.content, content])

theorem Relinked.path (relinked : Relinked f g p place block gone) (path : TransGen g.Holds m n) :
    TransGen f.Holds m n ∨ ReflTransGen g.Holds m p ∧ ∃ b ∈ block, ReflTransGen f.Holds b n := by
  induction path with
  | single held =>
    rcases relinked.holds held with old | ⟨rfl, joins⟩
    · exact .inl (.single old)
    · exact .inr ⟨.refl, _, joins, .refl⟩
  | tail before held ih =>
    rcases relinked.holds held with old | ⟨rfl, joins⟩
    · rcases ih with whole | ⟨first, b, joins, rest⟩
      · exact .inl (whole.tail old)
      · exact .inr ⟨first, b, joins, rest.tail old⟩
    · exact .inr ⟨before.to_reflTransGen, _, joins, .refl⟩

-- A round that was not there before leads from the block back to the parent over old links.
theorem Relinked.round (relinked : Relinked f g p place block gone) (untangled : Untangled f)
    (round : TransGen g.Holds n n) : ∃ b ∈ block, ReflTransGen f.Holds b p := by
  rcases relinked.path round with old | ⟨first, b, joins, rest⟩
  · exact absurd old (untangled n)
  · rcases reflTransGen_iff_eq_or_transGen.mp first with rfl | onward
    · exact ⟨b, joins, rest⟩
    · rcases relinked.path onward with old | ⟨_, b, joins, rest⟩
      · exact ⟨b, joins, rest.trans old.to_reflTransGen⟩
      · exact ⟨b, joins, rest⟩

-- Of an old way to the parent the part behind the last node of the block is still there. A way over
-- another node that leaves would come back to the parent, which gave that node up.
theorem Relinked.way (relinked : Relinked f g p place block gone) (untangled : Untangled f)
    (displaced : ∀ c ∈ gone, c ∉ block → f.parent c = some p) (owned : Owned f)
    (way : ReflTransGen f.Holds n p) :
    ReflTransGen g.Holds n p ∨ ∃ b ∈ block, ReflTransGen g.Holds b p := by
  induction way using ReflTransGen.head_induction_on with
  | refl => exact .inl .refl
  | @head n c held rest ih =>
    rcases ih with whole | later
    swap
    · exact .inr later
    by_cases stays : c ∈ gone
    swap
    · exact .inl (.head (relinked.still_holds held stays) whole)
    by_cases joins : c ∈ block
    · exact .inr ⟨c, joins, whole⟩
    · rcases held with listed | content
      · have back : n = p := by
          have linked := (owned.listed n c).mp listed
          rw [displaced c stays joins] at linked
          exact (Option.some.inj linked).symm
        subst back
        exact absurd (TransGen.head' (.inl listed) rest) (untangled n)
      · exact .inl (.head (.inr (by rw [relinked.content, content])) whole)

theorem Relinked.untangled_iff (relinked : Relinked f g p place block gone) (untangled : Untangled f)
    (displaced : ∀ c ∈ gone, c ∉ block → f.parent c = some p) (owned : Owned f) :
    Untangled g ↔ ∀ b ∈ block, ¬ ReflTransGen f.Holds b p := by
  constructor
  · intro still b joins way
    have entered {b : NodeId} (joins : b ∈ block) : g.Holds p b :=
      .inl (relinked.perm.mem_iff.mpr (List.mem_append_left _ joins))
    rcases relinked.way untangled displaced owned way with whole | ⟨b, joins, whole⟩
    · exact still p (.head' (entered joins) whole)
    · exact still p (.head' (entered joins) whole)
  · intro apart n round
    obtain ⟨b, joins, way⟩ := relinked.round untangled round
    exact apart b joins way

structure Clean (f : Forest) : Prop where
  sound : Sound f
  untangled : Untangled f

theorem clean_stable : Stable Clean where
  sound clean := clean.sound
  same clean same := ⟨clean.sound.same same, clean.untangled.same same⟩
  made clean fresh := ⟨clean.sound.alloc fresh, clean.untangled.alloc clean.sound fresh⟩
  left clean relinked := by
    refine ⟨sound_stable.left clean.sound relinked, fun n round => ?_⟩
    obtain ⟨b, joins, _⟩ := relinked.round clean.untangled round
    cases joins
  joined {f g n p place} clean relinked admitted barren hollow := by
    refine ⟨sound_stable.joined clean.sound relinked admitted barren hollow, fun m round => ?_⟩
    obtain ⟨b, joins, way⟩ := relinked.round clean.untangled round
    have here : b = n := List.mem_singleton.mp joins
    subst here
    -- Nothing leads on from a node that holds nothing.
    rcases way.cases_head with same | ⟨c, held, _⟩
    · exact admitted.clear b joins (same ▸ .self)
    · rcases held with listed | content
      · simp [barren] at listed
      · simp [hollow] at content

theorem empty_untangled : Untangled empty := by
  intro n round
  obtain ⟨c, held, _⟩ := TransGen.head'_iff.mp round
  have known := Sound.known_held ⟨empty_owned, empty_housed⟩ held
  exact Nat.not_lt_zero c (known_iff.mp known)

end Forest

open Forest EStateM

-- A move encloses if it is carried out although some of what it hands over holds, however deep, the
-- node that it goes into.
def Move.Encloses (move : Move) (f : Forest) : Prop :=
  (∃ g, move.run f = .ok () g) ∧ ∃ p index replacing, move.plan f = .insert p index replacing ∧
    ∃ b ∈ f.handed move.given, ReflTransGen f.Holds b p

def Call.Encloses (call : Call) (f : Forest) : Prop := ∃ move, call = .move move ∧ move.Encloses f

variable {f : Forest}

theorem Move.untangled_iff (clean : Clean f) (move : Move)
    (known : ∀ n ∈ move.given, f.known n = true) :
    Untangled (move.run.after f) ↔ ¬ move.Encloses f := by
  rw [move.after_plan f]
  cases plan : move.plan f with
  | refuse failure =>
    refine iff_of_true clean.untangled ?_
    rintro ⟨_, p, index, replacing, other, _⟩
    cases plan.symm.trans other
  | detach n =>
    refine iff_of_true (Edit.detach_keeps clean_stable f clean).untangled ?_
    rintro ⟨_, p, index, replacing, other, _⟩
    cases plan.symm.trans other
  | insert p index replacing =>
    rw [Plan.run, after_discard]
    have ran : move.run f = (discard (Edit.insertNode p index move.given replacing) : Edit Unit) f := by
      rw [move.run_plan f, plan, Plan.run]
    have exact : move.Encloses f ↔ (∃ g, move.run f = .ok () g) ∧
        ∃ b ∈ f.handed move.given, ReflTransGen f.Holds b p := by
      constructor
      · rintro ⟨done, q, i, r, same, held⟩
        cases plan.symm.trans same
        exact ⟨done, held⟩
      · rintro ⟨done, held⟩
        exact ⟨done, p, index, replacing, plan, held⟩
    rw [exact, ran, Edit.discard_run]
    rcases Edit.insertNode_cases clean.sound.owned p index move.given replacing known with
      ⟨failure, g, refused, same⟩ | ⟨found, idle, here⟩ | ⟨list, g, owns, clear, moved, relinked⟩
    · rw [after_error refused, refused]
      refine iff_of_true (clean.untangled.same same) ?_
      rintro ⟨⟨h, done⟩, _⟩
      cases done
    · rw [after_ok idle, idle]
      refine iff_of_true clean.untangled ?_
      rintro ⟨_, b, joins, way⟩
      obtain ⟨n, given, ⟨fragment, _⟩ | ⟨_, rfl⟩⟩ := mem_handed.mp joins
      · have plain := clean.sound.owned.plain ((clean.sound.owned.listed p n).mp (here n given))
        cases plain.symm.trans fragment
      · exact clean.untangled p (.head' (.inl (here b given)) way)
    · rw [after_ok moved, moved]
      have displaced : ∀ c ∈ f.handed move.given ++
          (Edit.displaced list index.toNat replacing).toList, c ∉ f.handed move.given →
            f.parent c = some p := by
        intro c leaves stays
        have gives : c ∈ Edit.displaced list index.toNat replacing := by
          simpa [stays] using leaves
        exact Edit.displaced_linked clean.sound.owned owns c gives
      rw [relinked.untangled_iff clean.untangled displaced clean.sound.owned]
      simp

theorem Call.untangled_iff (clean : Clean f) (call : Call)
    (known : ∀ n ∈ call.given, f.known n = true) :
    Untangled (call.run.after f) ↔ ¬ call.Encloses f := by
  by_cases moves : ∃ move, call = .move move
  · obtain ⟨move, rfl⟩ := moves
    have same : (Call.move move).Encloses f ↔ move.Encloses f := by
      constructor
      · rintro ⟨other, equal, encloses⟩
        cases equal
        exact encloses
      · intro encloses
        exact ⟨move, rfl, encloses⟩
    rw [same]
    exact move.untangled_iff clean known
  · have kept := call.run_keeps clean_stable clean fun move equal => absurd ⟨move, equal⟩ moves
    refine iff_of_true kept.untangled ?_
    rintro ⟨move, equal, _⟩
    exact moves ⟨move, equal⟩

theorem Forest.Clean.through_iff {calls : List Call} (clean : Clean f) (handed : Handed f calls) :
    (∀ before later, calls = before ++ later → Clean (f.through before)) ↔
      ∀ before call later, calls = before ++ call :: later →
        ¬ call.Encloses (f.through before) := by
  induction calls generalizing f with
  | nil =>
    refine iff_of_true ?_ ?_
    · intro before later split
      obtain ⟨rfl, _⟩ := List.append_eq_nil_iff.mp split.symm
      exact clean
    · intro before call later split
      cases before <;> cases split
  | cons first rest ih =>
    obtain ⟨known, onward⟩ := handed
    have next := first.untangled_iff clean known
    have sound := first.run_sound clean.sound known
    constructor
    · intro all before call later split
      have after : Clean (first.run.after f) := all [first] rest rfl
      cases before with
      | nil =>
        cases split
        exact next.mp after.untangled
      | cons head before =>
        cases split
        exact (ih after onward).mp (fun before later split => all (first :: before) later
          (by rw [split]; rfl)) before call later rfl
    · intro none before later split
      have after : Clean (first.run.after f) :=
        ⟨sound, next.mpr (none [] first rest rfl)⟩
      cases before with
      | nil => exact clean
      | cons head before =>
        cases split
        exact (ih after onward).mpr (fun before call later split => none (first :: before) call
          later (by rw [split]; rfl)) before later rfl

end HtmlTree

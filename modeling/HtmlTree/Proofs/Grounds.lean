import HtmlTree.Walk.Trails
import HtmlTree.Proofs.Footprint

namespace HtmlTree
open Forest

-- What a node has by the way it was made: a text node is called one, and of the others all but
-- comments and doctypes have a list of children.
structure Node.Shaped (node : Node) : Prop where
  leaf : node.kind = .text → node.name? = some Node.textName
  branch : node.kind ≠ .text → node.name ≠ Node.commentName → node.name ≠ Node.doctypeName →
    node.children.isSome = true

def Forest.Shaped (f : Forest) : Prop := ∀ n, (f.node n).Shaped

theorem Node.Made.shaped {content : Option NodeId} {new : Node} (made : Node.Made content new) :
    new.Shaped := by
  cases made with
  | text data => exact ⟨fun _ => rfl, fun branch => absurd rfl branch⟩
  | element name attrs ns => exact ⟨nofun, fun _ _ _ => rfl⟩
  | template name attrs ns content => exact ⟨nofun, fun _ _ _ => rfl⟩
  | plain name attrs data ns =>
    unfold Node.newPlain
    split
    · rename_i childless
      refine ⟨nofun, fun _ other another => ?_⟩
      rcases Bool.or_eq_true_iff.mp childless with comment | doctype
      · exact absurd (eq_of_beq comment) other
      · exact absurd (eq_of_beq doctype) another
    · split <;> exact ⟨nofun, fun _ _ _ => rfl⟩

theorem Node.Shaped.lasts {old new : Node} (shaped : old.Shaped) (lasts : old.Lasts new) :
    new.Shaped := by
  have name : new.name = old.name := by rw [Node.name, lasts.name, Node.name]
  refine ⟨fun leaf => ?_, fun branch other another => lasts.listed (shaped.branch ?_ ?_ ?_)⟩
  · rw [lasts.name]
    exact shaped.leaf (lasts.kind ▸ leaf)
  · exact lasts.kind ▸ branch
  · exact name ▸ other
  · exact name ▸ another

theorem Forest.Shaped.retabled {f g : Forest} (shaped : f.Shaped) (retabled : Retabled f g) :
    g.Shaped := by
  intro n
  obtain ⟨attrs, table, same⟩ := retabled.node n
  rw [same]
  exact (shaped n).lasts (Node.Lasts.retable _ attrs table)

-- Nodes are shaped when they are made and keep their shape wherever they are written to.
theorem Forest.shaped_growing : Growing (fun _ => True) Forest.Shaped where
  closed _ _ _ := trivial
  fresh _ := trivial
  same shaped nodes n := node_of_nodes nodes ▸ shaped n
  write {f n change} shaped _ tabled _ m := by
    by_cases known : f.known n = true
    · rw [node_update known]
      split
      · exact (shaped m).lasts (tabled _).toLasts
      · exact shaped m
    · rw [update_unknown (Bool.eq_false_iff.mpr known)]
      exact shaped m
  made {f content new} shaped made _ m := by
    rw [node_alloc]
    split
    · exact made.shaped
    · exact shaped m
  entered shaped _ attrs := shaped.retabled (writeAttrs_retabled attrs)
  shared shaped _ _ := shaped.retabled shareAttrs_retabled

theorem Forest.empty_shaped : empty.Shaped := by
  intro n
  have bare : empty.node n = Node.newText none := by simp [node, empty]
  rw [bare]
  exact (Node.Made.text none).shaped

namespace Edit

variable {f g : Forest} {n p : NodeId} {index : Int} {new : Option NodeId} {replacing : Bool}
  {failure : Failure}

theorem splits_of_shaped (shaped : f.Shaped) (n : NodeId) : Splits f n := by
  intro fragment
  have named : (f.node n).name = Node.fragmentName := eq_of_beq fragment
  have branch : (f.node n).kind ≠ .text := by
    intro leaf
    have text : (f.node n).name = Node.textName := by
      rw [Node.name, (shaped n).leaf leaf, Option.getD_some]
    rw [named] at text
    exact absurd text (by decide)
  refine ⟨branch, (shaped n).branch branch ?_ ?_⟩
  · rw [named]
    decide
  · rw [named]
    decide

-- What speaks against an insertion where links agree, in the order in which it is looked for.
inductive Grounds (f : Forest) (p : NodeId) (index : Int) (new : Option NodeId)
    (replacing : Bool) : Failure → Prop where
  | barren (missing : f.children p = none) :
    Grounds f p index new replacing (.hierarchy .nodeCannotHaveChildren p)
  | outside {list : List NodeId} (owns : f.children p = some list)
    (beyond : ¬ InRange list index replacing) :
    Grounds f p index new replacing (.hierarchy .indexOutOfRange p)
  | circular {list : List NodeId} {n : NodeId} (owns : f.children p = some list)
    (inside : InRange list index replacing) (given : new = some n) (above : Above f n p) :
    Grounds f p index new replacing (.hierarchy .insertIntoDescendant n)

-- What would be put in place of itself stands below the parent, so it is not above it too.
theorem not_above_itself (owned : Owned f) {list : List NodeId} (owns : f.children p = some list)
    (itself : replacing = true ∧ new = removedBy f list index replacing) :
    ∀ n ∈ new, ¬ Above f n p := by
  intro n given
  exact (owned.rooted n).no_return ((owned.listed p n).mp (itself_listed owned owns itself n given))

theorem discard_error_iff {α : Type} (e : Edit α) :
    (∃ g, (discard e : Edit Unit) f = .error failure g) ↔ ∃ g, e f = .error failure g := by
  rw [discard_run]
  cases e f <;> simp

theorem insertNode_error_iff (owned : Owned f) (shaped : f.Shaped)
    (known : ∀ n ∈ new, f.known n = true) :
    (∃ g, insertNode p index new replacing f = .error failure g) ↔
      Grounds f p index new replacing failure := by
  constructor
  · rintro ⟨g, ran⟩
    cases owns : f.children p with
    | none =>
      rw [insertNode_barren owns] at ran
      cases ran
      exact .barren owns
    | some list =>
      by_cases inside : InRange list index replacing
      swap
      · rw [insertNode_outside owns inside] at ran
        cases ran
        exact .outside owns inside
      by_cases itself : replacing = true ∧ new = removedBy f list index replacing
      · rw [insertNode_itself owns inside itself] at ran
        cases ran
      by_cases clear : ∀ n ∈ new, ¬ Above f n p
      · obtain ⟨h, moved, _⟩ := insertNode_moved owned owns inside itself known clear
          fun n _ => splits_of_shaped shaped n
        rw [moved] at ran
        cases ran
      · obtain ⟨n, rfl, above⟩ : ∃ n, new = some n ∧ Above f n p := by simpa using clear
        have circular : n ∈ f.ancestors p := (mem_ancestors (owned.rooted p)).mpr above
        rw [insertNode_begun owns inside itself, bind_run, freeing, release_circular circular] at ran
        cases ran
        exact .circular owns inside rfl above
  · intro grounds
    cases grounds with
    | barren missing => exact ⟨f, insertNode_barren missing⟩
    | outside owns beyond => exact ⟨f, insertNode_outside owns beyond⟩
    | @circular list n owns inside given above =>
      have other : ¬ (replacing = true ∧ new = removedBy f list index replacing) :=
        fun itself => not_above_itself owned owns itself n given above
      have circular : n ∈ f.ancestors p := (mem_ancestors (owned.rooted p)).mpr above
      subst given
      refine ⟨f, ?_⟩
      rw [insertNode_begun owns inside other, bind_run, freeing, release_circular circular]

theorem Grounds.hierarchy (grounds : Grounds f p index new replacing failure) :
    ∃ fault n, failure = .hierarchy fault n := by
  cases grounds <;> exact ⟨_, _, rfl⟩

theorem grounds_iff : (∃ failure, Grounds f p index new replacing failure) ↔
    f.children p = none ∨ index < 0 ∨
      (if replacing then ((f.kids p).length : Int) - 1 else (f.kids p).length) < index ∨
      ∃ n ∈ new, Above f n p := by
  cases owns : f.children p with
  | none => exact iff_of_true ⟨_, .barren owns⟩ (.inl rfl)
  | some list =>
    have lists : f.kids p = list := kids_eq owns
    have range : InRange list index replacing ↔ ¬ (index < 0 ∨
        (if replacing then (list.length : Int) - 1 else list.length) < index) := inRange_iff
    rw [lists]
    constructor
    · rintro ⟨failure, grounds⟩
      cases grounds with
      | barren missing => cases owns.symm.trans missing
      | outside other beyond =>
        cases owns.symm.trans other
        rcases Classical.not_not.mp (mt range.mpr beyond) with low | high
        · exact .inr (.inl low)
        · exact .inr (.inr (.inl high))
      | circular _ _ given above => exact .inr (.inr (.inr ⟨_, given, above⟩))
    · rintro (missing | low | high | ⟨n, given, above⟩)
      · cases missing
      · exact ⟨_, .outside owns fun inside => range.mp inside (.inl low)⟩
      · exact ⟨_, .outside owns fun inside => range.mp inside (.inr high)⟩
      · by_cases inside : InRange list index replacing
        · exact ⟨_, .circular owns inside given above⟩
        · exact ⟨_, .outside owns inside⟩

end Edit

namespace Plan
open Edit

variable {f g : Forest} {c n p : NodeId} {index : Int} {new : Option NodeId} {replacing : Bool}
  {failure : Failure}

theorem insert_error_iff (owned : Owned f) (shaped : f.Shaped)
    (known : ∀ n ∈ new, f.known n = true) :
    (∃ g, (Plan.insert p index replacing).run new f = .error failure g) ↔
      Grounds f p index new replacing failure := by
  rw [← insertNode_error_iff owned shaped known, Plan.run, discard_error_iff]

-- At the place of a child the index is in range, so only what is handed over can be refused.
theorem atPlace_error_iff (owned : Owned f) (shaped : f.Shaped)
    (known : ∀ n ∈ new, f.known n = true) (linked : f.parent c = some p) :
    (∃ g, (Plan.atPlace f p c replacing).run new f = .error failure g) ↔
      ∃ n ∈ new, Above f n p ∧ failure = .hierarchy .insertIntoDescendant n := by
  obtain ⟨list, place, owns, placed, found⟩ := placeIn_owned owned linked
  have inside : InRange list place replacing := by
    obtain ⟨short, _⟩ := List.idxOf?_eq_some_iff.mp found
    refine ⟨Int.natCast_nonneg _, ?_⟩
    split <;> omega
  simp only [Plan.atPlace, placed]
  rw [insert_error_iff owned shaped known]
  constructor
  · intro grounds
    cases grounds with
    | barren missing => cases owns.symm.trans missing
    | outside other beyond =>
      cases owns.symm.trans other
      exact absurd inside beyond
    | circular _ _ given above => exact ⟨_, given, above, rfl⟩
  · rintro ⟨n, given, above, rfl⟩
    exact .circular owns inside given above

theorem inFront_error_iff (owned : Owned f) (shaped : f.Shaped)
    (known : ∀ n ∈ new, f.known n = true) :
    (∃ g, (Plan.inFront f p (some c)).run new f = .error failure g) ↔
      f.children p = none ∧ failure = .hierarchy .nodeCannotHaveChildren p ∨
      f.children p ≠ none ∧ f.parent c ≠ some p ∧ failure = .inconsistent .referenceNotAChild c ∨
      f.parent c = some p ∧ ∃ n ∈ new, Above f n p ∧
        failure = .hierarchy .insertIntoDescendant n := by
  by_cases linked : f.parent c = some p
  · obtain ⟨list, owns, _⟩ := owned.children_of_parent linked
    have placed : (∃ g, (Plan.atPlace f p c false).run new f = .error failure g) ↔ _ :=
      atPlace_error_iff owned shaped known linked
    simp [Plan.inFront, owns, linked, placed]
  · cases owns : f.children p with
    | none => simp [Plan.inFront, Plan.run, owns, linked, eq_comm]
    | some list => simp [Plan.inFront, Plan.run, owns, linked, eq_comm]

theorem instead_error_iff (owned : Owned f) (shaped : f.Shaped)
    (known : ∀ n ∈ new, f.known n = true) :
    (∃ g, (Plan.instead f c).run new f = .error failure g) ↔
      f.parent c = none ∧ failure = .hierarchy .replaceDetachedNode c ∨
      ∃ p, f.parent c = some p ∧ ∃ n ∈ new, Above f n p ∧
        failure = .hierarchy .insertIntoDescendant n := by
  cases linked : f.parent c with
  | none => simp [Plan.instead, Plan.run, linked, eq_comm]
  | some p =>
    have placed : (∃ g, (Plan.atPlace f p c true).run new f = .error failure g) ↔ _ :=
      atPlace_error_iff owned shaped known linked
    simp [Plan.instead, linked, placed]

end Plan

namespace Edit

variable {f : Forest} {c p : NodeId} {index : Int} {new : Option NodeId} {replacing : Bool}

theorem insertNode_refused_iff (owned : Owned f) (shaped : f.Shaped)
    (known : ∀ n ∈ new, f.known n = true) :
    (∃ failure g, insertNode p index new replacing f = .error failure g) ↔
      f.children p = none ∨ index < 0 ∨
        (if replacing then ((f.kids p).length : Int) - 1 else (f.kids p).length) < index ∨
        ∃ n ∈ new, Above f n p := by
  rw [← grounds_iff]
  exact exists_congr fun failure => insertNode_error_iff owned shaped known

theorem insertBefore_refused_iff (owned : Owned f) (shaped : f.Shaped)
    (known : ∀ n ∈ new, f.known n = true) :
    (∃ failure g, insertBefore p (some c) new f = .error failure g) ↔
      f.children p = none ∨ f.parent c ≠ some p ∨ ∃ n ∈ new, Above f n p := by
  rw [Move.insertBefore_plan]
  refine (exists_congr fun failure => Plan.inFront_error_iff owned shaped known).trans ?_
  constructor
  · rintro ⟨failure, ⟨missing, _⟩ | ⟨_, unlinked, _⟩ | ⟨_, n, given, above, _⟩⟩
    · exact .inl missing
    · exact .inr (.inl unlinked)
    · exact .inr (.inr ⟨n, given, above⟩)
  · intro against
    by_cases missing : f.children p = none
    · exact ⟨_, .inl ⟨missing, rfl⟩⟩
    by_cases linked : f.parent c = some p
    · obtain ⟨n, given, above⟩ := (against.resolve_left missing).resolve_left (by simp [linked])
      exact ⟨_, .inr (.inr ⟨linked, n, given, above, rfl⟩)⟩
    · exact ⟨_, .inr (.inl ⟨missing, linked, rfl⟩)⟩

-- Of the two ways to fail only the reference counts as links that disagree.
theorem insertBefore_inconsistent_iff (owned : Owned f) (shaped : f.Shaped)
    (known : ∀ n ∈ new, f.known n = true) {failure : Failure} {g : Forest}
    (ran : insertBefore p (some c) new f = .error failure g) :
    (∃ fault n, failure = .inconsistent fault n) ↔
      f.children p ≠ none ∧ f.parent c ≠ some p := by
  rw [Move.insertBefore_plan] at ran
  rcases (Plan.inFront_error_iff owned shaped known).mp ⟨g, ran⟩ with
    ⟨missing, rfl⟩ | ⟨owns, unlinked, rfl⟩ | ⟨linked, n, _, _, rfl⟩
  · simp [missing]
  · exact iff_of_true ⟨_, _, rfl⟩ ⟨owns, unlinked⟩
  · simp [linked]

theorem replace_refused_iff (owned : Owned f) (shaped : f.Shaped)
    (known : ∀ n ∈ new, f.known n = true) :
    (∃ failure g, replace c new f = .error failure g) ↔
      f.parent c = none ∨ ∃ p, f.parent c = some p ∧ ∃ n ∈ new, Above f n p := by
  have refused (failure : Failure) :
      (∃ g, (Plan.instead f c).run new f = .error failure g) ↔ _ :=
    Plan.instead_error_iff owned shaped known
  simp only [← Move.replace_plan, discard_error_iff] at refused
  refine (exists_congr refused).trans ?_
  constructor
  · rintro ⟨failure, ⟨free, _⟩ | ⟨p, linked, n, given, above, _⟩⟩
    · exact .inl free
    · exact .inr ⟨p, linked, n, given, above⟩
  · rintro (free | ⟨p, linked, n, given, above⟩)
    · exact ⟨_, .inl ⟨free, rfl⟩⟩
    · exact ⟨_, .inr ⟨p, linked, n, given, above, rfl⟩⟩

end Edit

namespace Plan
open Edit

variable {f g : Forest} {c n p : NodeId} {new : Option NodeId} {failure : Failure}

-- Failures that have nothing to do with links that disagree.
inductive Faultless : Failure → Prop where
  | hierarchy (fault : TreeFault) (n : NodeId) : Faultless (.hierarchy fault n)
  | reference (n : NodeId) : Faultless (.inconsistent .referenceNotAChild n)
  | noNode : Faultless .noNode
  | unsupported : Faultless .unsupported

theorem atEnd_faultless (owned : Owned f) (shaped : f.Shaped)
    (known : ∀ n ∈ new, f.known n = true)
    (ran : (Plan.atEnd f p).run new f = .error failure g) : Faultless failure := by
  cases owns : f.children p with
  | none =>
    rw [Plan.atEnd, owns] at ran
    cases ran
    exact .hierarchy _ _
  | some list =>
    rw [Plan.atEnd, owns] at ran
    obtain ⟨fault, n, rfl⟩ := ((insert_error_iff owned shaped known).mp ⟨g, ran⟩).hierarchy
    exact .hierarchy _ _

theorem inFront_faultless (owned : Owned f) (shaped : f.Shaped)
    (known : ∀ n ∈ new, f.known n = true) (reference : Option NodeId)
    (ran : (Plan.inFront f p reference).run new f = .error failure g) : Faultless failure := by
  cases reference with
  | none => exact atEnd_faultless owned shaped known ran
  | some c =>
    rcases (inFront_error_iff owned shaped known).mp ⟨g, ran⟩ with
      ⟨_, rfl⟩ | ⟨_, _, rfl⟩ | ⟨_, n, _, _, rfl⟩
    · exact .hierarchy _ _
    · exact .reference _
    · exact .hierarchy _ _

theorem instead_faultless (owned : Owned f) (shaped : f.Shaped)
    (known : ∀ n ∈ new, f.known n = true)
    (ran : (Plan.instead f c).run new f = .error failure g) : Faultless failure := by
  rcases (instead_error_iff owned shaped known).mp ⟨g, ran⟩ with ⟨_, rfl⟩ | ⟨p, _, n, _, _, rfl⟩
  · exact .hierarchy _ _
  · exact .hierarchy _ _

theorem detach_faultless (owned : Owned f)
    (ran : (Plan.detach n).run new f = .error failure g) : Faultless failure := by
  rw [Plan.run] at ran
  cases linked : f.parent n with
  | none =>
    cases known : f.known n with
    | false =>
      rw [detach_unknown known] at ran
      cases ran
      exact .noNode
    | true =>
      rw [detach_free known linked] at ran
      cases ran
  | some q =>
    obtain ⟨h, done, _⟩ := detach_owned owned linked
    rw [done] at ran
    cases ran

theorem ofBranch_faultless {plan : Plan}
    (inner : plan.run new f = .error failure g → Faultless failure)
    (ran : (Plan.ofBranch f n plan).run new f = .error failure g) : Faultless failure := by
  unfold Plan.ofBranch at ran
  split at ran
  · exact inner ran
  · cases ran
    exact .unsupported

theorem ofChild_faultless {plan : Plan}
    (inner : plan.run new f = .error failure g → Faultless failure)
    (ran : (Plan.ofChild f p c plan).run new f = .error failure g) : Faultless failure := by
  unfold Plan.ofChild at ran
  split at ran
  · exact inner ran
  · cases ran
    exact .reference _

end Plan

theorem Move.run_faultless {f g : Forest} {failure : Failure} (owned : Owned f)
    (shaped : f.Shaped) (move : Move) (known : ∀ n ∈ move.given, f.known n = true)
    (ran : move.run f = .error failure g) : Plan.Faultless failure := by
  rw [move.run_plan f] at ran
  cases move with
  | insert parent index new replacing =>
    obtain ⟨fault, n, rfl⟩ := ((Plan.insert_error_iff owned shaped known).mp ⟨g, ran⟩).hierarchy
    exact .hierarchy _ _
  | before parent reference new => exact Plan.inFront_faultless owned shaped known reference ran
  | append parent new => exact Plan.atEnd_faultless owned shaped known ran
  | replace old new => exact Plan.instead_faultless owned shaped known ran
  | remove n => exact Plan.detach_faultless owned ran
  | appendChild parent new =>
    exact Plan.ofBranch_faultless (Plan.atEnd_faultless owned shaped known) ran
  | childBefore parent new reference =>
    exact Plan.ofBranch_faultless (Plan.inFront_faultless owned shaped known reference) ran
  | replaceChild parent new old =>
    exact Plan.ofBranch_faultless
      (Plan.ofChild_faultless (Plan.instead_faultless owned shaped known)) ran
  | removeChild parent child =>
    exact Plan.ofBranch_faultless (Plan.ofChild_faultless (Plan.detach_faultless owned)) ran

namespace Forest
open Walk

variable {f : Forest} {n p : NodeId}

theorem backward_known {next : NodeId → List NodeId}
    (onward : ∀ n, ∀ c ∈ next n, f.known c = true) (fuel : Nat)
    (stack : List (NodeId × List NodeId))
    (known : ∀ entry ∈ stack, f.known entry.1 = true ∧ ∀ c ∈ entry.2, f.known c = true) :
    ∀ m ∈ backward next fuel stack, f.known m = true := by
  induction fuel generalizing stack with
  | zero => simp [backward]
  | succ fuel ih =>
    match stack with
    | [] => simp [backward]
    | (n, []) :: rest =>
      intro m member
      rw [backward] at member
      rcases List.mem_cons.mp member with rfl | later
      · exact (known _ List.mem_cons_self).1
      · exact ih rest (fun entry among => known entry (List.mem_cons_of_mem _ among)) m later
    | (n, child :: pending) :: rest =>
      intro m member
      rw [backward] at member
      have here := known _ List.mem_cons_self
      refine ih _ ?_ m member
      intro entry among
      rcases List.mem_cons.mp among with rfl | among
      · exact ⟨here.2 child List.mem_cons_self, fun c inside =>
          onward child c (List.mem_reverse.mp inside)⟩
      · rcases List.mem_cons.mp among with rfl | among
        · exact ⟨here.1, fun c inside => here.2 c (List.mem_cons_of_mem _ inside)⟩
        · exact known entry (List.mem_cons_of_mem _ among)

theorem Owned.depthFirstReversed_known (owned : Owned f) (known : f.known n = true) :
    ∀ m ∈ f.depthFirstReversed .visible n, f.known m = true := by
  have onward (n : NodeId) : ∀ c ∈ f.below .visible n, f.known c = true :=
    fun c listed => owned.known_child listed
  refine backward_known onward _ _ ?_
  intro entry among
  cases List.mem_singleton.mp among
  exact ⟨known, fun c inside => onward n c (List.mem_reverse.mp inside)⟩

theorem Owned.known_parent (owned : Owned f) (linked : f.parent n = some p) :
    f.known p = true := by
  obtain ⟨list, owns, _⟩ := owned.children_of_parent linked
  exact known_of_children owns

theorem Owned.previousSiblings_ok (owned : Owned f) (n : NodeId) :
    ∃ siblings, f.previousSiblings n = .ok siblings ∧ ∀ m ∈ siblings, f.known m = true := by
  cases linked : f.parent n with
  | none => exact ⟨[], by simp [previousSiblings, linked], by simp⟩
  | some p =>
    obtain ⟨list, place, owns, placed, _⟩ := Edit.placeIn_owned owned linked
    refine ⟨(list.take place).reverse, ?_, ?_⟩
    · simp only [previousSiblings, linked, placed]
      rfl
    · intro m member
      exact known_of_parent (owned.link owns (List.mem_of_mem_take (List.mem_reverse.mp member)))

-- One level up at a time: siblings are found, and the walk goes on from the parent.
theorem Owned.priorWithin_ok (owned : Owned f) (levels : Nat) (n : NodeId) :
    (f.priorWithin levels n).failure = none ∧
      ∀ m ∈ (f.priorWithin levels n).items, f.known m = true := by
  induction levels generalizing n with
  | zero => exact ⟨rfl, by simp [priorWithin]⟩
  | succ levels ih =>
    obtain ⟨siblings, before, known⟩ := owned.previousSiblings_ok n
    have here : ∀ m ∈ siblings.flatMap (f.depthFirstReversed .visible), f.known m = true := by
      intro m member
      obtain ⟨s, among, inside⟩ := List.mem_flatMap.mp member
      exact owned.depthFirstReversed_known (known s among) m inside
    cases linked : f.parent n with
    | none => simpa [priorWithin, before, linked] using here
    | some p =>
      obtain ⟨whole, above⟩ := ih p
      simp only [priorWithin, before, linked]
      refine ⟨whole, ?_⟩
      intro m member
      rcases List.mem_append.mp member with inside | member
      · exact here m inside
      · rcases List.mem_cons.mp member with rfl | member
        · exact owned.known_parent linked
        · exact above m member

theorem Owned.siblingsTrail_whole (owned : Owned f) (known : f.known n = true) :
    (f.siblingsTrail n).failure = none := by
  obtain ⟨siblings, before, _⟩ := owned.previousSiblings_ok n
  simp [siblingsTrail, known, before]

theorem Owned.priorTrail_whole (owned : Owned f) (known : f.known n = true) (levels : Nat) :
    (f.priorTrailWithin levels n).failure = none := by
  obtain ⟨whole, items⟩ := owned.priorWithin_ok levels n
  have all : (f.priorWithin levels n).items.all f.known = true := List.all_eq_true.mpr items
  simp [priorTrailWithin, known, Trail.upTo, all, whole]

end Forest

-- Where links agree no move and no walk backward fails because of links, and an insertion is
-- refused only for what was asked: the parent has no list, the index is out of range, the reference
-- is none of its children, or what is handed over is the parent or above it.
theorem Forest.Owned.refusals_exact {f : Forest} (owned : Owned f) (shaped : f.Shaped) :
    (∀ move : Move, (∀ n ∈ move.given, f.known n = true) →
      ∀ failure g, move.run f = .error failure g → failure ≠ .notListed ∧
        ∀ n, failure ≠ .inconsistent .parentMissingChildren n ∧
          failure ≠ .inconsistent .parentMissingChild n) ∧
    (∀ n, f.known n = true → (f.siblingsTrail n).failure = none ∧
      ∀ levels, (f.priorTrailWithin levels n).failure = none) ∧
    (∀ p index new replacing, (∀ n ∈ new, f.known n = true) →
      ((∃ failure g, Edit.insertNode p index new replacing f = .error failure g) ↔
        f.children p = none ∨ index < 0 ∨
          (if replacing then ((f.kids p).length : Int) - 1 else (f.kids p).length) < index ∨
          ∃ n ∈ new, Above f n p) ∧
      ∀ failure g, Edit.insertNode p index new replacing f = .error failure g →
        ∃ fault n, failure = .hierarchy fault n) ∧
    (∀ p r new, (∀ n ∈ new, f.known n = true) →
      ((∃ failure g, Edit.insertBefore p (some r) new f = .error failure g) ↔
        f.children p = none ∨ f.parent r ≠ some p ∨ ∃ n ∈ new, Above f n p) ∧
      ∀ failure g, Edit.insertBefore p (some r) new f = .error failure g →
        ((∃ fault n, failure = .inconsistent fault n) ↔
          f.children p ≠ none ∧ f.parent r ≠ some p)) ∧
    ∀ old new, (∀ n ∈ new, f.known n = true) →
      ((∃ failure g, Edit.replace old new f = .error failure g) ↔
        f.parent old = none ∨ ∃ p, f.parent old = some p ∧ ∃ n ∈ new, Above f n p) := by
  refine ⟨?_, ?_, ?_, ?_, ?_⟩
  · intro move known failure g ran
    cases move.run_faultless owned shaped known ran <;> simp
  · intro n known
    exact ⟨owned.siblingsTrail_whole known, owned.priorTrail_whole known⟩
  · intro p index new replacing known
    refine ⟨Edit.insertNode_refused_iff owned shaped known, ?_⟩
    intro failure g ran
    exact ((Edit.insertNode_error_iff owned shaped known).mp ⟨g, ran⟩).hierarchy
  · intro p r new known
    refine ⟨Edit.insertBefore_refused_iff owned shaped known, ?_⟩
    intro failure g ran
    exact Edit.insertBefore_inconsistent_iff owned shaped known ran
  · intro old new known
    exact Edit.replace_refused_iff owned shaped known

-- A list cannot go into its own item, and the item can go where it is already.
theorem Forest.Owned.refusals_exact_list :
    let f := Forest.empty.through [.element (some "ul") (some "html"),
      .element (some "li") (some "html"), .text (some "a"), .move (.append 0 (some 1)),
      .move (.append 1 (some 2))]
    (∃ failure g, Edit.insertNode 1 0 (some 0) false f = .error failure g) ∧
      (¬ ∃ failure g, Edit.insertNode 0 1 (some 1) false f = .error failure g) ∧
      (f.priorTrail 2).failure = none := by
  intro f
  have reached : Reached f := Reached.empty.through (by decide)
  have shaped : f.Shaped := shaped_growing.through empty_shaped fun _ _ _ _ => trivial
  obtain ⟨_, whole, exactly, _⟩ := Forest.Owned.refusals_exact reached.sound.owned shaped
  have linked : f.parent 1 = some 0 := by decide
  have free : f.parent 0 = none := by decide
  refine ⟨(exactly 1 0 (some 0) false (by decide)).1.mpr ?_, ?_, (whole 2 (by decide)).2 f.reach⟩
  · exact .inr (.inr (.inr ⟨0, rfl, .up linked .self⟩))
  · rw [(exactly 0 1 (some 1) false (by decide)).1]
    rintro (barren | low | high | ⟨n, given, above⟩)
    · exact absurd barren (by decide)
    · exact absurd low (by decide)
    · exact absurd high (by decide)
    · cases given
      cases above with
      | up upward _ => cases free.symm.trans upward

end HtmlTree

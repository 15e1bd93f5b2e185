import Mathlib
import HtmlTree.Construct.Adoption
import HtmlTree.Proofs.Grown
import HtmlTree.Proofs.TagNames

set_option mvcgen.warning false

namespace HtmlTree

open Std.Do EStateM

-- The sites that tree construction has at hand and may put somewhere fit, and what it reads is a
-- whole document.
structure Hands (d : NodeId) (opened : List Site) (formatting : List (Option Site))
    (head : Option Site) (container : Option String) (scanner : Scanner) : Prop where
  opened : ∀ s ∈ opened, Site.Fits d s
  formatting : ∀ s, some s ∈ formatting → Site.Fits d s
  head : ∀ s ∈ head, Site.Fits d s
  whole : container = none
  scanned : scanner.Proper

namespace Progress

variable {d : NodeId} {p q : Progress} {s : Site} {sites : List Site}

abbrev Fitted (d : NodeId) (p : Progress) : Prop :=
  Hands d p.openElements p.formatting p.head p.container p.scanner

theorem start_fitted (input : String) (guessed : Option Source.Encoding) :
    (start (.start input) none guessed).Fitted d where
  opened _ member := nomatch member
  formatting _ member := nomatch member
  head _ given := nomatch given
  whole := rfl
  scanned := Scanner.start_proper input

theorem Fitted.scanning (fitted : p.Fitted d) {scanner : Scanner} (proper : scanner.Proper) :
    Hands d p.openElements p.formatting p.head p.container scanner :=
  { fitted with scanned := proper }

theorem Fitted.scanAs (fitted : p.Fitted d) (state : ScanState) :
    Hands d p.openElements p.formatting p.head p.container { p.scanner with state := state } :=
  fitted.scanning ⟨fitted.scanned.draft, fitted.scanned.queue⟩

theorem Fitted.opening (fitted : p.Fitted d) (fits : ∀ s ∈ sites, s.Fits d) :
    Hands d sites p.formatting p.head p.container p.scanner :=
  { fitted with opened := fits }

theorem Fitted.closing (fitted : p.Fitted d) (kept : sites ⊆ p.openElements) :
    Hands d sites p.formatting p.head p.container p.scanner :=
  fitted.opening fun s member => fitted.opened s (kept member)

theorem Fitted.forming (fitted : p.Fitted d) {entries : List (Option Site)}
    (fits : ∀ s, some s ∈ entries → s.Fits d) :
    Hands d p.openElements entries p.head p.container p.scanner :=
  { fitted with formatting := fits }

theorem Fitted.current (fitted : p.Fitted d) (found : p.current? = some s) : s.Fits d :=
  fitted.opened s (List.mem_of_mem_head? found)

theorem Fitted.goesOn (fitted : p.Fitted d) (found : p.formatting.contains (some s) = true) :
    s.Fits d :=
  fitted.formatting s (List.contains_iff_mem.mp found)

theorem Fitted.formattingNamed (fitted : p.Fitted d) {name : String}
    (found : p.formattingNamed? name = some s) : s.Fits d := by
  obtain ⟨entry, among, rfl⟩ := List.mem_filterMap.mp (List.mem_of_find?_eq_some found)
  exact fitted.formatting s (List.takeWhile_subset _ among)

theorem Fitted.furthest (fitted : p.Fitted d) {isInside wanted : Site → Bool}
    (found : (p.openElements.takeWhile isInside).reverse.find? wanted = some s) : s.Fits d :=
  fitted.opened s (List.takeWhile_subset _ (List.mem_reverse.mp (List.mem_of_find?_eq_some found)))

theorem Fitted.push (fitted : p.Fitted d) (fits : s.Fits d) : (p.push s).Fitted d :=
  fitted.opening fun _ member => (List.mem_cons.mp member).elim (· ▸ fits) (fitted.opened _)

theorem Fitted.pop (fitted : p.Fitted d) : p.pop.Fitted d :=
  fitted.closing (List.tail_subset _)

theorem Fitted.popUntil (fitted : p.Fitted d) (keep : Site → Bool) : (p.popUntil keep).Fitted d :=
  fitted.closing (List.dropWhile_subset _)

theorem Fitted.popThrough (fitted : p.Fitted d) (last : Site → Bool) :
    (p.popThrough last).Fitted d :=
  (fitted.popUntil last).pop

theorem Fitted.closeImplied (fitted : p.Fitted d) (except : Option String) :
    (p.closeImplied except).Fitted d :=
  fitted.closing (List.dropWhile_subset _)

theorem Fitted.removeOpen (fitted : p.Fitted d) (s : Site) : (p.removeOpen s).Fitted d :=
  fitted.closing List.erase_subset

theorem Fitted.markFormatting (fitted : p.Fitted d) : p.markFormatting.Fitted d := by
  refine fitted.forming fun s member => ?_
  rcases List.mem_cons.mp member with marker | among
  · cases marker
  · exact fitted.formatting s among

theorem Fitted.removeFormatting (fitted : p.Fitted d) (s : Site) :
    (p.removeFormatting s).Fitted d :=
  fitted.forming fun _ member => fitted.formatting _ (List.mem_of_mem_erase member)

theorem Fitted.clearFormatting (fitted : p.Fitted d) (cleared : p.clearFormatting? = some q) :
    q.Fitted d := by
  unfold clearFormatting? at cleared
  split at cleared
  · cases cleared
  · cases cleared
    exact fitted.forming fun s member =>
      fitted.formatting s (List.dropWhile_subset _ (List.mem_of_mem_tail member))

theorem Fitted.enter (fitted : p.Fitted d) (fits : s.Fits d) :
    Hands d p.openElements (some s :: p.formatting) p.head p.container p.scanner := by
  refine fitted.forming fun other member => ?_
  rcases List.mem_cons.mp member with same | among
  · cases same
    exact fits
  · exact fitted.formatting other among

-- Formatting that goes on while its element is closed.
theorem Fitted.closed (fitted : p.Fitted d) (isClosed : Option Site → Bool) :
    ∀ s ∈ (p.formatting.takeWhile isClosed).filterMap id, s.Fits d := by
  intro s member
  obtain ⟨entry, among, rfl⟩ := List.mem_filterMap.mp member
  exact fitted.formatting s (List.takeWhile_subset _ among)

theorem Fitted.reopened (fitted : p.Fitted d) (earlier : q.Fitted d)
    (fits : ∀ s ∈ sites, s.Fits d) (count : Nat) :
    Hands d p.openElements (sites.map some ++ q.formatting.drop count) p.head p.container p.scanner := by
  refine fitted.forming fun s member => ?_
  rcases List.mem_append.mp member with new | old
  · obtain ⟨made, among, same⟩ := List.mem_map.mp new
    cases same
    exact fits s among
  · exact earlier.formatting s (List.drop_subset _ _ old)

end Progress

namespace Construct

open Progress

variable {origin : Forest} {α : Type} {e : Construct origin α} {good : α → Prop} {tag : Tag}
  {s : Site}

-- The document, which is the first node made, stands by itself, and nothing at hand is it. So no step
-- taken was one that a builder does not admit.
structure Tended (c : Construction origin) : Prop where
  assembled : Builder.Assembled origin c.builder
  grown : Builder.Grown origin.size c.builder
  fitted : c.progress.Fitted origin.size

abbrev Tends (e : Construct origin α) (good : α → Prop) : Prop :=
  ⦃fun c => ⌜Tended c⌝⦄ e ⦃post⟨fun value c => ⌜Tended c ∧ good value⌝, fun _ _ => ⌜True⌝⟩⦄

abbrev Upholds (e : Construct origin α) : Prop :=
  ⦃fun c => ⌜Tended c⌝⦄ e ⦃post⟨fun _ c => ⌜Tended c⌝, fun _ _ => ⌜True⌝⟩⦄

theorem triple_iff {after : α → Construction origin → Prop} :
    ⦃fun c => ⌜Tended c⌝⦄ e ⦃post⟨fun value c => ⌜after value c⌝, fun _ _ => ⌜True⌝⟩⦄ ↔
      ∀ c value c', Tended c → e c = .ok value c' → after value c' := by
  have reads (c : Construction origin) : (wp⟦e⟧ (post⟨fun value c => ⌜after value c⌝,
      fun _ _ => ⌜True⌝⟩) c).down ↔ ∀ value c', e c = .ok value c' → after value c' := by
    simp only [wp, PredTrans.apply]
    rw [EStateM.run]
    cases e c <;> simp
  constructor
  · intro triple c value c' tended ran
    exact (reads c).mp (triple c tended) value c' ran
  · intro each c tended
    exact (reads c).mpr fun value c' ran => each c value c' tended ran

theorem tends_iff : Tends e good ↔ Grants Tended e good := triple_iff

theorem upholds_iff : Upholds e ↔ Grants Tended e fun _ => True := by
  simp only [triple_iff, Grants, and_true]

@[spec]
theorem forM_tends {list : List α} {visit : α → Construct origin PUnit}
    (each : ∀ a ∈ list, Upholds (visit a)) : Upholds (list.forM visit) :=
  upholds_iff.mpr (.forM fun a member => upholds_iff.mp (each a member))

@[spec]
theorem discard_spec {Q : PostCond PUnit (.except Interrupt (.arg (Construction origin) .pure))} :
    ⦃wp⟦e⟧ (fun _ => Q.1 ⟨⟩, Q.2)⦄ (discard e : Construct origin PUnit) ⦃Q⦄ := by
  have same : (discard e : Construct origin PUnit) = e >>= fun _ => pure ⟨⟩ := by
    funext c
    cases ran : e c <;>
      simp [discard, Functor.mapConst, EStateM.map, bind, EStateM.bind, pure, EStateM.pure, ran]
  rw [same]
  mvcgen

@[spec]
theorem apply_tends {step : BuildStep} (admits : step.Admits origin.size) :
    Tends (apply step : Construct origin _) fun site => ∀ s ∈ site, s.Fits origin.size := by
  refine tends_iff.mpr ?_
  rintro ⟨builder, built, progress⟩ site c tended ran
  rw [apply] at ran
  split at ran
  · rename_i taken
    cases ran
    obtain ⟨grown, fits⟩ := BuildStep.run_grants admits builder _ _ tended.grown taken
    have assembled := tended.assembled.step (tended.grown.document.symm ▸ admits) taken
    exact ⟨⟨assembled, grown, tended.fitted⟩, fits⟩
  · cases ran

@[spec]
theorem make_tends {step : BuildStep} (admits : step.Admits origin.size) :
    Tends (make step : Construct origin _) (Site.Fits origin.size) := by
  mvcgen [make] with grind

@[spec]
theorem act_tends {step : BuildStep} (admits : step.Admits origin.size) :
    Upholds (act step : Construct origin _) := by
  mvcgen [act] with grind

@[spec]
theorem progress_tends : Tends (progress : Construct origin _) (Fitted origin.size) := by
  mvcgen [progress] with grind [Tended]

@[spec]
theorem builder_tends :
    Tends (builder : Construct origin _) fun b => b.document.node = origin.size := by
  mvcgen [builder] with grind [Tended, Builder.Grown]

@[spec]
theorem update_tends {change : Progress → Progress}
    (kept : ∀ p, Fitted origin.size p → Fitted origin.size (change p)) :
    Upholds (update change : Construct origin _) := by
  mvcgen [update] with grind [Tended]

@[spec]
theorem goto_tends (mode : Mode) : Upholds (goto mode : Construct origin _) := by
  mvcgen [goto] with grind

@[spec]
theorem mode_tends : Upholds (mode : Construct origin _) := by
  mvcgen [mode] with grind

@[spec]
theorem scanAs_tends (state : ScanState) : Upholds (scanAs state : Construct origin _) := by
  mvcgen [scanAs] with grind [Fitted.scanAs]

@[spec]
theorem faultWith_tends (code : String) (slots : List (String × String)) :
    Upholds (faultWith code slots : Construct origin _) := by
  mvcgen [faultWith] with grind

@[spec]
theorem fault_tends (code : String) : Upholds (fault code : Construct origin _) := by
  mvcgen [fault]

@[spec]
theorem faultAt_tends (code name : String) : Upholds (faultAt code name : Construct origin _) := by
  mvcgen [faultAt]

@[spec]
theorem faultUnnamed_tends : Upholds (faultUnnamed : Construct origin _) := by
  mvcgen [faultUnnamed]

@[spec]
theorem noFrameset_tends : Upholds (noFrameset : Construct origin _) := by
  mvcgen [noFrameset] with grind

@[spec]
theorem acknowledge_tends (tag : Tag) : Upholds (acknowledge tag : Construct origin _) := by
  mvcgen [acknowledge] with grind

@[spec]
theorem fragmentOnly_tends : Upholds (fragmentOnly : Construct origin _) := by
  mvcgen [fragmentOnly] with grind

@[spec]
theorem done_tends : Upholds (done : Construct origin _) := by
  mvcgen [done]

@[spec]
theorem again_tends : Upholds (again : Construct origin _) := by
  mvcgen [again]

@[spec]
theorem current_tends : Tends (current : Construct origin _) (Site.Fits origin.size) := by
  mvcgen [current] with grind [Fitted.current]

@[spec]
theorem currentIs_tends (names : List String) : Upholds (currentIs names : Construct origin _) := by
  mvcgen [currentIs] with grind

@[spec]
theorem inReach_tends (reach : Reach) (name : String) :
    Upholds (inReach reach name : Construct origin _) := by
  mvcgen [inReach] with grind

@[spec]
theorem pop_tends : Upholds (pop : Construct origin _) := by
  mvcgen [pop] with grind [Fitted.pop]

@[spec]
theorem popUntilNamed_tends (names : List String) :
    Upholds (popUntilNamed names : Construct origin _) := by
  mvcgen [popUntilNamed] with grind [Fitted.popUntil]

@[spec]
theorem popThroughNamed_tends (name : String) :
    Upholds (popThroughNamed name : Construct origin _) := by
  mvcgen [popThroughNamed] with grind [Fitted.popThrough]

@[spec]
theorem clearFormatting_tends : Upholds (clearFormatting : Construct origin _) := by
  mvcgen [clearFormatting] with grind [Fitted.clearFormatting]

@[spec]
theorem closeImplied_tends : Upholds (closeImplied : Construct origin _) := by
  mvcgen [closeImplied] with grind [Fitted.closeImplied]

@[spec]
theorem closeImpliedExcept_tends (name : String) :
    Upholds (closeImpliedExcept name : Construct origin _) := by
  mvcgen [closeImpliedExcept] with grind [Fitted.closeImplied]

@[spec]
theorem resetMode_tends : Upholds (resetMode : Construct origin _) := by
  mvcgen [resetMode] with grind

@[spec]
theorem misplaced_tends : Upholds (misplaced : Construct origin _) := by
  mvcgen [misplaced] with grind

-- Where misplaced content goes may be the document itself.
@[spec]
theorem fosterPlace_tends : Upholds (fosterPlace : Construct origin _) := by
  mvcgen [fosterPlace] with grind

@[spec]
theorem openElement_tends {name : String} (named : name ≠ Node.textName) (uri : Option String)
    (attrs : Attributes) :
    Tends (openElement name uri attrs : Construct origin _) (Site.Fits origin.size) := by
  mvcgen [openElement] with grind [BuildStep.Admits, Fitted.push, Site.Fits]

@[spec]
theorem insertElement_tends (named : tag.name ≠ Node.textName) :
    Upholds (insertElement tag : Construct origin _) := by
  mvcgen [insertElement] with grind

@[spec]
theorem insertVoid_tends (named : tag.name ≠ Node.textName) :
    Upholds (insertVoid tag : Construct origin _) := by
  mvcgen [insertVoid]

@[spec]
theorem insertText_tends (data : String) : Upholds (insertText data : Construct origin _) := by
  mvcgen [insertText] with grind [BuildStep.Admits]

@[spec]
theorem insertCommentInto_tends (parent : Site) (data : String) :
    Upholds (insertCommentInto parent data : Construct origin _) := by
  mvcgen [insertCommentInto] with grind [BuildStep.Admits, Site.Fits]

@[spec]
theorem insertComment_tends (data : String) :
    Upholds (insertComment data : Construct origin _) := by
  mvcgen [insertComment] with grind

@[spec]
theorem insertCommentInDocument_tends (data : String) :
    Upholds (insertCommentInDocument data : Construct origin _) := by
  mvcgen [insertCommentInDocument] with grind

@[spec]
theorem insertRoot_tends : Upholds (insertRoot : Construct origin _) := by
  mvcgen [insertRoot] with grind [BuildStep.Admits, Site.Fits, Fitted.push, Node.textName]

-- Over the elements, the latest of which is opened last.
@[spec]
theorem reopen_tends {sites : List Site} (fits : ∀ s ∈ sites, s.Fits origin.size) :
    Tends (reopen sites : Construct origin _) fun made => ∀ s ∈ made, s.Fits origin.size := by
  induction sites with
  | nil => mvcgen [reopen]
  | cons s earlier ih =>
    have here := fits s List.mem_cons_self
    have inner := ih fun s member => fits s (List.mem_cons_of_mem _ member)
    mvcgen [reopen, inner] with grind [Site.Fits]

@[spec]
theorem reconstruct_tends : Upholds (reconstruct : Construct origin _) := by
  mvcgen [reconstruct] with grind [Fitted.closed, Fitted.reopened]

@[spec]
theorem insertFormatting_tends (named : tag.name ≠ Node.textName) :
    Upholds (insertFormatting tag : Construct origin _) := by
  mvcgen [insertFormatting]
  case vc6 site _ held b _ _ p alike q =>
    intro _ _ fitted _ _
    have kept : q.Fitted origin.size := by
      simp only [q]
      clear_value alike
      split
      · exact fitted.removeFormatting _
      · exact fitted
    exact kept.enter held.2
  all_goals grind

@[spec]
theorem startHtml_tends (tag : Tag) : Upholds (startHtml tag : Construct origin _) := by
  mvcgen [startHtml] with grind [BuildStep.Admits]

@[spec]
theorem insertTextElement_tends (named : tag.name ≠ Node.textName) (state : ScanState) :
    Upholds (insertTextElement tag state : Construct origin _) := by
  mvcgen [insertTextElement] with grind

@[spec]
theorem endOrdinary_tends (name : String) : Upholds (endOrdinary name : Construct origin _) := by
  mvcgen [endOrdinary] with grind [Fitted.popThrough]

@[spec]
theorem detachSite_tends (s : Site) : Upholds (detachSite s : Construct origin _) := by
  mvcgen [detachSite] with grind [BuildStep.Admits]

theorem mem_replace {α : Type} [BEq α] {a b c : α} {list : List α} (member : c ∈ list.replace a b) :
    c ∈ list ∨ c = b := by
  induction list with
  | nil => cases member
  | cons head rest ih =>
    rw [List.replace_cons] at member
    split at member
    · exact (List.mem_cons.mp member).elim .inr fun among => .inl (List.mem_cons_of_mem _ among)
    · rcases List.mem_cons.mp member with rfl | among
      · exact .inl List.mem_cons_self
      · exact (ih among).imp (List.mem_cons_of_mem _) id

theorem exchange_fitted {p : Progress} (fitted : p.Fitted origin.size) (old : Site)
    (fits : s.Fits origin.size) : (exchange p old s).Fitted origin.size := by
  refine { fitted with opened := fun other member => ?_, formatting := fun other member => ?_ }
  · rcases mem_replace member with among | rfl
    · exact fitted.opened other among
    · exact fits
  · rcases mem_replace member with among | same
    · exact fitted.formatting other among
    · cases same
      exact fits

theorem enterFormatting_fitted {p : Progress} (fitted : p.Fitted origin.size) (index : Nat)
    (fits : s.Fits origin.size) : (enterFormatting p index s).Fitted origin.size := by
  refine fitted.forming fun other member => ?_
  rcases List.mem_append.mp (List.mem_reverse.mp member) with before | after
  · exact fitted.formatting other (List.mem_reverse.mp (List.take_subset _ _ before))
  · rcases List.mem_cons.mp after with same | among
    · cases same
      exact fits
    · exact fitted.formatting other (List.mem_reverse.mp (List.drop_subset _ _ among))

@[spec]
theorem wrap_tends {block element inner last : Site} (fits : last.Fits origin.size)
    (rounds bookmark : Nat) :
    Tends (wrap block element rounds inner last bookmark : Construct origin _)
      fun made => made.1.Fits origin.size := by
  induction rounds generalizing inner last bookmark with
  | zero => mvcgen [wrap]
  | succ rounds ih =>
    mvcgen [wrap, ih] with
      grind [Fitted.removeOpen, → Fitted.goesOn, exchange_fitted, BuildStep.Admits, Site.Fits]

theorem Fitted.inserted {p : Progress} (fitted : p.Fitted origin.size) (fits : s.Fits origin.size)
    (isInner : Site → Bool) : Hands origin.size ((p.openElements.span isInner).1 ++
      s :: (p.openElements.span isInner).2) p.formatting p.head p.container p.scanner := by
  refine fitted.opening fun other member => ?_
  rw [List.span_eq_takeWhile_dropWhile] at member
  rcases List.mem_append.mp member with inner | outer
  · exact fitted.opened other (List.takeWhile_subset _ inner)
  · rcases List.mem_cons.mp outer with rfl | among
    · exact fits
    · exact fitted.opened other (List.dropWhile_subset _ among)

@[spec]
theorem adopt_tends {element block : Site} (formats : element.Fits origin.size)
    (holds : block.Fits origin.size) : Upholds (adopt element block : Construct origin _) := by
  mvcgen [adopt] with
    grind [Site.Fits, BuildStep.Admits, Fitted.inserted, Fitted.removeOpen,
      enterFormatting_fitted, Fitted.removeFormatting]

@[spec]
theorem endFormatting_tends (name : String) (rounds : Nat) :
    Upholds (endFormatting name rounds : Construct origin _) := by
  induction rounds with
  | zero => mvcgen [endFormatting]
  | succ rounds ih =>
    mvcgen [endFormatting, ih] with
      grind [Fitted.removeFormatting, Fitted.popThrough, → Fitted.formattingNamed, → Fitted.furthest]

@[spec]
theorem endFormattingTag_tends (name : String) :
    Upholds (endFormattingTag name : Construct origin _) := by
  mvcgen [endFormattingTag]

end Construct

end HtmlTree

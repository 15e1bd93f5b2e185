import HtmlTree.Proofs.Calm

namespace HtmlTree

namespace Construct

open Forest

variable {origin : Forest} {c d : Construction origin} {frame : Frame} {frames outer : List Frame}

-- The part of what is kept in mind that a steady course depends on.
def essence (p : Progress) : Mode × List Site × Bool × Bool × Option Source.Encoding × Option String :=
  (p.mode, p.openElements, p.fostering, p.skipNewline, p.guessed, p.container)

def formattingOf (frames : List Frame) : List (Option Site) :=
  ((frames.map Frame.site).filter fun s => Elements.formattingEnds.contains s.name).map some

-- The formatting that goes on is that of the open elements.
structure Calm (frames : List Frame) (c : Construction origin) : Prop extends Steady frames c where
  formatting : c.progress.formatting = formattingOf frames

theorem Steady.alike (steady : Steady frames c) {p : Progress} (same : essence p = essence c.progress) :
    Steady frames { c with progress := p } := by
  simp only [essence, Prod.mk.injEq] at same
  obtain ⟨mode, stack, placed, newline, sure, container⟩ := same
  exact ⟨mode.trans steady.mode, stack.trans steady.stack, placed.trans steady.placed,
    newline.trans steady.newline, sure.trans steady.sure, container.trans steady.container,
    steady.standing, steady.descends, steady.since⟩

theorem Calm.alike (calm : Calm frames c) {p : Progress} (same : essence p = essence c.progress)
    (formatting : p.formatting = c.progress.formatting) : Calm frames { c with progress := p } :=
  ⟨calm.toSteady.alike same, formatting.trans calm.formatting⟩

-- Nothing has to be opened again.
theorem Calm.reconstruct (calm : Calm frames c) : reconstruct c = .ok () c := by
  have closed (p : Option Site → Bool) (stops : ∀ site ∈ c.progress.openElements, p (some site) = false) :
      c.progress.formatting.takeWhile p = [] := by
    rw [calm.stack] at stops
    rw [calm.formatting, formattingOf]
    cases going : (frames.map Frame.site).filter fun s => Elements.formattingEnds.contains s.name with
    | nil => rfl
    | cons site sites =>
      have member : site ∈ frames.map Frame.site :=
        List.mem_of_mem_filter (going ▸ List.mem_cons_self)
      simp [stops site member]
  simp only [Construct.reconstruct, bind_run, progress_run]
  rw [closed _ fun site member => by simp [member]]
  rfl

theorem rulesFor_run (steady : Steady (frame :: outer) c) (token : Token) :
    rulesFor token c = .ok (.of .inBody) c := by
  have first : c.progress.current? = some frame.site := by simp [Progress.current?, steady.stack]
  have home : c.builder.takesAsForeign frame.site token = false := by
    simp [Builder.takesAsForeign, Frame.site]
  simp [rulesFor, bind_run, first, home, steady.mode]

-- A token that is done with at the first look.
theorem take_run {token : Token}
    (ran : takeOnce token { c with progress := { c.progress with acknowledged := false } } = .ok .done d)
    (plain : ∀ tag, token = .start tag → tag.selfClosing = false) : take token c = .ok () d := by
  have once (fuel : Nat) : takeWhileAgain token (fuel + 1)
      { c with progress := { c.progress with acknowledged := false } } = .ok () d := by
    rw [takeWhileAgain, bind_run, ran]
    rfl
  unfold take
  refine (EStateM.bind_ok (update_run _ c) _).trans ?_
  refine (EStateM.bind_ok (progress_run _) _).trans ?_
  refine (EStateM.bind_ok (once _) _).trans ?_
  cases token with
  | start tag =>
    simp [plain tag rfl]
    rfl
  | _ => rfl

-- What a token does while these elements are open: which are open then is told by `after`, and
-- scanning has not been touched.
def Takes (origin : Forest) (frames : List Frame) (token : Token) (after : List Frame → Prop) : Prop :=
  ∀ c : Construction origin, Calm frames c → ∃ d now, take token c = .ok () d ∧ after now ∧ Calm now d ∧
    d.progress.scanner = c.progress.scanner

theorem Takes.of_once {token : Token} {after : List Frame → Prop}
    (once : ∀ c : Construction origin, Calm frames c → ∃ d now, takeOnce token c = .ok .done d ∧
      after now ∧ Calm now d ∧ d.progress.scanner = c.progress.scanner)
    (plain : ∀ tag, token = .start tag → tag.selfClosing = false) : Takes origin frames token after := by
  intro c calm
  obtain ⟨d, now, ran, holds, still, same⟩ := once
    { c with progress := { c.progress with acknowledged := false } } (calm.alike rfl rfl)
  exact ⟨d, now, take_run ran plain, holds, still, same⟩

theorem takes_fault (fault : Fault) : Takes origin frames (.fault fault) (· = frames) :=
  .of_once (fun _ calm => ⟨_, _, rfl, rfl, calm.alike rfl rfl, rfl⟩) nofun

-- Text goes into the current element, whichever kind of piece it is.
theorem takes_piece {token : Token} {data : String} {now : Frame}
    (piece : token = .text data ∧ isNull data = false ∨ token = .space data ∧ data ≠ "")
    (site : now.site = frame.site)
    (inserts : ∀ c : Construction origin, Steady (frame :: outer) c → ∃ d, insertText data c = .ok () d ∧
      Steady (now :: outer) d ∧ d.progress = c.progress) :
    Takes origin (frame :: outer) token (· = now :: outer) := by
  refine .of_once (fun c calm => ?_) ?_
  · have formatting : formattingOf (now :: outer) = formattingOf (frame :: outer) := by
      rw [formattingOf, formattingOf, List.map_cons, List.map_cons, site]
    rcases piece with ⟨rfl, solid⟩ | ⟨rfl, nonempty⟩
    · obtain ⟨d, inserted, steady, same⟩ := inserts c calm.toSteady
      have still : Calm (now :: outer) d := ⟨steady, by rw [same, calm.formatting, formatting]⟩
      have scanner : d.progress.scanner = c.progress.scanner := by rw [same]
      have looked : takeOnce (.text data) c = Rules.textInBody data c :=
        EStateM.bind_ok (rulesFor_run calm.toSteady _) _
      by_cases blank : isAllSpace data = true
      · refine ⟨d, _, ?_, rfl, still, scanner⟩
        rw [looked]
        simp [Rules.textInBody, solid, bind_run, calm.reconstruct, inserted, blank, map_run, done]
      · refine ⟨{ d with progress := { d.progress with framesetOk := false } }, _, ?_, rfl, still.alike rfl rfl,
          scanner⟩
        rw [looked]
        simp [Rules.textInBody, solid, bind_run, calm.reconstruct, inserted, blank, noFrameset, map_run, done]
    · obtain ⟨d, inserted, steady, same⟩ := inserts c calm.toSteady
      have still : Calm (now :: outer) d := ⟨steady, by rw [same, calm.formatting, formatting]⟩
      refine ⟨d, _, ?_, rfl, still, by rw [same]⟩
      have looked : takeOnce (.space data) c = Rules.spaceInBody data c :=
        EStateM.bind_ok (rulesFor_run calm.toSteady _) _
      have kept : update (fun p => { p with skipNewline := false }) c = .ok () c := by
        have same : { c.progress with skipNewline := false } = c.progress := by rw [← calm.newline]
        rw [update_run, same]
      rw [looked]
      unfold Rules.spaceInBody
      refine (EStateM.bind_ok (progress_run c) _).trans ?_
      refine (EStateM.bind_ok (builder_run c) _).trans ?_
      refine (EStateM.bind_ok calm.toSteady.current _).trans ?_
      refine (EStateM.bind_ok kept _).trans ?_
      simp [calm.newline, nonempty, bind_run, map_run, calm.reconstruct, inserted, done]
  · rcases piece with ⟨rfl, _⟩ | ⟨rfl, _⟩ <;> (intro tag same; cases same)

theorem takes_comment (data : String) : Takes origin (frame :: outer) (.comment data)
    (· = frame.grown (.comment (some data)) :: outer) := by
  refine .of_once (fun c calm => ?_) nofun
  obtain ⟨d, inserted, steady, same⟩ := insertComment_run calm.toSteady data
  refine ⟨d, _, ?_, rfl, ⟨steady, by rw [same, calm.formatting]; rfl⟩, by rw [same]⟩
  refine (EStateM.bind_ok (rulesFor_run calm.toSteady _) _).trans ?_
  exact EStateM.bind_ok inserted _

end Construct

namespace Progress

variable {p : Progress} {site : Site} {rest : List Site}

theorem closeImplied_stays (first : p.openElements = site :: rest) (except : Option String)
    (stays : Elements.endImplied.contains site.name = false ∨ except = some site.name) :
    p.closeImplied except = p := by
  have stops : (Elements.endImplied.contains site.name && some site.name != except) = false := by
    rcases stays with explicit | rfl
    · rw [explicit]
      rfl
    · simp
  rw [closeImplied, first, List.dropWhile_cons, stops, if_neg Bool.false_ne_true, ← first]

theorem popThrough_first (first : p.openElements = site :: rest) (last : Site → Bool)
    (here : last site = true) : p.popThrough last = { p with openElements := rest } := by
  simp [popThrough, popUntil, pop, first, here]

theorem inReach_first (first : p.openElements = site :: rest) (reach : Reach)
    (html : site.uri = some Namespace.html) : p.inReach reach site.name = true := by
  have wanted : site.qualified = (Namespace.html, site.name) := by
    rw [Site.qualified, html]
    rfl
  simp [inReach, Reach.finds, first, wanted]

theorem inReach_absent {reach : Reach} {name : String} (absent : ∀ s ∈ p.openElements, s.name ≠ name) :
    p.inReach reach name = false := by
  have missed (sites : List Site) (absent : ∀ s ∈ sites, s.name ≠ name) :
      reach.finds (fun s => s.qualified == (Namespace.html, name)) sites = false := by
    induction sites with
    | nil => rfl
    | cons s sites ih =>
      have other : (s.qualified == (Namespace.html, name)) = false := by
        refine beq_eq_false_iff_ne.mpr fun same => ?_
        exact absent s List.mem_cons_self (congrArg Prod.snd same)
      have rest := ih fun t member => absent t (List.mem_cons_of_mem _ member)
      simp [Reach.finds, other, rest]
  exact missed p.openElements absent

end Progress

namespace Rules

open Construct Progress

variable {origin : Forest} {c : Construction origin} {site : Site} {rest : List Site}

-- The construction once the current element has been closed.
def shut (c : Construction origin) (rest : List Site) : Construction origin :=
  { c with progress := { c.progress with openElements := rest } }

theorem inReach_run (reach : Reach) (name : String) (c : Construction origin) :
    Construct.inReach reach name c = .ok (c.progress.inReach reach name) c := rfl

theorem currentIs_first (first : c.progress.openElements = site :: rest) (names : List String)
    (member : site.name ∈ names) : currentIs names c = .ok true c := by
  simp [currentIs, bind_run, currentName, current?, first, member]

theorem endOrdinary_first (first : c.progress.openElements = site :: rest) :
    endOrdinary site.name c = .ok () (shut c rest) := by
  have stays := closeImplied_stays first (some site.name) (.inr rfl)
  have here := currentIs_first first [site.name] (List.mem_singleton.mpr rfl)
  have popped := popThrough_first first (· == site) (by simp)
  simp [endOrdinary, bind_run, first, closeImpliedExcept, stays, here, popped, shut]

theorem endParagraph_first (first : c.progress.openElements = site :: rest) (named : site.name = "p")
    (html : site.uri = some Namespace.html) : endParagraph c = .ok () (shut c rest) := by
  have found := inReach_first first .button html
  have stays := closeImplied_stays first (some "p") (.inr (by rw [named]))
  have here := currentIs_first first ["p"] (by simp [named])
  have popped := popThrough_first first (·.name == "p") (by simp [named])
  rw [named] at found
  simp [endParagraph, inReach_run, bind_run, found, closeImpliedExcept, stays, here, popThroughNamed,
    popped, shut]

theorem endBlock_first (first : c.progress.openElements = site :: rest) (block : site.name ≠ "pre")
    (explicit : Elements.endImplied.contains site.name = false) (html : site.uri = some Namespace.html) :
    endBlock site.name c = .ok () (shut c rest) := by
  have found := inReach_first first .usual html
  have stays := closeImplied_stays first none (.inl explicit)
  have here := currentIs_first first [site.name] (List.mem_singleton.mpr rfl)
  have popped := popThrough_first first (·.name == site.name) (by simp)
  simp [endBlock, block, inReach_run, bind_run, found, Construct.closeImplied, stays, here, popThroughNamed,
    popped, shut]

theorem endListItem_first (first : c.progress.openElements = site :: rest)
    (html : site.uri = some Namespace.html) : endListItem site.name c = .ok () (shut c rest) := by
  have found := inReach_first first (if site.name == "li" then .list else .usual) html
  have stays := closeImplied_stays first (some site.name) (.inr rfl)
  have here := currentIs_first first [site.name] (List.mem_singleton.mpr rfl)
  have popped := popThrough_first first (·.name == site.name) (by simp)
  simp only [endListItem, inReach_run, bind_run, found, closeImpliedExcept, update_run, stays, here,
    popThroughNamed, popped, shut, if_true, Bool.not_true, Bool.false_eq_true, if_false]

theorem endHeading_first (first : c.progress.openElements = site :: rest)
    (heading : site.name ∈ Elements.headings) (html : site.uri = some Namespace.html) :
    endHeading site.name c = .ok () (shut c rest) := by
  have found : Elements.headings.any (c.progress.inReach .usual) = true :=
    List.any_eq_true.mpr ⟨site.name, heading, inReach_first first .usual html⟩
  have explicit : Elements.endImplied.contains site.name = false := by
    have apart : ∀ name ∈ Elements.headings, Elements.endImplied.contains name = false := by decide
    exact apart _ heading
  have stays := closeImplied_stays first none (.inl explicit)
  have here := currentIs_first first [site.name] (List.mem_singleton.mpr rfl)
  have popped := popThrough_first first (Elements.headings.contains ·.name) (by simp [heading])
  simp only [endHeading, bind_run, progress_run, found, Construct.closeImplied, update_run, stays, here,
    popped, shut, if_true, Bool.not_true, Bool.false_eq_true, if_false]

end Rules

namespace Construct

open Forest Rules

variable {origin : Forest} {c : Construction origin} {current frame : Frame} {frames outer : List Frame}

-- The construction once only these elements are open.
def downTo (c : Construction origin) (frames : List Frame) : Construction origin :=
  { c with progress := { c.progress with
      openElements := frames.map Frame.site
      formatting := formattingOf frames } }

theorem Calm.closed (calm : Calm (current :: frame :: outer) c) :
    Calm (frame.grown current.tree :: outer) (downTo c (frame :: outer)) := by
  have left := calm.toSteady.left rfl
  exact ⟨left.alike rfl, rfl⟩

theorem Calm.shut (calm : Calm (current :: outer) c)
    (other : Elements.formattingEnds.contains current.name = false) :
    shut c (outer.map Frame.site) = downTo c outer := by
  have formatting : c.progress.formatting = formattingOf outer := by
    rw [calm.formatting, formattingOf, List.map_cons, List.filter_cons_of_neg]
    · rfl
    · simpa [Frame.site] using other
  rw [downTo, ← formatting]
  rfl

theorem Calm.endFormatting (calm : Calm (current :: outer) c)
    (formatting : Elements.formattingEnds.contains current.name = true) :
    endFormattingTag current.name c = .ok () (downTo c outer) := by
  have active : c.progress.formatting = some current.site :: formattingOf outer := by
    rw [calm.formatting, formattingOf, List.map_cons, List.filter_cons_of_pos]
    · rfl
    · exact formatting
  have first : c.progress.openElements = current.site :: outer.map Frame.site := calm.stack
  have latest : c.progress.formattingNamed? current.name = some current.site := by
    simp [Progress.formattingNamed?, Progress.activeFormatting, active, Frame.site]
  have found := Progress.inReach_first first .usual rfl
  have popped := Progress.popThrough_first first (· == current.site) (by simp)
  simp [endFormattingTag, Construct.endFormatting, bind_run, latest, first, found, popped,
    Progress.current?, downTo, Progress.removeFormatting, active]

-- End tags that mean something of their own in the body.
def endNames : List String :=
  ["body", "html", "form", "p", "dd", "dt", "li", "applet", "marquee", "object", "br"]

theorem endInBody_other {name : String} (other : name ∉ endNames) :
    (endInBody name : Construct origin Reply) = (do
      if Elements.blockEnds.contains name then endBlock name
      else if Elements.headings.contains name then endHeading name
      else if Elements.formattingEnds.contains name then endFormattingTag name
      else endOrdinary name
      done) := by
  unfold endInBody
  split
  all_goals first
    | rfl
    | exact absurd (by decide) other

theorem endInBody_item {name : String} (item : name ∈ ["li", "dd", "dt"]) :
    (endInBody name : Construct origin Reply) = (do
      endListItem name
      done) := by
  simp only [List.mem_cons, List.not_mem_nil, or_false] at item
  rcases item with rfl | rfl | rfl <;> rfl

-- Elements whose end tag closes more than themselves, or does more than close.
def endsApart : List String := ["body", "html", "form", "applet", "marquee", "object", "br", "pre"]

theorem Calm.ended (calm : Calm (current :: outer) c) (simple : current.name ∉ endsApart) :
    endInBody current.name c = .ok .done (downTo c outer) := by
  have first : c.progress.openElements = current.site :: outer.map Frame.site := calm.stack
  by_cases special : current.name ∈ endNames
  · have kind : current.name = "p" ∨ current.name ∈ ["li", "dd", "dt"] := by
      have either : ∀ name ∈ endNames, name ∉ endsApart → name = "p" ∨ name ∈ ["li", "dd", "dt"] := by
        decide
      exact either _ special simple
    have plain : Elements.formattingEnds.contains current.name = false := by
      have apart : ∀ name ∈ endNames, Elements.formattingEnds.contains name = false := by decide
      exact apart _ special
    rw [← calm.shut plain]
    rcases kind with paragraph | item
    · rw [paragraph]
      exact EStateM.bind_ok (endParagraph_first first paragraph rfl) _
    · rw [endInBody_item item]
      exact EStateM.bind_ok (endListItem_first first rfl) _
  · rw [endInBody_other special]
    by_cases formatting : Elements.formattingEnds.contains current.name = true
    · have neither : ∀ name ∈ Elements.formattingEnds, Elements.blockEnds.contains name = false ∧
          Elements.headings.contains name = false := by decide
      obtain ⟨block, heading⟩ := neither _ (List.contains_iff_mem.mp formatting)
      rw [if_neg (by rw [block]; nofun), if_neg (by rw [heading]; nofun), if_pos formatting]
      exact EStateM.bind_ok (calm.endFormatting formatting) _
    · rw [← calm.shut (Bool.eq_false_iff.mpr formatting)]
      split_ifs with block heading
      · have explicit : ∀ name ∈ Elements.blockEnds, Elements.endImplied.contains name = false := by decide
        have other : current.name ≠ "pre" := fun same => simple (same ▸ by decide)
        exact EStateM.bind_ok
          (endBlock_first first other (explicit _ (List.contains_iff_mem.mp block)) rfl) _
      · exact EStateM.bind_ok (endHeading_first first (List.contains_iff_mem.mp heading) rfl) _
      · exact EStateM.bind_ok (endOrdinary_first first) _

-- The end tag of the current element.
theorem takes_end (simple : current.name ∉ endsApart) :
    Takes origin (current :: frame :: outer) (.close ⟨current.name, [], false, false⟩)
      (· = frame.grown current.tree :: outer) := by
  refine .of_once (fun c calm => ⟨_, _, ?_, rfl, calm.closed, rfl⟩) nofun
  refine (EStateM.bind_ok (rulesFor_run calm.toSteady _) _).trans ?_
  exact calm.ended simple

end Construct

end HtmlTree

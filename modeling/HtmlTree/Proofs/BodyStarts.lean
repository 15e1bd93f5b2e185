import HtmlTree.Proofs.BodyRules

namespace HtmlTree

namespace Construct

open Forest Rules

variable {origin : Forest} {c : Construction origin} {frame : Frame} {frames outer : List Frame} {tag : Tag}

-- Start tags that mean something of their own in the body.
def startNames : List String :=
  ["html", "body", "frameset", "pre", "listing", "form", "li", "dd", "dt", "plaintext", "a", "nobr", "button",
   "applet", "marquee", "object", "xmp", "table", "area", "br", "embed", "img", "keygen", "wbr", "param",
   "source", "track", "input", "hr", "image", "isindex", "textarea", "iframe", "noembed", "noframes", "select",
   "rp", "rt", "option", "optgroup", "math", "svg", "caption", "col", "colgroup", "frame", "head", "tbody",
   "td", "tfoot", "th", "thead", "tr"]

theorem startInBody_other (other : tag.name ∉ startNames) :
    (startInBody tag : Construct origin Reply) =
      if Elements.headStarts.contains tag.name then startInHead tag
      else (do
        if Elements.blockStarts.contains tag.name then startBlock tag
        else if Elements.headings.contains tag.name then startHeading tag
        else if Elements.formatting.contains tag.name then
          reconstruct
          insertFormatting tag
        else startOrdinary tag
        done) := by
  unfold startInBody
  split
  all_goals first
    | rfl
    | (rename_i same; exact absurd (same ▸ by decide) other)

-- What opens one element inside these, and does no more to speak of.
def Opens (origin : Forest) (frames : List Frame) (tag : Tag) (act : Construct origin Unit) : Prop :=
  ∀ c : Construction origin, Calm frames c → ∃ n d, act c = .ok () d ∧
    Calm (⟨n, tag.name, tag.attributes, []⟩ :: frames) d ∧ d.progress.scanner = c.progress.scanner

theorem insertElement_opens (named : Node.isTagName tag.name = true)
    (plain : Elements.formattingEnds.contains tag.name = false) :
    Opens origin (frame :: outer) tag (insertElement tag) := by
  intro c calm
  obtain ⟨n, d, inserted, steady, same⟩ := insertElement_run calm.toSteady named
  refine ⟨n, d, inserted, ⟨steady, ?_⟩, by rw [same]; rfl⟩
  have passed : formattingOf (⟨n, tag.name, tag.attributes, []⟩ :: frame :: outer) =
      formattingOf (frame :: outer) := by
    rw [formattingOf, List.map_cons, List.filter_cons_of_neg]
    · rfl
    · simpa [Frame.site] using plain
  rw [same, passed]
  exact calm.formatting

theorem activeFormatting_of {p : Progress} {sites : List Site} (listed : p.formatting = sites.map some) :
    p.activeFormatting = sites := by
  rw [Progress.activeFormatting, listed, List.takeWhile_eq_self_iff.mpr (by simp)]
  simp

theorem alike_le (alike : Site → Bool) (name : String)
    (named : ∀ s : Site, alike s = true → s.name = name) (frames : List Frame) :
    (((frames.map Frame.site).filter fun s => Elements.formattingEnds.contains s.name).filter alike).length ≤
      (frames.map Frame.name).count name := by
  rw [← List.countP_eq_length_filter, List.count, List.countP_map]
  refine Nat.le_trans (List.filter_sublist.countP_le (p := alike)) ?_
  rw [List.countP_map]
  refine List.countP_mono_left fun frame _ same => ?_
  exact beq_iff_eq.mpr (named frame.site same)

-- Formatting that is not open too often already.
theorem insertFormatting_opens (named : Node.isTagName tag.name = true)
    (formatting : Elements.formattingEnds.contains tag.name = true)
    (few : ((frame :: outer).map Frame.name).count tag.name < 3) :
    Opens origin (frame :: outer) tag (insertFormatting tag) := by
  intro c calm
  obtain ⟨n, d, opened, steady, same⟩ := openElement_run calm.toSteady named tag.attributes
  have listed : d.progress.formatting = formattingOf (frame :: outer) := by
    rw [same]
    exact calm.formatting
  refine ⟨n, { d with progress := { d.progress with
    formatting := some (Frame.mk n tag.name tag.attributes []).site :: d.progress.formatting } }, ?_, ?_, ?_⟩
  · refine (EStateM.bind_ok opened _).trans ?_
    refine (EStateM.bind_ok (builder_run d) _).trans ?_
    refine (EStateM.bind_ok (progress_run d) _).trans ?_
    rw [activeFormatting_of listed]
    split
    · rename_i three
      have short := alike_le (fun s => s.qualified == (Frame.mk n tag.name tag.attributes []).site.qualified &&
        (d.builder.attributes s).agrees
          (d.builder.attributes (Frame.mk n tag.name tag.attributes []).site)) tag.name
        (fun s both => congrArg Prod.snd (eq_of_beq (Bool.and_eq_true_iff.mp both).1)) (frame :: outer)
      have whole := Nat.le_of_eq (congrArg List.length three).symm
      exact absurd (Nat.lt_of_le_of_lt (Nat.le_trans whole short) few) (Nat.lt_irrefl 3)
    · rfl
  · refine ⟨steady.alike rfl, ?_⟩
    rw [formattingOf, List.map_cons, List.filter_cons_of_pos]
    · exact congrArg _ listed
    · exact formatting
  · rw [same]
    rfl

theorem unreached {c : Construction origin} (calm : Calm frames c) (reach : Reach) {name : String}
    (absent : name ∉ frames.map Frame.name) : c.progress.inReach reach name = false := by
  refine Progress.inReach_absent fun s member => ?_
  rw [calm.stack] at member
  rintro same
  obtain ⟨frame, inside, rfl⟩ := List.mem_map.mp member
  exact absent (List.mem_map.mpr ⟨frame, inside, same⟩)

theorem closeParagraph_run {c : Construction origin} (calm : Calm frames c)
    (absent : "p" ∉ frames.map Frame.name) : closeParagraph c = .ok () c := by
  simp [closeParagraph, inReach_run, bind_run, unreached calm .button absent]

theorem startOrdinary_opens (named : Node.isTagName tag.name = true)
    (plain : Elements.formattingEnds.contains tag.name = false) :
    Opens origin (frame :: outer) tag (startOrdinary tag) := by
  intro c calm
  obtain ⟨n, d, opened, after⟩ := insertElement_opens named plain c calm
  exact ⟨n, d, (EStateM.bind_ok calm.reconstruct _).trans opened, after⟩

theorem startBlock_opens (named : Node.isTagName tag.name = true)
    (plain : Elements.formattingEnds.contains tag.name = false)
    (absent : "p" ∉ (frame :: outer).map Frame.name) :
    Opens origin (frame :: outer) tag (startBlock tag) := by
  intro c calm
  obtain ⟨n, d, opened, after⟩ := insertElement_opens named plain c calm
  exact ⟨n, d, (EStateM.bind_ok (closeParagraph_run calm absent) _).trans opened, after⟩

theorem startHeading_opens (named : Node.isTagName tag.name = true)
    (plain : Elements.formattingEnds.contains tag.name = false)
    (absent : "p" ∉ (frame :: outer).map Frame.name)
    (outside : Elements.headings.contains frame.name = false) :
    Opens origin (frame :: outer) tag (startHeading tag) := by
  intro c calm
  obtain ⟨n, d, opened, after⟩ := insertElement_opens named plain c calm
  have other : currentIs Elements.headings c = .ok false c := by
    simp only [currentIs, bind_run, progress_run, calm.toSteady.named, outside, pure_run]
  refine ⟨n, d, ?_, after⟩
  refine (EStateM.bind_ok (closeParagraph_run calm absent) _).trans ?_
  exact (EStateM.bind_ok other _).trans opened

theorem noFrameset_run {c : Construction origin} (calm : Calm frames c) :
    ∃ d, noFrameset c = .ok () d ∧ Calm frames d ∧ d.progress.scanner = c.progress.scanner :=
  ⟨_, rfl, calm.alike rfl rfl, rfl⟩

-- The names of the items that an item closes.
def itemStops (name : String) : List String := if name == "li" then ["li"] else ["dt", "dd"]

-- Where the search for an earlier item ends.
def itemBound (stops : List String) (name : String) : Bool :=
  stops.contains name || (Elements.special.contains (Namespace.html, name) && !Elements.plainBlocks.contains name)

-- Whether an item of this name would close none that is open.
def itemFits (names : List String) (name : String) : Bool :=
  (names.find? (itemBound (itemStops name))).all fun s => !(itemStops name).contains s

theorem itemFits_keeps {name : String} (fits : itemFits (frames.map Frame.name) name = true) :
    ∀ s ∈ (frames.map Frame.site).find? (fun s => (itemStops name).contains s.name ||
        (Elements.special.contains s.qualified && !Elements.plainBlocks.contains s.name)),
      (itemStops name).contains s.name = false := by
  intro s found
  rw [List.find?_map] at found
  obtain ⟨frame, inside, rfl⟩ := Option.map_eq_some_iff.mp found
  have named : (frames.map Frame.name).find? (itemBound (itemStops name)) = some frame.name := by
    rw [List.find?_map]
    exact congrArg _ inside
  rw [itemFits, named] at fits
  simpa [Frame.site] using fits

theorem startListItem_opens (named : Node.isTagName tag.name = true)
    (plain : Elements.formattingEnds.contains tag.name = false)
    (absent : "p" ∉ (frame :: outer).map Frame.name)
    (fits : itemFits ((frame :: outer).map Frame.name) tag.name = true) :
    Opens origin (frame :: outer) tag (startListItem tag) := by
  intro c calm
  obtain ⟨c', began, calm', same⟩ := noFrameset_run calm
  obtain ⟨n, d, opened, after, scanner⟩ := insertElement_opens named plain c' calm'
  refine ⟨n, d, ?_, after, scanner.trans same⟩
  have here : (do
      if ← Construct.inReach .button "p" then endHere "p"
      insertElement tag) c' = .ok () d := by
    simp [bind_run, inReach_run, unreached calm' .button absent, opened]
  unfold startListItem
  refine (EStateM.bind_ok began _).trans ?_
  refine (EStateM.bind_ok (progress_run _) _).trans ?_
  have keeps := itemFits_keeps fits
  rw [calm'.stack]
  unfold itemStops at keeps
  dsimp only
  generalize ((frame :: outer).map Frame.site).find? _ = found at keeps ⊢
  cases found with
  | none => exact here
  | some site =>
    dsimp only
    rw [if_neg (ne_true_of_eq_false (keeps site rfl))]
    exact here

theorem reformat_opens (named : Node.isTagName tag.name = true)
    (formatting : Elements.formattingEnds.contains tag.name = true)
    (few : ((frame :: outer).map Frame.name).count tag.name < 3) :
    Opens origin (frame :: outer) tag (do reconstruct; insertFormatting tag) := by
  intro c calm
  obtain ⟨n, d, opened, after⟩ := insertFormatting_opens named formatting few c calm
  exact ⟨n, d, (EStateM.bind_ok calm.reconstruct _).trans opened, after⟩

theorem startAnchor_opens (named : Node.isTagName tag.name = true) (anchor : tag.name = "a")
    (absent : "a" ∉ (frame :: outer).map Frame.name) :
    Opens origin (frame :: outer) tag (startAnchor tag) := by
  intro c calm
  have few : ((frame :: outer).map Frame.name).count tag.name < 3 := by
    rw [anchor, List.count_eq_zero.mpr absent]
    decide
  obtain ⟨n, d, opened, after⟩ := reformat_opens named (by rw [anchor]; rfl) few c calm
  have none : c.progress.formattingNamed? "a" = none := by
    rw [Progress.formattingNamed?, activeFormatting_of calm.formatting, List.find?_eq_none]
    intro site member same
    obtain ⟨frame, inside, rfl⟩ := List.mem_map.mp (List.mem_of_mem_filter member)
    exact absent (List.mem_map.mpr ⟨frame, inside, eq_of_beq same⟩)
  refine ⟨n, d, ?_, after⟩
  unfold startAnchor
  refine (EStateM.bind_ok (progress_run c) _).trans ?_
  rw [none]
  exact opened

theorem startNobr_opens (named : Node.isTagName tag.name = true) (nobr : tag.name = "nobr")
    (absent : "nobr" ∉ (frame :: outer).map Frame.name) :
    Opens origin (frame :: outer) tag (startNobr tag) := by
  intro c calm
  have few : ((frame :: outer).map Frame.name).count tag.name < 3 := by
    rw [nobr, List.count_eq_zero.mpr absent]
    decide
  obtain ⟨n, d, opened, after⟩ := insertFormatting_opens named (by rw [nobr]; rfl) few c calm
  refine ⟨n, d, ?_, after⟩
  simp [startNobr, bind_run, calm.reconstruct, inReach_run, unreached calm .usual absent, opened]

theorem startButton_run (named : Node.isTagName tag.name = true) (button : tag.name = "button")
    (absent : "button" ∉ (frame :: outer).map Frame.name) {c : Construction origin}
    (calm : Calm (frame :: outer) c) : ∃ n d, startButton tag c = .ok .done d ∧
      Calm (⟨n, tag.name, tag.attributes, []⟩ :: frame :: outer) d ∧
      d.progress.scanner = c.progress.scanner := by
  obtain ⟨n, d, opened, after, same⟩ := insertElement_opens named (by rw [button]; rfl) c calm
  obtain ⟨e, shown, still, kept⟩ := noFrameset_run after
  refine ⟨n, e, ?_, still, kept.trans same⟩
  simp [startButton, bind_run, inReach_run, unreached calm .usual absent, calm.reconstruct, opened,
    map_run, shown, done]

-- Whether an element of this name, when it is written inside these, is opened there and nothing
-- else is closed or opened.
def admits (names : List String) (name : String) : Bool :=
  if Elements.blockStarts.contains name then !names.contains "p"
  else if Elements.headings.contains name then
    !names.contains "p" && !Elements.headings.contains (names.headD "")
  else if ["li", "dd", "dt"].contains name then !names.contains "p" && itemFits names name
  else if ["a", "nobr", "button"].contains name then !names.contains name
  else if Elements.formatting.contains name then names.count name < 3
  else !(startNames.contains name || Elements.headStarts.contains name)

theorem startInBody_item (item : tag.name ∈ ["li", "dd", "dt"]) :
    (startInBody tag : Construct origin Reply) = (do
      startListItem tag
      done) := by
  simp only [List.mem_cons, List.not_mem_nil, or_false] at item
  rcases item with same | same | same <;> simp only [startInBody, same]

theorem startInBody_opens (named : Node.isTagName tag.name = true)
    (admitted : admits ((frame :: outer).map Frame.name) tag.name = true) {c : Construction origin}
    (calm : Calm (frame :: outer) c) : ∃ n d, startInBody tag c = .ok .done d ∧
      Calm (⟨n, tag.name, tag.attributes, []⟩ :: frame :: outer) d ∧
      d.progress.scanner = c.progress.scanner := by
  have finished {act : Construct origin Unit} (opens : Opens origin (frame :: outer) tag act)
      (same : (startInBody tag : Construct origin Reply) = (do act; done)) :
      ∃ n d, startInBody tag c = .ok .done d ∧
        Calm (⟨n, tag.name, tag.attributes, []⟩ :: frame :: outer) d ∧
        d.progress.scanner = c.progress.scanner := by
    obtain ⟨n, d, opened, after⟩ := opens c calm
    exact ⟨n, d, same ▸ EStateM.bind_ok opened _, after⟩
  unfold admits at admitted
  split_ifs at admitted with block heading item own formatting
  · have apart : ∀ name ∈ Elements.blockStarts, name ∉ startNames ∧
        Elements.headStarts.contains name = false ∧ Elements.formattingEnds.contains name = false := by decide
    obtain ⟨other, head, plain⟩ := apart _ (List.contains_iff_mem.mp block)
    refine finished (startBlock_opens named plain (by simpa using admitted)) ?_
    rw [startInBody_other other, head, if_neg Bool.false_ne_true, if_pos block]
  · have apart : ∀ name ∈ Elements.headings, name ∉ startNames ∧
        Elements.headStarts.contains name = false ∧ Elements.formattingEnds.contains name = false := by decide
    obtain ⟨other, head, plain⟩ := apart _ (List.contains_iff_mem.mp heading)
    obtain ⟨absent, outside⟩ := Bool.and_eq_true_iff.mp admitted
    refine finished (startHeading_opens named plain (by simpa using absent) (by simpa using outside)) ?_
    rw [startInBody_other other, head, if_neg Bool.false_ne_true, if_neg block, if_pos heading]
  · have apart : ∀ name ∈ ["li", "dd", "dt"], Elements.formattingEnds.contains name = false := by decide
    have member := List.contains_iff_mem.mp item
    obtain ⟨absent, fits⟩ := Bool.and_eq_true_iff.mp admitted
    exact finished (startListItem_opens named (apart _ member) (by simpa using absent) fits)
      (startInBody_item member)
  · have absent : tag.name ∉ (frame :: outer).map Frame.name := by simpa using admitted
    simp only [List.contains_iff_mem, List.mem_cons, List.not_mem_nil, or_false] at own
    rcases own with same | same | same
    · refine finished (startAnchor_opens named same (same ▸ absent)) ?_
      simp only [startInBody, same]
    · refine finished (startNobr_opens named same (same ▸ absent)) ?_
      simp only [startInBody, same]
    · have button : (startInBody tag : Construct origin Reply) = startButton tag := by
        simp only [startInBody, same]
      rw [button]
      exact startButton_run named same (same ▸ absent) calm
  · have apart : ∀ name ∈ Elements.formatting, name ∉ startNames ∧
        Elements.headStarts.contains name = false ∧ Elements.formattingEnds.contains name = true := by decide
    obtain ⟨other, head, formatted⟩ := apart _ (List.contains_iff_mem.mp formatting)
    have few : ((frame :: outer).map Frame.name).count tag.name < 3 := by simpa using admitted
    refine finished (reformat_opens named formatted few) ?_
    rw [startInBody_other other, head, if_neg Bool.false_ne_true, if_neg block, if_neg heading,
      if_pos formatting, bind_assoc]
  · simp only [Bool.not_eq_true', Bool.or_eq_false_iff] at admitted
    obtain ⟨other, head⟩ := admitted
    have plain : Elements.formattingEnds.contains tag.name = false := by
      refine Bool.eq_false_iff.mpr fun member => ?_
      simp only [Elements.formattingEnds, List.contains_cons, Bool.or_eq_true, beq_iff_eq] at member
      rcases member with same | same | inside
      · exact own (by rw [same]; rfl)
      · exact own (by rw [same]; rfl)
      · exact formatting inside
    refine finished (startOrdinary_opens named plain) ?_
    rw [startInBody_other (by simpa using other), head, if_neg Bool.false_ne_true, if_neg block,
      if_neg heading, if_neg formatting]

-- A start tag opens an element inside the current one.
theorem takes_start (named : Node.isTagName tag.name = true) (open? : tag.selfClosing = false)
    (admitted : admits ((frame :: outer).map Frame.name) tag.name = true) :
    Takes origin (frame :: outer) (.start tag) fun now =>
      ∃ n, now = ⟨n, tag.name, tag.attributes, []⟩ :: frame :: outer := by
  refine .of_once (fun c calm => ?_) fun other same => ?_
  · obtain ⟨n, d, opened, still, scanner⟩ := startInBody_opens named admitted calm
    refine ⟨d, _, ?_, ⟨n, rfl⟩, still, scanner⟩
    exact (EStateM.bind_ok (rulesFor_run calm.toSteady _) _).trans opened
  · cases same
    exact open?

-- What puts an element without content at the end of the current one.
def Leaves (origin : Forest) (frame : Frame) (outer : List Frame) (tag : Tag)
    (act : Construct origin Unit) : Prop :=
  ∀ c : Construction origin, Calm (frame :: outer) c → ∃ d, act c = .ok () d ∧
    Calm (frame.grown (.element tag.name (some "html") tag.attributes [] none) :: outer) d ∧
    d.progress.scanner = c.progress.scanner

theorem insertVoid_leaves (named : Node.isTagName tag.name = true)
    (plain : Elements.formattingEnds.contains tag.name = false) (other : tag.name ≠ "template") :
    Leaves origin frame outer tag (insertVoid tag) := by
  intro c calm
  obtain ⟨n, d, opened, after, same⟩ := insertElement_opens named plain c calm
  have tree : (Frame.mk n tag.name tag.attributes []).tree =
      .element tag.name (some "html") tag.attributes [] none := by
    simp [Frame.tree, Frame.isTemplate, other]
  have popped : pop d = .ok () (downTo d (frame :: outer)) := by
    rw [← after.shut plain, pop, update_run, Progress.pop, after.stack]
    rfl
  exact ⟨_, (EStateM.bind_ok opened _).trans popped, tree ▸ after.closed, same⟩

-- What leaves the open elements and all that is in them as they are.
def Quiet (origin : Forest) (act : Construct origin Unit) : Prop :=
  ∀ (frames : List Frame) (c : Construction origin), Calm frames c →
    ∃ d, act c = .ok () d ∧ Calm frames d ∧ d.progress.scanner = c.progress.scanner

theorem Leaves.next {act more : Construct origin Unit} (leaves : Leaves origin frame outer tag act)
    (quiet : Quiet origin more) : Leaves origin frame outer tag (do act; more) := by
  intro c calm
  obtain ⟨d, left, after, same⟩ := leaves c calm
  obtain ⟨e, ran, still, kept⟩ := quiet _ d after
  exact ⟨e, (EStateM.bind_ok left _).trans ran, still, kept.trans same⟩

theorem acknowledge_quiet (tag : Tag) : Quiet origin (acknowledge tag) := by
  intro frames c calm
  unfold acknowledge
  split
  · exact ⟨c, rfl, calm, rfl⟩
  · exact ⟨_, rfl, calm.alike rfl rfl, rfl⟩

theorem heedDeclared_quiet (tag : Tag) : Quiet origin (heedDeclared tag) :=
  fun _ c calm => ⟨c, by simp [heedDeclared, bind_run, calm.sure], calm, rfl⟩

theorem acknowledged_leaves (named : Node.isTagName tag.name = true)
    (plain : Elements.formattingEnds.contains tag.name = false) (other : tag.name ≠ "template") :
    Leaves origin frame outer tag (do insertVoid tag; acknowledge tag) :=
  (insertVoid_leaves named plain other).next (acknowledge_quiet tag)

theorem shown_leaves (named : Node.isTagName tag.name = true)
    (plain : Elements.formattingEnds.contains tag.name = false) (other : tag.name ≠ "template") :
    Leaves origin frame outer tag (do insertVoid tag; acknowledge tag; noFrameset) := by
  rw [← bind_assoc]
  exact (acknowledged_leaves named plain other).next fun _ _ => noFrameset_run

theorem startVoid_leaves (named : Node.isTagName tag.name = true)
    (plain : Elements.formattingEnds.contains tag.name = false) (other : tag.name ≠ "template") :
    Leaves origin frame outer tag (startVoid tag) := by
  intro c calm
  obtain ⟨d, left, after⟩ := shown_leaves named plain other c calm
  exact ⟨d, (EStateM.bind_ok calm.reconstruct _).trans left, after⟩

theorem startRule_leaves (named : Node.isTagName tag.name = true)
    (plain : Elements.formattingEnds.contains tag.name = false) (other : tag.name ≠ "template")
    (absent : "p" ∉ (frame :: outer).map Frame.name) :
    Leaves origin frame outer tag (startRule tag) := by
  intro c calm
  obtain ⟨d, left, after⟩ := shown_leaves named plain other c calm
  exact ⟨d, (EStateM.bind_ok (closeParagraph_run calm absent) _).trans left, after⟩

theorem startInput_leaves (named : Node.isTagName tag.name = true)
    (plain : Elements.formattingEnds.contains tag.name = false) (other : tag.name ≠ "template") :
    Leaves origin frame outer tag (startInput tag) := by
  intro c calm
  obtain ⟨d, left, after, same⟩ := startVoid_leaves named plain other c calm
  by_cases hidden : isHidden tag = true
  · refine ⟨_, ?_, after.alike (p := { d.progress with framesetOk := c.progress.framesetOk }) rfl rfl, same⟩
    refine (EStateM.bind_ok (progress_run c) _).trans ?_
    refine (EStateM.bind_ok left _).trans ?_
    rw [if_pos hidden, update_run]
  · refine ⟨d, ?_, after, same⟩
    refine (EStateM.bind_ok (progress_run c) _).trans ?_
    refine (EStateM.bind_ok left _).trans ?_
    rw [if_neg hidden]
    rfl

-- Void elements that are put in wherever they are.
def plainVoids : List String :=
  ["area", "br", "embed", "img", "keygen", "wbr", "param", "source", "track", "input", "base", "basefont",
   "bgsound", "link", "meta"]

def admitsVoid (names : List String) (name : String) : Bool :=
  plainVoids.contains name || (name == "hr" && !names.contains "p")

theorem startMeta_leaves (named : Node.isTagName tag.name = true)
    (plain : Elements.formattingEnds.contains tag.name = false) (other : tag.name ≠ "template") :
    Leaves origin frame outer tag (do insertVoid tag; acknowledge tag; heedDeclared tag) := by
  rw [← bind_assoc]
  exact (acknowledged_leaves named plain other).next (heedDeclared_quiet tag)

-- The start tag of a void element is dealt with in one of a few ways.
theorem startInBody_void (member : tag.name ∈ plainVoids) :
    (startInBody tag : Construct origin Reply) = (do startVoid tag; done) ∨
    (startInBody tag : Construct origin Reply) = (do insertVoid tag; acknowledge tag; done) ∨
    (startInBody tag : Construct origin Reply) = (do startInput tag; done) ∨
    (startInBody tag : Construct origin Reply) =
      (do insertVoid tag; acknowledge tag; heedDeclared tag; done) := by
  simp only [plainVoids, List.mem_cons, List.not_mem_nil, or_false] at member
  have head (known : Elements.headStarts.contains tag.name = true) (own : tag.name ∉ startNames) :
      (startInBody tag : Construct origin Reply) = startInHead tag := by
    rw [startInBody_other own, if_pos known]
  rcases member with same | same | same | same | same | same | member
  iterate 6 exact .inl (by simp only [startInBody, same])
  rcases member with same | same | same | same | member
  iterate 3 exact .inr (.inl (by simp only [startInBody, same]))
  · exact .inr (.inr (.inl (by simp only [startInBody, same])))
  rcases member with same | same | same | same | same
  iterate 4 exact .inr (.inl (by
    rw [head (by rw [same]; rfl) (by rw [same]; decide)]
    simp only [startInHead, same]))
  · refine .inr (.inr (.inr ?_))
    rw [head (by rw [same]; rfl) (by rw [same]; decide)]
    simp only [startInHead, same]

theorem startInBody_leaves (named : Node.isTagName tag.name = true)
    (admitted : admitsVoid ((frame :: outer).map Frame.name) tag.name = true) {c : Construction origin}
    (calm : Calm (frame :: outer) c) : ∃ d, startInBody tag c = .ok .done d ∧
      Calm (frame.grown (.element tag.name (some "html") tag.attributes [] none) :: outer) d ∧
      d.progress.scanner = c.progress.scanner := by
  have finished {act : Construct origin Unit} (leaves : Leaves origin frame outer tag act)
      (same : (startInBody tag : Construct origin Reply) = (do act; done)) :
      ∃ d, startInBody tag c = .ok .done d ∧
        Calm (frame.grown (.element tag.name (some "html") tag.attributes [] none) :: outer) d ∧
        d.progress.scanner = c.progress.scanner := by
    obtain ⟨d, left, after⟩ := leaves c calm
    exact ⟨d, same ▸ EStateM.bind_ok left _, after⟩
  rcases Bool.or_eq_true_iff.mp admitted with plain | rule
  · have member := List.contains_iff_mem.mp plain
    have apart : ∀ name ∈ plainVoids, Elements.formattingEnds.contains name = false ∧ name ≠ "template" := by
      decide
    obtain ⟨unformatted, other⟩ := apart _ member
    rcases startInBody_void member with same | same | same | same
    · exact finished (startVoid_leaves named unformatted other) same
    · refine finished (acknowledged_leaves named unformatted other) (same.trans ?_)
      simp only [bind_assoc]
    · exact finished (startInput_leaves named unformatted other) same
    · refine finished (startMeta_leaves named unformatted other) (same.trans ?_)
      simp only [bind_assoc]
  · obtain ⟨hr, absent⟩ := Bool.and_eq_true_iff.mp rule
    have same := eq_of_beq hr
    refine finished (startRule_leaves named (by rw [same]; rfl) (by rw [same]; decide)
      (by simpa using absent)) ?_
    simp only [startInBody, same]

-- The start tag of a void element.
theorem takes_void (named : Node.isTagName tag.name = true) (open? : tag.selfClosing = false)
    (admitted : admitsVoid ((frame :: outer).map Frame.name) tag.name = true) :
    Takes origin (frame :: outer) (.start tag)
      (· = frame.grown (.element tag.name (some "html") tag.attributes [] none) :: outer) := by
  refine .of_once (fun c calm => ?_) fun other same => ?_
  · obtain ⟨d, left, still, scanner⟩ := startInBody_leaves named admitted calm
    refine ⟨d, _, ?_, rfl, still, scanner⟩
    exact (EStateM.bind_ok (rulesFor_run calm.toSteady _) _).trans left
  · cases same
    exact open?

end Construct
end HtmlTree

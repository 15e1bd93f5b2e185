import HtmlTree.Construct.Run
import HtmlTree.Proofs.Growth

namespace HtmlTree

namespace Construct

open Forest

variable {origin : Forest} {α β : Type} {c d : Construction origin} {frame : Frame}
  {frames outer : List Frame}

theorem bind_run (e : Construct origin α) (next : α → Construct origin β) (c : Construction origin) :
    (e >>= next) c = match e c with
      | .ok value d => next value d
      | .error failure d => .error failure d := by
  cases ran : e c <;> simp [bind, EStateM.bind, ran]

theorem discard_run (e : Construct origin α) (c : Construction origin) :
    (discard e : Construct origin Unit) c = match e c with
      | .ok _ d => .ok () d
      | .error failure d => .error failure d := by
  cases ran : e c <;> simp [discard, Functor.discard, Functor.mapConst, EStateM.map, ran]

theorem map_run (change : α → β) (e : Construct origin α) (c : Construction origin) :
    (change <$> e) c = match e c with
      | .ok value d => .ok (change value) d
      | .error failure d => .error failure d := by
  cases ran : e c <;> simp [Functor.map, EStateM.map, ran]

@[simp] theorem pure_run (value : α) (c : Construction origin) :
    (pure value : Construct origin α) c = .ok value c := rfl

@[simp] theorem progress_run (c : Construction origin) : progress c = .ok c.progress c := rfl

@[simp] theorem builder_run (c : Construction origin) : builder c = .ok c.builder c := rfl

@[simp] theorem update_run (change : Progress → Progress) (c : Construction origin) :
    update change c = .ok () { c with progress := change c.progress } := rfl

theorem apply_run {step : BuildStep} {site : Option Site} {b : Builder}
    (ran : step.run c.builder = .ok site b) :
    ∃ d : Construction origin, apply step c = .ok site d ∧ d.builder = b ∧ d.progress = c.progress := by
  obtain ⟨builder, built, progress⟩ := c
  unfold apply
  split
  rename_i same
  cases same
  split
  · rename_i taken
    cases taken.symm.trans ran
    exact ⟨_, rfl, rfl, rfl⟩
  · rename_i taken
    cases taken.symm.trans ran

theorem make_run {step : BuildStep} {site : Site} {b : Builder}
    (ran : step.run c.builder = .ok (some site) b) :
    ∃ d : Construction origin, make step c = .ok site d ∧ d.builder = b ∧ d.progress = c.progress := by
  obtain ⟨d, applied, built, same⟩ := apply_run ran
  exact ⟨d, by simp [make, bind_run, applied], built, same⟩

theorem act_run {step : BuildStep} {site : Option Site} {b : Builder}
    (ran : step.run c.builder = .ok site b) :
    ∃ d : Construction origin, act step c = .ok () d ∧ d.builder = b ∧ d.progress = c.progress := by
  obtain ⟨d, applied, built, same⟩ := apply_run ran
  exact ⟨d, by simp [act, discard_run, applied], built, same⟩

-- Reading is in the body of a fragment, and these elements are open.
structure Steady (frames : List Frame) (c : Construction origin) : Prop where
  mode : c.progress.mode = .inBody
  stack : c.progress.openElements = frames.map Frame.site
  placed : c.progress.fostering = false
  newline : c.progress.skipNewline = false
  sure : c.progress.guessed = none
  container : c.progress.container = some "div"
  standing : c.builder.forest.Standing c.builder.forest.size [] frames
  descends : c.builder.forest.Descends origin.size
  since : ∀ frame ∈ frames, origin.size ≤ frame.holder

theorem Steady.current (steady : Steady (frame :: outer) c) : current c = .ok frame.site c := by
  have first : c.progress.current? = some frame.site := by simp [Progress.current?, steady.stack]
  simp [Construct.current, bind_run, first]

theorem Steady.named (steady : Steady (frame :: outer) c) : c.progress.currentName = frame.name := by
  simp [Progress.currentName, Progress.current?, steady.stack, Frame.site]

theorem Steady.misplaced (steady : Steady frames c) : misplaced c = .ok false c := by
  simp [Construct.misplaced, bind_run, steady.placed]

-- An element is put at the end of the current one, and opened.
theorem openElement_run (steady : Steady (frame :: outer) c) {name : String}
    (tag : Node.isTagName name = true) (attrs : Attributes) :
    ∃ n d, openElement name (some Namespace.html) attrs c = .ok (Frame.mk n name attrs []).site d ∧
      Steady (⟨n, name, attrs, []⟩ :: frame :: outer) d ∧
      d.progress = c.progress.push (Frame.mk n name attrs []).site := by
  have room : origin.size ≤ c.builder.forest.size := by
    obtain ⟨⟨ids, stands⟩, _⟩ := steady.standing
    exact Nat.le_of_lt (Nat.lt_of_le_of_lt
      (Nat.le_trans (steady.since frame List.mem_cons_self) frame.holder_le) stands.below)
  obtain ⟨b₁, n, ran₁, raised⟩ := Builder.element_run c.builder tag
  obtain ⟨c₁, made, built₁, same₁⟩ := make_run ran₁
  rw [← built₁] at raised
  obtain ⟨b₂, ran₂, raised⟩ := Builder.attributes_run raised attrs
  obtain ⟨c₂, told, built₂, same₂⟩ := act_run ran₂
  rw [← built₂] at raised
  obtain ⟨b₃, ran₃, standing, descends⟩ := Builder.enter_run raised steady.standing steady.descends
    (steady.since frame List.mem_cons_self)
  obtain ⟨c₃, entered, built₃, same₃⟩ := act_run ran₃
  rw [← built₃] at standing descends
  have progress : c₃.progress = c.progress := by rw [same₃, same₂, same₁]
  have apart : misplaced c₂ = .ok false c₂ := by
    have placed : c₂.progress.fostering = false := by rw [same₂, same₁, steady.placed]
    simp [Construct.misplaced, bind_run, placed]
  refine ⟨n, { c₃ with progress := c.progress.push (Frame.mk n name attrs []).site }, ?_, ?_, rfl⟩
  · have opened : update (·.push (Frame.mk n name attrs []).site) c₃ =
        .ok () { c₃ with progress := c.progress.push (Frame.mk n name attrs []).site } := by
      rw [update_run, progress]
    refine (EStateM.bind_ok steady.current _).trans ?_
    refine (EStateM.bind_ok made _).trans ?_
    refine (EStateM.bind_ok told _).trans ?_
    refine (EStateM.bind_ok apart _).trans ?_
    refine (EStateM.bind_ok entered _).trans ?_
    exact EStateM.bind_ok opened _
  · obtain ⟨mode, stack, placed, newline, sure, container, _, _, since⟩ := steady
    refine ⟨mode, ?_, placed, newline, sure, container, standing, descends, ?_⟩
    · rw [List.map_cons, ← stack]
      rfl
    · intro other member
      rcases List.mem_cons.mp member with rfl | outside
      · rw [raised.first]
        exact room
      · exact since other outside

theorem insertElement_run (steady : Steady (frame :: outer) c) {tag : Tag}
    (named : Node.isTagName tag.name = true) :
    ∃ n d, insertElement tag c = .ok () d ∧
      Steady (⟨n, tag.name, tag.attributes, []⟩ :: frame :: outer) d ∧
      d.progress = c.progress.push (Frame.mk n tag.name tag.attributes []).site := by
  obtain ⟨n, d, opened, after, same⟩ := openElement_run steady named tag.attributes
  exact ⟨n, d, by simp [insertElement, discard_run, opened], after, same⟩

-- The current element is closed.
theorem Steady.left {current : Frame} (steady : Steady (current :: frame :: outer) c) {p : Progress}
    (same : p = { c.progress with openElements := (frame :: outer).map Frame.site }) :
    Steady (frame.grown current.tree :: outer) { c with progress := p } := by
  subst same
  obtain ⟨mode, stack, placed, newline, sure, container, standing, descends, since⟩ := steady
  refine ⟨mode, rfl, placed, newline, sure, container, standing.left, descends, ?_⟩
  intro other member
  rcases List.mem_cons.mp member with rfl | outside
  · exact since frame (by simp)
  · exact since other (by simp [outside])

-- The builder has done something inside the current element.
theorem Steady.within (steady : Steady (frame :: outer) c) {now : Frame} (site : now.site = frame.site)
    (same : d.progress = c.progress)
    (standing : d.builder.forest.Standing d.builder.forest.size [] (now :: outer))
    (descends : d.builder.forest.Descends origin.size) : Steady (now :: outer) d := by
  obtain ⟨mode, stack, placed, newline, sure, container, _, _, since⟩ := steady
  rw [← same] at mode stack placed newline sure container
  refine ⟨mode, ?_, placed, newline, sure, container, standing, descends, ?_⟩
  · rw [stack, List.map_cons, List.map_cons, site]
  · intro other member
    rcases List.mem_cons.mp member with rfl | outside
    · have same : other.holder = frame.holder := by
        rw [Frame.holder, Frame.isTemplate, Frame.holder, Frame.isTemplate,
          show other.name = frame.name from congrArg Site.name site,
          show other.node = frame.node from congrArg Site.node site]
      rw [same]
      exact since frame List.mem_cons_self
    · exact since other (List.mem_cons_of_mem _ outside)

theorem insertText_within {now : Frame} {b : Builder} {data : String}
    (steady : Steady (frame :: outer) c) (site : now.site = frame.site)
    (ran : (BuildStep.text frame.site data none).run c.builder = .ok none b)
    (standing : b.forest.Standing b.forest.size [] (now :: outer))
    (descends : b.forest.Descends origin.size) :
    ∃ d, insertText data c = .ok () d ∧ Steady (now :: outer) d ∧ d.progress = c.progress := by
  obtain ⟨d, acted, built, same⟩ := act_run ran
  rw [← built] at standing descends
  refine ⟨d, ?_, steady.within site same standing descends, same⟩
  refine (EStateM.bind_ok steady.misplaced _).trans ?_
  exact (EStateM.bind_ok steady.current _).trans acted

theorem insertText_run (steady : Steady (frame :: outer) c)
    (other : ∀ t ∈ frame.kids.getLast?, t.isText = false) (data : String) :
    ∃ d, insertText data c = .ok () d ∧ Steady (frame.grown (.text (some data)) :: outer) d ∧
      d.progress = c.progress := by
  obtain ⟨b, ran, standing, descends⟩ := Builder.text_run steady.standing steady.descends
    (steady.since frame List.mem_cons_self) other data
  exact insertText_within steady rfl ran standing descends

theorem insertText_more {old : String} (steady : Steady (frame.grown (.text (some old)) :: outer) c)
    (data : String) :
    ∃ d, insertText data c = .ok () d ∧
      Steady (frame.grown (.text (some (old ++ data))) :: outer) d ∧ d.progress = c.progress := by
  obtain ⟨b, ran, standing, descends⟩ := Builder.more_run steady.standing steady.descends data
  exact insertText_within steady rfl ran standing descends

theorem insertComment_run (steady : Steady (frame :: outer) c) (data : String) :
    ∃ d, insertComment data c = .ok () d ∧ Steady (frame.grown (.comment (some data)) :: outer) d ∧
      d.progress = c.progress := by
  obtain ⟨site, b₁, b₂, ran₁, ran₂, standing, descends⟩ := Builder.comment_run steady.standing
    steady.descends (steady.since frame List.mem_cons_self) data
  obtain ⟨c₁, made, built₁, same₁⟩ := make_run ran₁
  rw [← built₁] at ran₂
  obtain ⟨c₂, acted, built₂, same₂⟩ := act_run ran₂
  rw [← built₂] at standing descends
  refine ⟨c₂, ?_, ?_, same₂.trans same₁⟩
  · refine (EStateM.bind_ok steady.current _).trans ?_
    exact (EStateM.bind_ok made _).trans acted
  · exact steady.within rfl (same₂.trans same₁) standing descends

end Construct

end HtmlTree

import HtmlTree.Proofs.TendedModes

namespace HtmlTree

open Forest EStateM

variable {f : Forest} {d : NodeId}

theorem Forest.Planted.note (planted : Planted d f) (entry : Note) : Planted d (f.note entry) where
  regular := {
    sound := planted.regular.sound.same (SameLinks.of_nodes rfl)
    shaped := planted.regular.shaped
    named := planted.regular.named
    leaf := planted.regular.leaf }
  alone := ⟨planted.alone.known, planted.alone.document, planted.alone.free⟩

-- What there is to rely on in a parser: it makes its tree of a text through the steps of a builder,
-- none of which calls an element like text or puts the document anywhere, and it gives the document
-- for the root.
structure Parser.Stepwise (parser : Parser) : Prop where
  assembled : ∀ {text parsed b}, parser .empty none (.text text) = .ok parsed b →
    Builder.Assembled .empty b
  rooted : ∀ {text parsed b}, parser .empty none (.text text) = .ok parsed b →
    parsed.root = b.document.node

-- Reading begins in a fresh builder, where nothing is at hand.
theorem Construct.begin_tended (text : String) :
    Tended (.begin .empty (.start (.start text) none none)) :=
  ⟨.fresh, Builder.fresh_grown, Progress.start_fitted text none⟩

theorem htmlParser_tended {text : String} {parsed : Parsed} {b : Builder}
    (ran : htmlParser .empty none (.text text) = .ok parsed b) :
    Builder.Assembled .empty b ∧ parsed.root = b.document.node := by
  unfold htmlParser constructFrom at ran
  dsimp only at ran
  cases took : construct .empty none none text with
  | error failure c =>
    rw [took] at ran
    cases failure <;> cases ran
  | ok root c =>
    obtain ⟨tended, rfl⟩ := Construct.tends_iff.mp Construct.readAll_tends _ _ _
      (Construct.begin_tended text) took
    rw [took] at ran
    cases ran
    exact ⟨tended.assembled, tended.grown.document.symm⟩

theorem htmlParser_stepwise : htmlParser.Stepwise where
  assembled ran := (htmlParser_tended ran).1
  rooted ran := (htmlParser_tended ran).2

-- What is read into an empty forest is regular, and its document stands by itself.
theorem Parser.Stepwise.read_planted {parser : Parser} (stepwise : parser.Stepwise) {text : String}
    {document : Document}
    (ran : Document.readWith parser (.text text) .plain .empty = .ok document f) :
    Planted document.root f := by
  unfold Document.readWith at ran
  cases took : parser .empty none (.text text) with
  | error failure b =>
    simp only [ReadOptions.plain, took] at ran
    cases ran
  | ok parsed b =>
    have planted := (stepwise.assembled took).grown.planted
    rw [← stepwise.rooted took] at planted
    simp only [ReadOptions.plain, took] at ran
    cases ran
    dsimp only
    split
    · exact planted
    · exact planted.note _

namespace CommandLine

-- The exit status of a run, and what is on the standard output.
def Report.shown (r : Report) : Nat × String := (r.status, r.out)

namespace Command

-- What a result shows if it has come to a report.
def shownBy : EStateM.Result ReadFailure Forest Report → Except ReadFailure (Nat × String)
  | .ok report _ => .ok report.shown
  | .error failure _ => .error failure

theorem runWith_shown (parser : Parser) (c : Command) (text : String) :
    (c.runWith parser text).map Report.shown =
      match Document.readWith parser (.text text) .plain .empty with
      | .error failure _ => .error failure
      | .ok document f => shownBy (c.reportOn document.root f) := by
  unfold runWith
  cases ran : Document.readWith parser (.text text) .plain .empty with
  | error failure f => simp [Bind.bind, EStateM.bind, ran, Except.map]
  | ok document f =>
    simp only [Bind.bind, EStateM.bind, ran]
    cases c.reportOn document.root f <;> rfl

-- Merged or not, the texts below a document make no difference to what is shown of it as markup.
theorem reportOn_unseen (c : Command) (html : c.format = .html) (planted : Planted d f) :
    shownBy ({ c with normalize := true }.reportOn d f) =
      shownBy ({ c with normalize := false }.reportOn d f) := by
  obtain ⟨g, normalized, regular, merged⟩ := planted.regular.normalize_merged planted.alone.known
  have predicates (on : Bool) : ({ c with normalize := on } : Command).predicate? = c.predicate? := rfl
  cases given : c.predicate? with
  | none => simp [reportOn, normalized, predicates, given, shownBy]
  | some rule =>
    obtain ⟨status, out⟩ := c.report_merged html merged planted.regular regular planted.alone given
    have said : ({ c with normalize := true }.report rule d g).shown =
        ({ c with normalize := false }.report rule d f).shown := Prod.ext status out
    simpa [reportOn, normalized, predicates, given, shownBy] using said

-- Nor of the text that they are read from, when the document stands by itself in what is read.
theorem runWith_unseen {parser : Parser} {c : Command} {text : String} (html : c.format = .html)
    (planted : ∀ {document f}, Document.readWith parser (.text text) .plain .empty = .ok document f →
      Planted document.root f) :
    ({ c with normalize := true }.runWith parser text).map Report.shown =
      ({ c with normalize := false }.runWith parser text).map Report.shown := by
  rw [runWith_shown, runWith_shown]
  cases ran : Document.readWith parser (.text text) .plain .empty with
  | error failure f => rfl
  | ok document f => exact reportOn_unseen c html (planted ran)

-- Whatever parser there is, as long as it makes its trees through the steps of a builder: to merge the
-- texts of a document first makes no difference to the markup that is found in it, nor to the exit
-- status.
theorem normalize_unseen {parser : Parser} (stepwise : parser.Stepwise) (c : Command)
    (html : c.format = .html) (text : String) :
    ({ c with normalize := true }.runWith parser text).map Report.shown =
      ({ c with normalize := false }.runWith parser text).map Report.shown :=
  runWith_unseen html stepwise.read_planted

-- The first of two paragraphs.
theorem normalize_unseen_first :
    let c : Command := { Command.default with tag := some "p", first := true }
    htmlParser.Stepwise ∧ c.format = .html ∧
      ({ c with normalize := true }.runWith htmlParser "<p>one<p>two").map Report.shown =
        .ok (0, "<p>one</p>\n") := by
  intro c
  have apart : ({ c with normalize := false }.runWith htmlParser "<p>one<p>two").map Report.shown =
      .ok (0, "<p>one</p>\n") := by decide +kernel
  exact ⟨htmlParser_stepwise, rfl,
    (normalize_unseen htmlParser_stepwise c rfl "<p>one<p>two").trans apart⟩

-- So it is for the parser that goes by the rules.
theorem run_unseen (c : Command) (html : c.format = .html) (text : String) :
    ({ c with normalize := true }.run text).map Report.shown =
      ({ c with normalize := false }.run text).map Report.shown :=
  runWith_unseen html htmlParser_stepwise.read_planted

end Command

end CommandLine

end HtmlTree

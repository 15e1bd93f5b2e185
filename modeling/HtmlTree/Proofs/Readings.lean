import HtmlTree.Document
import HtmlTree.Proofs.Faithful
import HtmlTree.Proofs.Gathering

namespace HtmlTree

namespace Builder

open Forest

-- What leaves the document that is being built as it is.
def Housed {α : Type} (e : Build α) : Prop :=
  ∀ b value b', e b = .ok value b' → b'.document = b.document

variable {α β : Type}

theorem Housed.bind {e : Build α} (first : Housed e) {next : α → Build β} (second : ∀ value, Housed (next value)) :
    Housed (e >>= next) := by
  intro b value b' ran
  cases made : e b with
  | ok mid c =>
    rw [EStateM.bind_ok made] at ran
    exact (second mid c value b' ran).trans (first b mid c made)
  | error failure c => simp [Bind.bind, EStateM.bind, made] at ran

theorem Housed.pure (value : α) : Housed (Pure.pure value : Build α) := by
  rintro b _ _ ⟨⟩
  rfl

theorem onForest_housed (e : Edit α) : Housed (onForest e) := by
  intro b value b' ran
  rw [onForest] at ran
  cases made : e b.forest with
  | ok value f =>
    rw [made] at ran
    cases ran
    rfl
  | error failure f =>
    rw [made] at ran
    cases ran

theorem register_housed (node : NodeId) (name : String) (uri : Option String) :
    Housed (register node name uri) := by
  rintro b _ _ ⟨⟩
  rfl

theorem element_housed (name : String) (uri : Option String) : Housed (BuildStep.element name uri).run := by
  have made : Housed (newElement name uri) := (onForest_housed _).bind fun n => register_housed n name uri
  exact made.bind fun site => .pure (some site)

theorem attributes_housed (site : Site) (attrs : Attributes) :
    Housed (BuildStep.attributes site attrs).run := by
  have read : Housed (get : Build Builder) := by
    rintro b _ _ ⟨⟩
    rfl
  refine Housed.bind (read.bind fun b => ?_) fun _ => .pure none
  split
  · exact .pure ()
  · exact onForest_housed _

theorem fresh_descends (origin : Forest) : (fresh origin).forest.Descends origin.size := by
  intro m p inside up
  rcases Nat.eq_or_lt_of_le inside with rfl | beyond
  · rw [parent, fresh, node_alloc_new] at up
    cases up
  · rw [parent_unknown (by rw [fresh, size_alloc]; exact beyond)] at up
    cases up

-- The root of a fragment stands in the new document, and nothing is inside it.
theorem root_run (origin : Forest) : ∃ n b₁ b₂ b₃,
    (BuildStep.element "html" (some Namespace.html)).run (fresh origin) =
      .ok (some (Frame.mk n "html" .empty []).site) b₁ ∧
    (BuildStep.attributes (Frame.mk n "html" .empty []).site .empty).run b₁ = .ok none b₂ ∧
    (BuildStep.append b₂.document (Frame.mk n "html" .empty []).site).run b₂ = .ok none b₃ ∧
    b₃.forest.Standing b₃.forest.size [] [⟨n, "html", .empty, []⟩] ∧ b₃.forest.Descends origin.size ∧
    origin.size ≤ (Frame.mk n "html" .empty []).holder := by
  have tag : Node.isTagName "html" = true := by decide
  obtain ⟨b₁, n, ran₁, raised₁⟩ := element_run (fresh origin) tag
  obtain ⟨b₂, ran₂, raised⟩ := attributes_run raised₁ .empty
  have document : b₂.document = (fresh origin).document :=
    (attributes_housed _ _ _ _ _ ran₂).trans (element_housed _ _ _ _ _ ran₁)
  have home : (fresh origin).forest.size = origin.size + 1 := size_alloc _ _
  have descends := raised.descends (fresh_descends origin)
  have first : n = origin.size + 1 := raised.first.trans home
  subst first
  have size : b₂.forest.size = origin.size + 2 := raised.size
  have made : origin.size + 1 < b₂.forest.size := by
    rw [size]
    exact Nat.lt_succ_self _
  have place : b₂.forest.node origin.size = .newDocument :=
    (raised.old _ (by rw [home]; exact Nat.lt_succ_self _)).trans (node_alloc_new _ _)
  have target : b₂.container b₂.document = origin.size := by
    have hollow : b₂.forest.content origin.size = none := congrArg Node.content place
    rw [document, container]
    exact congrArg (·.getD origin.size) hollow
  have clear : origin.size + 1 ∉ b₂.forest.ancestors origin.size := fun member =>
    Nat.not_lt.mpr (descends.ancestors (Nat.le_refl _) _ member) (Nat.lt_succ_self _)
  have plain := (Frame.unmarked_of_tag raised.stands.named raised.stands.tag).fragment
  obtain ⟨g, appended, added⟩ := Edit.append_new (congrArg Node.children place) clear plain
    (raised.free _ (by omega)) (known_iff.mpr made) (by omega) (known_iff.mpr (Nat.lt_of_succ_lt made))
  have ran₃ : appendChild b₂.document (Frame.mk (origin.size + 1) "html" .empty []).site b₂ = .ok () { b₂ with forest := g } := by
    have read : (get : Build Builder) b₂ = .ok b₂ b₂ := rfl
    rw [appendChild, EStateM.bind_ok read, target]
    exact onForest_ok appended
  have agree : AgreeWithin b₂.forest g (origin.size + 1) (origin.size + 2) := by
    intro m above below
    rw [Nat.le_antisymm (Nat.le_of_lt_succ below) above, added.new]
    rfl
  have stands := raised.stands.congr agree fun _ member => absurd member List.not_mem_nil
  refine ⟨_, b₁, b₂, _, ran₁, ran₂, EStateM.bind_ok ran₃ _,
    ⟨⟨[], ?_⟩, fun _ next => absurd next (Option.not_mem_none _), trivial⟩,
    added.descends descends (Nat.le_refl _) (by omega), ?_⟩
  · rw [added.size, size]
    exact stands
  · exact Nat.le_succ _

end Builder

namespace Construct

open Forest HtmlTree.Tree

variable {origin : Forest} {c : Construction origin} {root : Frame} {rest : List Char}

theorem insertRoot_run (fresh : c.builder = .fresh origin) : ∃ n d, insertRoot c = .ok () d ∧
    d.builder.forest.Standing d.builder.forest.size [] [⟨n, "html", .empty, []⟩] ∧
    d.builder.forest.Descends origin.size ∧ origin.size ≤ (Frame.mk n "html" .empty []).holder ∧
    d.progress = { c.progress with
      openElements := (Frame.mk n "html" .empty []).site :: c.progress.openElements
      mode := .beforeHead } := by
  obtain ⟨n, b₁, b₂, b₃, ran₁, ran₂, ran₃, standing, descends, since⟩ := Builder.root_run origin
  obtain ⟨c₁, made, built₁, same₁⟩ := make_run (fresh ▸ ran₁)
  obtain ⟨c₂, told, built₂, same₂⟩ := act_run (built₁ ▸ ran₂)
  let pushed : Construction origin :=
    { c₂ with progress := c₂.progress.push (Frame.mk n "html" .empty []).site }
  obtain ⟨c₃, placed, built₃, same₃⟩ := act_run (c := pushed) (built₂ ▸ ran₃)
  refine ⟨n, { c₃ with progress := { c₃.progress with mode := .beforeHead } }, ?_, ?_, ?_, since, ?_⟩
  · refine (EStateM.bind_ok made _).trans ?_
    refine (EStateM.bind_ok told _).trans ?_
    refine (EStateM.bind_ok (update_run _ c₂) _).trans ?_
    refine (EStateM.bind_ok (builder_run pushed) _).trans ?_
    exact EStateM.bind_ok placed _
  · rw [← built₃] at standing
    exact standing
  · rw [← built₃] at descends
    exact descends
  · have same : c₂.progress = c.progress := by rw [same₂, same₁]
    have pushing : pushed.progress = c.progress.push (Frame.mk n "html" .empty []).site :=
      congrArg (Progress.push · (Frame.mk n "html" .empty []).site) same
    rw [same₃, pushing]
    rfl

def beginning (origin : Forest) (text : String) : Construction origin :=
  .begin origin (.start (.start text) (some "div") none)

-- Reading a fragment begins inside the root, in the body.
theorem openContainer_run (origin : Forest) (text : String) :
    ∃ n d, openContainer (beginning origin text) = .ok () d ∧ Calm [⟨n, "html", .empty, []⟩] d ∧
      d.progress.scanner = .start text := by
  obtain ⟨n, d, rooted, standing, descends, since, same⟩ := insertRoot_run (c := beginning origin text) rfl
  have body : modeFor d.progress d.progress.openElements = some .inBody := by
    rw [same]
    rfl
  have reset : resetMode d = .ok () { d with progress := { d.progress with mode := .inBody } } := by
    simp only [resetMode, bind_run, progress_run, body]
    rfl
  refine ⟨n, _, (EStateM.bind_ok (progress_run _) _).trans ((EStateM.bind_ok rooted _).trans reset), ?_,
    congrArg Progress.scanner same⟩
  have steady : Steady [⟨n, "html", .empty, []⟩]
      { d with progress := { d.progress with mode := .inBody } } := by
    refine ⟨rfl, ?_, ?_, ?_, ?_, ?_, standing, descends, fun frame member => ?_⟩
    · exact congrArg Progress.openElements same
    · exact congrArg Progress.fostering same
    · exact congrArg Progress.skipNewline same
    · exact congrArg Progress.guessed same
    · exact congrArg Progress.container same
    · rw [List.mem_singleton.mp member]
      exact since
  exact ⟨steady, congrArg Progress.formatting same⟩

-- At the end of the input nothing is found any more.
theorem takeAll_end {draft : Draft} (calm : Calm [root] c) (ready : c.progress.scanner.At ⟨.data, draft, []⟩)
    (fuel : Nat) : takeAll fuel c = .ok () c := by
  have spent : c.progress.scanner.step false = none := by
    obtain ⟨state, _, _, ahead⟩ := ready
    obtain ⟨d, read, _⟩ := ahead.next
    simp [Scanner.step, Scan.advance, state, Scan.data, Scan.next, read]
  cases fuel with
  | zero => rfl
  | succ fuel => simp [takeAll, bind_run, calm.native, spent]

theorem finish_run (calm : Calm [root] c) (named : root.name = "html") (fuel : Nat) :
    finishWhileAgain (fuel + 1) c = .ok () c := by
  have closed : c.progress.openElements.any (fun s => !Elements.openAtEnd.contains s.name) = false := by
    rw [calm.stack]
    simp [Frame.site, named]
    decide
  have ended : Rules.finishInBody c = .ok .done c := by
    simp only [Rules.finishInBody, bind_run, progress_run, closed]
    rfl
  have here : mode c = .ok .inBody c := by simp [mode, map_run, calm.mode]
  refine (EStateM.bind_ok here _).trans ?_
  exact EStateM.bind_ok ended _

-- All of the text is read when it is read inside the root, and gives the trees that come to be there.
theorem readAll_run {text : String} {kids : List Tree} (unix : '\r' ∉ text.toList)
    (reads : ∀ n, Reads origin (· = [⟨n, "html", .empty, kids⟩]) [⟨n, "html", .empty, []⟩] text.toList [])
    (solid : ∀ t ∈ kids, ∀ inside, t ≠ .fragment inside) :
    ∃ m d, readAll (beginning origin text) = .ok m d ∧ d.builder.forest.tree m = .fragment kids := by
  obtain ⟨n, c, opened, calm, scanner⟩ := openContainer_run origin text
  have ahead := Source.Cursor.start_ahead unix
  have held : Held [⟨n, "html", .empty, []⟩] text.toList c := by
    refine ⟨calm, .none, ?_⟩
    rw [scanner]
    exact ⟨rfl, rfl, rfl, ahead⟩
  obtain ⟨steps, d, now, goes, rfl, ⟨calmly, draft, ready⟩, fewer⟩ := reads n c held
  obtain ⟨fuel, enough⟩ : ∃ fuel, enough c.progress = steps + fuel := by
    have remaining : c.progress.scanner.cursor.remaining = text.toList.length := by
      rw [scanner, Source.Cursor.remaining_eq]
      exact congrArg List.length ahead.upcoming
    refine ⟨Construct.enough c.progress - steps, ?_⟩
    rw [List.length_nil] at fewer
    rw [Construct.enough, remaining]
    omega
  obtain ⟨site, b, ran, tree⟩ := Builder.gather_run calmly.standing solid rfl
  obtain ⟨e, made, built, _⟩ := make_run ran
  refine ⟨site.node, e, ?_, built ▸ tree⟩
  have taken : takeAll (Construct.enough c.progress) c = .ok () d := by
    rw [enough, goes, takeAll_end calmly ready]
  have ended : finishWhileAgain 64 d = .ok () d := finish_run calmly rfl 63
  have inside : d.progress.container.isSome = true := by rw [calmly.container]; rfl
  have root : d.progress.root? = some (Frame.mk n "html" .empty kids).site := by
    rw [Progress.root?, calmly.stack]
    rfl
  unfold readAll
  refine (EStateM.bind_ok opened _).trans ?_
  refine (EStateM.bind_ok (progress_run c) _).trans ?_
  refine (EStateM.bind_ok taken _).trans ?_
  refine (EStateM.bind_ok ended _).trans ?_
  refine (EStateM.bind_ok (progress_run d) _).trans ?_
  rw [if_pos inside, root]
  exact EStateM.bind_ok made _

end Construct

namespace Forest

theorem treeWithin_note (f : Forest) (entry : Note) (depth : Nat) (n : NodeId) :
    (f.note entry).treeWithin depth n = f.treeWithin depth n := by
  induction depth generalizing n with
  | zero => rfl
  | succ depth ih =>
    have same : (f.note entry).treeWithin depth = f.treeWithin depth := funext ih
    rw [treeWithin, treeWithin, same]
    rfl

end Forest

namespace Document

open HtmlTree.Tree

-- The trees of a fragment are those that its text is read as inside the root.
theorem read_fragment {text : String} {kids : List Tree} {origin : Forest} (unix : '\r' ∉ text.toList)
    (reads : ∀ n, Construct.Reads origin (· = [⟨n, "html", .empty, kids⟩]) [⟨n, "html", .empty, []⟩]
      text.toList []) (solid : ∀ t ∈ kids, ∀ inside, t ≠ .fragment inside) (collect : Bool) :
    ∃ d f, read (.text text) ⟨some .usual, collect, false⟩ origin = .ok d f ∧
      f.tree d.root = .fragment kids := by
  obtain ⟨m, c, ran, tree⟩ := Construct.readAll_run unix reads solid
  have constructed : construct origin (some .usual) none text = .ok m c := by
    have lower : Text.lower FragmentContext.usual.tag = "div" := by decide
    rw [construct, Option.map_some, lower]
    exact ran
  let faults := diagnosticsOf c.progress
  let forest := if faults.isEmpty then c.builder.forest
    else c.builder.forest.note (.reported faults.length)
  have kept : forest.tree m = .fragment kids := by
    by_cases clean : faults.isEmpty
    · rw [show forest = c.builder.forest from if_pos clean]
      exact tree
    · rw [show forest = c.builder.forest.note (.reported faults.length) from if_neg clean, ← tree]
      exact Forest.treeWithin_note _ _ _ _
  refine ⟨⟨m, none, some .usual, if collect then faults else []⟩, forest, ?_, kept⟩
  unfold read readWith htmlParser constructFrom
  dsimp only
  rw [constructed]

end Document

end HtmlTree

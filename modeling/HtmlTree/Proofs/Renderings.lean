import HtmlTree.Proofs.Invisible

namespace HtmlTree.Forest
open Walk Relation Markup

variable {f : Forest} {c m n x : NodeId} {depth : Nat} {layout : Layout}

-- Below a node, however deep, every link leads to a node, and all of them have names.
def Present (f : Forest) (n : NodeId) : Prop :=
  ∀ m, ReflTransGen (Goes f.inside) n m → f.known m = true ∧ (f.node m).isNamed = true

theorem Present.here (present : f.Present n) : f.known n = true ∧ (f.node n).isNamed = true :=
  present n .refl

theorem Present.child (present : f.Present n) (member : c ∈ f.inside n) : f.Present c :=
  fun m way => present m (.head member way)

theorem Linked.known_inside (linked : Linked f) (member : c ∈ f.inside n) : f.known c = true := by
  rcases List.mem_append.mp member with listed | shown
  · exact linked.known_child listed
  · cases content : f.content n with
    | none => simp [content] at shown
    | some fragment => exact linked.known_child (n := fragment) (by simpa [content] using shown)

theorem Orderly.present (orderly : Orderly f) (known : f.known n = true) : f.Present n := by
  intro m way
  refine ⟨?_, orderly.named m⟩
  induction way with
  | refl => exact known
  | tail _ leads _ => exact orderly.linked.known_inside leads

-- A finite tree is no deeper than there are nodes.
theorem within_size (finite : Shallow f.inside depth n) : Shallow f.inside f.size n :=
  shallow_of_no_return (fun _ _ => inside_known) finite.unfolds.no_return

-- Where a survey goes on from a node that it has admitted, with the layout and the level there.
def onward (f : Forest) (layout : Layout) (level : Int) (n : NodeId) :
    Layout × Int × List NodeId :=
  let node := f.node n
  if node.isText || node.isComment || node.name == Node.doctypeName then (layout, level, [])
  else if node.isFragment then (layout, level, f.kids n)
  else if voidNames.contains node.name then (layout, level, [])
  else if !layout.pretty || (f.writtenChildren n).all (fun c => (f.node c).isText) then
    (.flat, 0, f.writtenChildren n)
  else (layout, level + 1, f.writtenChildren n)

theorem onward_subset (f : Forest) (layout : Layout) (level : Int) (n : NodeId) :
    (f.onward layout level n).2.2 ⊆ f.inside n := by
  have listed : f.kids n ⊆ f.inside n := fun c member => List.mem_append_left _ member
  have written := written_subset f n
  unfold onward
  dsimp only
  split_ifs <;> simp_all

-- Either everything further is on one line, or the layout stays and the level rises by one at most.
theorem onward_cases (f : Forest) (layout : Layout) (level : Int) (n : NodeId) :
    (f.onward layout level n).1 = .flat ∨ (f.onward layout level n).1 = layout ∧
      ((f.onward layout level n).2.1 = level ∨ (f.onward layout level n).2.1 = level + 1) := by
  unfold onward
  dsimp only
  split_ifs <;> simp

theorem surveyWithin_onward (here : f.known n = true ∧ (f.node n).isNamed = true) (depth : Nat)
    (level : Int) : f.surveyWithin (depth + 1) layout level n =
      layout.admit level >>= fun _ => (f.onward layout level n).2.2.forM
        (f.surveyWithin depth (f.onward layout level n).1 (f.onward layout level n).2.1) := by
  rw [surveyWithin, onward]
  refine congrArg (Except.bind _) (funext fun _ => ?_)
  simp only [here.1, here.2, Bool.not_true, Bool.false_eq_true, if_false]
  split_ifs <;> rfl

-- On one line nothing stands in the way of what is there.
theorem Present.surveyWithin (present : f.Present n) (single : layout.pretty = false) (depth : Nat)
    (level : Int) : f.surveyWithin depth layout level n = .ok () := by
  induction depth generalizing layout level n with
  | zero => rfl
  | succ depth ih =>
    have admitted : layout.admit level = .ok () := by simp [single, Layout.admit]
    have still : (f.onward layout level n).1.pretty = false := by
      rcases f.onward_cases layout level n with flat | ⟨same, _⟩
      · rw [flat]
        rfl
      · rw [same, single]
    rw [surveyWithin_onward present.here, admitted]
    exact forM_ok fun c member =>
      ih (present.child (f.onward_subset layout level n member)) still _

theorem Present.outerMarkupRead (present : f.Present n) (single : layout.pretty = false)
    (level : Int) : f.outerMarkupRead layout level n = .ok (f.outerMarkup layout level n) := by
  have surveyed : (f.parts n).forM (f.surveyWithin f.reach layout level) = .ok () := by
    refine forM_ok fun c member => ?_
    rcases mem_parts member with rfl | inside
    · exact present.surveyWithin single f.reach level
    · exact (present.child inside).surveyWithin single f.reach level
  rw [outerMarkupRead_known present.here.1, surveyed]
  rfl

theorem Present.innerMarkupRead (present : f.Present n) :
    f.innerMarkupRead n = .ok (f.innerMarkup n) := by
  have surveyed : (f.writtenChildren n).forM (f.surveyWithin f.reach .flat 0) = .ok () :=
    forM_ok fun c member => (present.child (written_subset f n member)).surveyWithin rfl f.reach 0
  simp only [Forest.innerMarkupRead, present.here.1, surveyed, Bool.not_true, Bool.false_eq_true,
    if_false]
  rfl

-- The markup of a node is put together from the whole markup of what is below it.
theorem markup_line (finite : Shallow f.inside f.size n) (raw : Bool) :
    f.markup .flat 0 raw n = lineMarkup (f.node n) raw
      (fun raw => String.join ((f.kids n).map (f.markup .flat 0 raw)))
      (fun raw => String.join ((f.writtenChildren n).map (f.markup .flat 0 raw))) := by
  rw [← markup_settled finite 1, markupWithin_line]
  rfl

theorem outerMarkup_element (finite : Shallow f.inside f.size n) (single : layout.pretty = false)
    (level : Int) (tag : (f.node n).isElement = true) :
    f.outerMarkup layout level n = startTag (f.node n).name ((f.node n).attrs.getD .empty) ++
      if voidNames.contains (f.node n).name then ""
      else f.innerMarkup n ++ endTag (f.node n).name := by
  have apart {name : String} (marked : Node.isTagName name = false) : (f.node n).name ≠ name := by
    rintro rfl
    rw [Node.isElement, marked] at tag
    cases tag
  have document : (f.node n).isDocument = false := beq_false_of_ne (apart (by decide))
  have text : (f.node n).isText = false := beq_false_of_ne (apart (by decide))
  have comment : (f.node n).isComment = false := beq_false_of_ne (apart (by decide))
  have fragment : (f.node n).isFragment = false := beq_false_of_ne (apart (by decide))
  have doctype : (f.node n).name ≠ Node.doctypeName := apart (by decide)
  rw [outerMarkup_single single, document, if_neg Bool.false_ne_true]
  change f.markup .flat 0 false n = _
  rw [markup_line finite]
  simp only [lineMarkup, text, comment, fragment, doctype, Bool.false_eq_true, if_false]
  rfl

-- A document and a fragment are written as what is inside them.
theorem outerMarkup_root (finite : Shallow f.inside f.size n) (single : layout.pretty = false)
    (level : Int) (root : (f.node n).isDocument = true ∨ (f.node n).isFragment = true)
    (hollow : f.content n = none) : f.outerMarkup layout level n = f.innerMarkup n := by
  have written : f.writtenChildren n = f.kids n := by simp [writtenChildren, hollow, kids]
  have escaped : isRawText (f.node n) = false := by
    rcases root with named | named <;>
      · rw [isRawText, eq_of_beq named]
        rfl
  rw [outerMarkup_single single, innerMarkup, written, escaped]
  rcases root with document | fragment
  · rw [if_pos document]
    rfl
  · have named : (f.node n).name = Node.fragmentName := eq_of_beq fragment
    have document : (f.node n).isDocument = false := by
      rw [Node.isDocument, named]
      rfl
    rw [document, if_neg Bool.false_ne_true]
    change f.markup .flat 0 false n = _
    rw [markup_line finite]
    simp [lineMarkup, Node.isText, Node.isComment, Node.isFragment, named, Node.textName,
      Node.commentName, Node.doctypeName, Node.fragmentName]

-- An element is written as its tags around what is inside it, unless its name is one of those that
-- have a start tag only, whatever namespace it is in. A document or fragment has no tags.
theorem outer_around_inner (finite : Shallow f.inside depth x) (present : f.Present x)
    (single : layout.pretty = false) (level : Int) :
    ∃ inner, f.innerMarkupRead x = .ok inner ∧
      ((f.node x).isElement = true →
        (f.outerMarkupRead layout level x = .ok (startTag (f.node x).name
            ((f.node x).attrs.getD .empty) ++ inner ++ endTag (f.node x).name) ↔
          (f.node x).name ∉ voidNames)) ∧
      ((f.node x).isDocument = true ∨ (f.node x).isFragment = true → f.content x = none →
        f.outerMarkupRead layout level x = .ok inner) := by
  have bounded := within_size finite
  refine ⟨_, present.innerMarkupRead, fun tag => ?_, fun root hollow => ?_⟩
  · rw [present.outerMarkupRead single, outerMarkup_element bounded single level tag,
      Except.ok.injEq, String.append_assoc]
    by_cases void : (f.node x).name ∈ voidNames
    · refine iff_of_false (fun same => ?_) (not_not_intro void)
      have characters := congrArg String.toList same
      simp [void, endTag] at characters
    · simp [void]
  · rw [present.outerMarkupRead single, outerMarkup_root bounded single level root hollow]

-- An escaped text in a foreign element, and a fragment around it.
theorem outer_around_inner_path :
    let f := Forest.empty.through [.text (some "<"), .element (some "path") (some "svg"), .fragment,
      .setAttribute 1 "d" (some "M"), .move (.append 1 (some 0)), .move (.append 2 (some 1))]
    Shallow f.inside f.size 1 ∧ f.Present 1 ∧ f.innerMarkupRead 1 = .ok "&lt;" ∧
      f.outerMarkupRead .flat 0 1 = .ok "<path d=\"M\">&lt;</path>" ∧
      Shallow f.inside f.size 2 ∧ f.Present 2 ∧
      f.outerMarkupRead .flat 0 2 = .ok "<path d=\"M\">&lt;</path>" := by
  intro f
  have orderly : Orderly f := orderly_through (by decide) (by decide)
  have untangled : f.Untangled := untangled_of_earlier (by decide)
  have line : Layout.flat.pretty = false := rfl
  have part : f.Present 1 := orderly.present (by decide)
  have whole : f.Present 2 := orderly.present (by decide)
  obtain ⟨_, text, tags, _⟩ := outer_around_inner (untangled.shallow 1) part line 0
  obtain ⟨_, inside, _, root⟩ := outer_around_inner (untangled.shallow 2) whole line 0
  have inner : f.innerMarkupRead 1 = .ok "&lt;" := by decide
  have around : f.innerMarkupRead 2 = .ok "<path d=\"M\">&lt;</path>" := by decide
  cases text.symm.trans inner
  cases inside.symm.trans around
  refine ⟨untangled.shallow 1, part, inner, ?_, untangled.shallow 2, whole,
    root (.inr (by decide)) (by decide)⟩
  exact (tags (by decide)).mpr (by decide)

-- The name of a void element keeps the children of a foreign element from being written.
theorem foreign_link_silent :
    let f := Forest.empty.through [.text (some "x"), .element (some "link") (some "svg"),
      .move (.append 1 (some 0))]
    Shallow f.inside f.size 1 ∧ f.Present 1 ∧ (f.node 1).isElement = true ∧
      (f.node 1).ns = some "svg" ∧ f.children 1 = some [0] ∧ f.innerMarkupRead 1 = .ok "x" ∧
      f.outerMarkupRead .flat 0 1 = .ok "<link>" ∧
      f.outerMarkupRead .flat 0 1 ≠ .ok (startTag "link" .empty ++ "x" ++ endTag "link") := by
  intro f
  have orderly : Orderly f := orderly_through (by decide) (by decide)
  have untangled : f.Untangled := untangled_of_earlier (by decide)
  exact ⟨untangled.shallow 1, orderly.present (by decide), by decide, by decide, by decide,
    by decide, by decide, by decide⟩

end HtmlTree.Forest

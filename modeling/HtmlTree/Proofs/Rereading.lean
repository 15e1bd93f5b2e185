import HtmlTree.Proofs.Readings

namespace HtmlTree

namespace Markup

-- A reference stands for the character, and has no line end in it.
theorem escapeTextChar_unix {c : Char} (unix : c ≠ '\r') : '\r' ∉ Text.escapeTextChar c := by
  unfold Text.escapeTextChar
  split_ifs <;> simp [unix.symm]

theorem escapeValueChar_unix {quote c : Char} (unix : c ≠ '\r') :
    '\r' ∉ Text.escapeValueChar quote c := by
  unfold Text.escapeValueChar
  split_ifs <;> simp [unix.symm]

theorem kept_unix {cs : List Char} (kept : ∀ c ∈ cs, isKept c = true) : '\r' ∉ cs := by
  intro member
  cases kept _ member

theorem word_unix {cs : List Char} (inside : ∀ c ∈ cs, inWord c = true) : '\r' ∉ cs := by
  intro member
  cases inside _ member

theorem startTag_unix {name : String} {attrs : Attributes} (tellable : Tellable name attrs) :
    '\r' ∉ (startTag name attrs).toList := by
  have entry (key : String) (value? : Option String) (member : (key, value?) ∈ attrs.entries) :
      '\r' ∉ (attributeMarkup (key, value?)).toList := by
    have named := word_unix fun c inside => inWord_of_inKey ((tellable.keys _ member).2 c inside)
    obtain ⟨value, rfl, kept⟩ := tellable.values _ member
    have escaped : '\r' ∉ value.toList.flatMap (Text.escapeValueChar (Text.attributeQuote value)) := by
      intro inside
      obtain ⟨c, own, here⟩ := List.mem_flatMap.mp inside
      refine escapeValueChar_unix ?_ here
      rintro rfl
      exact kept_unix kept own
    have quote : '\r' ≠ Text.attributeQuote value := by
      rcases attributeQuote_either value with same | same <;> rw [same] <;> decide
    rw [attributeMarkup_valued]
    simp only [List.mem_cons, List.mem_append, List.not_mem_nil, or_false, not_or]
    exact ⟨by decide, named, by decide, quote, escaped, quote⟩
  rw [startTag_toList]
  simp only [List.mem_cons, List.mem_append, List.not_mem_nil, or_false, not_or]
  refine ⟨by decide, word_unix tellable.named, fun inside => ?_, by decide⟩
  obtain ⟨⟨key, value⟩, member, here⟩ := List.mem_flatMap.mp inside
  exact entry key value member here

theorem endTag_unix {name : String} {attrs : Attributes} (tellable : Tellable name attrs) :
    '\r' ∉ (endTag name).toList := by
  rw [endTag_toList]
  simp only [List.mem_cons, List.mem_append, List.not_mem_nil, or_false, not_or]
  exact ⟨by decide, by decide, word_unix tellable.named, by decide⟩

end Markup

namespace Tree

variable {names : List String} {name : String} {ns : Option String} {attrs : Attributes} {kids : List Tree}
  {content : Option (List Tree)}

theorem Faithful.insides (faithful : (Tree.element name ns attrs kids content).Faithful names) :
    FaithfulAll (name :: names) (insides kids content) := by
  obtain ⟨_, _, ⟨_, _, rfl, rfl⟩ | ⟨_, _, inside, _⟩⟩ := faithful.element
  · trivial
  · exact inside

theorem Tellable.known (tellable : Tellable name attrs) : name ≠ "None" := by
  rintro rfl
  cases tellable.named 'N' (by decide)

mutual

theorem Faithful.whole : (tree : Tree) → (names : List String) → tree.Faithful names →
    tree.Whole (· ≠ "None")
  | .text _, _, ⟨_, given, _⟩ => Option.isSome_iff_exists.mpr ⟨_, given⟩
  | .comment _, _, _ => trivial
  | .doctype _, _, faithful => faithful.elim
  | .fragment _, _, faithful => faithful
  | .document _, _, faithful => faithful
  | .element _ _ _ kids none, _, faithful =>
    ⟨Tellable.known faithful.element.2.1, FaithfulAll.whole kids _ faithful.insides⟩
  | .element _ _ _ _ (some inside), _, faithful =>
    ⟨Tellable.known faithful.element.2.1, FaithfulAll.whole inside _ faithful.insides⟩
termination_by structural tree => tree

theorem FaithfulAll.whole : (trees : List Tree) → (names : List String) → FaithfulAll names trees →
    WholeAll (· ≠ "None") trees
  | [], _, _ => trivial
  | tree :: rest, names, faithful =>
    ⟨Faithful.whole tree names faithful.1, FaithfulAll.whole rest names faithful.2.1⟩
termination_by structural trees => trees

end

theorem text_unix {data : Option String} (faithful : (Tree.text data).Faithful names) (raw : Bool) :
    '\r' ∉ written raw (.text data) := by
  obtain ⟨text, rfl, sayable⟩ := faithful
  have plain := Markup.kept_unix sayable.kept
  cases raw with
  | true => exact plain
  | false =>
    rw [Markup.text_written]
    intro inside
    obtain ⟨c, own, here⟩ := List.mem_flatMap.mp inside
    refine Markup.escapeTextChar_unix ?_ here
    rintro rfl
    exact plain own

theorem comment_unix {data : Option String} (faithful : (Tree.comment data).Faithful names) (raw : Bool) :
    '\r' ∉ written raw (.comment data) := by
  obtain ⟨text, rfl, enclosed⟩ := faithful
  have plain := Markup.kept_unix enclosed.kept
  rw [show written raw (.comment (some text)) = _ from Markup.comment_written (some text)]
  simp only [List.mem_cons, List.mem_append, List.not_mem_nil, or_false, not_or]
  exact ⟨by decide, by decide, by decide, by decide, plain, by decide, by decide, by decide⟩

theorem element_unix (faithful : (Tree.element name ns attrs kids content).Faithful names) (raw : Bool)
    (inside : '\r' ∉ writtenAll (holdsRaw name ns) (insides kids content)) :
    '\r' ∉ written raw (.element name ns attrs kids content) := by
  have tellable := faithful.element.2.1
  rw [written_element, List.mem_append, not_or]
  refine ⟨Markup.startTag_unix tellable, ?_⟩
  split
  · nofun
  · rw [List.mem_append, not_or]
    exact ⟨inside, Markup.endTag_unix tellable⟩

mutual

theorem Faithful.unix : (tree : Tree) → (names : List String) → tree.Faithful names → (raw : Bool) →
    '\r' ∉ written raw tree
  | .text _, _, faithful, raw => text_unix faithful raw
  | .comment _, _, faithful, raw => comment_unix faithful raw
  | .doctype _, _, faithful, _ => faithful.elim
  | .fragment _, _, faithful, _ => faithful.elim
  | .document _, _, faithful, _ => faithful.elim
  | .element _ _ _ kids none, _, faithful, raw =>
    element_unix faithful raw (FaithfulAll.unix kids _ faithful.insides _)
  | .element _ _ _ _ (some inside), _, faithful, raw =>
    element_unix faithful raw (FaithfulAll.unix inside _ faithful.insides _)
termination_by structural tree => tree

theorem FaithfulAll.unix : (trees : List Tree) → (names : List String) → FaithfulAll names trees →
    (raw : Bool) → '\r' ∉ writtenAll raw trees
  | [], _, _, _ => nofun
  | tree :: rest, names, faithful, raw => by
    rw [writtenAll, List.mem_append, not_or]
    exact ⟨Faithful.unix tree names faithful.1 raw, FaithfulAll.unix rest names faithful.2.1 raw⟩
termination_by structural trees => trees

end

theorem FaithfulAll.solid {trees : List Tree} {names : List String} (faithful : FaithfulAll names trees) :
    ∀ t ∈ trees, ∀ inside, t ≠ .fragment inside := by
  induction trees with
  | nil => nofun
  | cons tree trees ih =>
    obtain ⟨first, more, _⟩ := faithful
    intro t member inside same
    rcases List.mem_cons.mp member with rfl | later
    · subst same
      exact first
    · exact ih more t later inside same

end Tree

namespace Forest

open HtmlTree.Tree Markup

variable {f : Forest} {m : NodeId} {kids : List Tree}

-- A fragment goes by none of the other marked names.
theorem fragment_unmarked {node : Node} (fragment : node.isFragment = true) :
    node.isText = false ∧ node.isComment = false ∧ (node.name == Node.doctypeName) = false ∧
      node.isDocument = false := by
  have named : node.name = Node.fragmentName := by simpa [Node.isFragment] using fragment
  rw [Node.isText, Node.isComment, Node.isDocument, named]
  decide

-- A fragment is rendered as its trees are written.
theorem outerMarkup_written (shape : f.tree m = .fragment kids) {admitted : String → Prop}
    (whole : WholeAll admitted kids) : (f.outerMarkup .flat 0 m).toList = writtenAll false kids := by
  obtain ⟨fragment, rfl⟩ := fragment_shape shape
  obtain ⟨text, comment, doctype, document⟩ := fragment_unmarked fragment
  have joined := toList_join_markup (fun c _ => markupWithin_written f.size c false) whole
  rw [String.toList_join] at joined
  have rendered : f.outerMarkup .flat 0 m = Layout.flat.join
      ((((f.children m).getD []).map (f.markupWithin f.size .flat 0 false)).filter (!·.isEmpty)) := by
    rw [outerMarkup, document, if_neg Bool.false_ne_true, markup, reach, markupWithin]
    simp only [text, comment, doctype, fragment, if_true, Bool.false_eq_true, if_false]
    rfl
  rw [rendered, toList_join_flat, joined]

theorem outerMarkupRead_whole (shape : f.tree m = .fragment kids) (whole : WholeAll (· ≠ "None") kids) :
    f.outerMarkupRead .flat 0 m = .ok (f.outerMarkup .flat 0 m) := by
  obtain ⟨fragment, rfl⟩ := fragment_shape shape
  have known : f.known m = true := known_of_fragment fragment
  have named (n : NodeId) (other : (f.node n).name ≠ "None") : (f.node n).isNamed = true := by
    rw [Node.isNamed]
    cases name : (f.node n).name? with
    | none => exact absurd (by rw [Node.name, name]; rfl) other
    | some _ => rfl
  have visited : ((f.children m).getD []).forM (f.surveyWithin f.size .flat 0) = .ok () :=
    forM_ok fun c member => surveyWithin_whole named (whole.mem (List.mem_map_of_mem member))
  obtain ⟨text, comment, doctype, document⟩ := fragment_unmarked fragment
  have survey : f.surveyWithin f.reach .flat 0 m = .ok () := by
    have admitted : Layout.flat.admit 0 = .ok () := rfl
    simp only [reach, surveyWithin, admitted, known, text, comment, doctype, fragment]
    exact visited
  have parts : [m].forM (f.surveyWithin f.reach .flat 0) = .ok () := forM_ok fun c member => by
    rw [List.mem_singleton.mp member, survey]
  simp only [outerMarkupRead, known, document, Bool.not_true, Bool.false_eq_true, if_false, parts]
  rfl

end Forest

namespace Document

open HtmlTree.Tree Construct

variable {f : Forest} {d : Document} {kids : List Tree}

-- What is written for trees that can be read again is read as these trees.
theorem read_written {text : String} (faithful : FaithfulAll ["html"] kids)
    (shown : text.toList = writtenAll false kids) (origin : Forest) (collect : Bool) :
    ∃ d f, read (.text text) ⟨some .usual, collect, false⟩ origin = .ok d f ∧
      f.tree d.root = .fragment kids := by
  have unix : '\r' ∉ text.toList := shown ▸ FaithfulAll.unix kids ["html"] faithful false
  refine read_fragment unix (fun n => ?_) faithful.solid collect
  have reads : Reads origin (· = [⟨n, "html", .empty, kids⟩]) [⟨n, "html", .empty, []⟩]
      (writtenAll false kids ++ []) [] :=
    reads_trees kids ⟨n, "html", .empty, []⟩ [] faithful (fun _ _ _ => nofun) nofun
  rw [List.append_nil] at reads
  rw [shown]
  exact reads

-- A fragment of such trees, rendered on one line, is read as the same trees over any forest.
theorem reread (shape : f.tree d.root = .fragment kids) (faithful : FaithfulAll ["html"] kids) :
    ∃ markup, d.markup f .flat = .ok markup ∧ ∀ (origin : Forest) (collect : Bool), ∃ e g,
      read (.text markup) ⟨some .usual, collect, false⟩ origin = .ok e g ∧ g.tree e.root = f.tree d.root := by
  have whole := FaithfulAll.whole kids ["html"] faithful
  refine ⟨f.outerMarkup .flat 0 d.root, Forest.outerMarkupRead_whole shape whole, fun origin collect => ?_⟩
  rw [shape]
  exact read_written faithful (Forest.outerMarkup_written shape whole) origin collect

-- Text between tags, a void element, formatting, and a comment in a template.
theorem reread_mixed : ∃ (f : Forest) (d : Document),
    read (.text "<p title='a \"b\"'>1 &lt; 2<br><b></b></p><template><!---x--></template>")
      ⟨some .usual, false, false⟩ .empty = .ok d f ∧
    f.tree d.root = .fragment [.element "p" (some "html") ⟨[("title", some "a \"b\"")]⟩
      [.text (some "1 < 2"), .element "br" (some "html") .empty [] none,
        .element "b" (some "html") .empty [] none] none,
      .element "template" (some "html") .empty [] (some [.comment (some "-x")])] ∧
    ∃ markup, d.markup f .flat = .ok markup ∧ ∀ (origin : Forest) (collect : Bool), ∃ e g,
      read (.text markup) ⟨some .usual, collect, false⟩ origin = .ok e g ∧ g.tree e.root = f.tree d.root := by
  have faithful : FaithfulAll ["html"] [.element "p" (some "html") ⟨[("title", some "a \"b\"")]⟩
      [.text (some "1 < 2"), .element "br" (some "html") .empty [] none,
        .element "b" (some "html") .empty [] none] none,
      .element "template" (some "html") .empty [] (some [.comment (some "-x")])] := by decide
  obtain ⟨d, f, first, shape⟩ := read_written faithful
    (show "<p title='a \"b\"'>1 &lt; 2<br><b></b></p><template><!---x--></template>".toList = _ by decide)
    .empty false
  exact ⟨f, d, first, shape, reread shape faithful⟩

-- The content of noscript is read as markup, references and all.
theorem read_noscript {text : String} (sayable : Sayable false text) (origin : Forest)
    (collect : Bool) :
    ∃ d f, read (.text ("<noscript>" ++ Text.escapeText text ++ "</noscript>"))
        ⟨some .usual, collect, false⟩ origin = .ok d f ∧
      f.tree d.root = .fragment [.element "noscript" (some "html") .empty [.text (some text)] none] := by
  have tellable : Tellable "noscript" .empty := by decide
  have admitted : admits ["html"] "noscript" = true := by decide
  have shown : ("<noscript>" ++ Text.escapeText text ++ "</noscript>").toList =
      (Markup.startTag "noscript" .empty).toList ++ (text.toList.flatMap Text.escapeTextChar ++
        ((Markup.endTag "noscript").toList ++ [])) := by
    simp [Text.escapeText, Markup.startTag, Markup.endTag, Attributes.empty, String.join]
  have inside : '\r' ∉ text.toList.flatMap Text.escapeTextChar := by
    intro member
    obtain ⟨c, own, here⟩ := List.mem_flatMap.mp member
    refine Markup.escapeTextChar_unix ?_ here
    rintro rfl
    exact Markup.kept_unix sayable.kept own
  have unix : '\r' ∉ ("<noscript>" ++ Text.escapeText text ++ "</noscript>").toList := by
    rw [shown]
    simp only [List.mem_append, not_or]
    exact ⟨Markup.startTag_unix tellable, inside, Markup.endTag_unix tellable, List.not_mem_nil⟩
  refine read_fragment unix (fun n => ?_) (fun t member inner same => ?_) collect
  · rw [shown]
    have inside (m : Nat) : Reads origin
        (· = [⟨m, "noscript", .empty, [.text (some text)]⟩, ⟨n, "html", .empty, []⟩])
        [⟨m, "noscript", .empty, []⟩, ⟨n, "html", .empty, []⟩]
        (text.toList.flatMap Text.escapeTextChar ++ ((Markup.endTag "noscript").toList ++ []))
        ((Markup.endTag "noscript").toList ++ []) :=
      reads_spelt (spells_text sayable.kept) sayable.nonempty (fun _ last => absurd last (Option.not_mem_none _))
        (endTag_stops _ _)
    exact reads_inside tellable admitted inside fun _ => rfl
  · cases (List.mem_singleton.mp member).symm.trans same

-- The text of noscript is written as it stands, so that a reference in it is read as one.
theorem noscript_unescaped : ∃ d f e g,
    read (.text "<noscript>&amp;amp;</noscript>") ⟨some .usual, false, false⟩ .empty = .ok d f ∧
    d.markup f .flat = .ok "<noscript>&amp;</noscript>" ∧
    read (.text "<noscript>&amp;</noscript>") ⟨some .usual, false, false⟩ .empty = .ok e g ∧
    g.tree e.root ≠ f.tree d.root := by
  have double : Sayable false "&amp;" := by decide
  have single : Sayable false "&" := by decide
  obtain ⟨d, f, first, shape⟩ := read_noscript double .empty false
  obtain ⟨e, g, second, other⟩ := read_noscript single .empty false
  have whole : WholeAll (· ≠ "None")
      [.element "noscript" (some "html") .empty [.text (some "&amp;")] none] :=
    ⟨⟨by decide, rfl, trivial⟩, trivial⟩
  have rendered : f.outerMarkup .flat 0 d.root = "<noscript>&amp;</noscript>" := by
    apply String.toList_inj.mp
    rw [Forest.outerMarkup_written shape whole]
    decide
  refine ⟨d, f, e, g, first, ?_, second, ?_⟩
  · rw [← rendered]
    exact Forest.outerMarkupRead_whole shape whole
  · rw [shape, other]
    simp

end Document

end HtmlTree

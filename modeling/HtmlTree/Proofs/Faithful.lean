import HtmlTree.Proofs.Passages
import HtmlTree.Proofs.RoundTrip

namespace HtmlTree

open Scan

-- The attributes of a tag as they were written.
theorem Tellable.attributes {name : String} {attrs : Attributes} (tellable : Tellable name attrs) :
    (Tag.mk name (pairsOf attrs.entries) false false).attributes = attrs := by
  have same : (pairsOf attrs.entries).map (fun a => (a.1, some a.2)) = attrs.entries := by
    rw [pairsOf, List.map_map]
    refine (List.map_congr_left fun entry member => ?_).trans (List.map_id _)
    obtain ⟨value, given, _⟩ := tellable.values entry member
    obtain ⟨key, _⟩ := entry
    cases given
    rfl
  rw [Tag.attributes, same]
  exact Attributes.ofPairs_distinct tellable.distinct

theorem Tellable.tag {name : String} {attrs : Attributes} (tellable : Tellable name attrs) :
    Node.isTagName name = true := by
  obtain ⟨c, first, letter⟩ := tellable.begins
  have begins : name.toList.head? = some c := first
  have hash : name.toList.head? ≠ some '#' := by
    rw [begins]
    rintro same
    cases same
    cases letter
  have other : name ≠ Node.doctypeName := by
    rintro rfl
    cases begins
    cases letter
  simp [Node.isTagName, hash, other]

theorem spells_text {text : List Char} (kept : ∀ c ∈ text, isKept c = true) :
    Spells inText (text.flatMap Text.escapeTextChar) text := by
  refine .flatMap fun c member => ?_
  have here := kept c member
  rw [Text.escapeTextChar]
  split
  · rename_i same
    rw [same]
    exact .sole (.named (by decide))
  split
  · rename_i same
    rw [same]
    exact .sole (.named (by decide))
  split
  · rename_i same
    rw [same]
    exact .sole (.named (by decide))
  split
  · rename_i same
    rw [same]
    exact .sole (.named (by decide))
  · rename_i ampersand _ less _
    simp only [isKept, Bool.and_eq_true, bne_iff_ne] at here
    exact .char (by simp [inText, ampersand, less, here.1]) .nil

-- Text that is read as it was: it says something, no character of it is changed, and where it is
-- written as it stands none would be read as markup.
structure Sayable (raw : Bool) (text : String) : Prop where
  nonempty : text ≠ ""
  kept : ∀ c ∈ text.toList, isKept c = true
  verbatim : raw = true → ∀ c ∈ text.toList, c ≠ '&' ∧ c ≠ '<'

namespace Tree

-- Whether text directly inside the innermost of these elements is written as it stands.
def rawInside (names : List String) : Bool := holdsRaw (names.headD "") (some "html")

-- Whether an element of this name is opened inside these by its start tag alone, and has nothing inside
-- if it has no end tag.
def fits (names : List String) (name : String) (kids : List Tree) : Bool :=
  if Markup.voidNames.contains name then Construct.admitsVoid names name && kids.isEmpty
  else Construct.admits names name

mutual

-- The trees that are read again from what is written for them while elements of these names are
-- open, the innermost first.
def Faithful (names : List String) : Tree → Prop
  | .text data => ∃ text ∈ data, Sayable (rawInside names) text
  | .comment data => ∃ text ∈ data, Enclosed text.toList
  | .doctype _ => False
  | .fragment _ => False
  | .document _ => False
  | .element name ns attrs kids content =>
    ns = some "html" ∧ Tellable name attrs ∧ fits names name kids = true ∧
      match content with
      | some inside => name = "template" ∧ kids.isEmpty = true ∧ FaithfulAll (name :: names) inside
      | none => name ≠ "template" ∧ FaithfulAll (name :: names) kids
termination_by structural tree => tree

-- Two texts side by side would be read as one.
def FaithfulAll (names : List String) : List Tree → Prop
  | [] => True
  | tree :: rest => tree.Faithful names ∧ FaithfulAll names rest ∧
    (tree.isText = true → rest.head?.all (!·.isText) = true)
termination_by structural trees => trees

end

instance (raw : Bool) (text : String) : Decidable (Sayable raw text) :=
  have (cs : List Char) (p : Char → Prop) [DecidablePred p] : Decidable (∀ c ∈ cs, p c) :=
    List.decidableBAll p cs
  decidable_of_iff (text ≠ "" ∧ (∀ c ∈ text.toList, isKept c = true) ∧
      (raw = true → ∀ c ∈ text.toList, c ≠ '&' ∧ c ≠ '<'))
    ⟨fun ⟨nonempty, kept, verbatim⟩ => ⟨nonempty, kept, verbatim⟩,
      fun sayable => ⟨sayable.nonempty, sayable.kept, sayable.verbatim⟩⟩

instance (text : List Char) : Decidable (Enclosed text) :=
  have : Decidable (∀ c ∈ text, isKept c = true) := List.decidableBAll _ text
  decidable_of_iff ((∀ c ∈ text, isKept c = true) ∧ ¬ ['-', '-', '>'] <:+: text ∧
      ¬ ['-', '-', '!', '>'] <:+: text ∧ ¬ ['>'] <+: text ∧ ¬ ['-', '>'] <+: text)
    ⟨fun ⟨kept, whole, unbanged, opened, dashed⟩ => ⟨⟨kept, whole, unbanged⟩, opened, dashed⟩,
      fun enclosed => ⟨enclosed.kept, enclosed.whole, enclosed.unbanged, enclosed.opened, enclosed.dashed⟩⟩

instance (name : String) (attrs : Attributes) : Decidable (Tellable name attrs) :=
  have (cs : List Char) (p : Char → Prop) [DecidablePred p] : Decidable (∀ c ∈ cs, p c) :=
    List.decidableBAll p cs
  have (given : Option String) (p : String → Prop) [DecidablePred p] : Decidable (∃ value ∈ given, p value) :=
    Option.decidableExistsMem given
  have : Decidable (∃ c ∈ name.toList.head?, c.isAlpha = true) := Option.decidableExistsMem _
  decidable_of_iff ((∃ c ∈ name.toList.head?, c.isAlpha = true) ∧ (∀ c ∈ name.toList, inWord c = true) ∧
      (∀ entry ∈ attrs.entries, entry.1 ≠ "" ∧ ∀ c ∈ entry.1.toList, inKey c = true) ∧
      (∀ entry ∈ attrs.entries, ∃ value ∈ entry.2, ∀ c ∈ value.toList, isKept c = true) ∧
      attrs.names.Nodup)
    ⟨fun ⟨begins, named, keys, values, distinct⟩ => ⟨begins, named, keys, values, distinct⟩,
      fun tellable => ⟨tellable.begins, tellable.named, tellable.keys, tellable.values, tellable.distinct⟩⟩

mutual

def Faithful.decidable (names : List String) : (tree : Tree) → Decidable (tree.Faithful names)
  | .text data => @Option.decidableExistsMem _ (Sayable (rawInside names)) _ data
  | .comment data => @Option.decidableExistsMem String (fun text => Enclosed text.toList) inferInstance data
  | .doctype _ => .isFalse id
  | .fragment _ => .isFalse id
  | .document _ => .isFalse id
  | .element name _ _ kids none =>
    have := FaithfulAll.decidable (name :: names) kids
    inferInstanceAs (Decidable (_ ∧ _ ∧ _ ∧ _ ∧ _))
  | .element name _ _ _ (some inside) =>
    have := FaithfulAll.decidable (name :: names) inside
    inferInstanceAs (Decidable (_ ∧ _ ∧ _ ∧ _ ∧ _ ∧ _))
termination_by structural tree => tree

def FaithfulAll.decidable (names : List String) : (trees : List Tree) → Decidable (FaithfulAll names trees)
  | [] => .isTrue trivial
  | tree :: rest =>
    have := Faithful.decidable names tree
    have := FaithfulAll.decidable names rest
    inferInstanceAs (Decidable (_ ∧ _ ∧ _))
termination_by structural trees => trees

end

instance (names : List String) (trees : List Tree) : Decidable (FaithfulAll names trees) :=
  FaithfulAll.decidable names trees

-- What is inside an element, and that the element is what is read when that has been.
theorem Faithful.element {names : List String} {name : String} {ns : Option String} {attrs : Attributes}
    {kids : List Tree} {content : Option (List Tree)}
    (faithful : (Tree.element name ns attrs kids content).Faithful names) :
    ns = some "html" ∧ Tellable name attrs ∧
      (Markup.voidNames.contains name = true ∧ Construct.admitsVoid names name = true ∧ kids = [] ∧
          content = none ∨
        ¬ Markup.voidNames.contains name = true ∧ Construct.admits names name = true ∧
          FaithfulAll (name :: names) (insides kids content) ∧
          ∀ n, (Frame.mk n name attrs (insides kids content)).tree =
            .element name (some "html") attrs kids content) := by
  cases content with
  | none =>
    rw [Faithful, fits] at faithful
    obtain ⟨html, tellable, fitting, other, inside⟩ := faithful
    refine ⟨html, tellable, ?_⟩
    split_ifs at fitting with void
    · obtain ⟨admitted, childless⟩ := Bool.and_eq_true_iff.mp fitting
      exact .inl ⟨void, admitted, List.isEmpty_iff.mp childless, rfl⟩
    · exact .inr ⟨void, fitting, inside, fun n => by simp [Frame.tree, Frame.isTemplate, other, insides]⟩
  | some trees =>
    rw [Faithful] at faithful
    obtain ⟨html, tellable, fitting, rfl, childless, inside⟩ := faithful
    cases List.isEmpty_iff.mp childless
    exact ⟨html, tellable, .inr ⟨by decide, fitting, inside, fun n => rfl⟩⟩

end Tree

namespace Construct

open Forest HtmlTree.Tree

variable {origin : Forest} {frame : Frame} {frames outer : List Frame} {rest : List Char}

-- A text is read from whatever spells it.
theorem reads_spelt {cs : List Char} {text : String} (spells : Spells inText cs text.toList)
    (spoken : text ≠ "") (apart : ∀ t ∈ frame.kids.getLast?, t.isText = false)
    (stops : ∀ c ∈ rest.head?, c = '<') :
    Reads origin (· = frame.grown (.text (some text)) :: outer) (frame :: outer) (cs ++ rest) rest := by
  refine .of_leads fun draft => ?_
  obtain ⟨tokens, tells, leads⟩ := @data_spelt cs rest draft text.toList spells stops
  have takes : TakesAll origin (· = frame.grown (.text (some (String.ofList text.toList))) :: outer)
      (frame :: outer) tokens :=
    takesAll_text tells (fun same => spoken (String.toList_inj.mp same)) apart
  rw [String.ofList_toList] at takes
  exact ⟨tokens, draft, leads, takes⟩

theorem reads_text {data : Option String} (faithful : (Tree.text data).Faithful ((frame :: outer).map Frame.name))
    (apart : ∀ t ∈ frame.kids.getLast?, t.isText = false) (stops : ∀ c ∈ rest.head?, c = '<') :
    Reads origin (· = frame.grown (.text data) :: outer) (frame :: outer)
      (written (holdsRaw frame.name (some "html")) (.text data) ++ rest) rest := by
  obtain ⟨text, rfl, sayable⟩ := faithful
  refine reads_spelt ?_ sayable.nonempty apart stops
  cases raw : holdsRaw frame.name (some "html") with
  | false =>
    rw [Markup.text_written]
    exact spells_text sayable.kept
  | true =>
    refine .verbatim fun c member => ?_
    obtain ⟨ampersand, less⟩ := sayable.verbatim raw c member
    have kept := sayable.kept c member
    simp only [isKept, Bool.and_eq_true, bne_iff_ne] at kept
    simp [inText, ampersand, less, kept.1]

theorem reads_comment {data : Option String} (raw : Bool) (enclosed : ∃ text ∈ data, Enclosed text.toList) :
    Reads origin (· = frame.grown (.comment data) :: outer) (frame :: outer)
      (written raw (.comment data) ++ rest) rest := by
  obtain ⟨text, rfl, enclosed⟩ := enclosed
  exact .of_leads fun draft =>
    ⟨_, _, comment_read enclosed, takesAll_single (takes_comment text)⟩

-- The elements that are let in are closed by their own end tag.
theorem admits_simple {names : List String} {name : String} (admitted : admits names name = true) :
    name ∉ endsApart := by
  intro member
  have barred : ∀ name ∈ endsApart, Elements.blockStarts.contains name = false ∧
      Elements.headings.contains name = false ∧ ["li", "dd", "dt"].contains name = false ∧
      ["a", "nobr", "button"].contains name = false ∧ Elements.formatting.contains name = false ∧
      startNames.contains name = true := by decide
  obtain ⟨block, heading, item, own, formatting, special⟩ := barred name member
  rw [admits, block, heading, item, own, formatting, special] at admitted
  cases admitted

theorem reads_tag {name : String} {attrs : Attributes} (tellable : Tellable name attrs)
    {after : List Frame → Prop}
    (takes : Takes origin frames (.start ⟨name, pairsOf attrs.entries, false, false⟩) after) :
    Reads origin after frames ((Markup.startTag name attrs).toList ++ rest) rest := by
  refine .of_leads fun draft => ?_
  obtain ⟨next, leads⟩ := startTag_read tellable
  exact ⟨_, next, leads, takesAll_single takes⟩

theorem reads_start {name : String} {attrs : Attributes} (tellable : Tellable name attrs)
    (admitted : admits ((frame :: outer).map Frame.name) name = true) :
    Reads origin (fun now => ∃ n, now = ⟨n, name, attrs, []⟩ :: frame :: outer) (frame :: outer)
      ((Markup.startTag name attrs).toList ++ rest) rest := by
  let tag : Tag := ⟨name, pairsOf attrs.entries, false, false⟩
  have takes : Takes origin (frame :: outer) (.start tag) fun now =>
      ∃ n, now = ⟨n, name, tag.attributes, []⟩ :: frame :: outer :=
    takes_start tellable.tag rfl admitted
  rw [tellable.attributes] at takes
  exact reads_tag tellable takes

theorem reads_void {name : String} {attrs : Attributes} (tellable : Tellable name attrs)
    (admitted : admitsVoid ((frame :: outer).map Frame.name) name = true) :
    Reads origin (· = frame.grown (.element name (some "html") attrs [] none) :: outer) (frame :: outer)
      ((Markup.startTag name attrs).toList ++ rest) rest := by
  let tag : Tag := ⟨name, pairsOf attrs.entries, false, false⟩
  have takes : Takes origin (frame :: outer) (.start tag)
      (· = frame.grown (.element name (some "html") tag.attributes [] none) :: outer) :=
    takes_void tellable.tag rfl admitted
  rw [tellable.attributes] at takes
  exact reads_tag tellable takes

theorem reads_end {current : Frame} (tellable : Tellable current.name current.attrs)
    (simple : current.name ∉ endsApart) :
    Reads origin (· = frame.grown current.tree :: outer) (current :: frame :: outer)
      ((Markup.endTag current.name).toList ++ rest) rest := by
  refine .of_leads fun draft => ?_
  obtain ⟨next, leads⟩ := endTag_read tellable
  exact ⟨_, next, leads, takesAll_single (takes_end simple)⟩

-- All but a text begins like a tag.
theorem written_marked {tree : Tree} {names : List String} (faithful : tree.Faithful names)
    (marked : tree.isText = false) (raw : Bool) : ∃ tail, written raw tree = '<' :: tail := by
  cases tree with
  | text => cases marked
  | comment given => exact ⟨_, Markup.comment_written given⟩
  | element name ns attrs kids content =>
    rw [written_element, Markup.startTag_toList]
    exact ⟨_, rfl⟩
  | _ => exact faithful.elim

theorem writtenAll_stops {trees : List Tree} {names : List String} (faithful : FaithfulAll names trees)
    (marked : trees.head?.all (!·.isText) = true) (stops : ∀ c ∈ rest.head?, c = '<') (raw : Bool) :
    ∀ c ∈ (writtenAll raw trees ++ rest).head?, c = '<' := by
  cases trees with
  | nil => exact stops
  | cons tree trees =>
    obtain ⟨tail, begins⟩ := written_marked faithful.1 (by simpa using marked) raw
    rw [writtenAll, begins]
    intro c first
    exact (Option.some.inj first).symm

theorem endTag_stops (name : String) (rest : List Char) :
    ∀ c ∈ ((Markup.endTag name).toList ++ rest).head?, c = '<' := by
  rw [Markup.endTag_toList]
  intro c first
  exact (Option.some.inj first).symm

-- An element is read between its tags if what is inside it is read while it is open.
theorem reads_inside {name : String} {attrs : Attributes} {inside : List Tree} {tree : Tree} {cs : List Char}
    (tellable : Tellable name attrs) (admitted : admits ((frame :: outer).map Frame.name) name = true)
    (reads : ∀ n, Reads origin (· = ⟨n, name, attrs, inside⟩ :: frame :: outer)
      (⟨n, name, attrs, []⟩ :: frame :: outer) (cs ++ ((Markup.endTag name).toList ++ rest))
      ((Markup.endTag name).toList ++ rest))
    (whole : ∀ n, (Frame.mk n name attrs inside).tree = tree) :
    Reads origin (· = frame.grown tree :: outer) (frame :: outer)
      ((Markup.startTag name attrs).toList ++ (cs ++ ((Markup.endTag name).toList ++ rest))) rest := by
  refine (reads_start tellable admitted).trans ?_
  rintro now ⟨n, rfl⟩
  refine (reads n).trans ?_
  rintro now rfl
  have ended : Reads origin (· = frame.grown (Frame.mk n name attrs inside).tree :: outer)
      (⟨n, name, attrs, inside⟩ :: frame :: outer) ((Markup.endTag name).toList ++ rest) rest :=
    reads_end tellable (admits_simple admitted)
  rw [whole n] at ended
  exact ended

theorem reads_element {name : String} {ns : Option String} {attrs : Attributes} {kids : List Tree}
    {content : Option (List Tree)}
    (faithful : (Tree.element name ns attrs kids content).Faithful ((frame :: outer).map Frame.name))
    (reads : ∀ n, FaithfulAll (name :: (frame :: outer).map Frame.name) (insides kids content) →
      Reads origin (· = ⟨n, name, attrs, insides kids content⟩ :: frame :: outer)
        (⟨n, name, attrs, []⟩ :: frame :: outer)
        (writtenAll (holdsRaw name (some "html")) (insides kids content) ++
          ((Markup.endTag name).toList ++ rest)) ((Markup.endTag name).toList ++ rest)) (raw : Bool) :
    Reads origin (· = frame.grown (.element name ns attrs kids content) :: outer) (frame :: outer)
      (written raw (.element name ns attrs kids content) ++ rest) rest := by
  obtain ⟨rfl, tellable, body⟩ := faithful.element
  rw [written_element]
  rcases body with ⟨void, admitted, rfl, rfl⟩ | ⟨filled, admitted, inside, whole⟩
  · rw [if_pos void, List.append_nil]
    exact reads_void tellable admitted
  · rw [if_neg filled, List.append_assoc, List.append_assoc]
    exact reads_inside tellable admitted (fun n => reads n inside) whole

mutual

-- The induction is on the tree. What is inside an element is read while that is open.
theorem reads_tree (tree : Tree) {frame : Frame} {outer : List Frame} {rest : List Char}
    (faithful : tree.Faithful ((frame :: outer).map Frame.name))
    (apart : tree.isText = true → ∀ t ∈ frame.kids.getLast?, t.isText = false)
    (stops : tree.isText = true → ∀ c ∈ rest.head?, c = '<') :
    Reads origin (· = frame.grown tree :: outer) (frame :: outer)
      (written (holdsRaw frame.name (some "html")) tree ++ rest) rest := by
  match tree with
  | .text _ => exact reads_text faithful (apart rfl) (stops rfl)
  | .comment _ => exact reads_comment _ faithful
  | .doctype _ => exact faithful.elim
  | .fragment _ => exact faithful.elim
  | .document _ => exact faithful.elim
  | .element name _ attrs kids none =>
    exact reads_element faithful (fun n inside =>
      reads_trees kids ⟨n, name, attrs, []⟩ _ inside (fun _ _ _ => nofun) (endTag_stops name rest)) _
  | .element name _ attrs _ (some kids) =>
    exact reads_element faithful (fun n inside =>
      reads_trees kids ⟨n, name, attrs, []⟩ _ inside (fun _ _ _ => nofun) (endTag_stops name rest)) _
termination_by structural tree

theorem reads_trees (trees : List Tree) (frame : Frame) (outer : List Frame) {rest : List Char}
    (faithful : FaithfulAll ((frame :: outer).map Frame.name) trees)
    (apart : ∀ first ∈ trees.head?, first.isText = true → ∀ t ∈ frame.kids.getLast?, t.isText = false)
    (stops : ∀ c ∈ rest.head?, c = '<') :
    Reads origin (· = { frame with kids := frame.kids ++ trees } :: outer) (frame :: outer)
      (writtenAll (holdsRaw frame.name (some "html")) trees ++ rest) rest := by
  match trees with
  | [] => exact .refl (by simp) _
  | tree :: trees =>
    obtain ⟨first, more, alone⟩ := faithful
    have here : Reads origin (· = frame.grown tree :: outer) (frame :: outer)
        (written (holdsRaw frame.name (some "html")) tree ++
          (writtenAll (holdsRaw frame.name (some "html")) trees ++ rest))
        (writtenAll (holdsRaw frame.name (some "html")) trees ++ rest) :=
      reads_tree tree first (apart tree rfl) fun text => writtenAll_stops more (alone text) stops _
    have next : ∀ t ∈ trees.head?, t.isText = true →
        ∀ last ∈ (frame.grown tree).kids.getLast?, last.isText = false := by
      intro t begins text last ends
      rw [Frame.grown, List.getLast?_concat] at ends
      cases Option.some.inj ends
      refine Bool.eq_false_iff.mpr fun shown => ?_
      have marked := alone shown
      rw [show trees.head? = some t from begins, Option.all_some, text] at marked
      cases marked
    have later := reads_trees trees (frame.grown tree) outer more next stops
    rw [writtenAll, List.append_assoc]
    refine here.trans ?_
    rintro now rfl
    have whole : (frame.grown tree).kids ++ trees = frame.kids ++ tree :: trees := by
      simp [Frame.grown]
    rw [whole] at later
    exact later
termination_by structural trees

end

end Construct

end HtmlTree

import HtmlTree.Render
import HtmlTree.Tree
import HtmlTree.Proofs.Lineage
import Mathlib.Data.List.Infix

namespace HtmlTree

namespace Tree

def isText : Tree → Bool
  | .text _ => true
  | _ => false

-- Whether the text in elements of this name and namespace is written as it stands.
def holdsRaw (name : String) (ns : Option String) : Bool :=
  Markup.rawTextNames.contains name && (ns == none || ns == some "html")

-- No blank but the space needs to be kept out of names.
def LegibleName (name : String) : Prop :=
  (∃ c ∈ name.toList.head?, c.isAlpha = true) ∧
    ∀ c ∈ name.toList, c ∉ [' ', '/', '<', '>']

def LegibleKey (name : String) : Prop :=
  name ≠ "" ∧ ∀ c ∈ name.toList, c ∉ [' ', '"', '\'', '=', '/', '<', '>']

-- The one text that an element with raw text may hold.
def rawText? : List Tree → Option String
  | [] => some ""
  | [.text data] => some (data.getD "")
  | _ => none

def RawKids (kids : List Tree) : Prop :=
  ∃ text ∈ rawText? kids, ¬ ['<', '/'] <:+: text.toList

-- What an element needs apart from the trees inside it.
structure LegibleTag (name : String) (ns : Option String) (attrs : Attributes)
    (kids : List Tree) : Prop where
  named : LegibleName name
  html : ns = some "html"
  keys : ∀ entry ∈ attrs.entries, LegibleKey entry.1
  void : name ∈ Markup.voidNames → kids.isEmpty = true
  raw : name ∈ Markup.rawTextNames → RawKids kids

mutual

-- The trees that can be told from their markup. A text says something, a comment does not end
-- early, and neither does the text of an element that is written raw.
def Legible : Tree → Prop
  | .text data => data.getD "" ≠ ""
  | .comment data => data.isSome = true ∧ ¬ ['-', '-', '>'] <:+: (data.getD "").toList
  | .doctype data => data.getD "" ≠ "" ∧ '>' ∉ (data.getD "").toList
  | .fragment _ => False
  | .document _ => False
  | .element name ns attrs kids content =>
    LegibleTag name ns attrs kids ∧
      match content with
      | some inside => name = "template" ∧ kids.isEmpty = true ∧ LegibleAll inside
      | none => name ≠ "template" ∧ LegibleAll kids
termination_by structural tree => tree

-- Two texts side by side would read as one.
def LegibleAll : List Tree → Prop
  | [] => True
  | tree :: rest => tree.Legible ∧ LegibleAll rest ∧
    (tree.isText = true → rest.head?.all (!·.isText) = true)
termination_by structural trees => trees

end

-- The instances are named, for the ones found otherwise go through every character there is.
instance (name : String) : Decidable (LegibleName name) :=
  @instDecidableAnd _ _ (Option.decidableExistsMem name.toList.head?)
    (List.decidableBAll _ name.toList)

instance (name : String) : Decidable (LegibleKey name) :=
  @instDecidableAnd _ _ inferInstance (List.decidableBAll _ name.toList)

instance (kids : List Tree) : Decidable (RawKids kids) :=
  inferInstanceAs (Decidable (∃ text ∈ rawText? kids, ¬ ['<', '/'] <:+: text.toList))

instance (name : String) (ns : Option String) (attrs : Attributes) (kids : List Tree) :
    Decidable (LegibleTag name ns attrs kids) :=
  decidable_of_iff (LegibleName name ∧ ns = some "html" ∧
      (∀ entry ∈ attrs.entries, LegibleKey entry.1) ∧
      (name ∈ Markup.voidNames → kids.isEmpty = true) ∧
      (name ∈ Markup.rawTextNames → RawKids kids))
    ⟨fun ⟨named, html, keys, void, raw⟩ => ⟨named, html, keys, void, raw⟩,
      fun tag => ⟨tag.named, tag.html, tag.keys, tag.void, tag.raw⟩⟩

mutual

def Legible.decidable : (tree : Tree) → Decidable tree.Legible
  | .text _ => inferInstanceAs (Decidable (_ ≠ _))
  | .comment _ => inferInstanceAs (Decidable (_ ∧ _))
  | .doctype _ => inferInstanceAs (Decidable (_ ∧ _))
  | .fragment _ => .isFalse id
  | .document _ => .isFalse id
  | .element _ _ _ kids none =>
    have := LegibleAll.decidable kids
    inferInstanceAs (Decidable (_ ∧ _ ∧ _))
  | .element _ _ _ _ (some inside) =>
    have := LegibleAll.decidable inside
    inferInstanceAs (Decidable (_ ∧ _ ∧ _ ∧ _))
termination_by structural tree => tree

def LegibleAll.decidable : (trees : List Tree) → Decidable (LegibleAll trees)
  | [] => .isTrue trivial
  | tree :: rest =>
    have := Legible.decidable tree
    have := LegibleAll.decidable rest
    inferInstanceAs (Decidable (_ ∧ _ ∧ _))
termination_by structural trees => trees

end

instance (trees : List Tree) : Decidable (LegibleAll trees) := LegibleAll.decidable trees

mutual

def written (raw : Bool) : Tree → List Char
  | .text data => if raw then (data.getD "").toList else (Text.escapeText (data.getD "")).toList
  | .comment data => (Markup.commentMarkup (data.getD "")).toList
  | .doctype data => (Markup.doctypeMarkup (data.getD "")).toList
  | .fragment kids => writtenAll false kids
  | .document kids => writtenAll false kids
  | .element name ns attrs kids content =>
    (Markup.startTag name attrs).toList ++
      if Markup.voidNames.contains name then []
      else
        (match content with
        | some inside => writtenAll (holdsRaw name ns) inside
        | none => writtenAll (holdsRaw name ns) kids) ++ (Markup.endTag name).toList
termination_by structural tree => tree

def writtenAll (raw : Bool) : List Tree → List Char
  | [] => []
  | tree :: rest => written raw tree ++ writtenAll raw rest
termination_by structural trees => trees

end

theorem writtenAll_eq_flatMap (raw : Bool) (trees : List Tree) :
    writtenAll raw trees = trees.flatMap (written raw) := by
  induction trees with
  | nil => rfl
  | cons tree rest ih => rw [writtenAll, ih, List.flatMap_cons]

theorem LegibleAll.mem {trees : List Tree} (legible : LegibleAll trees) {tree : Tree}
    (member : tree ∈ trees) : tree.Legible := by
  induction trees with
  | nil => cases member
  | cons first rest ih =>
    obtain ⟨head, tail, _⟩ := legible
    rcases List.mem_cons.mp member with rfl | later
    · exact head
    · exact ih tail later

def insides (kids : List Tree) (content : Option (List Tree)) : List Tree := content.getD kids

theorem Legible.tag {name : String} {ns : Option String} {attrs : Attributes} {kids : List Tree}
    {content : Option (List Tree)} (legible : (element name ns attrs kids content).Legible) :
    LegibleTag name ns attrs kids := by
  cases content with
  | none =>
    rw [Legible] at legible
    exact legible.1
  | some inside =>
    rw [Legible] at legible
    exact legible.1

theorem Legible.insides {name : String} {ns : Option String} {attrs : Attributes} {kids : List Tree}
    {content : Option (List Tree)} (legible : (element name ns attrs kids content).Legible) :
    LegibleAll (insides kids content) := by
  cases content with
  | none =>
    rw [Legible] at legible
    exact legible.2.2
  | some inside =>
    rw [Legible] at legible
    exact legible.2.2.2

mutual

-- The trees that were not cut off anywhere and are made of known nodes, with names that are let in.
def Whole (admitted : String → Prop) : Tree → Prop
  | .text data => data.isSome = true
  | .comment _ => True
  | .doctype _ => True
  | .fragment _ => False
  | .document _ => False
  | .element name _ _ kids content =>
    admitted name ∧
      match content with
      | some inside => WholeAll admitted inside
      | none => WholeAll admitted kids
termination_by structural tree => tree

def WholeAll (admitted : String → Prop) : List Tree → Prop
  | [] => True
  | tree :: rest => tree.Whole admitted ∧ WholeAll admitted rest
termination_by structural trees => trees

end

theorem WholeAll.mem {admitted : String → Prop} {trees : List Tree} (whole : WholeAll admitted trees)
    {tree : Tree} (member : tree ∈ trees) : tree.Whole admitted := by
  induction trees with
  | nil => cases member
  | cons first rest ih =>
    rcases List.mem_cons.mp member with rfl | later
    · exact whole.1
    · exact ih whole.2 later

theorem Whole.insides {admitted : String → Prop} {name : String} {ns : Option String} {attrs : Attributes}
    {kids : List Tree} {content : Option (List Tree)}
    (whole : (element name ns attrs kids content).Whole admitted) :
    admitted name ∧ WholeAll admitted (insides kids content) := by
  cases content <;> (rw [Whole] at whole; exact whole)

mutual

theorem Legible.whole : (tree : Tree) → tree.Legible → tree.Whole fun _ => True
  | .text none, legible => absurd rfl legible
  | .text (some _), _ => rfl
  | .comment _, _ => trivial
  | .doctype _, _ => trivial
  | .fragment _, legible => legible
  | .document _, legible => legible
  | .element _ _ _ kids none, legible => ⟨trivial, LegibleAll.whole kids legible.2.2⟩
  | .element _ _ _ _ (some inside), legible => ⟨trivial, LegibleAll.whole inside legible.2.2.2⟩
termination_by structural tree => tree

theorem LegibleAll.whole : (trees : List Tree) → LegibleAll trees → WholeAll (fun _ => True) trees
  | [], _ => trivial
  | tree :: rest, legible => ⟨Legible.whole tree legible.1, LegibleAll.whole rest legible.2.1⟩
termination_by structural trees => trees

end

theorem written_element (raw : Bool) (name : String) (ns : Option String) (attrs : Attributes)
    (kids : List Tree) (content : Option (List Tree)) :
    (element name ns attrs kids content).written raw = (Markup.startTag name attrs).toList ++
      if Markup.voidNames.contains name then []
      else writtenAll (holdsRaw name ns) (insides kids content) ++ (Markup.endTag name).toList := by
  cases content <;> rfl

end Tree

namespace Forest
open HtmlTree.Tree Markup

variable {f : Forest} {n : NodeId} {depth : Nat}

-- A node with none of the marked names.
structure Unmarked (node : Node) : Prop where
  text : node.isText = false
  comment : node.isComment = false
  doctype : node.name ≠ Node.doctypeName
  fragment : node.isFragment = false
  document : node.isDocument = false

theorem treeWithin_element (unmarked : Unmarked (f.node n)) :
    f.treeWithin (depth + 1) n = .element (f.node n).name (f.node n).ns
      ((f.node n).attrs.getD .empty) (((f.children n).getD []).map (f.treeWithin depth))
      ((f.content n).map fun fragment =>
        ((f.children fragment).getD []).map (f.treeWithin depth)) := by
  simp [treeWithin, unmarked.text, unmarked.comment, unmarked.doctype, unmarked.fragment,
    unmarked.document, children, Forest.content]

inductive Unfolding (f : Forest) (depth : Nat) (n : NodeId) : Prop where
  | text (kind : (f.node n).isText = true)
    (tree : f.treeWithin (depth + 1) n = .text (f.data n))
  | comment (other : (f.node n).isText = false) (kind : (f.node n).isComment = true)
    (tree : f.treeWithin (depth + 1) n = .comment (f.data n))
  | doctype (other : (f.node n).isText = false) (plain : (f.node n).isComment = false)
    (kind : (f.node n).name = Node.doctypeName)
    (tree : f.treeWithin (depth + 1) n = .doctype (f.data n))
  | cut (tree : ∀ admitted, ¬ (f.treeWithin (depth + 1) n).Whole admitted)
  | element (unmarked : Unmarked (f.node n))

theorem unfolding (f : Forest) (depth : Nat) (n : NodeId) : Unfolding f depth n := by
  cases text : (f.node n).isText with
  | true => exact .text text (by simp [treeWithin, text, data])
  | false =>
    cases comment : (f.node n).isComment with
    | true => exact .comment text comment (by simp [treeWithin, text, comment, data])
    | false =>
      by_cases doctype : (f.node n).name = Node.doctypeName
      · exact .doctype text comment doctype (by simp [treeWithin, text, comment, doctype, data])
      · cases fragment : (f.node n).isFragment with
        | true => exact .cut fun _ => by simp [treeWithin, text, comment, doctype, fragment, Whole]
        | false =>
          cases document : (f.node n).isDocument with
          | true =>
            exact .cut fun _ => by simp [treeWithin, text, comment, doctype, fragment, document, Whole]
          | false =>
            exact .element ⟨text, comment, doctype, fragment, document⟩

theorem insides_written (f : Forest) (depth : Nat) (n : NodeId) :
    insides (((f.children n).getD []).map (f.treeWithin depth))
      ((f.content n).map fun fragment => ((f.children fragment).getD []).map (f.treeWithin depth)) =
      (f.writtenChildren n).map (f.treeWithin depth) := by
  cases content : f.content n <;> simp [insides, writtenChildren, content]

theorem toList_join_markup {admitted : String → Prop} {kids : List NodeId} {raw : Bool}
    (each : ∀ c ∈ kids, (f.treeWithin depth c).Whole admitted →
      (f.markupWithin depth .flat 0 raw c).toList = (f.treeWithin depth c).written raw)
    (whole : WholeAll admitted (kids.map (f.treeWithin depth))) :
    (String.join (kids.map (f.markupWithin depth .flat 0 raw))).toList =
      writtenAll raw (kids.map (f.treeWithin depth)) := by
  rw [String.toList_join, writtenAll_eq_flatMap, List.flatMap_map, List.flatMap_map]
  refine List.flatMap_congr fun c member => ?_
  exact each c member (whole.mem (List.mem_map_of_mem member))

theorem intercalate_unspaced (parts : List (List Char)) : [].intercalate parts = parts.flatten := by
  induction parts with
  | nil => rfl
  | cons part parts ih =>
    cases parts with
    | nil => simp
    | cons next parts =>
      rw [List.intercalate_cons_cons, ih, List.append_nil]
      rfl

-- On one line the parts stand side by side.
theorem toList_join_flat (parts : List String) :
    (Layout.flat.join (parts.filter (!·.isEmpty))).toList = parts.flatMap String.toList := by
  have unspaced : (Layout.flat.join (parts.filter (!·.isEmpty))).toList =
      ((parts.filter (!·.isEmpty)).map String.toList).flatten := by
    rw [← intercalate_unspaced]
    exact String.toList_intercalate
  rw [unspaced]
  clear unspaced
  induction parts with
  | nil => rfl
  | cons part parts ih =>
    by_cases empty : part.isEmpty = true
    · have nothing : part.toList = [] := by simpa using empty
      simpa [empty, nothing] using ih
    · simpa [empty] using ih

-- On one line an element without children is written like any other.
theorem markupWithin_tagged (text : (f.node n).isText = false)
    (comment : (f.node n).isComment = false) (doctype : (f.node n).name ≠ Node.doctypeName)
    (fragment : (f.node n).isFragment = false) (raw : Bool) :
    f.markupWithin (depth + 1) .flat 0 raw n =
      startTag (f.node n).name ((f.node n).attrs.getD .empty) ++
        if voidNames.contains (f.node n).name then ""
        else String.join ((f.writtenChildren n).map
          (f.markupWithin depth .flat 0 (isRawText (f.node n)))) ++ endTag (f.node n).name := by
  have indent : Layout.flat.indent 0 = "" := rfl
  have flat : Layout.flat.pretty = false := rfl
  by_cases void : (f.node n).name ∈ voidNames
  · simp [markupWithin, text, comment, doctype, fragment, indent, void]
  · by_cases empty : f.writtenChildren n = []
    · simp [markupWithin, text, comment, doctype, fragment, indent, void, empty, String.join]
    · simp [markupWithin, text, comment, doctype, fragment, indent, flat, void, empty,
        String.append_assoc]

theorem markupWithin_element (unmarked : Unmarked (f.node n)) (raw : Bool) :
    f.markupWithin (depth + 1) .flat 0 raw n =
      startTag (f.node n).name ((f.node n).attrs.getD .empty) ++
        if voidNames.contains (f.node n).name then ""
        else String.join ((f.writtenChildren n).map
          (f.markupWithin depth .flat 0 (isRawText (f.node n)))) ++ endTag (f.node n).name :=
  markupWithin_tagged unmarked.text unmarked.comment unmarked.doctype unmarked.fragment raw

theorem textMarkup_flat (raw : Bool) (data : String) :
    textMarkup .flat 0 raw data = if raw then data else Text.escapeText data := by
  cases raw with
  | false => rfl
  | true => by_cases empty : data = "" <;> simp [textMarkup, Layout.flat, Layout.indent, empty]

-- The markup of a node says of its tree what is written for the tree.
theorem markupWithin_written {admitted : String → Prop} (depth : Nat) (n : NodeId) (raw : Bool)
    (whole : (f.treeWithin depth n).Whole admitted) :
    (f.markupWithin depth .flat 0 raw n).toList = (f.treeWithin depth n).written raw := by
  induction depth generalizing n raw with
  | zero => exact absurd whole (by simp [treeWithin, Whole])
  | succ depth ih =>
    cases unfolding f depth n with
    | cut tree => exact absurd whole (tree _)
    | text kind tree =>
      rw [tree, written, markupWithin, if_pos kind, textMarkup_flat]
      cases raw <;> rfl
    | comment other kind tree =>
      simp [tree, written, markupWithin, other, kind, Layout.flat, Layout.indent, data,
        Node.ownText]
    | doctype other plain kind tree =>
      simp [tree, written, markupWithin, other, plain, kind, Layout.flat, Layout.indent, data,
        Node.ownText]
    | element unmarked =>
      rw [treeWithin_element unmarked] at whole
      have inside := whole.insides.2
      rw [insides_written] at inside
      have joined := toList_join_markup (fun c _ => ih c (isRawText (f.node n))) inside
      rw [treeWithin_element unmarked, written_element, insides_written,
        markupWithin_element unmarked, String.toList_append]
      split
      · rfl
      · rw [String.toList_append, joined]
        rfl

-- A tree in which nothing was cut off is the same at every greater depth.
theorem treeWithin_deeper (legible : (f.treeWithin depth n).Legible) :
    f.treeWithin (depth + 1) n = f.treeWithin depth n := by
  induction depth generalizing n with
  | zero => exact absurd legible (by simp [treeWithin, Legible])
  | succ depth ih =>
    have all {kids : List NodeId} (legible : LegibleAll (kids.map (f.treeWithin depth))) :
        kids.map (f.treeWithin (depth + 1)) = kids.map (f.treeWithin depth) :=
      List.map_congr_left fun c member => ih (legible.mem (List.mem_map_of_mem member))
    cases unfolding f depth n with
    | cut tree => exact absurd legible.whole (tree _)
    | text kind tree => simp [treeWithin, kind]
    | comment other kind tree => simp [treeWithin, other, kind]
    | doctype other plain kind tree => simp [treeWithin, other, plain, kind]
    | element unmarked =>
      rw [treeWithin_element unmarked] at legible
      rw [treeWithin_element unmarked, treeWithin_element unmarked]
      cases content : f.content n with
      | none =>
        rw [content, Option.map_none, Legible] at legible
        rw [all legible.2.2, Option.map_none, Option.map_none]
      | some fragment =>
        rw [content, Option.map_some, Legible] at legible
        have none : (f.children n).getD [] = [] := by simpa using legible.2.2.1
        rw [none, Option.map_some, Option.map_some, all legible.2.2.2]
        rfl

theorem known_of_whole {admitted : String → Prop} (whole : (f.treeWithin depth n).Whole admitted) :
    f.known n = true := by
  by_contra unknown
  have bare := node_unknown (Bool.eq_false_iff.mpr unknown)
  cases depth with
  | zero => simp [treeWithin, Whole] at whole
  | succ depth => simp [treeWithin, bare, Node.newText, Node.isText, Node.name, Whole] at whole

theorem forM_ok {kids : List NodeId} {visit : NodeId → Except Failure Unit}
    (each : ∀ c ∈ kids, visit c = .ok ()) : kids.forM visit = .ok () := by
  induction kids with
  | nil => rfl
  | cons c kids ih =>
    have rest := ih fun m member => each m (List.mem_cons_of_mem _ member)
    rw [List.forM, each c List.mem_cons_self]
    exact rest

-- Such a tree can be rendered as long as its elements have names.
theorem surveyWithin_whole {admitted : String → Prop}
    (named : ∀ n, admitted (f.node n).name → (f.node n).isNamed = true)
    (whole : (f.treeWithin depth n).Whole admitted) : f.surveyWithin depth .flat 0 n = .ok () := by
  induction depth generalizing n with
  | zero => rfl
  | succ depth ih =>
    have known := known_of_whole whole
    have admitted : Layout.flat.admit 0 = .ok () := rfl
    cases unfolding f depth n with
    | cut tree => exact absurd whole (tree _)
    | text kind tree => simp [surveyWithin, admitted, known, kind]
    | comment other kind tree => simp [surveyWithin, admitted, known, kind]
    | doctype other plain kind tree => simp [surveyWithin, admitted, known, kind]
    | element unmarked =>
      rw [treeWithin_element unmarked] at whole
      obtain ⟨allowed, inside⟩ := whole.insides
      have called := named n allowed
      rw [insides_written] at inside
      have surveyed := forM_ok fun c member => ih (inside.mem (List.mem_map_of_mem member))
      obtain ⟨text, comment, doctype, fragment, _⟩ := unmarked
      have flat : Layout.flat.pretty = false := rfl
      by_cases void : (f.node n).name ∈ voidNames
      · simp [surveyWithin, admitted, known, called, text, comment, doctype, fragment, void]
      · simp [surveyWithin, admitted, known, called, text, comment, doctype, fragment, void, flat,
          surveyed]
        rfl

end Forest
end HtmlTree

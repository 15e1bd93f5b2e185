import HtmlTree.Proofs.Legible
import Mathlib.Data.List.TakeWhile

namespace HtmlTree.Markup
open HtmlTree.Tree (Legible LegibleAll LegibleName LegibleKey LegibleTag RawKids written writtenAll)

-- Text with the references resolved that writing puts into it.
def plain : List Char → List Char
  | [] => []
  | '&' :: 'a' :: 'm' :: 'p' :: ';' :: rest => '&' :: plain rest
  | '&' :: 'n' :: 'b' :: 's' :: 'p' :: ';' :: rest => Text.noBreakSpace :: plain rest
  | '&' :: 'l' :: 't' :: ';' :: rest => '<' :: plain rest
  | '&' :: 'g' :: 't' :: ';' :: rest => '>' :: plain rest
  | '&' :: 'q' :: 'u' :: 'o' :: 't' :: ';' :: rest => '"' :: plain rest
  | '&' :: '#' :: '3' :: '9' :: ';' :: rest => '\'' :: plain rest
  | c :: rest => c :: plain rest

theorem plain_cons {c : Char} (other : c ≠ '&') (rest : List Char) :
    plain (c :: rest) = c :: plain rest := by
  simp [plain, other]

theorem plain_textChar (c : Char) (rest : List Char) :
    plain (Text.escapeTextChar c ++ rest) = c :: plain rest := by
  unfold Text.escapeTextChar
  by_cases ampersand : c = '&'
  · simp [plain, ampersand]
  by_cases blank : c = Text.noBreakSpace
  · simp [plain, blank, Text.noBreakSpace]
  by_cases left : c = '<'
  · simp [plain, left, Text.noBreakSpace]
  by_cases right : c = '>'
  · simp [plain, right, Text.noBreakSpace]
  simp [plain_cons ampersand, ampersand, blank, left, right]

theorem plain_text (text : List Char) : plain (text.flatMap Text.escapeTextChar) = text := by
  induction text with
  | nil => rfl
  | cons c text ih => rw [List.flatMap_cons, plain_textChar, ih]

theorem plain_valueChar {quote : Char} (either : quote = '"' ∨ quote = '\'') (c : Char)
    (rest : List Char) : plain (Text.escapeValueChar quote c ++ rest) = c :: plain rest := by
  unfold Text.escapeValueChar
  by_cases ampersand : c = '&'
  · simp [plain, ampersand]
  by_cases blank : c = Text.noBreakSpace
  · simp [plain, blank, Text.noBreakSpace]
  by_cases quoted : c = quote
  · rcases either with rfl | rfl
    · simp [plain, quoted, Text.noBreakSpace]
    · simp [plain, quoted, Text.noBreakSpace]
  simp [plain_cons ampersand, ampersand, blank, quoted]

theorem plain_value {quote : Char} (either : quote = '"' ∨ quote = '\'') (value : List Char) :
    plain (value.flatMap (Text.escapeValueChar quote)) = value := by
  induction value with
  | nil => rfl
  | cons c value ih => rw [List.flatMap_cons, plain_valueChar either, ih]

-- What stands before the first occurrence of a mark, and what behind it.
def cut (mark : List Char) : List Char → Option (List Char × List Char)
  | [] => none
  | c :: rest =>
    if mark <+: c :: rest then some ([], (c :: rest).drop mark.length)
    else (cut mark rest).map fun parts => (c :: parts.1, parts.2)

theorem cut_mark {mark text rest : List Char} (nonempty : mark ≠ [])
    (absent : ∀ back, back <:+ text → back ≠ [] → ¬ mark <+: back ++ (mark ++ rest)) :
    cut mark (text ++ (mark ++ rest)) = some (text, rest) := by
  induction text with
  | nil =>
    cases mark with
    | nil => exact absurd rfl nonempty
    | cons c mark =>
      have found : c :: mark <+: c :: (mark ++ rest) := List.prefix_append _ _
      rw [List.nil_append, List.cons_append, cut, if_pos found, ← List.cons_append,
        List.drop_left]
  | cons c text ih =>
    have here : ¬ mark <+: c :: (text ++ (mark ++ rest)) :=
      absent (c :: text) List.suffix_rfl (by simp)
    have later := ih fun back suffix => absent back (suffix.trans (List.suffix_cons c text))
    rw [List.cons_append, cut, if_neg here, later]
    rfl

theorem cut_char {mark : Char} {text : List Char} (absent : mark ∉ text) (rest : List Char) :
    cut [mark] (text ++ mark :: rest) = some (text, rest) := by
  refine cut_mark (by simp) fun back suffix nonempty found => ?_
  cases back with
  | nil => exact nonempty rfl
  | cons c back =>
    obtain ⟨tail, equal⟩ := found
    injection equal with same _
    exact absent (same ▸ suffix.subset List.mem_cons_self)

theorem cut_comment {text : List Char} (absent : ¬ ['-', '-', '>'] <:+: text) (rest : List Char) :
    cut ['-', '-', '>'] (text ++ (['-', '-', '>'] ++ rest)) = some (text, rest) := by
  refine cut_mark (by simp) fun back suffix nonempty found => ?_
  obtain ⟨tail, equal⟩ := found
  -- The mark cannot begin in the text and end in the mark itself.
  rcases back with _ | ⟨a, _ | ⟨b, _ | ⟨c, back⟩⟩⟩
  · exact nonempty rfl
  · simp at equal
  · simp at equal
  · simp only [List.cons_append, List.nil_append, List.cons.injEq] at equal
    obtain ⟨rfl, rfl, rfl, _⟩ := equal
    exact absent ((List.prefix_append ['-', '-', '>'] back).isInfix.trans suffix.isInfix)

theorem cut_closing {text : List Char} (absent : ¬ ['<', '/'] <:+: text) (rest : List Char) :
    cut ['<', '/'] (text ++ (['<', '/'] ++ rest)) = some (text, rest) := by
  refine cut_mark (by simp) fun back suffix nonempty found => ?_
  obtain ⟨tail, equal⟩ := found
  rcases back with _ | ⟨a, _ | ⟨b, back⟩⟩
  · exact nonempty rfl
  · simp at equal
  · simp only [List.cons_append, List.nil_append, List.cons.injEq] at equal
    obtain ⟨rfl, rfl, _⟩ := equal
    exact absent ((List.prefix_append ['<', '/'] back).isInfix.trans suffix.isInfix)

def expect (text input : List Char) : Option (List Char) :=
  if text <+: input then some (input.drop text.length) else none

theorem expect_append (text rest : List Char) : expect text (text ++ rest) = some rest := by
  rw [expect, if_pos (List.prefix_append text rest), List.drop_left]

def inName (c : Char) : Bool := c != ' ' && c != '>'

def inKey (c : Char) : Bool := c != ' ' && c != '=' && c != '>'

def readAttributes : Nat → List Char → Option (List (String × Option String) × List Char)
  | 0, _ => none
  | fuel + 1, input =>
    match input with
    | '>' :: rest => some ([], rest)
    | ' ' :: rest =>
      let key := String.ofList (rest.takeWhile inKey)
      match rest.dropWhile inKey with
      | '=' :: quote :: value => do
        let (text, rest) ← cut [quote] value
        let (more, tail) ← readAttributes fuel rest
        some ((key, some (String.ofList (plain text))) :: more, tail)
      | rest => do
        let (more, tail) ← readAttributes fuel rest
        some ((key, none) :: more, tail)
    | _ => none

-- What follows the start tag of an element, to the end of the element.
def readBody (inside : List Char → Option (List Tree × List Char)) (name : String)
    (attrs : Attributes) (input : List Char) : Option (Tree × List Char) :=
  if name ∈ voidNames then some (.element name (some "html") attrs [] none, input)
  else if name ∈ rawTextNames then do
    let (text, rest) ← cut ['<', '/'] input
    let tail ← expect (name.toList ++ ['>']) rest
    let kids := if text.isEmpty then [] else [.text (some (String.ofList text))]
    some (.element name (some "html") attrs kids none, tail)
  else do
    let (trees, rest) ← inside input
    let tail ← expect (endTag name).toList rest
    if name = "template" then some (.element name (some "html") attrs [] (some trees), tail)
    else some (.element name (some "html") attrs trees none, tail)

def readElement (inside : List Char → Option (List Tree × List Char)) (input : List Char) :
    Option (Tree × List Char) := do
  let (entries, rest) ← readAttributes input.length (input.dropWhile inName)
  readBody inside (String.ofList (input.takeWhile inName)) ⟨entries⟩ rest

def readNode (inside : List Char → Option (List Tree × List Char)) :
    List Char → Option (Tree × List Char)
  | '<' :: '!' :: '-' :: '-' :: rest => do
    let (data, tail) ← cut ['-', '-', '>'] rest
    some (.comment (some (String.ofList data)), tail)
  | '<' :: '!' :: rest => do
    let body ← expect "DOCTYPE ".toList rest
    let (data, tail) ← cut ['>'] body
    some (.doctype (some (String.ofList data)), tail)
  | '<' :: rest => readElement inside rest
  | input =>
    some (.text (some (String.ofList (plain (input.takeWhile (· != '<'))))),
      input.dropWhile (· != '<'))

-- Reads nodes up to an end tag or the end of the input.
def readNodes : Nat → List Char → Option (List Tree × List Char)
  | 0, _ => none
  | fuel + 1, input =>
    match input with
    | [] => some ([], [])
    | '<' :: '/' :: rest => some ([], '<' :: '/' :: rest)
    | input => do
      let (first, rest) ← readNode (readNodes fuel) input
      let (more, tail) ← readNodes fuel rest
      some (first :: more, tail)

def decode (markup : String) : Option Tree :=
  match readNodes (markup.toList.length + 1) markup.toList with
  | some (trees, []) => some (.fragment trees)
  | _ => none

end HtmlTree.Markup

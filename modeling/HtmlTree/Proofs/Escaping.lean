import HtmlTree.Proofs.RoundTrip

namespace HtmlTree.Text

variable {c d quote : Char} {text rest : List Char} {refs : List (List Char × Char)}
  {escape : Char → List Char}

-- One pass over a text, from its beginning to its end: where it goes on with a reference, the
-- character that this stands for comes in its place, and the pass goes on behind it.
def resolve (refs : List (List Char × Char)) : Nat → List Char → List Char
  | _, [] => []
  | skip + 1, _ :: rest => resolve refs skip rest
  | 0, c :: rest =>
    match refs.find? fun entry => entry.1.isPrefixOf (c :: rest) with
    | some (reference, meant) => meant :: resolve refs (reference.length - 1) rest
    | none => c :: resolve refs 0 rest

def resolved (refs : List (List Char × Char)) (text : String) : String :=
  String.ofList (resolve refs 0 text.toList)

-- The references that stand in a text between tags, and those in the value of an attribute.
def textReferences : List (List Char × Char) :=
  [(['&', 'a', 'm', 'p', ';'], '&'), (['&', 'n', 'b', 's', 'p', ';'], noBreakSpace),
   (['&', 'l', 't', ';'], '<'), (['&', 'g', 't', ';'], '>')]

def valueReferences : List (List Char × Char) :=
  [(['&', 'a', 'm', 'p', ';'], '&'), (['&', 'n', 'b', 's', 'p', ';'], noBreakSpace),
   (['&', 'q', 'u', 'o', 't', ';'], '"'), (['&', '#', '3', '9', ';'], '\'')]

-- A text in which something has come in place of every occurrence of a character.
def replaced (c : Char) (reference : String) (text : String) : String :=
  String.ofList (text.toList.flatMap fun d => if d = c then reference.toList else [d])

-- What every character is written as is read as this character, whatever comes behind it.
theorem resolve_flatMap
    (each : ∀ c rest, resolve refs 0 (escape c ++ rest) = c :: resolve refs 0 rest)
    (text : List Char) : resolve refs 0 (text.flatMap escape) = text := by
  induction text with
  | nil => rfl
  | cons c text ih => rw [List.flatMap_cons, each, ih]

-- All references begin with an ampersand, so no other character is taken for one.
theorem resolve_plain (marked : ∀ entry ∈ refs, entry.1.head? = some '&') (other : c ≠ '&')
    (rest : List Char) : resolve refs 0 (c :: rest) = c :: resolve refs 0 rest := by
  have none : (refs.find? fun entry => entry.1.isPrefixOf (c :: rest)) = none := by
    refine List.find?_eq_none.mpr fun entry member => ?_
    obtain ⟨_ | ⟨first, tail⟩, meant⟩ := entry
    · cases marked _ member
    · cases marked _ member
      simp [List.isPrefixOf, Ne.symm other]
  rw [resolve, none]

theorem resolve_textChar (c : Char) (rest : List Char) :
    resolve textReferences 0 (escapeTextChar c ++ rest) = c :: resolve textReferences 0 rest := by
  by_cases ampersand : c = '&'
  · subst ampersand
    rfl
  by_cases blank : c = noBreakSpace
  · subst blank
    rfl
  by_cases left : c = '<'
  · subst left
    rfl
  by_cases right : c = '>'
  · subst right
    rfl
  have plain : escapeTextChar c = [c] := by
    simp [escapeTextChar, ampersand, blank, left, right]
  rw [plain]
  exact resolve_plain (by decide) ampersand rest

theorem resolve_valueChar (either : quote = '"' ∨ quote = '\'') (c : Char) (rest : List Char) :
    resolve valueReferences 0 (escapeValueChar quote c ++ rest) =
      c :: resolve valueReferences 0 rest := by
  by_cases ampersand : c = '&'
  · subst ampersand
    rfl
  by_cases blank : c = noBreakSpace
  · subst blank
    rfl
  by_cases quoted : c = quote
  · subst quoted
    rcases either with rfl | rfl <;> rfl
  have plain : escapeValueChar quote c = [c] := by
    simp [escapeValueChar, ampersand, blank, quoted]
  rw [plain]
  exact resolve_plain (by decide) ampersand rest

theorem closed_of_all {list : List Char}
    (checked : list.all (fun d => decide (d ≠ '<' ∧ d ≠ '>' ∧ d ≠ noBreakSpace)) = true)
    (member : d ∈ list) : d ≠ '<' ∧ d ≠ '>' ∧ d ≠ noBreakSpace :=
  of_decide_eq_true (List.all_eq_true.mp checked d member)

theorem textChar_closed (member : d ∈ escapeTextChar c) : d ≠ '<' ∧ d ≠ '>' ∧ d ≠ noBreakSpace := by
  unfold escapeTextChar at member
  split at member
  · exact closed_of_all (by decide) member
  split at member
  · exact closed_of_all (by decide) member
  split at member
  · exact closed_of_all (by decide) member
  split at member
  · exact closed_of_all (by decide) member
  obtain rfl := List.mem_singleton.mp member
  exact ⟨‹_›, ‹_›, ‹_›⟩

theorem valueChar_bound (either : quote = '"' ∨ quote = '\'') :
    noBreakSpace ∉ escapeValueChar quote c := by
  intro member
  unfold escapeValueChar at member
  split at member
  · exact absurd member (by decide)
  split at member
  · exact absurd member (by decide)
  split at member
  · rcases either with rfl | rfl <;> exact absurd member (by decide)
  exact ‹¬ c = noBreakSpace› (List.mem_singleton.mp member).symm

theorem replaced_escaped (c : Char) (reference : String) (escape : Char → List Char) (text : String) :
    replaced c reference (String.ofList (text.toList.flatMap escape)) =
      String.ofList (text.toList.flatMap fun d =>
        (escape d).flatMap fun e => if e = c then reference.toList else [e]) := by
  rw [replaced, String.toList_ofList, List.flatMap_assoc]

-- Characters can be replaced in the whole text, one after the other, as no reference has a character
-- in it that is replaced later.
theorem escapeText_stages (text : String) : escapeText text =
    replaced '>' "&gt;" (replaced '<' "&lt;" (replaced noBreakSpace "&nbsp;"
      (replaced '&' "&amp;" text))) := by
  have first : replaced '&' "&amp;" text = String.ofList (text.toList.flatMap fun c =>
    if c = '&' then "&amp;".toList else [c]) := rfl
  rw [first, replaced_escaped, replaced_escaped, replaced_escaped, escapeText]
  refine congrArg String.ofList (List.flatMap_congr fun c _ => ?_)
  unfold escapeTextChar
  by_cases ampersand : c = '&'
  · subst ampersand
    rfl
  by_cases blank : c = noBreakSpace
  · subst blank
    rfl
  by_cases left : c = '<'
  · subst left
    rfl
  simp only [if_neg ampersand, if_neg blank, if_neg left, List.flatMap_singleton]
  rfl

theorem escapeValue_stages (either : quote = '"' ∨ quote = '\'') (value : String) :
    escapeValue quote value = replaced quote (if quote = '"' then "&quot;" else "&#39;")
      (replaced noBreakSpace "&nbsp;" (replaced '&' "&amp;" value)) := by
  have first : replaced '&' "&amp;" value = String.ofList (value.toList.flatMap fun c =>
    if c = '&' then "&amp;".toList else [c]) := rfl
  rw [first, replaced_escaped, replaced_escaped, escapeValue]
  refine congrArg String.ofList (List.flatMap_congr fun c _ => ?_)
  unfold escapeValueChar
  by_cases ampersand : c = '&'
  · subst ampersand
    rcases either with rfl | rfl <;> rfl
  by_cases blank : c = noBreakSpace
  · subst blank
    rcases either with rfl | rfl <;> rfl
  simp only [if_neg ampersand, if_neg blank, List.flatMap_singleton]
  rcases either with rfl | rfl <;> rfl

-- What is written for a text has no character in it that would be taken for markup, and reads as the
-- text, also where the text itself looks like a reference. The same holds of a value between the
-- quotes that are chosen for it. Both can be written piece by piece, or with one whole replacement
-- after the other.
theorem escaping_lossless :
    (∀ text : String, (∀ c ∈ (escapeText text).toList, c ≠ '<' ∧ c ≠ '>' ∧ c ≠ noBreakSpace) ∧
      resolved textReferences (escapeText text) = text) ∧
    (∀ value : String, attributeQuote value ∉ (escapeValue (attributeQuote value) value).toList ∧
      noBreakSpace ∉ (escapeValue (attributeQuote value) value).toList ∧
      resolved valueReferences (escapeValue (attributeQuote value) value) = value) ∧
    (∀ front back : String, escapeText (front ++ back) = escapeText front ++ escapeText back) ∧
    (∀ (quote : Char) (front back : String),
      escapeValue quote (front ++ back) = escapeValue quote front ++ escapeValue quote back) ∧
    (∀ text : String, escapeText text =
      replaced '>' "&gt;" (replaced '<' "&lt;" (replaced noBreakSpace "&nbsp;"
        (replaced '&' "&amp;" text)))) ∧
    ∀ value : String,
      escapeValue '"' value = replaced '"' "&quot;" (replaced noBreakSpace "&nbsp;"
        (replaced '&' "&amp;" value)) ∧
      escapeValue '\'' value = replaced '\'' "&#39;" (replaced noBreakSpace "&nbsp;"
        (replaced '&' "&amp;" value)) := by
  refine ⟨fun text => ⟨fun c member => ?_, ?_⟩, fun value => ?_, fun front back => ?_,
    fun quote front back => ?_, escapeText_stages,
    fun value => ⟨escapeValue_stages (.inl rfl) value, escapeValue_stages (.inr rfl) value⟩⟩
  · rw [escapeText, String.toList_ofList, List.mem_flatMap] at member
    obtain ⟨d, _, inside⟩ := member
    exact textChar_closed inside
  · rw [resolved, escapeText, String.toList_ofList, resolve_flatMap resolve_textChar,
      String.ofList_toList]
  · have either := Markup.attributeQuote_either value
    generalize attributeQuote value = quote at either
    rw [resolved, escapeValue, String.toList_ofList]
    refine ⟨Markup.quote_absent either value.toList, fun member => ?_, ?_⟩
    · obtain ⟨c, _, inside⟩ := List.mem_flatMap.mp member
      exact valueChar_bound either inside
    · rw [resolve_flatMap (resolve_valueChar either), String.ofList_toList]
  · rw [escapeText, String.toList_append, List.flatMap_append, String.ofList_append]
    rfl
  · rw [escapeValue, String.toList_append, List.flatMap_append, String.ofList_append]
    rfl

-- What looks like a reference is a reference to itself afterwards.
example : escapeText "&amp;lt;" = "&amp;amp;lt;" ∧
    resolved textReferences "&amp;amp;lt;" = "&amp;lt;" := by decide

end HtmlTree.Text

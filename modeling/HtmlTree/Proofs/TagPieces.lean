import HtmlTree.Proofs.RoundTrip
import HtmlTree.Proofs.Stages

namespace HtmlTree

open Scan

variable {c : Char} {cs rest : List Char} {draft : Draft} {closing : Bool} {name key value : String}
  {attrs : List (String × String)}

-- Characters of a tag name or an attribute name that is kept as it is read.
def inWord (c : Char) : Bool :=
  !Text.isSpace c && c != '>' && c != '/' && c != null && Text.asciiLower c == c

def inKey (c : Char) : Bool := inWord c && c != '='

theorem tagOpen_letter (letter : c.isAlpha = true) : Leads ⟨.tagOpen, draft, c :: cs⟩ []
    ⟨.tagName, .tag false (String.singleton c) [] false, cs⟩ := by
  have bang : c ≠ '!' := by rintro rfl; cases letter
  have slash : c ≠ '/' := by rintro rfl; cases letter
  refine .of_char [] (fun cursor d buffer read => ?_) rfl
  simp [advance, tagOpen, Scan.next, read, bang, slash, isLetter, letter, setDraft, goto]

theorem tagOpen_slash : Leads ⟨.tagOpen, draft, '/' :: cs⟩ [] ⟨.endTagOpen, draft, cs⟩ := by
  refine .of_char [] (fun cursor d buffer read => ?_) rfl
  simp [advance, tagOpen, Scan.next, read, goto]

theorem endTagOpen_letter (letter : c.isAlpha = true) : Leads ⟨.endTagOpen, draft, c :: cs⟩ []
    ⟨.tagName, .tag true (String.singleton c) [] false, cs⟩ := by
  refine .of_char [] (fun cursor d buffer read => ?_) rfl
  simp [advance, endTagOpen, Scan.next, read, isLetter, letter, setDraft, goto]

theorem tagName_char (inside : inWord c = true) :
    Leads ⟨.tagName, .tag closing name attrs false, c :: cs⟩ []
      ⟨.tagName, .tag closing (name.push c) attrs false, cs⟩ := by
  simp only [inWord, Bool.and_eq_true, Bool.not_eq_true', bne_iff_ne, beq_iff_eq] at inside
  obtain ⟨⟨⟨⟨blank, close⟩, slash⟩, other⟩, _⟩ := inside
  refine .of_char [] (fun cursor d buffer read => ?_) rfl
  simp [advance, tagName, Scan.next, read, blank, close, slash, other, pushName, onTag]

theorem tagName_word (inside : ∀ c ∈ cs, inWord c = true) :
    Leads ⟨.tagName, .tag closing name attrs false, cs ++ rest⟩ []
      ⟨.tagName, .tag closing (name ++ String.ofList cs) attrs false, rest⟩ := by
  induction cs generalizing name with
  | nil =>
    rw [said_nil]
    exact .refl _
  | cons c cs ih =>
    have pushed : name ++ String.ofList (c :: cs) = name.push c ++ String.ofList cs := by
      apply String.toList_inj.mp
      simp
    rw [pushed]
    exact (tagName_char (inside c List.mem_cons_self)).silent
      (ih fun d member => inside d (List.mem_cons_of_mem _ member))

theorem tagName_space : Leads ⟨.tagName, draft, ' ' :: cs⟩ [] ⟨.beforeAttrName, draft, cs⟩ := by
  have blank : Text.isSpace ' ' = true := rfl
  refine .of_char [] (fun cursor d buffer read => ?_) rfl
  simp [advance, tagName, Scan.next, read, blank, goto]

theorem beforeAttrName_char (inside : inKey c = true) :
    Leads ⟨.beforeAttrName, .tag closing name attrs false, c :: cs⟩ []
      ⟨.attrName, .tag closing name ((String.singleton c, "") :: attrs) false, cs⟩ := by
  simp only [inKey, inWord, Bool.and_eq_true, Bool.not_eq_true', bne_iff_ne, beq_iff_eq] at inside
  obtain ⟨⟨⟨⟨⟨blank, close⟩, slash⟩, other⟩, _⟩, equals⟩ := inside
  by_cases doubtful : (c = '\'' ∨ c = '"') ∨ c = '<'
  · refine .of_char [.fault ⟨"invalid-character-in-attribute-name", []⟩]
      (fun cursor d buffer read => ?_) rfl
    simp [advance, beforeAttrName, Scan.next, read, blank, close, slash, other, equals, beginAttr,
      doubtful, newAttr, onTag, goto, fault, emit]
  · refine .of_char [] (fun cursor d buffer read => ?_) rfl
    simp [advance, beforeAttrName, Scan.next, read, blank, close, slash, other, equals, beginAttr,
      doubtful, newAttr, onTag, goto]

theorem attrName_letters (letter : isLetter c = true) :
    Leads ⟨.attrName, .tag closing name ((key, value) :: attrs) false, c :: cs⟩ []
      ⟨.attrName, .tag closing name ((key ++ String.ofList (c :: cs.takeWhile isLetter), value) :: attrs)
        false, cs.dropWhile isLetter⟩ := by
  have equals : c ≠ '=' := by rintro rfl; cases letter
  refine .of_run (fun d => !isLetter d) isLetter (fun c => (Bool.not_not (isLetter c)).symm) []
    (fun cursor d e buffer read run => ?_) rfl
  simp [advance, attrName, Scan.next, read, equals, letter, run, pushAttrName, onTag]

theorem attrName_other (inside : inKey c = true) (other : isLetter c = false) :
    Leads ⟨.attrName, .tag closing name ((key, value) :: attrs) false, c :: cs⟩ []
      ⟨.attrName, .tag closing name ((key ++ String.ofList [c], value) :: attrs) false, cs⟩ := by
  simp only [inKey, inWord, Bool.and_eq_true, Bool.not_eq_true', bne_iff_ne, beq_iff_eq] at inside
  obtain ⟨⟨⟨⟨⟨blank, close⟩, slash⟩, solid⟩, _⟩, equals⟩ := inside
  by_cases doubtful : (c = '\'' ∨ c = '"') ∨ c = '<'
  · refine .of_char [.fault ⟨"invalid-character-in-attribute-name", []⟩]
      (fun cursor d buffer read => ?_) rfl
    simp [advance, attrName, Scan.next, read, blank, close, slash, solid, equals, other, doubtful,
      pushAttrName, onTag, fault, emit]
  · refine .of_char [] (fun cursor d buffer read => ?_) rfl
    simp [advance, attrName, Scan.next, read, blank, close, slash, solid, equals, other, doubtful,
      pushAttrName, onTag]

theorem attrName_equals :
    Leads ⟨.attrName, .tag closing name ((key, value) :: attrs) false, '=' :: cs⟩ []
      ⟨.beforeAttrValue, .tag closing name ((Text.lowerAscii key, value) :: attrs) false, cs⟩ := by
  by_cases twice : attrs.any (·.1 == Text.lowerAscii key) = true
  · refine .of_char [.fault ⟨"duplicate-attribute", []⟩] (fun cursor d buffer read => ?_) rfl
    simp [advance, attrName, Scan.next, read, finishAttrName, onTag, goto, fault, emit, twice]
  · refine .of_char [] (fun cursor d buffer read => ?_) rfl
    simp [advance, attrName, Scan.next, read, finishAttrName, onTag, goto, twice]

-- What is left of the name of an attribute. Letters are read in runs, so the induction is on the
-- length.
theorem attrName_word (inside : ∀ c ∈ cs, inKey c = true) :
    Leads ⟨.attrName, .tag closing name ((key, value) :: attrs) false, cs ++ '=' :: rest⟩ []
      ⟨.attrName, .tag closing name ((key ++ String.ofList cs, value) :: attrs) false,
        '=' :: rest⟩ := by
  induction size : cs.length using Nat.strong_induction_on generalizing cs key with
  | _ size ih =>
    subst size
    cases cs with
    | nil =>
      rw [said_nil]
      exact .refl _
    | cons c cs =>
      have later : ∀ d ∈ cs, inKey d = true := fun d member =>
        inside d (List.mem_cons_of_mem _ member)
      cases letter : isLetter c with
      | true =>
        have joined := said_append key (c :: cs.takeWhile isLetter) (cs.dropWhile isLetter)
        rw [List.cons_append, List.takeWhile_append_dropWhile] at joined
        have stops : ∀ c ∈ ('=' :: rest).head?, isLetter c = false := by
          rintro c ⟨⟩
          rfl
        have taken := @takeWhile_before _ cs _ stops
        have left := @dropWhile_before _ cs _ stops
        rw [joined, List.cons_append]
        refine (attrName_letters letter).silent ?_
        rw [taken, left]
        refine ih _ ?_ (fun d member => later d ?_) rfl
        · exact Nat.lt_succ_of_le (List.dropWhile_sublist _).length_le
        · exact (List.dropWhile_sublist _).subset member
      | false =>
        have joined : key ++ String.ofList (c :: cs) =
            (key ++ String.ofList [c]) ++ String.ofList cs := said_append key [c] cs
        rw [joined]
        exact (attrName_other (inside c List.mem_cons_self) letter).silent
          (ih _ (Nat.lt_succ_self _) later rfl)

theorem beforeAttrValue_quote {quote : Char} (either : quote = '"' ∨ quote = '\'') :
    Leads ⟨.beforeAttrValue, draft, quote :: cs⟩ [] ⟨.quotedValue quote, draft, cs⟩ := by
  have blank : Text.isSpace quote = false := by rcases either with rfl | rfl <;> rfl
  refine .of_char [] (fun cursor d buffer read => ?_) rfl
  simp [advance, beforeAttrValue, Scan.next, read, blank, either, goto]

-- Characters of a value that are read as they stand.
def inValue (quote c : Char) : Bool := !(c == quote || c == '&' || c == null)

theorem quotedValue_run {quote : Char} (own : inValue quote c = true) :
    Leads ⟨.quotedValue quote, .tag closing name ((key, value) :: attrs) false, c :: cs⟩ []
      ⟨.quotedValue quote, .tag closing name
        ((key, value ++ String.ofList (c :: cs.takeWhile (inValue quote))) :: attrs) false,
        cs.dropWhile (inValue quote)⟩ := by
  simp only [inValue, Bool.not_eq_true', Bool.or_eq_false_iff, beq_eq_false_iff_ne] at own
  obtain ⟨⟨other, ampersand⟩, solid⟩ := own
  refine .of_run (fun d => d == quote || d == '&' || d == null) (inValue quote) (fun _ => rfl) []
    (fun cursor d e buffer read run => ?_) rfl
  simp [advance, quotedValue, Scan.next, read, other, ampersand, solid, run, pushAttrValue, onTag]

theorem quotedValue_reference {quote : Char} (either : quote = '"' ∨ quote = '\'') {word : List Char}
    (refers : Refers word c) :
    Leads ⟨.quotedValue quote, .tag closing name ((key, value) :: attrs) false, '&' :: (word ++ cs)⟩ []
      ⟨.quotedValue quote, .tag closing name ((key, value ++ String.ofList [c]) :: attrs) false, cs⟩ := by
  refine .of_step (by simp only [List.length_cons, List.length_append]; omega) fun cursor buffer ahead => ?_
  obtain ⟨d, read, after⟩ := ahead.next
  have apart : ∀ d ∈ some quote, d.isLower = false ∧ d ≠ '#' := by
    rintro d ⟨⟩
    rcases either with rfl | rfl <;> exact ⟨rfl, by decide⟩
  obtain ⟨e, reads, beyond⟩ := refers.read
    (s := ⟨d, .quotedValue quote, .tag closing name ((key, value) :: attrs) false, buffer, []⟩) after
    apart true
  have other : '&' ≠ quote := by rcases either with rfl | rfl <;> decide
  exact ⟨e, [], by simp [advance, quotedValue, Scan.next, read, other, referenceInValue, reads, pushAttrValue,
    onTag], beyond, rfl⟩

-- A value up to its closing quote.
theorem quotedValue_spelt {quote : Char} (either : quote = '"' ∨ quote = '\'') {text : List Char}
    (spells : Spells (inValue quote) cs text) :
    Leads ⟨.quotedValue quote, .tag closing name ((key, value) :: attrs) false, cs ++ quote :: rest⟩ []
      ⟨.quotedValue quote, .tag closing name ((key, value ++ String.ofList text) :: attrs) false,
        quote :: rest⟩ := by
  induction size : cs.length using Nat.strong_induction_on generalizing cs text value with
  | _ size ih =>
    subst size
    cases spells with
    | nil =>
      rw [said_nil]
      exact .refl _
    | @char c cs text own more =>
      have stops : ∀ c ∈ (quote :: rest).head?, inValue quote c = false := by
        rintro c ⟨⟩
        simp [inValue]
      have taken := @takeWhile_before _ cs _ stops
      have left := @dropWhile_before _ cs _ stops
      obtain ⟨later, rfl, spells⟩ := more.split (inValue quote) (by simp [inValue])
      rw [← List.cons_append, said_append, List.cons_append]
      refine (quotedValue_run own).silent ?_
      rw [taken, left]
      exact ih _ (Nat.lt_succ_of_le (List.dropWhile_sublist _).length_le) spells rfl
    | @reference word c cs text refers more =>
      have joined : value ++ String.ofList (c :: text) =
          (value ++ String.ofList [c]) ++ String.ofList text := said_append value [c] text
      rw [joined, List.cons_append, List.append_assoc]
      refine (quotedValue_reference either refers).silent (ih _ ?_ more rfl)
      simp only [List.length_cons, List.length_append]
      omega

theorem quotedValue_quote {quote : Char} :
    Leads ⟨.quotedValue quote, draft, quote :: cs⟩ [] ⟨.afterAttrValue, draft, cs⟩ := by
  refine .of_char [] (fun cursor d buffer read => ?_) rfl
  simp [advance, quotedValue, Scan.next, read, goto]

theorem afterAttrValue_space : Leads ⟨.afterAttrValue, draft, ' ' :: cs⟩ []
    ⟨.beforeAttrName, draft, cs⟩ := by
  have blank : Text.isSpace ' ' = true := rfl
  refine .of_char [] (fun cursor d buffer read => ?_) rfl
  simp [advance, afterAttrValue, Scan.next, read, blank, goto]

-- Where a tag may end or go on with another attribute.
def Between (state : ScanState) : Prop := state = .tagName ∨ state = .afterAttrValue

theorem between_space {state : ScanState} (between : Between state) :
    Leads ⟨state, draft, ' ' :: cs⟩ [] ⟨.beforeAttrName, draft, cs⟩ := by
  rcases between with rfl | rfl
  · exact tagName_space
  · exact afterAttrValue_space

theorem between_start {state : ScanState} (between : Between state) :
    Leads ⟨state, .tag false name attrs false, '>' :: cs⟩
      [.start ⟨Text.lowerAscii name, firstWins attrs.reverse, false, false⟩]
      ⟨.data, .tag false name attrs false, cs⟩ := by
  have solid : Text.isSpace '>' = false := rfl
  refine .of_char [.start ⟨Text.lowerAscii name, firstWins attrs.reverse, false, false⟩]
    (fun cursor d buffer read => ?_) rfl
  rcases between with rfl | rfl
  · simp [advance, tagName, Scan.next, read, solid, emitTag, emit, goto]
  · simp [advance, afterAttrValue, Scan.next, read, solid, emitTag, emit, goto]

theorem tagName_close : Leads ⟨.tagName, .tag true name [] false, '>' :: cs⟩
    [.close ⟨Text.lowerAscii name, [], false, false⟩] ⟨.data, .tag true name [] false, cs⟩ := by
  have solid : Text.isSpace '>' = false := rfl
  refine .of_char [.close ⟨Text.lowerAscii name, [], false, false⟩]
    (fun cursor d buffer read => ?_) rfl
  simp [advance, tagName, Scan.next, read, solid, emitTag, emit, goto]

-- Names and values of a tag that are read as they are.
structure Tellable (name : String) (attrs : Attributes) : Prop where
  begins : ∃ c ∈ name.toList.head?, c.isAlpha = true
  named : ∀ c ∈ name.toList, inWord c = true
  keys : ∀ entry ∈ attrs.entries, entry.1 ≠ "" ∧ ∀ c ∈ entry.1.toList, inKey c = true
  values : ∀ entry ∈ attrs.entries, ∃ value ∈ entry.2, ∀ c ∈ value.toList, isKept c = true
  distinct : attrs.names.Nodup

theorem spells_value {quote : Char} (either : quote = '"' ∨ quote = '\'') {text : List Char}
    (kept : ∀ c ∈ text, isKept c = true) :
    Spells (inValue quote) (text.flatMap (Text.escapeValueChar quote)) text := by
  refine .flatMap fun c member => ?_
  have here := kept c member
  rw [Text.escapeValueChar]
  split
  · rename_i same
    rw [same]
    exact .sole (.named (by decide))
  split
  · rename_i same
    rw [same]
    exact .sole (.named (by decide))
  split
  · rename_i same
    subst same
    rcases either with rfl | rfl
    · exact .sole (.named (by decide))
    · exact .sole .apostrophe
  · rename_i ampersand _ other
    simp only [isKept, Bool.and_eq_true, bne_iff_ne] at here
    exact .char (by simp [inValue, ampersand, other, here.1]) .nil

theorem lowerAscii_word (inside : ∀ c ∈ name.toList, inWord c = true) : Text.lowerAscii name = name := by
  have same : name.toList.map Text.asciiLower = name.toList := by
    refine (List.map_congr_left fun c member => ?_).trans (List.map_id _)
    have kept := inside c member
    simp only [inWord, Bool.and_eq_true, beq_iff_eq] at kept
    exact kept.2
  rw [Text.lowerAscii, same, String.ofList_toList]

theorem inWord_of_inKey (inside : inKey c = true) : inWord c = true := by
  simp only [inKey, Bool.and_eq_true] at inside
  exact inside.1

-- One attribute after the name of the tag or after another attribute.
theorem attribute_read {state : ScanState} (between : Between state) (named : key ≠ "")
    (inside : ∀ c ∈ key.toList, inKey c = true) (kept : ∀ c ∈ value.toList, isKept c = true) :
    Leads ⟨state, .tag closing name attrs false,
        (Markup.attributeMarkup (key, some value)).toList ++ rest⟩ []
      ⟨.afterAttrValue, .tag closing name ((key, value) :: attrs) false, rest⟩ := by
  have either := Markup.attributeQuote_either value
  have spells := spells_value either kept
  have lower := lowerAscii_word fun c member => inWord_of_inKey (inside c member)
  rw [Markup.attributeMarkup_valued]
  cases word : key.toList with
  | nil => exact absurd (String.toList_eq_nil_iff.mp word) named
  | cons c cs =>
    rw [word] at inside
    simp only [List.cons_append, List.append_assoc, List.nil_append]
    refine (between_space between).silent ?_
    refine (beforeAttrName_char (inside c List.mem_cons_self)).silent ?_
    refine (attrName_word fun d member => inside d (List.mem_cons_of_mem _ member)).silent ?_
    refine attrName_equals.silent ?_
    rw [said_word word, lower]
    refine (beforeAttrValue_quote either).silent ?_
    refine (quotedValue_spelt either spells).silent ?_
    rw [String.empty_append, String.ofList_toList]
    exact quotedValue_quote

-- The attributes as they are read: a missing value reads as an empty one.
def pairsOf (entries : List (String × Option String)) : List (String × String) :=
  entries.map fun entry => (entry.1, entry.2.getD "")

theorem attributes_read {entries : List (String × Option String)}
    (keys : ∀ entry ∈ entries, entry.1 ≠ "" ∧ ∀ c ∈ entry.1.toList, inKey c = true)
    (values : ∀ entry ∈ entries, ∃ value ∈ entry.2, ∀ c ∈ value.toList, isKept c = true)
    {state : ScanState} (between : Between state) :
    ∃ last, Between last ∧ Leads
      ⟨state, .tag closing name attrs false, Markup.attributesText entries ++ rest⟩ []
      ⟨last, .tag closing name ((pairsOf entries).reverse ++ attrs) false, rest⟩ := by
  induction entries generalizing state attrs with
  | nil => exact ⟨state, between, .refl _⟩
  | cons entry entries ih =>
    obtain ⟨key, value?⟩ := entry
    obtain ⟨named, inside⟩ := keys _ List.mem_cons_self
    obtain ⟨value, rfl, kept⟩ := values _ List.mem_cons_self
    obtain ⟨last, still, later⟩ : ∃ last, Between last ∧ Leads
        ⟨.afterAttrValue, .tag closing name ((key, value) :: attrs) false,
          Markup.attributesText entries ++ rest⟩ []
        ⟨last, .tag closing name ((pairsOf entries).reverse ++ (key, value) :: attrs) false, rest⟩ := ih
      (fun other member => keys other (List.mem_cons_of_mem _ member))
      (fun other member => values other (List.mem_cons_of_mem _ member)) (.inr rfl)
    refine ⟨last, still, ?_⟩
    have taken : (pairsOf ((key, some value) :: entries)).reverse ++ attrs =
        (pairsOf entries).reverse ++ (key, value) :: attrs := by simp [pairsOf]
    rw [Markup.attributesText, List.flatMap_cons, List.append_assoc, taken]
    exact (attribute_read between named inside kept).silent later

theorem firstWins_distinct {pairs : List (String × String)} (distinct : (pairs.map Prod.fst).Nodup) :
    firstWins pairs = pairs := by
  have adds (front : List (String × String)) (a : String × String) (new : ∀ b ∈ front, b.1 ≠ a.1) :
      (if front.any (·.1 == a.1) then front else front ++ [a]) = front ++ [a] :=
    if_neg fun found => by
      obtain ⟨b, member, same⟩ := List.any_eq_true.mp found
      exact new b member (eq_of_beq same)
  exact Attributes.foldl_distinct id adds [] distinct

theorem Tellable.word {attrs : Attributes} (tellable : Tellable name attrs) :
    ∃ c cs, name.toList = c :: cs ∧ c.isAlpha = true := by
  obtain ⟨c, first, letter⟩ := tellable.begins
  cases all : name.toList with
  | nil => rw [all] at first; cases first
  | cons d cs => rw [all] at first; cases first; exact ⟨c, cs, rfl, letter⟩

-- The start tag of an element is read as one tag with its attributes in their order.
theorem startTag_read {attrs : Attributes} (tellable : Tellable name attrs) :
    ∃ after, Leads ⟨.data, draft, (Markup.startTag name attrs).toList ++ rest⟩
      [.start ⟨name, pairsOf attrs.entries, false, false⟩] ⟨.data, after, rest⟩ := by
  obtain ⟨c, cs, word, letter⟩ := tellable.word
  obtain ⟨_, named, keys, values, distinct⟩ := tellable
  have lower := lowerAscii_word named
  have pairs : (pairsOf attrs.entries).map Prod.fst = attrs.names := by simp [pairsOf, Attributes.names]
  rw [word] at named
  obtain ⟨last, between, read⟩ := @attributes_read ('>' :: rest) false name [] _ keys values _ (.inl rfl)
  refine ⟨.tag false name (pairsOf attrs.entries).reverse false, ?_⟩
  have ends := @between_start rest name (pairsOf attrs.entries).reverse _ between
  rw [List.reverse_reverse, firstWins_distinct (pairs ▸ distinct), lower] at ends
  rw [List.append_nil] at read
  rw [Markup.startTag_toList, word]
  simp only [List.cons_append, List.append_assoc, List.nil_append]
  refine data_less.silent ((tagOpen_letter letter).silent ?_)
  refine (tagName_word fun d member => named d (List.mem_cons_of_mem _ member)).silent ?_
  rw [said_word word]
  exact read.silent ends

theorem endTag_read {attrs : Attributes} (tellable : Tellable name attrs) :
    ∃ after, Leads ⟨.data, draft, (Markup.endTag name).toList ++ rest⟩
      [.close ⟨name, [], false, false⟩] ⟨.data, after, rest⟩ := by
  obtain ⟨c, cs, word, letter⟩ := tellable.word
  have named := tellable.named
  have lower := lowerAscii_word named
  rw [word] at named
  refine ⟨.tag true name [] false, ?_⟩
  have ends := @tagName_close rest name
  rw [lower] at ends
  rw [Markup.endTag_toList, word]
  simp only [List.cons_append, List.append_assoc, List.nil_append]
  refine data_less.silent (tagOpen_slash.silent ((endTagOpen_letter letter).silent ?_))
  refine (tagName_word fun d member => named d (List.mem_cons_of_mem _ member)).silent ?_
  rw [said_word word]
  exact ends

end HtmlTree

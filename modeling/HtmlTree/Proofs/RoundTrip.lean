import HtmlTree.Proofs.Decoding

namespace HtmlTree.Markup
open HtmlTree.Tree (Legible LegibleAll LegibleName LegibleKey LegibleTag RawKids written writtenAll)

theorem attributeQuote_either (value : String) :
    Text.attributeQuote value = '"' ∨ Text.attributeQuote value = '\'' := by
  unfold Text.attributeQuote
  split
  · exact .inr rfl
  · exact .inl rfl

theorem quote_absent {quote : Char} (either : quote = '"' ∨ quote = '\'') (value : List Char) :
    quote ∉ value.flatMap (Text.escapeValueChar quote) := by
  intro member
  obtain ⟨c, _, inside⟩ := List.mem_flatMap.mp member
  unfold Text.escapeValueChar at inside
  by_cases ampersand : c = '&'
  · rcases either with rfl | rfl <;> simp [ampersand] at inside
  by_cases blank : c = Text.noBreakSpace
  · rcases either with rfl | rfl <;> simp [blank, Text.noBreakSpace] at inside
  by_cases quoted : c = quote
  · rcases either with rfl | rfl <;> simp [quoted, Text.noBreakSpace] at inside
  · simp [ampersand, blank, quoted] at inside
    exact quoted inside.symm

def attributesText (entries : List (String × Option String)) : List Char :=
  entries.flatMap fun entry => (attributeMarkup entry).toList

theorem attributeMarkup_bare (key : String) :
    (attributeMarkup (key, none)).toList = ' ' :: key.toList := by
  simp [attributeMarkup]

theorem attributeMarkup_valued (key value : String) :
    (attributeMarkup (key, some value)).toList = ' ' :: (key.toList ++ '=' ::
      Text.attributeQuote value :: (value.toList.flatMap
        (Text.escapeValueChar (Text.attributeQuote value)) ++ [Text.attributeQuote value])) := by
  simp [attributeMarkup, Text.escapeValue, Char.toString]

theorem startTag_toList (name : String) (attrs : Attributes) :
    (startTag name attrs).toList = '<' :: (name.toList ++ (attributesText attrs.entries ++ ['>'])) := by
  simp [startTag, attributesText, List.flatMap_map]

theorem endTag_toList (name : String) :
    (endTag name).toList = '<' :: '/' :: (name.toList ++ ['>']) := by
  simp [endTag]

-- Reading as long as characters belong to a word stops where the word does.
theorem word_read {belongs : Char → Bool} {word rest : List Char}
    (inside : ∀ c ∈ word, belongs c = true) (stops : ∀ c ∈ rest.head?, belongs c = false) :
    (word ++ rest).takeWhile belongs = word ∧ (word ++ rest).dropWhile belongs = rest := by
  rw [List.takeWhile_append_of_pos inside, List.dropWhile_append_of_pos inside]
  cases rest with
  | nil => simp
  | cons c rest => simp [stops c rfl]

theorem inKey_of_legible {key : String} (legible : LegibleKey key) :
    ∀ c ∈ key.toList, inKey c = true := by
  intro c member
  have outside := legible.2 c member
  simp at outside
  simp [inKey, outside]

theorem inName_of_legible {name : String} (legible : LegibleName name) :
    ∀ c ∈ name.toList, inName c = true := by
  intro c member
  have outside := legible.2 c member
  simp at outside
  simp [inName, outside]

-- Behind a name there is a space or the end of the tag.
theorem attributes_begin (entries : List (String × Option String)) (rest : List Char) :
    (∃ tail, attributesText entries ++ '>' :: rest = ' ' :: tail) ∨
      ∃ tail, attributesText entries ++ '>' :: rest = '>' :: tail := by
  cases entries with
  | nil => exact .inr ⟨rest, rfl⟩
  | cons entry entries =>
    obtain ⟨key, value⟩ := entry
    cases value with
    | none =>
      rw [attributesText, List.flatMap_cons, attributeMarkup_bare]
      exact .inl ⟨_, rfl⟩
    | some value =>
      rw [attributesText, List.flatMap_cons, attributeMarkup_valued]
      exact .inl ⟨_, rfl⟩

theorem readAttributes_bare {key : String} (legible : LegibleKey key) {next : List Char}
    (begins : (∃ tail, next = ' ' :: tail) ∨ ∃ tail, next = '>' :: tail) (fuel : Nat) :
    readAttributes (fuel + 1) (' ' :: (key.toList ++ next)) =
      (readAttributes fuel next).map fun read => ((key, none) :: read.1, read.2) := by
  have stops : ∀ c ∈ next.head?, inKey c = false := by
    rcases begins with ⟨tail, rfl⟩ | ⟨tail, rfl⟩ <;> simp [inKey]
  obtain ⟨taken, left⟩ := word_read (inKey_of_legible legible) stops
  rw [readAttributes]
  simp only [taken, left, String.ofList_toList]
  rcases begins with ⟨tail, rfl⟩ | ⟨tail, rfl⟩
  · cases ran : readAttributes fuel (' ' :: tail) <;> simp [ran]
  · cases ran : readAttributes fuel ('>' :: tail) <;> simp [ran]

theorem readAttributes_valued {key : String} (legible : LegibleKey key) (value : String)
    (next : List Char) (fuel : Nat) :
    readAttributes (fuel + 1) (' ' :: (key.toList ++ '=' :: Text.attributeQuote value ::
        (value.toList.flatMap (Text.escapeValueChar (Text.attributeQuote value)) ++
          Text.attributeQuote value :: next))) =
      (readAttributes fuel next).map fun read => ((key, some value) :: read.1, read.2) := by
  have either := attributeQuote_either value
  have closed := cut_char (quote_absent either value.toList) next
  have stops : ∀ c ∈ ('=' :: Text.attributeQuote value ::
      (value.toList.flatMap (Text.escapeValueChar (Text.attributeQuote value)) ++
        Text.attributeQuote value :: next)).head?, inKey c = false := by
    simp [inKey]
  obtain ⟨taken, left⟩ := word_read (inKey_of_legible legible) stops
  rw [readAttributes]
  simp only [taken, left, closed, String.ofList_toList]
  cases ran : readAttributes fuel next <;>
    simp [ran, plain_value either, String.ofList_toList]

theorem readAttributes_written {entries : List (String × Option String)}
    (legible : ∀ entry ∈ entries, LegibleKey entry.1) (rest : List Char) {fuel : Nat}
    (enough : entries.length < fuel) :
    readAttributes fuel (attributesText entries ++ '>' :: rest) = some (entries, rest) := by
  induction entries generalizing fuel with
  | nil =>
    cases fuel with
    | zero => cases enough
    | succ fuel => rfl
  | cons entry entries ih =>
    obtain ⟨key, value⟩ := entry
    cases fuel with
    | zero => cases enough
    | succ fuel =>
      have more := ih (fun other member => legible other (List.mem_cons_of_mem _ member))
        (Nat.lt_of_succ_lt_succ enough)
      have named := legible (key, value) List.mem_cons_self
      cases value with
      | none =>
        have bare := readAttributes_bare named (attributes_begin entries rest) fuel
        rw [attributesText, List.flatMap_cons, attributeMarkup_bare, List.append_assoc,
          List.cons_append]
        rw [more] at bare
        exact bare
      | some value =>
        have valued := readAttributes_valued named value (attributesText entries ++ '>' :: rest) fuel
        rw [more] at valued
        rw [attributesText, List.flatMap_cons, attributeMarkup_valued]
        simpa [attributesText] using valued

theorem length_le_attributesText (entries : List (String × Option String)) :
    entries.length ≤ (attributesText entries).length := by
  induction entries with
  | nil => rfl
  | cons entry entries ih =>
    obtain ⟨key, value⟩ := entry
    have begins : 1 ≤ (attributeMarkup (key, value)).toList.length := by
      cases value with
      | none => simp [attributeMarkup_bare]
      | some value => simp [attributeMarkup_valued]
    have split : attributesText ((key, value) :: entries) =
      (attributeMarkup (key, value)).toList ++ attributesText entries := rfl
    rw [split, List.length_append, List.length_cons]
    omega

-- The name and the attributes of a tag are read off its text, and then comes its body.
theorem readElement_tag {name : String} {attrs : Attributes} (named : LegibleName name)
    (keys : ∀ entry ∈ attrs.entries, LegibleKey entry.1)
    (inside : List Char → Option (List Tree × List Char)) (body : List Char) :
    readElement inside (name.toList ++ (attributesText attrs.entries ++ '>' :: body)) =
      readBody inside name attrs body := by
  have stops : ∀ c ∈ (attributesText attrs.entries ++ '>' :: body).head?, inName c = false := by
    rcases attributes_begin attrs.entries body with ⟨tail, begins⟩ | ⟨tail, begins⟩ <;>
      simp [begins, inName]
  obtain ⟨taken, left⟩ := word_read (inName_of_legible named) stops
  have enough : attrs.entries.length <
      (name.toList ++ (attributesText attrs.entries ++ '>' :: body)).length := by
    have bound := length_le_attributesText attrs.entries
    rw [List.length_append, List.length_append, List.length_cons]
    omega
  rw [readElement, taken, left, readAttributes_written keys body enough, String.ofList_toList]
  rfl

theorem not_template {name : String} {ns : Option String} {attrs : Attributes} {kids : List Tree}
    {content : Option (List Tree)} (legible : (Tree.element name ns attrs kids content).Legible)
    (other : name ≠ "template") : content = none := by
  cases content with
  | none => rfl
  | some inside =>
    rw [Legible] at legible
    exact absurd legible.2.1 other

def bodyText (name : String) (trees : List Tree) : List Char :=
  if voidNames.contains name then []
  else writtenAll (Tree.holdsRaw name (some "html")) trees ++ (endTag name).toList

theorem readBody_raw {name : String} {attrs : Attributes} {kids : List Tree}
    (filled : name ∉ voidNames) (raw : name ∈ rawTextNames) (held : RawKids kids)
    (legible : LegibleAll kids) (inside : List Char → Option (List Tree × List Char))
    (rest : List Char) :
    readBody inside name attrs (bodyText name kids ++ rest) =
      some (.element name (some "html") attrs kids none, rest) := by
  have flag : Tree.holdsRaw name (some "html") = true := by simp [Tree.holdsRaw, raw]
  have closing : (endTag name).toList ++ rest = ['<', '/'] ++ (name.toList ++ ['>'] ++ rest) := by
    simp [endTag_toList]
  have read (text : List Char) (absent : ¬ ['<', '/'] <:+: text) :
      readBody inside name attrs (text ++ ((endTag name).toList ++ rest)) =
        some (.element name (some "html") attrs
          (if text.isEmpty then [] else [.text (some (String.ofList text))]) none, rest) := by
    rw [closing, readBody, if_neg filled, if_pos raw, cut_closing absent]
    simp only [Option.bind_eq_bind, Option.bind_some, expect_append]
  have void : voidNames.contains name = false := by simpa using filled
  rw [bodyText, void, flag]
  obtain ⟨text, only, absent⟩ := held
  have single := read text.toList absent
  unfold Tree.rawText? at only
  split at only
  · cases only
    simpa [writtenAll] using single
  · rename_i data
    cases only
    have said : data.getD "" ≠ "" := legible.1
    cases data with
    | none => exact absurd rfl said
    | some text =>
      have full : text.toList.isEmpty = false := by simpa using said
      rw [Option.getD_some, full] at single
      simpa [writtenAll, written] using single
  · cases only

-- Whatever stands between the tags of another element is read as trees.
theorem readBody_plain {name : String} {attrs : Attributes} {kids : List Tree}
    {content : Option (List Tree)}
    (legible : (Tree.element name (some "html") attrs kids content).Legible)
    (filled : name ∉ voidNames) (escaped : name ∉ rawTextNames)
    {inside : List Char → Option (List Tree × List Char)} {rest : List Char}
    (reads : inside (writtenAll false (Tree.insides kids content) ++ ((endTag name).toList ++ rest)) =
      some (Tree.insides kids content, (endTag name).toList ++ rest)) :
    readBody inside name attrs (bodyText name (Tree.insides kids content) ++ rest) =
      some (.element name (some "html") attrs kids content, rest) := by
  have flag : Tree.holdsRaw name (some "html") = false := by simp [Tree.holdsRaw, escaped]
  have void : voidNames.contains name = false := by simpa using filled
  have body : bodyText name (Tree.insides kids content) ++ rest =
      writtenAll false (Tree.insides kids content) ++ ((endTag name).toList ++ rest) := by
    rw [bodyText, void, flag]
    simp
  rw [body, readBody, if_neg filled, if_neg escaped, reads]
  simp only [Option.bind_eq_bind, Option.bind_some, expect_append]
  cases content with
  | none =>
    rw [Legible] at legible
    rw [if_neg legible.2.1]
    rfl
  | some trees =>
    rw [Legible] at legible
    have childless : kids = [] := List.isEmpty_iff.mp legible.2.2.1
    rw [if_pos legible.2.1, childless]
    rfl

theorem readBody_written {name : String} {attrs : Attributes} {kids : List Tree}
    {content : Option (List Tree)}
    (legible : (Tree.element name (some "html") attrs kids content).Legible)
    {inside : List Char → Option (List Tree × List Char)} {rest : List Char}
    (reads : name ∉ voidNames → name ∉ rawTextNames →
      inside (writtenAll false (Tree.insides kids content) ++ ((endTag name).toList ++ rest)) =
        some (Tree.insides kids content, (endTag name).toList ++ rest)) :
    readBody inside name attrs (bodyText name (Tree.insides kids content) ++ rest) =
      some (.element name (some "html") attrs kids content, rest) := by
  have tag := legible.tag
  by_cases void : name ∈ voidNames
  · have hollow : content = none := by
      refine not_template legible ?_
      rintro rfl
      exact absurd void (by decide)
    have childless : kids = [] := List.isEmpty_iff.mp (tag.void void)
    have body : bodyText name (Tree.insides kids content) = [] := by simp [bodyText, void]
    rw [body, readBody, if_pos void, hollow, childless]
    rfl
  · by_cases raw : name ∈ rawTextNames
    · have hollow : content = none := by
        refine not_template legible ?_
        rintro rfl
        exact absurd raw (by decide)
      subst hollow
      exact readBody_raw void raw (tag.raw raw) legible.insides inside rest
    · exact readBody_plain legible void raw (reads void raw)

theorem escaped_unmarked (text : List Char) : '<' ∉ text.flatMap Text.escapeTextChar := by
  intro member
  obtain ⟨c, _, inside⟩ := List.mem_flatMap.mp member
  unfold Text.escapeTextChar at inside
  by_cases ampersand : c = '&'
  · simp [ampersand] at inside
  by_cases blank : c = Text.noBreakSpace
  · simp [blank, Text.noBreakSpace] at inside
  by_cases left : c = '<'
  · simp [left, Text.noBreakSpace] at inside
  by_cases right : c = '>'
  · simp [right, Text.noBreakSpace] at inside
  simp [ampersand, blank, left, right] at inside
  exact left inside.symm

theorem escaped_nonempty {text : List Char} (nonempty : text ≠ []) :
    text.flatMap Text.escapeTextChar ≠ [] := by
  intro nothing
  have undone := plain_text text
  rw [nothing] at undone
  exact nonempty undone.symm

theorem text_written (data : Option String) :
    written false (.text data) = (data.getD "").toList.flatMap Text.escapeTextChar := by
  simp [written, Text.escapeText]

theorem comment_written (data : Option String) : written false (.comment data) =
    '<' :: '!' :: '-' :: '-' :: ((data.getD "").toList ++ ['-', '-', '>']) := by
  simp [written, commentMarkup]

theorem doctype_written {data : Option String} (named : data.getD "" ≠ "") :
    written false (.doctype data) =
      '<' :: '!' :: ("DOCTYPE ".toList ++ ((data.getD "").toList ++ ['>'])) := by
  simp [written, doctypeMarkup, named]

theorem element_written (name : String) (attrs : Attributes) (kids : List Tree)
    (content : Option (List Tree)) : written false (.element name (some "html") attrs kids content) =
      '<' :: (name.toList ++ (attributesText attrs.entries ++ '>' ::
        bodyText name (Tree.insides kids content))) := by
  rw [Tree.written_element, startTag_toList]
  simp [bodyText]

-- A text begins with no bracket, and any other tree with one that is no end tag's.
theorem written_begins {tree : Tree} (legible : tree.Legible) :
    (tree.isText = true ∧ ∃ c tail, written false tree = c :: tail ∧ c ≠ '<') ∨
      tree.isText = false ∧ ∃ d tail, written false tree = '<' :: d :: tail ∧ d ≠ '/' := by
  cases tree with
  | text data =>
    rw [Legible] at legible
    refine .inl ⟨rfl, ?_⟩
    rw [text_written]
    cases shown : (data.getD "").toList.flatMap Text.escapeTextChar with
    | nil => exact absurd shown (escaped_nonempty (by simpa using legible))
    | cons c tail =>
      refine ⟨c, tail, rfl, ?_⟩
      rintro rfl
      exact escaped_unmarked (data.getD "").toList (shown ▸ List.mem_cons_self)
  | comment data => exact .inr ⟨rfl, '!', _, comment_written data, by decide⟩
  | doctype data =>
    rw [Legible] at legible
    exact .inr ⟨rfl, '!', _, doctype_written legible.1, by decide⟩
  | fragment kids => exact absurd legible (by simp [Legible])
  | document kids => exact absurd legible (by simp [Legible])
  | element name ns attrs kids content =>
    obtain ⟨c, first, letter⟩ := legible.tag.named.1
    obtain ⟨later, spelled⟩ := List.head?_eq_some_iff.mp first
    cases legible.tag.html
    refine .inr ⟨rfl, c, _, by rw [element_written, spelled]; rfl, ?_⟩
    rintro rfl
    exact absurd letter (by decide)

theorem readNode_text {c : Char} (other : c ≠ '<')
    (inside : List Char → Option (List Tree × List Char)) (rest : List Char) :
    readNode inside (c :: rest) =
      some (.text (some (String.ofList (plain ((c :: rest).takeWhile (· != '<'))))),
        (c :: rest).dropWhile (· != '<')) := by
  simp [readNode, other]

theorem readNode_doctype (inside : List Char → Option (List Tree × List Char))
    (rest : List Char) : readNode inside ('<' :: '!' :: ("DOCTYPE ".toList ++ rest)) =
      (cut ['>'] rest).bind fun read => some (.doctype (some (String.ofList read.1)), read.2) := by
  have here := expect_append ['D', 'O', 'C', 'T', 'Y', 'P', 'E', ' '] rest
  simp only [List.cons_append, List.nil_append] at here
  simp [readNode, here]

theorem readNode_element {c : Char} (letter : c.isAlpha = true)
    (inside : List Char → Option (List Tree × List Char)) (rest : List Char) :
    readNode inside ('<' :: c :: rest) = readElement inside (c :: rest) := by
  have other : c ≠ '!' := by
    rintro rfl
    exact absurd letter (by decide)
  simp [readNode, other]

section
variable {inside : List Char → Option (List Tree × List Char)} {rest : List Char}

-- A text is read as far as the bracket that stands behind it.
theorem text_read {text : String} (said : text ≠ "") (stops : ∀ c ∈ rest.head?, c = '<') :
    readNode inside (written false (.text (some text)) ++ rest) =
      some (.text (some text), rest) := by
  have marks : ∀ c ∈ text.toList.flatMap Text.escapeTextChar, (c != '<') = true := by
    intro c member
    rw [bne_iff_ne]
    rintro rfl
    exact escaped_unmarked text.toList member
  have ends : ∀ c ∈ rest.head?, (c != '<') = false := by
    intro c next
    simp [stops c next]
  obtain ⟨taken, left⟩ := word_read marks ends
  have told : text.toList ≠ [] := by simpa using said
  obtain ⟨c, tail, shown⟩ := List.exists_cons_of_ne_nil (escaped_nonempty told)
  have plainly : c ≠ '<' := by simpa using marks c (shown ▸ List.mem_cons_self)
  rw [shown] at taken left
  have read := readNode_text plainly inside (tail ++ rest)
  rw [← List.cons_append, taken, left, ← shown, plain_text, String.ofList_toList] at read
  rw [text_written]
  exact read

theorem comment_read {text : String} (absent : ¬ ['-', '-', '>'] <:+: text.toList) :
    readNode inside (written false (.comment (some text)) ++ rest) =
      some (.comment (some text), rest) := by
  have closed := cut_comment absent rest
  have split : written false (.comment (some text)) ++ rest =
      '<' :: '!' :: '-' :: '-' :: (text.toList ++ (['-', '-', '>'] ++ rest)) := by
    simp [comment_written]
  rw [split, readNode]
  simp only [closed, Option.bind_eq_bind, Option.bind_some, String.ofList_toList]

theorem doctype_read {text : String} (named : text ≠ "") (absent : '>' ∉ text.toList) :
    readNode inside (written false (.doctype (some text)) ++ rest) =
      some (.doctype (some text), rest) := by
  have closed := cut_char absent rest
  have split : written false (.doctype (some text)) ++ rest =
      '<' :: '!' :: ("DOCTYPE ".toList ++ (text.toList ++ '>' :: rest)) := by
    have kept : (some text).getD "" ≠ "" := named
    simp [doctype_written kept]
  rw [split, readNode_doctype]
  simp only [closed, Option.bind_some, String.ofList_toList]

theorem element_read {name : String} {attrs : Attributes} {kids : List Tree}
    {content : Option (List Tree)}
    (legible : (Tree.element name (some "html") attrs kids content).Legible)
    (reads : name ∉ voidNames → name ∉ rawTextNames →
      inside (writtenAll false (Tree.insides kids content) ++ ((endTag name).toList ++ rest)) =
        some (Tree.insides kids content, (endTag name).toList ++ rest)) :
    readNode inside (written false (.element name (some "html") attrs kids content) ++ rest) =
      some (.element name (some "html") attrs kids content, rest) := by
  have tag := legible.tag
  obtain ⟨c, first, letter⟩ := tag.named.1
  obtain ⟨later, spelled⟩ := List.head?_eq_some_iff.mp first
  have body := readBody_written legible reads
  have element := readElement_tag tag.named tag.keys inside
    (bodyText name (Tree.insides kids content) ++ rest)
  rw [body] at element
  have split : written false (.element name (some "html") attrs kids content) ++ rest =
      '<' :: (name.toList ++ (attributesText attrs.entries ++ '>' ::
        (bodyText name (Tree.insides kids content) ++ rest))) := by
    simp [element_written]
  rw [split, spelled]
  rw [spelled] at element
  exact (readNode_element letter inside _).trans element

-- A tree is read back from its text, whatever follows, as long as a text does not run into it.
theorem readNode_written {tree : Tree} (legible : tree.Legible)
    (stops : tree.isText = true → ∀ c ∈ rest.head?, c = '<')
    (reads : ∀ name attrs kids content, tree = .element name (some "html") attrs kids content →
      name ∉ voidNames → name ∉ rawTextNames →
        inside (writtenAll false (Tree.insides kids content) ++ ((endTag name).toList ++ rest)) =
          some (Tree.insides kids content, (endTag name).toList ++ rest)) :
    readNode inside (written false tree ++ rest) = some (tree, rest) := by
  cases tree with
  | text data =>
    rw [Legible] at legible
    cases data with
    | none => exact absurd rfl legible
    | some text => exact text_read legible (stops rfl)
  | comment data =>
    rw [Legible] at legible
    obtain ⟨given, absent⟩ := legible
    obtain ⟨text, rfl⟩ := Option.isSome_iff_exists.mp given
    exact comment_read absent
  | doctype data =>
    rw [Legible] at legible
    obtain ⟨named, absent⟩ := legible
    cases data with
    | none => exact absurd rfl named
    | some text => exact doctype_read named absent
  | fragment kids => exact absurd legible (by simp [Legible])
  | document kids => exact absurd legible (by simp [Legible])
  | element name ns attrs kids content =>
    cases legible.tag.html
    exact element_read legible (reads name attrs kids content rfl)

end

-- Where a list of trees ends: at an end tag or with the input.
def Closes (rest : List Char) : Prop := rest = [] ∨ ∃ tail, rest = '<' :: '/' :: tail

-- What stands behind a text does not continue it.
theorem text_stops {trees : List Tree} (legible : LegibleAll trees)
    (apart : trees.head?.all (!·.isText) = true) {rest : List Char} (closes : Closes rest) :
    ∀ c ∈ (writtenAll false trees ++ rest).head?, c = '<' := by
  intro c next
  cases trees with
  | nil =>
    rcases closes with rfl | ⟨tail, rfl⟩
    · cases next
    · exact (Option.some.inj next).symm
  | cons tree trees =>
    have marked : tree.isText = false := by simpa using apart
    rcases written_begins legible.1 with ⟨text, _⟩ | ⟨_, d, tail, begins, _⟩
    · rw [marked] at text
      cases text
    · rw [writtenAll, begins] at next
      exact (Option.some.inj next).symm

theorem readNodes_nil {rest : List Char} (closes : Closes rest) (fuel : Nat) :
    readNodes (fuel + 1) rest = some ([], rest) := by
  rcases closes with rfl | ⟨tail, rfl⟩ <;> simp [readNodes]

theorem readNodes_cons {tree : Tree} (legible : tree.Legible) (rest : List Char) (fuel : Nat) :
    readNodes (fuel + 1) (written false tree ++ rest) =
      (readNode (readNodes fuel) (written false tree ++ rest)).bind fun one =>
        (readNodes fuel one.2).bind fun more => some (one.1 :: more.1, more.2) := by
  rcases written_begins legible with ⟨_, c, tail, begins, other⟩ | ⟨_, d, tail, begins, other⟩
  · simp [begins, readNodes, other]
  · simp [begins, readNodes, other]

theorem length_written {tree : Tree} (legible : tree.Legible) : 1 ≤ (written false tree).length := by
  rcases written_begins legible with ⟨_, c, tail, begins, _⟩ | ⟨_, d, tail, begins, _⟩ <;>
    simp [begins]

theorem length_insides (name : String) (attrs : Attributes) (kids : List Tree)
    (content : Option (List Tree)) (filled : name ∉ voidNames) (escaped : name ∉ rawTextNames) :
    (writtenAll false (Tree.insides kids content)).length <
      (written false (.element name (some "html") attrs kids content)).length := by
  have flag : Tree.holdsRaw name (some "html") = false := by simp [Tree.holdsRaw, escaped]
  have body : bodyText name (Tree.insides kids content) =
      writtenAll false (Tree.insides kids content) ++ (endTag name).toList := by
    rw [bodyText, flag]
    simp [filled]
  rw [element_written, body]
  simp only [List.length_cons, List.length_append]
  omega

-- The induction is on the fuel, of which every character that is written is worth one: the trees
-- that follow and those inside are written with fewer.
theorem readNodes_written {trees : List Tree} (legible : LegibleAll trees) {rest : List Char}
    (closes : Closes rest) {fuel : Nat} (enough : (writtenAll false trees).length < fuel) :
    readNodes fuel (writtenAll false trees ++ rest) = some (trees, rest) := by
  induction fuel generalizing trees rest with
  | zero => cases enough
  | succ fuel ih =>
    cases trees with
    | nil => exact readNodes_nil closes fuel
    | cons tree trees =>
      obtain ⟨first, more, apart⟩ := legible
      have begins := length_written first
      rw [writtenAll, List.length_append] at enough
      have later := ih more closes (by omega)
      have here : readNode (readNodes fuel)
          (written false tree ++ (writtenAll false trees ++ rest)) =
            some (tree, writtenAll false trees ++ rest) := by
        refine readNode_written first (fun text => text_stops more (apart text) closes) ?_
        rintro name attrs kids content rfl filled escaped
        have fewer := length_insides name attrs kids content filled escaped
        exact ih first.insides (.inr ⟨_, by rw [endTag_toList]; rfl⟩) (by omega)
      rw [writtenAll, List.append_assoc, readNodes_cons first, here]
      simp only [Option.bind_some, later]

theorem decode_written {trees : List Tree} (legible : LegibleAll trees) {markup : String}
    (shown : markup.toList = writtenAll false trees) : decode markup = some (.fragment trees) := by
  have read := readNodes_written legible (.inl rfl) (Nat.lt_succ_self _)
  rw [List.append_nil, ← shown] at read
  simp only [decode, read]

end HtmlTree.Markup

namespace HtmlTree.Forest
open HtmlTree.Tree Markup

variable {f : Forest} {m : NodeId} {kids : List Tree}

theorem fragment_shape (shape : f.tree m = .fragment kids) :
    (f.node m).isFragment = true ∧ kids = ((f.children m).getD []).map (f.treeWithin f.size) := by
  rw [tree, reach, treeWithin] at shape
  by_cases text : (f.node m).isText = true
  · simp [text] at shape
  by_cases comment : (f.node m).isComment = true
  · simp [text, comment] at shape
  by_cases doctype : (f.node m).name = Node.doctypeName
  · simp [text, comment, doctype] at shape
  by_cases fragment : (f.node m).isFragment = true
  · simp [text, comment, doctype, fragment] at shape
    exact ⟨fragment, shape.symm⟩
  by_cases document : (f.node m).isDocument = true
  · simp [text, comment, doctype, fragment, document] at shape
  · simp [text, comment, doctype, fragment, document] at shape

-- What a fragment is rendered as is what is written for its trees.
theorem innerMarkup_written (shape : f.tree m = .fragment kids) (hollow : f.content m = none)
    (legible : LegibleAll kids) : (f.innerMarkup m).toList = writtenAll false kids := by
  obtain ⟨fragment, rfl⟩ := fragment_shape shape
  have named : (f.node m).name = Node.fragmentName := by simpa [Node.isFragment] using fragment
  have escaped : isRawText (f.node m) = false := by
    rw [isRawText, named]
    rfl
  have children : f.writtenChildren m = (f.children m).getD [] := by simp [writtenChildren, hollow]
  have deeper : ((f.children m).getD []).map (f.treeWithin f.reach) =
      ((f.children m).getD []).map (f.treeWithin f.size) :=
    List.map_congr_left fun c member =>
      treeWithin_deeper (legible.mem (List.mem_map_of_mem member))
  rw [innerMarkup, children, escaped, ← deeper]
  exact toList_join_markup (fun c _ => markupWithin_written f.reach c false) (deeper ▸ legible.whole)

theorem innerMarkupRead_legible (shape : f.tree m = .fragment kids) (hollow : f.content m = none)
    (legible : LegibleAll kids) (named : ∀ n, (f.node n).isNamed = true) :
    f.innerMarkupRead m = .ok (f.innerMarkup m) := by
  obtain ⟨fragment, rfl⟩ := fragment_shape shape
  have known : f.known m = true := known_of_fragment fragment
  have children : f.writtenChildren m = (f.children m).getD [] := by simp [writtenChildren, hollow]
  have surveyed : (f.writtenChildren m).forM (f.surveyWithin f.reach .flat 0) = .ok () := by
    rw [children]
    refine forM_ok fun c member => ?_
    have here := legible.mem (List.mem_map_of_mem member)
    have deeper := treeWithin_deeper here
    exact surveyWithin_whole (fun n _ => named n) (deeper ▸ here.whole)
  simp [innerMarkupRead, known, surveyed]

-- Nothing is lost when a fragment is rendered on one line: one decoder gives back the trees of every
-- legible fragment, so that fragments with the same markup have the same trees.
theorem innerMarkup_lossless (shape : f.tree m = .fragment kids) (hollow : f.content m = none)
    (legible : LegibleAll kids) :
    ((∀ n, (f.node n).isNamed = true) → f.innerMarkupRead m = .ok (f.innerMarkup m)) ∧
      decode (f.innerMarkup m) = some (f.tree m) ∧
      ∀ (g : Forest) (n : NodeId) (others : List Tree), g.tree n = .fragment others →
        g.content n = none → LegibleAll others → g.innerMarkup n = f.innerMarkup m →
          g.tree n = f.tree m := by
  have decoded := decode_written legible (innerMarkup_written shape hollow legible)
  refine ⟨innerMarkupRead_legible shape hollow legible, by rw [decoded, shape], ?_⟩
  intro g n others shape' hollow' legible' same
  have other := decode_written legible' (innerMarkup_written shape' hollow' legible')
  rw [same, decoded] at other
  rw [shape, shape']
  exact (Option.some.inj other).symm

-- A text, a paragraph with two kinds of attributes, and a template around a comment.
theorem innerMarkup_lossless_mixed :
    let f : Forest := ⟨#[{ Node.newFragment with children := some [1, 2, 3] },
      .newText (some "1 < 2"),
      .newElement (some "p") (some ⟨[("hidden", none), ("title", some "\"&")]⟩) (some "html"),
      .newTemplate (some "template") none (some "html") (some 4),
      { Node.newFragment with children := some [5] }, .newComment (some "-")], #[]⟩
    f.tree 0 = .fragment [.text (some "1 < 2"),
      .element "p" (some "html") ⟨[("hidden", none), ("title", some "\"&")]⟩ [] none,
      .element "template" (some "html") .empty [] (some [.comment (some "-")])] ∧
    decode (f.innerMarkup 0) = some (f.tree 0) := by
  intro f
  have shape : f.tree 0 = .fragment [.text (some "1 < 2"),
      .element "p" (some "html") ⟨[("hidden", none), ("title", some "\"&")]⟩ [] none,
      .element "template" (some "html") .empty [] (some [.comment (some "-")])] := rfl
  exact ⟨shape, (innerMarkup_lossless shape rfl (by decide)).2.1⟩

end HtmlTree.Forest

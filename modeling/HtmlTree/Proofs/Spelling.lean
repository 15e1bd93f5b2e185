import HtmlTree.Scan.Reference
import HtmlTree.Proofs.Upcoming

namespace HtmlTree

namespace Scan
open Source

variable {α β : Type} {s t : Scanner} {c : Char} {cs rest : List Char}

@[simp] theorem bind_run (e : Scan α) (k : α → Scan β) (s : Scanner) :
    (e >>= k) s = k (e s).1 (e s).2 := rfl

@[simp] theorem map_run (change : α → β) (e : Scan α) (s : Scanner) :
    (change <$> e) s = (change (e s).1, (e s).2) := rfl

@[simp] theorem pure_run (value : α) (s : Scanner) : (pure value : Scan α) s = (value, s) := rfl

@[simp] theorem get_run (s : Scanner) : (get : Scan Scanner) s = (s, s) := rfl

@[simp] theorem modify_run (change : Scanner → Scanner) (s : Scanner) :
    (modify change : Scan Unit) s = ((), change s) := rfl

theorem next_run (ahead : s.cursor.Ahead cs) :
    ∃ d, next s = (cs.head?, { s with cursor := d }) ∧ d.Ahead cs.tail := by
  obtain ⟨d, read, after⟩ := ahead.next
  exact ⟨d, by simp [next, read], after⟩

theorem back_run (ahead : s.cursor.Ahead cs.tail) :
    ∃ d, back cs.head? s = ((), { s with cursor := d }) ∧ d.Ahead cs := by
  cases cs with
  | nil => exact ⟨s.cursor, rfl, ahead⟩
  | cons c cs => exact ⟨s.cursor.back c, rfl, ahead.back c⟩

theorem upTo_run (ahead : s.cursor.Ahead cs) (stop p : Char → Bool) (opposite : ∀ c, p c = !stop c) :
    ∃ d, upTo stop s = (cs.takeWhile p, { s with cursor := d }) ∧ d.Ahead (cs.dropWhile p) := by
  obtain rfl : p = (!stop ·) := funext opposite
  obtain ⟨d, read, after⟩ := ahead.span (!stop ·)
  exact ⟨d, by simp [upTo, read], after⟩

-- Nothing comes after a semicolon.
def Ended (names : List (List Char × List Char)) : Prop :=
  ∀ entry ∈ names, ∀ front back, entry.1 = front ++ ';' :: back → back = []

theorem mem_narrow {names : List (List Char × List Char)} {entry : List Char × List Char} :
    entry ∈ narrow c names ↔ (c :: entry.1, entry.2) ∈ names := by
  simp only [narrow, List.mem_filterMap]
  constructor
  · rintro ⟨⟨name, value⟩, member, kept⟩
    cases name with
    | nil => cases kept
    | cons d name =>
      dsimp only at kept
      split at kept
      · rename_i same
        cases Option.some.inj kept
        cases eq_of_beq same
        exact member
      · cases kept
  · intro member
    exact ⟨_, member, by simp⟩

theorem Ended.narrow {names : List (List Char × List Char)} (ended : Ended names) :
    Ended (narrow c names) := by
  intro entry member front back split
  exact ended _ (mem_narrow.mp member) (c :: front) back (by rw [split]; rfl)

theorem find?_narrow (names : List (List Char × List Char)) :
    (narrow c names).find? (·.1 == cs) =
      (names.find? (·.1 == c :: cs)).map fun entry => (cs, entry.2) := by
  induction names with
  | nil => rfl
  | cons entry names ih =>
    obtain ⟨name, value⟩ := entry
    cases name with
    | nil => simpa [narrow] using ih
    | cons d name =>
      by_cases same : c = d
      · subst same
        by_cases whole : name = cs
        · subst whole
          simp [narrow]
        · simpa [narrow, whole] using ih
      · simpa [narrow, same, Ne.symm same] using ih

-- Reads a name to its semicolon. Shorter names met on the way count for nothing in the end.
theorem readNames_run {names : List (List Char × List Char)} {value : List Char}
    (found : names.find? (·.1 == c :: cs) = some (c :: cs, value)) (ended : Ended names)
    (closes : (c :: cs).getLast? = some ';') (ahead : s.cursor.Ahead (cs ++ rest)) (fuel : Nat)
    (enough : cs.length + 1 < fuel) (read : List Char) (best : Option NameMatch) :
    ∃ d, readNames fuel names read (some c) best s =
      ((read.reverse ++ c :: cs, rest.head?, some ⟨read.length + cs.length + 1, true, value⟩),
        { s with cursor := d }) ∧ d.Ahead rest.tail := by
  induction cs generalizing s c names fuel read best with
  | nil =>
    obtain rfl : c = ';' := by simpa using closes
    obtain ⟨fuel, rfl⟩ : ∃ more, fuel = more + 2 := ⟨fuel - 2, by simp at enough; omega⟩
    have named : (narrow ';' names).find? (·.1 == []) = some ([], value) := by
      rw [find?_narrow, found]
      rfl
    have here : (narrow ';' names).find? (·.1.isEmpty) = some ([], value) := by
      rw [← named]
      congr 1
      funext entry
      cases entry.1 <;> rfl
    have goes : narrow ';' names ≠ [] := by
      intro empty
      simp [empty] at named
    obtain ⟨d, next, after⟩ := next_run ahead
    refine ⟨d, ?_, after⟩
    rw [List.nil_append] at next
    cases rest with
    | nil => simp [readNames, goes, here, next]
    | cons e rest =>
      have stops : narrow e (narrow ';' names) = [] := by
        refine List.eq_nil_iff_forall_not_mem.mpr fun entry member => ?_
        have within := mem_narrow.mp (mem_narrow.mp member)
        cases ended _ within [] (e :: entry.1) rfl
      simp [readNames, goes, here, next, stops]
  | cons c' cs ih =>
    obtain ⟨fuel, rfl⟩ : ∃ more, fuel = more + 1 := ⟨fuel - 1, by simp at enough; omega⟩
    have named : (narrow c names).find? (·.1 == c' :: cs) = some (c' :: cs, value) := by
      rw [find?_narrow, found]
      rfl
    have goes : narrow c names ≠ [] := by
      intro empty
      simp [empty] at named
    obtain ⟨d, next, after⟩ := next_run ahead
    have onward : ({ s with cursor := d } : Scanner).cursor.Ahead (cs ++ rest) := after
    have later (best : Option NameMatch) := ih named ended.narrow (by simpa using closes) onward fuel
      (by simpa using enough) (c :: read) best
    rw [List.cons_append, List.head?_cons] at next
    rw [readNames]
    simp only [bind_run, List.isEmpty_iff, goes, if_false, next]
    simpa [Nat.add_assoc, Nat.add_comm, Nat.add_left_comm] using later _

theorem nothing_after (word : List Char) {front back : List Char} (free : c ∉ word)
    (split : word ++ [c] = front ++ c :: back) : back = [] := by
  induction word generalizing front with
  | nil =>
    cases front with
    | nil => exact (List.cons.inj split).2.symm
    | cons d front => cases front <;> cases (List.cons.inj split).2
  | cons d word ih =>
    obtain ⟨other, rest⟩ := not_or.mp (mt List.mem_cons.mpr free)
    cases front with
    | nil => exact absurd (List.cons.inj split).1.symm other
    | cons e front => exact ih rest (List.cons.inj split).2

theorem ended_namedReferences : Ended Token.namedReferences := by
  intro entry member front back split
  rcases List.mem_append.mp member with common | other
  · simp only [Token.commonReferences, List.mem_cons, List.not_mem_nil, or_false] at common
    rcases common with rfl | rfl | rfl | rfl | rfl
    · exact nothing_after ['a', 'm', 'p'] (by decide) split
    · exact nothing_after ['g', 't'] (by decide) split
    · exact nothing_after ['l', 't'] (by decide) split
    · exact nothing_after ['n', 'b', 's', 'p'] (by decide) split
    · exact nothing_after ['q', 'u', 'o', 't'] (by decide) split
  · obtain ⟨line, _, inside⟩ := List.mem_flatMap.mp other
    obtain ⟨text, _, rfl⟩ := List.mem_map.mp inside
    unfold Token.readReference at split
    split at split
    · rename_i name codes _
      have free : ';' ∉ name.toList.takeWhile (· != ';') := by
        intro member
        simpa using List.mem_takeWhile_imp member
      rw [Token.ended] at split
      split at split
      · exact nothing_after _ free split
      · have inside : ';' ∈ name.toList.takeWhile (· != ';') := by
          rw [List.append_nil] at split
          dsimp only at split
          rw [split]
          simp
        exact absurd inside free
    · simp at split

-- What is written in front of the other references is found first.
theorem find?_common {name value : List Char} (common : (name, value) ∈ Token.commonReferences) :
    Token.namedReferences.find? (·.1 == name) = some (name, value) := by
  rw [Token.namedReferences, List.find?_append]
  simp only [Token.commonReferences, List.mem_cons, List.not_mem_nil, or_false,
    Prod.mk.injEq] at common
  rcases common with ⟨rfl, rfl⟩ | ⟨rfl, rfl⟩ | ⟨rfl, rfl⟩ | ⟨rfl, rfl⟩ | ⟨rfl, rfl⟩ <;> rfl

-- Names begin with a letter that ends nothing else, and are soon over.
theorem common_shape {name value : List Char} (common : (name, value) ∈ Token.commonReferences) :
    ∃ c cs, name = c :: cs ∧ c.isLower = true ∧ name.getLast? = some ';' ∧
      cs.length + 1 < longestName := by
  simp only [Token.commonReferences, List.mem_cons, List.not_mem_nil, or_false,
    Prod.mk.injEq] at common
  rcases common with ⟨rfl, _⟩ | ⟨rfl, _⟩ | ⟨rfl, _⟩ | ⟨rfl, _⟩ | ⟨rfl, _⟩ <;>
    exact ⟨_, _, rfl, by decide, by decide, by decide⟩

-- A name that markup is written with is read for what it stands for, and nothing beyond it.
theorem reference_named {name value : List Char} (common : (name, value) ∈ Token.commonReferences)
    (ahead : s.cursor.Ahead (name ++ rest)) {closer : Option Char}
    (apart : ∀ c ∈ closer, c.isLower = false) (inValue : Bool) :
    ∃ d, reference closer inValue s = (value, { s with cursor := d }) ∧ d.Ahead rest := by
  have found := find?_common common
  obtain ⟨c, cs, rfl, lower, closes, short⟩ := common_shape common
  obtain ⟨d, next, after⟩ := next_run ahead
  rw [List.cons_append, List.head?_cons] at next
  have onward : ({ s with cursor := d } : Scanner).cursor.Ahead (cs ++ rest) := after
  obtain ⟨e, names, last⟩ := readNames_run found ended_namedReferences closes onward longestName
    short [] none
  have again : ({ s with cursor := e } : Scanner).cursor.Ahead rest.tail := last
  obtain ⟨g, back, done⟩ := back_run again
  refine ⟨g, ?_, done⟩
  have plain : Text.isSpace c = false ∧ c ≠ '<' ∧ c ≠ '&' ∧ c ≠ '#' ∧ some c ≠ closer := by
    refine ⟨?_, ?_, ?_, ?_, ?_⟩
    · cases space : Text.isSpace c with
      | false => rfl
      | true =>
        simp only [Text.isSpace, Bool.or_eq_true, beq_iff_eq] at space
        rcases space with (((rfl | rfl) | rfl) | rfl) | rfl <;> cases lower
    · rintro rfl; cases lower
    · rintro rfl; cases lower
    · rintro rfl; cases lower
    · intro same
      rw [apart c same.symm] at lower
      cases lower
  obtain ⟨blank, less, ampersand, hash, other⟩ := plain
  simp [reference, next, blank, less, ampersand, hash, other, names, back]

theorem readDigits_run {isDigit : Char → Bool} {stop : Char} (digits : ∀ c ∈ cs, isDigit c = true)
    (stops : isDigit stop = false) (ahead : s.cursor.Ahead (cs ++ stop :: rest)) (fuel : Nat)
    (enough : cs.length < fuel) (read : List Char) :
    ∃ d, readDigits isDigit fuel read s = ((read.reverse ++ cs, some stop), { s with cursor := d }) ∧
      d.Ahead rest := by
  induction cs generalizing s fuel read with
  | nil =>
    obtain ⟨fuel, rfl⟩ : ∃ more, fuel = more + 1 := ⟨fuel - 1, by simp at enough; omega⟩
    obtain ⟨d, next, after⟩ := next_run ahead
    exact ⟨d, by simp [readDigits, next, stops], after⟩
  | cons c cs ih =>
    obtain ⟨fuel, rfl⟩ : ∃ more, fuel = more + 1 := ⟨fuel - 1, by simp at enough; omega⟩
    obtain ⟨d, next, after⟩ := next_run ahead
    obtain ⟨e, more, last⟩ := ih (s := { s with cursor := d })
      (fun e member => digits e (List.mem_cons_of_mem _ member)) after fuel
      (by simpa using enough) (c :: read)
    exact ⟨e, by simp [readDigits, next, digits c List.mem_cons_self, more], last⟩

theorem numberReference_run (digits : ∀ c ∈ cs, c.isDigit = true)
    (few : cs.length ≤ mostDigits)
    (value : Token.numericReference
      (cs.foldl (fun n c => 10 * n + (Text.CharSet.hexDigit? c).getD 0) 0) = (c, false))
    (ahead : s.cursor.Ahead (cs ++ ';' :: rest)) :
    ∃ d, numberReference false s = ([c], { s with cursor := d }) ∧ d.Ahead rest := by
  have enough : cs.length < s.cursor.remaining + 1 := by
    rw [Cursor.remaining_eq, ahead.upcoming, List.length_append]
    omega
  obtain ⟨d, read, after⟩ := readDigits_run digits rfl ahead (s.cursor.remaining + 1) enough []
  refine ⟨d, ?_, after⟩
  simp [numberReference, read, value, Nat.not_lt.mpr few]

-- The one character that is written by its number.
theorem reference_apostrophe (ahead : s.cursor.Ahead ('#' :: '3' :: '9' :: ';' :: rest))
    {closer : Option Char} (apart : closer ≠ some '#') (inValue : Bool) :
    ∃ d, reference closer inValue s = (['\''], { s with cursor := d }) ∧ d.Ahead rest := by
  obtain ⟨d, first, after⟩ := next_run ahead
  obtain ⟨e, second, after⟩ := next_run (s := { s with cursor := d }) after
  have again : (e.back '3').Ahead (['3', '9'] ++ ';' :: rest) := after.back '3'
  have digits : ∀ c ∈ ['3', '9'], c.isDigit = true :=
    List.forall_mem_cons.mpr ⟨rfl, List.forall_mem_singleton.mpr rfl⟩
  obtain ⟨g, number, last⟩ := numberReference_run (s := { s with cursor := e.back '3' })
    (c := '\'') digits (by decide) rfl again
  refine ⟨g, ?_, last⟩
  simp only [List.head?_cons, List.tail_cons] at first second
  have blank : Text.isSpace '#' = false := rfl
  have found : '3'.isDigit = true := rfl
  simp [reference, first, second, back, apart.symm, blank, found, number]

-- What follows an ampersand for a character that is not written as it stands.
inductive Refers : List Char → Char → Prop where
  | named {name : List Char} {c : Char} (common : (name, [c]) ∈ Token.commonReferences) : Refers name c
  | apostrophe : Refers ['#', '3', '9', ';'] '\''

theorem Refers.read {name : List Char} (refers : Refers name c)
    (ahead : s.cursor.Ahead (name ++ rest)) {closer : Option Char}
    (apart : ∀ d ∈ closer, d.isLower = false ∧ d ≠ '#') (inValue : Bool) :
    ∃ d, reference closer inValue s = ([c], { s with cursor := d }) ∧ d.Ahead rest := by
  cases refers with
  | named common => exact reference_named common ahead (fun d member => (apart d member).1) inValue
  | apostrophe =>
    exact reference_apostrophe ahead (fun same => (apart '#' same).2 rfl) inValue

-- No reference stands for a blank or a null character.
theorem Refers.solid {name : List Char} (refers : Refers name c) :
    Text.isSpace c = false ∧ c ≠ null := by
  cases refers with
  | named common =>
    simp only [Token.commonReferences, List.mem_cons, List.not_mem_nil, or_false, Prod.mk.injEq,
      List.cons.injEq, and_true] at common
    rcases common with ⟨_, rfl⟩ | ⟨_, rfl⟩ | ⟨_, rfl⟩ | ⟨_, rfl⟩ | ⟨_, rfl⟩ <;> exact ⟨rfl, by decide⟩
  | apostrophe => exact ⟨rfl, by decide⟩

theorem Refers.nonempty {name : List Char} (refers : Refers name c) : name ≠ [] := by
  cases refers with
  | named common =>
    obtain ⟨c, cs, rfl, _⟩ := common_shape common
    exact List.cons_ne_nil _ _
  | apostrophe => exact List.cons_ne_nil _ _

-- Characters, some of them written as references, for a text. `plain` tells which can stand for
-- themselves.
inductive Spells (plain : Char → Bool) : List Char → List Char → Prop where
  | nil : Spells plain [] []
  | char {c : Char} {cs text : List Char} (own : plain c = true) (more : Spells plain cs text) :
    Spells plain (c :: cs) (c :: text)
  | reference {name : List Char} {c : Char} {cs text : List Char} (refers : Refers name c)
    (more : Spells plain cs text) : Spells plain ('&' :: (name ++ cs)) (c :: text)

variable {plain : Char → Bool} {text : List Char}

theorem Spells.append {ds more : List Char} (spells : Spells plain cs text)
    (later : Spells plain ds more) : Spells plain (cs ++ ds) (text ++ more) := by
  induction spells with
  | nil => exact later
  | char own _ ih => exact .char own ih
  | reference refers _ ih =>
    rw [List.cons_append, List.append_assoc]
    exact .reference refers ih

theorem Spells.sole {name : List Char} {c : Char} (refers : Refers name c) :
    Spells plain ('&' :: name) [c] := by
  simpa using reference refers .nil

-- A text is spelt one character at a time.
theorem Spells.flatMap {escape : Char → List Char} (each : ∀ c ∈ text, Spells plain (escape c) [c]) :
    Spells plain (text.flatMap escape) text := by
  induction text with
  | nil => exact .nil
  | cons c text ih =>
    exact (each c List.mem_cons_self).append (ih fun d member => each d (List.mem_cons_of_mem _ member))

theorem Spells.verbatim (own : ∀ c ∈ text, plain c = true) : Spells plain text text := by
  induction text with
  | nil => exact .nil
  | cons c text ih =>
    exact .char (own c List.mem_cons_self) (ih fun d member => own d (List.mem_cons_of_mem _ member))

-- A run of characters that stand for themselves begins the text, and the rest spells the rest.
theorem Spells.split (spells : Spells plain cs text) (run : Char → Bool) (stops : run '&' = false) :
    ∃ more, text = cs.takeWhile run ++ more ∧ Spells plain (cs.dropWhile run) more := by
  induction spells with
  | nil => exact ⟨[], rfl, .nil⟩
  | @char c cs text own more ih =>
    cases here : run c with
    | false => exact ⟨c :: text, by simp [here], by simpa [here] using .char own more⟩
    | true =>
      obtain ⟨later, rfl, spells⟩ := ih
      exact ⟨later, by simp [here], by simpa [here] using spells⟩
  | @reference name c cs text refers more ih =>
    exact ⟨c :: text, by simp [stops], by simpa [stops] using .reference refers more⟩

end Scan
end HtmlTree

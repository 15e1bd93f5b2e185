import HtmlTree.Scan.Step
import HtmlTree.Proofs.Spelling

namespace HtmlTree

open Scan

def Token.isFault : Token → Bool
  | .fault _ => true
  | _ => false

-- Steps of scanning in html content, and what they find besides faults.
inductive Scans : Nat → Scanner → List Token → Scanner → Prop where
  | done {s : Scanner} : Scans 0 s [] s
  | step {n : Nat} {s t u : Scanner} {tokens found : List Token}
    (here : s.step false = some (tokens, t)) (later : Scans n t found u) :
    Scans (n + 1) s (tokens.filter (!·.isFault) ++ found) u

theorem Scans.trans {m n : Nat} {s t u : Scanner} {first second : List Token}
    (before : Scans m s first t) (after : Scans n t second u) :
    Scans (m + n) s (first ++ second) u := by
  induction before with
  | done => rwa [Nat.zero_add, List.nil_append]
  | step here _ ih =>
    rw [List.append_assoc, Nat.add_right_comm]
    exact .step here (ih after)

-- What the next step depends on: the state, the piece in hand and the characters to come.
structure Stage where
  state : ScanState
  draft : Draft
  ahead : List Char

structure Scanner.At (s : Scanner) (stage : Stage) : Prop where
  state : s.state = stage.state
  draft : s.draft = stage.draft
  queue : s.queue = []
  ahead : s.cursor.Ahead stage.ahead

-- Scanning comes from one stage to another by at most as many steps as characters are read.
def Leads (a : Stage) (found : List Token) (b : Stage) : Prop :=
  ∀ s : Scanner, s.At a → ∃ n t, Scans n s found t ∧ t.At b ∧ n + b.ahead.length ≤ a.ahead.length

namespace Leads

variable {a b c : Stage} {found more : List Token}

theorem refl (a : Stage) : Leads a [] a :=
  fun s here => ⟨0, s, .done, here, by omega⟩

theorem trans (first : Leads a found b) (second : Leads b more c) : Leads a (found ++ more) c := by
  intro s here
  obtain ⟨m, t, before, there, fewer⟩ := first s here
  obtain ⟨n, u, after, beyond, less⟩ := second t there
  exact ⟨m + n, u, before.trans after, beyond, by omega⟩

theorem silent (first : Leads a [] b) (second : Leads b found c) : Leads a found c :=
  first.trans second

theorem of_step (shorter : b.ahead.length < a.ahead.length)
    (ran : ∀ cursor buffer, Source.Cursor.Ahead cursor a.ahead → ∃ d queue,
      advance false ⟨cursor, a.state, a.draft, buffer, []⟩ =
        (true, ⟨d, b.state, b.draft, buffer, queue⟩) ∧
        d.Ahead b.ahead ∧ queue.reverse.filter (!·.isFault) = found) : Leads a found b := by
  rintro ⟨cursor, state, draft, buffer, queue⟩ ⟨same, held, empty, ahead⟩
  dsimp only at same held empty ahead
  subst same held empty
  obtain ⟨d, queue, ran, after, kept⟩ := ran cursor buffer ahead
  have stepped : Scanner.step false ⟨cursor, a.state, a.draft, buffer, []⟩ = some
      (List.replicate d.strange (.fault ⟨"invalid-codepoint", []⟩) ++ queue.reverse,
        ⟨d.report.2, b.state, b.draft, buffer, []⟩) := by
    simp only [Scanner.step, ran]
    rfl
  have found_eq : (List.replicate d.strange (Token.fault ⟨"invalid-codepoint", []⟩) ++
      queue.reverse).filter (!·.isFault) ++ [] = found := by
    rw [List.append_nil, List.filter_append, kept]
    simp [Token.isFault]
  have scans := Scans.step stepped .done
  rw [found_eq] at scans
  exact ⟨1, _, scans, ⟨rfl, rfl, rfl, after.report⟩, by omega⟩

-- A step that only the next character decides.
theorem of_char {state after : ScanState} {held draft : Draft} {ch : Char} {cs : List Char}
    (queue : List Token)
    (ran : ∀ cursor d buffer, Source.Cursor.next cursor = (some ch, d) →
      advance false ⟨cursor, state, held, buffer, []⟩ = (true, ⟨d, after, draft, buffer, queue⟩))
    (kept : queue.reverse.filter (!·.isFault) = found) :
    Leads ⟨state, held, ch :: cs⟩ found ⟨after, draft, cs⟩ := by
  refine .of_step (Nat.lt_succ_self _) fun cursor buffer ahead => ?_
  obtain ⟨d, read, rest⟩ := ahead.next
  exact ⟨d, queue, ran cursor d buffer read, rest, kept⟩

-- A step that takes the next character and the run of its kind that follows.
theorem of_run {state after : ScanState} {held draft : Draft} {ch : Char} {cs : List Char}
    (stop p : Char → Bool) (opposite : ∀ c, p c = !stop c) (queue : List Token)
    (ran : ∀ cursor d e buffer, Source.Cursor.next cursor = (some ch, d) →
      upTo stop ⟨d, state, held, buffer, []⟩ =
        (cs.takeWhile p, ⟨e, state, held, buffer, []⟩) →
      advance false ⟨cursor, state, held, buffer, []⟩ = (true, ⟨e, after, draft, buffer, queue⟩))
    (kept : queue.reverse.filter (!·.isFault) = found) :
    Leads ⟨state, held, ch :: cs⟩ found ⟨after, draft, cs.dropWhile p⟩ := by
  refine .of_step (Nat.lt_succ_of_le (List.dropWhile_sublist _).length_le)
    fun cursor buffer ahead => ?_
  obtain ⟨d, read, rest⟩ := ahead.next
  obtain ⟨e, run, beyond⟩ := upTo_run (s := ⟨d, state, held, buffer, []⟩) rest stop p opposite
  exact ⟨e, queue, ran cursor d e buffer read run, beyond, kept⟩

end Leads

-- What is put together as it is read.
theorem said_nil (said : String) : said ++ String.ofList [] = said := by simp

theorem said_append (said : String) (front back : List Char) :
    said ++ String.ofList (front ++ back) = said ++ String.ofList front ++ String.ofList back := by
  apply String.toList_inj.mp
  simp

theorem said_word {word : String} {c : Char} {cs : List Char} (spelled : word.toList = c :: cs) :
    String.singleton c ++ String.ofList cs = word := by
  apply String.toList_inj.mp
  simp [spelled]

-- A run that what follows does not go on with ends where it did.
theorem takeWhile_before {p : Char → Bool} {cs rest : List Char} (stops : ∀ c ∈ rest.head?, p c = false) :
    (cs ++ rest).takeWhile p = cs.takeWhile p := by
  induction cs with
  | nil =>
    cases rest with
    | nil => rfl
    | cons c rest => simp [stops c rfl]
  | cons c cs ih => by_cases here : p c = true <;> simp [here, ih]

theorem dropWhile_before {p : Char → Bool} {cs rest : List Char} (stops : ∀ c ∈ rest.head?, p c = false) :
    (cs ++ rest).dropWhile p = cs.dropWhile p ++ rest := by
  induction cs with
  | nil =>
    cases rest with
    | nil => rfl
    | cons c rest => simp [stops c rfl]
  | cons c cs ih => by_cases here : p c = true <;> simp [here, ih]

-- A null character is not kept, and a carriage return is read as a line feed.
def isKept (c : Char) : Bool := c != null && c != '\r'

section content

variable {c : Char} {cs rest : List Char} {draft : Draft}

theorem data_less : Leads ⟨.data, draft, '<' :: cs⟩ [] ⟨.tagOpen, draft, cs⟩ := by
  refine .of_char [] (fun cursor d buffer read => ?_) rfl
  simp [advance, data, Scan.next, read, goto]

-- Characters of text that are read as they stand.
def inText (c : Char) : Bool := !(c == '&' || c == '<' || c == null)

-- Pieces of text that say a text when they are put together.
inductive Tells : List Token → List Char → Prop where
  | nil : Tells [] []
  | text (word : List Char) {more : List Char} {tokens : List Token} (nonempty : word ≠ [])
    (solid : null ∉ word) (later : Tells tokens more) : Tells (.text (String.ofList word) :: tokens) (word ++ more)
  | space (word : List Char) {more : List Char} {tokens : List Token} (nonempty : word ≠ [])
    (later : Tells tokens more) : Tells (.space (String.ofList word) :: tokens) (word ++ more)

theorem data_text (own : inText c = true) (solid : Text.isSpace c = false) :
    Leads ⟨.data, draft, c :: cs⟩ [.text (String.ofList (c :: cs.takeWhile inText))]
      ⟨.data, draft, cs.dropWhile inText⟩ := by
  simp only [inText, Bool.not_eq_true', Bool.or_eq_false_iff, beq_eq_false_iff_ne] at own
  obtain ⟨⟨ampersand, less⟩, other⟩ := own
  refine .of_run (fun d => d == '&' || d == '<' || d == null) inText (fun _ => rfl)
    [.text (String.ofList (c :: cs.takeWhile inText))] (fun cursor d e buffer read run => ?_) rfl
  simp [advance, data, Scan.next, read, ampersand, less, other, solid, run, Scan.text, emit]

theorem data_space (blank : Text.isSpace c = true) :
    Leads ⟨.data, draft, c :: cs⟩ [.space (String.ofList (c :: cs.takeWhile Text.isSpace))]
      ⟨.data, draft, cs.dropWhile Text.isSpace⟩ := by
  have ampersand : c ≠ '&' := by rintro rfl; cases blank
  have less : c ≠ '<' := by rintro rfl; cases blank
  have other : c ≠ null := by rintro rfl; cases blank
  refine .of_run (fun d => !Text.isSpace d) Text.isSpace
    (fun c => (Bool.not_not (Text.isSpace c)).symm)
    [.space (String.ofList (c :: cs.takeWhile Text.isSpace))]
    (fun cursor d e buffer read run => ?_) rfl
  simp [advance, data, Scan.next, read, ampersand, less, other, blank, run, emit]

theorem data_reference {word : List Char} (refers : Refers word c) :
    Leads ⟨.data, draft, '&' :: (word ++ cs)⟩ [.text (String.ofList [c])] ⟨.data, draft, cs⟩ := by
  have begins : Leads ⟨.data, draft, '&' :: (word ++ cs)⟩ [] ⟨.referenceInData, draft, word ++ cs⟩ := by
    refine .of_char [] (fun cursor d buffer read => ?_) rfl
    simp [advance, data, Scan.next, read, goto]
  refine begins.silent (.of_step ?_ fun cursor buffer ahead => ?_)
  · simpa using List.length_pos_iff.mpr refers.nonempty
  have apart : ∀ d ∈ (none : Option Char), d.isLower = false ∧ d ≠ '#' := by
    intro d member
    cases member
  obtain ⟨e, reads, beyond⟩ := refers.read (s := ⟨cursor, .referenceInData, draft, buffer, []⟩) ahead
    apart false
  exact ⟨e, [.text (String.ofList [c])], by simp [advance, referenceInText, reads, refers.solid.1,
    Scan.text, emit, goto], beyond, rfl⟩

-- Text up to a tag or the end is found in pieces.
theorem data_spelt {text : List Char} (spells : Spells inText cs text)
    (stops : ∀ c ∈ rest.head?, c = '<') :
    ∃ tokens, Tells tokens text ∧ Leads ⟨.data, draft, cs ++ rest⟩ tokens ⟨.data, draft, rest⟩ := by
  induction size : cs.length using Nat.strong_induction_on generalizing cs text with
  | _ size ih =>
    subst size
    cases spells with
    | nil => exact ⟨[], .nil, .refl _⟩
    | @char c cs text own more =>
      have shorter (run : Char → Bool) : (cs.dropWhile run).length < (c :: cs).length :=
        Nat.lt_succ_of_le (List.dropWhile_sublist _).length_le
      cases blank : Text.isSpace c with
      | false =>
        have ends : ∀ c ∈ rest.head?, inText c = false := fun c member => by
          rw [stops c member]
          rfl
        obtain ⟨later, rfl, spells⟩ := more.split inText rfl
        obtain ⟨tokens, tells, leads⟩ := ih _ (shorter inText) spells rfl
        refine ⟨_, .text (c :: cs.takeWhile inText) nofun ?_ tells, ?_⟩
        · intro member
          rcases List.mem_cons.mp member with same | inside
          · rw [← same] at own
            cases own
          · cases List.mem_takeWhile_imp inside
        · have first := @data_text c (cs ++ rest) draft own blank
          rw [takeWhile_before ends, dropWhile_before ends] at first
          exact first.trans leads
      | true =>
        have ends : ∀ c ∈ rest.head?, Text.isSpace c = false := fun c member => by
          rw [stops c member]
          rfl
        obtain ⟨later, rfl, spells⟩ := more.split Text.isSpace rfl
        obtain ⟨tokens, tells, leads⟩ := ih _ (shorter Text.isSpace) spells rfl
        refine ⟨_, .space (c :: cs.takeWhile Text.isSpace) nofun tells, ?_⟩
        have first := @data_space c (cs ++ rest) draft blank
        rw [takeWhile_before ends, dropWhile_before ends] at first
        exact first.trans leads
    | @reference word c cs text refers more =>
      obtain ⟨tokens, tells, leads⟩ := ih _ (by simp only [List.length_cons, List.length_append]; omega) more rfl
      refine ⟨_, .text [c] nofun ?_ tells, ?_⟩
      · intro member
        rw [List.mem_singleton] at member
        exact refers.solid.2 member.symm
      · rw [List.cons_append, List.append_assoc]
        exact (data_reference refers).trans leads

end content
end HtmlTree

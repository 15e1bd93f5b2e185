import HtmlTree.Predicate
import Mathlib.Data.List.TakeWhile

namespace HtmlTree

namespace Text

variable {c d : Char} {cs front back word : List Char}

-- The characters that part the words of a class-like value.
def separators : List Char := [' ', '\t', '\n', '\r', '\x0c']

theorem mem_separators : c ∈ separators ↔ isSpace c = true := by
  simp [separators, isSpace, or_assoc]

-- The word stands in the text, with a separator or nothing on either side.
def Word (word text : List Char) : Prop :=
  ∃ u v, text = u ++ word ++ v ∧ word ≠ [] ∧ (∀ c ∈ word, c ∉ separators) ∧
    (∀ c ∈ u.getLast?, c ∈ separators) ∧ ∀ c ∈ v.head?, c ∈ separators

-- What comes before the first separator.
def upToSpace (cs : List Char) : List Char := cs.takeWhile fun c => !isSpace c

-- The word comes right after some separator.
def Later (word cs : List Char) : Prop :=
  ∃ u c rest, cs = u ++ c :: rest ∧ isSpace c = true ∧ word = upToSpace rest

theorem upToSpace_eq : word = upToSpace cs ↔
    ∃ v, cs = word ++ v ∧ (∀ c ∈ word, c ∉ separators) ∧ ∀ c ∈ v.head?, c ∈ separators := by
  constructor
  · rintro rfl
    refine ⟨cs.dropWhile fun c => !isSpace c, List.takeWhile_append_dropWhile.symm, ?_, ?_⟩
    · intro c member
      rw [mem_separators]
      simpa using List.mem_takeWhile_imp member
    · intro c first
      have stops := List.head?_dropWhile_not (fun c => !isSpace c) cs
      rw [Option.mem_def.mp first] at stops
      simpa [mem_separators] using stops
  · rintro ⟨v, rfl, solid, stops⟩
    have inside : ∀ c ∈ word, (!isSpace c) = true := fun c member => by
      simpa [mem_separators] using solid c member
    have stopped : upToSpace v = [] := by
      cases v with
      | nil => rfl
      | cons c v => simp [upToSpace, mem_separators.mp (stops c rfl)]
    rw [upToSpace, List.takeWhile_append_of_pos inside]
    exact (List.append_nil word).symm.trans (congrArg (word ++ ·) stopped.symm)

theorem upToSpace_space (space : isSpace c = true) (cs : List Char) : upToSpace (c :: cs) = [] := by
  simp [upToSpace, space]

theorem upToSpace_solid (solid : isSpace c = false) (cs : List Char) :
    upToSpace (c :: cs) = c :: upToSpace cs := by
  simp [upToSpace, solid]

theorem later_cons : Later word (c :: cs) ↔
    isSpace c = true ∧ word = upToSpace cs ∨ Later word cs := by
  constructor
  · rintro ⟨u, d, rest, same, space, starts⟩
    cases u with
    | nil =>
      cases same
      exact .inl ⟨space, starts⟩
    | cons e u =>
      cases same
      exact .inr ⟨u, d, rest, rfl, space, starts⟩
  · rintro (⟨space, starts⟩ | ⟨u, d, rest, rfl, space, starts⟩)
    · exact ⟨[], c, cs, rfl, space, starts⟩
    · exact ⟨c :: u, d, rest, rfl, space, starts⟩

theorem word_iff (some : word ≠ []) : Word word cs ↔ word = upToSpace cs ∨ Later word cs := by
  constructor
  · rintro ⟨u, v, rfl, -, solid, before, after⟩
    rcases List.eq_nil_or_concat u with rfl | ⟨u, c, rfl⟩
    · exact .inl (upToSpace_eq.mpr ⟨v, rfl, solid, after⟩)
    · have space : c ∈ separators := before c (by simp)
      exact .inr ⟨u, c, word ++ v, by simp, mem_separators.mp space,
        upToSpace_eq.mpr ⟨v, rfl, solid, after⟩⟩
  · rintro (starts | ⟨u, c, rest, rfl, space, starts⟩)
    · obtain ⟨v, rfl, solid, after⟩ := upToSpace_eq.mp starts
      exact ⟨[], v, rfl, some, solid, nofun, after⟩
    · obtain ⟨v, rfl, solid, after⟩ := upToSpace_eq.mp starts
      refine ⟨u ++ [c], v, by simp, some, solid, fun d last => ?_, after⟩
      obtain rfl : c = d := by simpa using last
      exact mem_separators.mpr space

-- A run of separators parts pieces as one separator does.
theorem pieces_run (space : isSpace c = true) (more : isSpace d = true) (cs : List Char) :
    pieces (c :: d :: cs) = pieces (d :: cs) :=
  (if_pos space).trans (if_pos more)

theorem pieces_last (space : isSpace c = true) : pieces [c] = [] :: pieces [] := if_pos space

theorem pieces_gap (space : isSpace c = true) (solid : isSpace d = false) (cs : List Char) :
    pieces (c :: d :: cs) = [] :: pieces (d :: cs) :=
  (if_pos space).trans (if_neg (Bool.eq_false_iff.mp solid))

theorem pieces_solid (solid : isSpace c = false) (cs : List Char) :
    pieces (c :: cs) = match pieces cs with
      | word :: more => (c :: word) :: more
      | [] => [[c]] :=
  if_neg (Bool.eq_false_iff.mp solid)

theorem pieces_head (cs : List Char) : pieces cs = upToSpace cs :: (pieces cs).tail := by
  induction cs with
  | nil => rfl
  | cons c cs ih =>
    cases space : isSpace c with
    | false => rw [upToSpace_solid space, pieces_solid space, ih, List.tail_cons]
    | true =>
      rw [upToSpace_space space]
      cases cs with
      | nil => rw [pieces_last space, List.tail_cons]
      | cons d cs =>
        cases more : isSpace d with
        | false => rw [pieces_gap space more, List.tail_cons]
        | true => rw [pieces_run space more, ih, upToSpace_space more, List.tail_cons]

theorem tail_pieces_solid (solid : isSpace c = false) (cs : List Char) :
    (pieces (c :: cs)).tail = (pieces cs).tail := by
  rw [pieces_solid solid, pieces_head cs, List.tail_cons, List.tail_cons]

theorem mem_pieces_space (space : isSpace c = true) (some : word ≠ []) :
    word ∈ (pieces (c :: cs)).tail ↔ word ∈ pieces cs := by
  cases cs with
  | nil => rw [pieces_last space, List.tail_cons]
  | cons d cs =>
    cases more : isSpace d with
    | false => rw [pieces_gap space more, List.tail_cons]
    | true =>
      rw [pieces_run space more, pieces_head (d :: cs), upToSpace_space more, List.tail_cons,
        List.mem_cons]
      exact (or_iff_right some).symm

theorem mem_pieces_later (some : word ≠ []) : word ∈ (pieces cs).tail ↔ Later word cs := by
  induction cs with
  | nil => exact ⟨nofun, fun ⟨u, c, rest, same, _⟩ => by simp at same⟩
  | cons c cs ih =>
    rw [later_cons]
    cases space : isSpace c with
    | false => simp [tail_pieces_solid space, ih]
    | true => rw [mem_pieces_space space some, pieces_head cs, List.mem_cons, ih]; simp

-- The words of a text are its pieces, the empty ones apart.
theorem mem_pieces (some : word ≠ []) : word ∈ pieces cs ↔ Word word cs := by
  rw [pieces_head, List.mem_cons, mem_pieces_later some, word_iff some]

-- A later piece is empty only if the text ends in a separator.
theorem ends_of_empty (member : [] ∈ (pieces cs).tail) : ∃ c ∈ cs.getLast?, isSpace c = true := by
  induction cs with
  | nil => cases member
  | cons c cs ih =>
    have further : [] ∈ (pieces cs).tail → ∃ d ∈ (c :: cs).getLast?, isSpace d = true := by
      intro member
      obtain ⟨d, last, space⟩ := ih member
      exact ⟨d, by rw [List.getLast?_cons, Option.mem_def.mp last]; rfl, space⟩
    cases space : isSpace c with
    | false => exact further (tail_pieces_solid space cs ▸ member)
    | true =>
      cases cs with
      | nil => exact ⟨c, rfl, space⟩
      | cons d cs =>
        cases more : isSpace d with
        | true =>
          rw [pieces_run space more] at member
          exact further member
        | false =>
          rw [pieces_gap space more, List.tail_cons, pieces_head, upToSpace_solid more] at member
          exact further ((List.mem_cons.mp member).resolve_left nofun)

theorem empty_mem_pieces (starts : ∀ c ∈ cs.head?, isSpace c = false)
    (ends : ∀ c ∈ cs.getLast?, isSpace c = false) : [] ∈ pieces cs ↔ cs = [] := by
  constructor
  · intro member
    rw [pieces_head, List.mem_cons] at member
    rcases member with head | later
    · cases cs with
      | nil => rfl
      | cons c cs =>
        rw [upToSpace_solid (starts c rfl)] at head
        cases head
    · obtain ⟨c, last, space⟩ := ends_of_empty later
      cases (ends c last).symm.trans space
  · rintro rfl
    exact List.mem_singleton_self _

theorem word_front (blank : ∀ c ∈ front, isSpace c = true) (some : word ≠ []) :
    Word word (front ++ cs) ↔ Word word cs := by
  induction front with
  | nil => rfl
  | cons c front ih =>
    have space : isSpace c = true := blank c List.mem_cons_self
    have rest := ih fun d member => blank d (List.mem_cons_of_mem c member)
    rw [← rest, List.cons_append, word_iff some, word_iff some, upToSpace_space space, later_cons]
    simp [some, space]

theorem Word.reverse (found : Word word cs) : Word word.reverse cs.reverse := by
  obtain ⟨u, v, rfl, some, solid, before, after⟩ := found
  refine ⟨v.reverse, u.reverse, by simp, by simpa using some, by simpa using solid, ?_, ?_⟩
  · rwa [List.getLast?_reverse]
  · rwa [List.head?_reverse]

theorem word_reverse : Word word.reverse cs.reverse ↔ Word word cs :=
  ⟨fun found => by simpa using found.reverse, Word.reverse⟩

theorem word_back (blank : ∀ c ∈ back, isSpace c = true) (some : word ≠ []) :
    Word word (cs ++ back) ↔ Word word cs := by
  have reversed : ∀ c ∈ back.reverse, isSpace c = true := by simpa using blank
  rw [← word_reverse, List.reverse_append, word_front reversed (by simpa using some), word_reverse]

-- What trimming takes off at either end, and what the rest begins and ends with.
theorem trim_parts (cs : List Char) : ∃ front back,
    cs = front ++ trim isSpace cs ++ back ∧ (∀ c ∈ front, isSpace c = true) ∧
      (∀ c ∈ back, isSpace c = true) ∧ (∀ c ∈ (trim isSpace cs).head?, isSpace c = false) ∧
      ∀ c ∈ (trim isSpace cs).getLast?, isSpace c = false := by
  have first (ds : List Char) (c : Char) (head : c ∈ (ds.dropWhile isSpace).head?) :
      isSpace c = false := by
    have stops := List.head?_dropWhile_not isSpace ds
    rw [Option.mem_def.mp head] at stops
    simpa using stops
  have whole : cs.dropWhile isSpace =
      trim isSpace cs ++ ((cs.dropWhile isSpace).reverse.takeWhile isSpace).reverse := by
    rw [trim, trimEnd, trimStart, ← List.reverse_append, List.takeWhile_append_dropWhile,
      List.reverse_reverse]
  refine ⟨cs.takeWhile isSpace, ((cs.dropWhile isSpace).reverse.takeWhile isSpace).reverse, ?_,
    fun c member => List.mem_takeWhile_imp member,
    fun c member => List.mem_takeWhile_imp (List.mem_reverse.mp member), fun c head => ?_, fun c last => ?_⟩
  · rw [List.append_assoc, ← whole, List.takeWhile_append_dropWhile]
  · refine first cs c ?_
    rw [whole, List.head?_append, Option.mem_def.mp head]
    rfl
  · rw [trim, trimEnd, List.getLast?_reverse] at last
    exact first _ c last

theorem word_trim (some : word ≠ []) : Word word (trim isSpace cs) ↔ Word word cs := by
  obtain ⟨front, back, whole, blank, blank', -⟩ := trim_parts cs
  have same : Word word (front ++ trim isSpace cs ++ back) ↔ Word word (trim isSpace cs) :=
    (word_back blank' some).trans (word_front blank some)
  rw [← whole] at same
  exact same.symm

theorem trim_eq_nil : trim isSpace cs = [] ↔ ∀ c ∈ cs, isSpace c = true := by
  obtain ⟨front, back, whole, blank, blank', starts, -⟩ := trim_parts cs
  constructor
  · intro empty c member
    rw [whole, empty, List.append_nil] at member
    exact (List.mem_append.mp member).elim (blank c) (blank' c)
  · intro all
    cases rest : trim isSpace cs with
    | nil => rfl
    | cons c tail =>
      have solid : isSpace c = false := starts c (by rw [rest]; rfl)
      have member : c ∈ cs := by
        rw [whole, rest]
        simp
      cases solid.symm.trans (all c member)

-- The empty word is found in a text that has no word at all.
theorem mem_words {text value : String} : value ∈ words text ↔
    Word value.toList text.toList ∨ value = "" ∧ ∀ c ∈ text.toList, c ∈ separators := by
  have listed : value ∈ words text ↔ value.toList ∈ pieces (trim isSpace text.toList) := by
    rw [words, List.mem_map]
    constructor
    · rintro ⟨piece, member, rfl⟩
      rwa [String.toList_ofList]
    · exact fun member => ⟨_, member, String.ofList_toList⟩
  rw [listed]
  by_cases empty : value = ""
  · subst empty
    obtain ⟨-, -, -, -, -, starts, ends⟩ := trim_parts text.toList
    have none : ¬ Word [] text.toList := fun ⟨_, _, _, present, _⟩ => present rfl
    rw [String.toList_empty, empty_mem_pieces starts ends, trim_eq_nil]
    simp [none, mem_separators]
  · have some : value.toList ≠ [] := fun same => empty (String.toList_eq_nil_iff.mp same)
    rw [mem_pieces some, word_trim some]
    simp [empty]

end Text

namespace Predicate
open Text

variable {f : Forest} {n : NodeId} {a value : String} {trace : Trace}

theorem hasWord_iff {attrs : Option Attributes} : hasWord attrs a (some value) = true ↔
    ∃ text, (attrs.getD .empty).get a = some text ∧ text ≠ "" ∧ value ∈ words text := by
  have read : attrs.bind (·.get a) = (attrs.getD .empty).get a := by cases attrs <;> rfl
  unfold hasWord
  rw [read]
  cases (attrs.getD .empty).get a with
  | none => simp
  | some text => simp

-- A value has the words that stand between its separators. If it is nothing but separators, and not
-- empty, it is said to have the empty word as well.
theorem attrWord_answers : ∃ answer,
    check f (.attrWord a (some value)) n trace = .ok answer trace ∧
      (answer = true ↔ ∃ text, ((f.attrs n).getD .empty).get a = some text ∧
        (Word value.toList text.toList ∨
          value = "" ∧ text ≠ "" ∧ ∀ c ∈ text.toList, c ∈ separators)) := by
  refine ⟨hasWord (f.attrs n) a (some value), rfl, hasWord_iff.trans ?_⟩
  refine exists_congr fun text => and_congr_right fun _ => ?_
  rw [mem_words]
  constructor
  · rintro ⟨present, found | ⟨empty, blank⟩⟩
    · exact .inl found
    · exact .inr ⟨empty, present, blank⟩
  · rintro (found | ⟨empty, present, blank⟩)
    · refine ⟨?_, .inl found⟩
      rintro rfl
      obtain ⟨u, v, whole, some, -⟩ := found
      simp [some] at whole
    · exact ⟨present, .inr ⟨empty, blank⟩⟩

-- The empty word is found in a class of one space, where no word stands.
theorem blank_class_answers :
    let f : Forest := ⟨#[.newElement (some "div") (some ⟨[("class", some " ")]⟩) (some "html")], #[]⟩
    ((f.attrs 0).getD .empty).get "class" = some " " ∧
      check f (.attrWord "class" (some "")) 0 [] = .ok true [] ∧ ¬ Word "".toList " ".toList := by
  intro f
  exact ⟨rfl, rfl, fun ⟨_, _, _, present, _⟩ => present rfl⟩

end Predicate
end HtmlTree

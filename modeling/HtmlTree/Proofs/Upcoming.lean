import HtmlTree.Source.Cursor
import Mathlib.Data.List.TakeWhile

namespace HtmlTree.Source

namespace Cursor

-- What is still to come, whatever chunks it comes in.
def upcoming (c : Cursor) : List Char := c.rest ++ c.later.flatMap Chunk.text

-- These characters and no others are still to come. A chunk without any would look like the end.
structure Ahead (c : Cursor) (cs : List Char) : Prop where
  upcoming : c.upcoming = cs
  whole : ∀ chunk ∈ c.later, chunk.text ≠ []

variable {c : Cursor} {ch : Char} {cs : List Char}

theorem Ahead.next (ahead : c.Ahead cs) : ∃ d, c.next = (cs.head?, d) ∧ d.Ahead cs.tail := by
  obtain ⟨upcoming, whole⟩ := ahead
  subst upcoming
  unfold Cursor.upcoming Cursor.next
  split
  · rename_i first rest here
    rw [here]
    exact ⟨_, rfl, rfl, whole⟩
  · rename_i here
    rw [here, List.nil_append]
    split
    · rename_i spent
      rw [spent]
      exact ⟨_, rfl, rfl, nofun⟩
    · rename_i chunk later more
      rw [more] at whole ⊢
      rw [List.flatMap_cons]
      split
      · rename_i first rest text
        rw [text]
        exact ⟨_, rfl, rfl, fun other member => whole other (List.mem_cons_of_mem _ member)⟩
      · rename_i empty
        exact absurd empty (whole chunk List.mem_cons_self)

theorem Ahead.back (ahead : c.Ahead cs) (ch : Char) : (c.back ch).Ahead (ch :: cs) := by
  refine ⟨?_, ahead.whole⟩
  rw [← ahead.upcoming]
  rfl

theorem Ahead.report (ahead : c.Ahead cs) : c.report.2.Ahead cs := ⟨ahead.upcoming, ahead.whole⟩

theorem remaining_eq (c : Cursor) : c.remaining = c.upcoming.length := by
  have counted (later : List Chunk) (count : Nat) :
      later.foldl (fun count chunk => count + chunk.text.length) count =
        count + (later.flatMap Chunk.text).length := by
    induction later generalizing count with
    | nil => rfl
    | cons chunk rest ih =>
      rw [List.foldl_cons, ih, List.flatMap_cons, List.length_append, Nat.add_assoc]
  rw [remaining, counted, upcoming, List.length_append]

theorem spanFrom_stop {p : Char → Bool} {stop : Char} {rest : List Char}
    (stops : c.rest.dropWhile p = stop :: rest) (later : List Chunk) :
    spanFrom p later c = (c.rest.takeWhile p,
      { c with past := (c.rest.takeWhile p).reverse ++ c.past, rest := stop :: rest }) := by
  unfold spanFrom
  simp only [stops]

theorem spanFrom_last {p : Char → Bool} (spent : c.rest.dropWhile p = []) :
    spanFrom p [] c = (c.rest.takeWhile p, ({ c with
      past := (c.rest.takeWhile p).reverse ++ c.past, rest := [] }).turn [] 0 []) := by
  unfold spanFrom
  simp only [spent]

theorem spanFrom_more {p : Char → Bool} (spent : c.rest.dropWhile p = []) (chunk : Chunk)
    (later : List Chunk) :
    spanFrom p (chunk :: later) c =
      let more := spanFrom p later (({ c with
        past := (c.rest.takeWhile p).reverse ++ c.past, rest := [] }).turn chunk.text
          chunk.strange later)
      (c.rest.takeWhile p ++ more.1, more.2) := by
  conv => lhs; unfold spanFrom
  simp only [spent]

theorem spanFrom_ahead (p : Char → Bool) (later : List Chunk) (c : Cursor) (same : c.later = later)
    (ahead : c.Ahead cs) : ∃ d, spanFrom p later c = (cs.takeWhile p, d) ∧
      d.Ahead (cs.dropWhile p) := by
  induction later generalizing c cs with
  | nil =>
    have upcoming : cs = c.rest := by simpa [Cursor.upcoming, same] using ahead.upcoming.symm
    subst upcoming
    cases stops : c.rest.dropWhile p with
    | nil => exact ⟨_, spanFrom_last stops, rfl, nofun⟩
    | cons stop rest =>
      refine ⟨_, spanFrom_stop stops [], ?_, ahead.whole⟩
      simp [Cursor.upcoming, same]
  | cons chunk later ih =>
    have upcoming : cs = c.rest ++ (chunk.text ++ later.flatMap Chunk.text) := by
      simpa [Cursor.upcoming, same] using ahead.upcoming.symm
    subst upcoming
    have whole : ∀ other ∈ later, other.text ≠ [] := fun other member =>
      ahead.whole other (same ▸ List.mem_cons_of_mem _ member)
    cases stops : c.rest.dropWhile p with
    | nil =>
      have all : ∀ ch ∈ c.rest, p ch = true := List.dropWhile_eq_nil_iff.mp stops
      obtain ⟨d, spanned, after⟩ := ih (({ c with
        past := (c.rest.takeWhile p).reverse ++ c.past, rest := [] }).turn chunk.text
          chunk.strange later) rfl ⟨rfl, whole⟩
      refine ⟨d, ?_, ?_⟩
      · rw [spanFrom_more stops, spanned, List.takeWhile_append_of_pos all,
          List.takeWhile_eq_self_iff.mpr all]
        rfl
      · rw [List.dropWhile_append_of_pos all]
        exact after
    | cons stop rest =>
      have short : (c.rest.takeWhile p).length ≠ c.rest.length := by
        intro all
        have split := congrArg List.length (List.takeWhile_append_dropWhile (p := p) (l := c.rest))
        rw [stops, List.length_append, List.length_cons] at split
        omega
      refine ⟨{ c with past := (c.rest.takeWhile p).reverse ++ c.past, rest := stop :: rest }, ?_, ?_,
        ahead.whole⟩
      · rw [List.takeWhile_append, if_neg short]
        exact spanFrom_stop stops (chunk :: later)
      · simp [Cursor.upcoming, same, List.dropWhile_append, stops]

theorem Ahead.span (ahead : c.Ahead cs) (p : Char → Bool) :
    ∃ d, c.span p = (cs.takeWhile p, d) ∧ d.Ahead (cs.dropWhile p) :=
  spanFrom_ahead p c.later c rfl ahead

-- Without carriage returns there is nothing to change in the input, and no chunk is empty.
theorem oneLineEnd_same (unix : '\r' ∉ cs) : oneLineEnd cs = cs := by
  induction cs with
  | nil => rfl
  | cons ch cs ih =>
    have other : ch ≠ '\r' := fun same => unix (same ▸ List.mem_cons_self)
    have rest : '\r' ∉ cs := fun member => unix (List.mem_cons_of_mem _ member)
    rw [oneLineEnd, ih rest]
    · rintro rest rfl
      exact absurd rfl other
    · rintro rfl
      exact absurd rfl other

theorem chunksFrom_unix (fuel : Nat) (unix : '\r' ∉ cs) (enough : cs.length < fuel) :
    (chunksFrom fuel none cs).flatMap Chunk.text = cs ∧
      ∀ chunk ∈ chunksFrom fuel none cs, chunk.text ≠ [] := by
  induction fuel generalizing cs with
  | zero => omega
  | succ fuel ih =>
    cases cs with
    | nil => simp [chunksFrom]
    | cons ch cs =>
      have front : '\r' ∉ (ch :: cs).take chunkSize := fun member => unix (List.mem_of_mem_take member)
      have back : '\r' ∉ (ch :: cs).drop chunkSize := fun member => unix (List.mem_of_mem_drop member)
      have shorter : ((ch :: cs).drop chunkSize).length < fuel := by
        rw [List.length_drop, chunkSize, List.length_cons]
        rw [List.length_cons] at enough
        omega
      obtain ⟨upcoming, whole⟩ := ih back shorter
      have last : ((ch :: cs).take chunkSize).getLast? ≠ some '\r' := fun same =>
        front (List.mem_of_getLast? same)
      have chunked : chunksFrom (fuel + 1) none (ch :: cs) =
          ⟨(ch :: cs).take chunkSize, ((ch :: cs).take chunkSize).countP isStrange⟩ ::
            chunksFrom fuel none ((ch :: cs).drop chunkSize) := by
        simp [chunksFrom, last, oneLineEnd_same front]
      rw [chunked]
      refine ⟨?_, ?_⟩
      · rw [List.flatMap_cons, upcoming, List.take_append_drop]
      · intro chunk member
        rcases List.mem_cons.mp member with rfl | later
        · simp [chunkSize]
        · exact whole chunk later

theorem start_ahead {input : String} (unix : '\r' ∉ input.toList) :
    (start input).Ahead input.toList := by
  obtain ⟨upcoming, whole⟩ := chunksFrom_unix (input.toList.length + 2) unix (by omega)
  exact ⟨upcoming, whole⟩

end Cursor
end HtmlTree.Source

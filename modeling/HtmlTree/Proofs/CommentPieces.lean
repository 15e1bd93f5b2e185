import HtmlTree.Render
import HtmlTree.Proofs.Stages

namespace HtmlTree

open Scan

variable {c : Char} {cs rest : List Char} {draft : Draft} {said : String}

-- Characters of a comment that are read in one run.
def inComment (c : Char) : Bool := !(c == '-' || c == null)

-- Text of a comment that does not end it before its time.
structure Uncut (cs : List Char) : Prop where
  kept : ∀ c ∈ cs, isKept c = true
  whole : ¬ ['-', '-', '>'] <:+: cs
  unbanged : ¬ ['-', '-', '!', '>'] <:+: cs

theorem Uncut.part {ds : List Char} (uncut : Uncut cs) (inside : ds <:+: cs) : Uncut ds :=
  ⟨fun c member => uncut.kept c (inside.subset member), fun cut => uncut.whole (cut.trans inside),
    fun cut => uncut.unbanged (cut.trans inside)⟩

theorem Uncut.solid (uncut : Uncut cs) (member : c ∈ cs) : c ≠ null := by
  have kept := uncut.kept c member
  simp only [isKept, Bool.and_eq_true, bne_iff_ne] at kept
  exact kept.1

theorem declaration_dashes : Leads ⟨.data, draft, '<' :: '!' :: '-' :: '-' :: cs⟩ []
    ⟨.commentStart, .comment "", cs⟩ := by
  have begins : Leads ⟨.tagOpen, draft, '!' :: '-' :: '-' :: cs⟩ []
      ⟨.declaration, draft, '-' :: '-' :: cs⟩ := by
    refine .of_char [] (fun cursor d buffer read => ?_) rfl
    simp [advance, tagOpen, Scan.next, read, goto]
  refine data_less.silent (begins.silent (.of_step (by simp only [List.length_cons]; omega) fun cursor buffer ahead => ?_))
  obtain ⟨d, read, after⟩ := ahead.next
  obtain ⟨e, second, beyond⟩ := after.next
  exact ⟨e, [], by simp [advance, declaration, readWord, Scan.next, read, second, setDraft, goto], beyond,
    rfl⟩

-- What a state of the end of a comment holds back.
inductive Holding : ScanState → List Char → Prop where
  | nothing : Holding .comment []
  | dash : Holding .commentEndDash ['-']
  | dashes : Holding .commentEnd ['-', '-']
  | bang : Holding .commentEndBang ['-', '-', '!']

theorem comment_run (own : inComment c = true) :
    Leads ⟨.comment, .comment said, c :: cs⟩ []
      ⟨.comment, .comment (said ++ String.ofList (c :: cs.takeWhile inComment)),
        cs.dropWhile inComment⟩ := by
  simp only [inComment, Bool.not_eq_true', Bool.or_eq_false_iff, beq_eq_false_iff_ne] at own
  refine .of_run (fun d => d == '-' || d == null) inComment (fun _ => rfl) []
    (fun cursor d e buffer read run => ?_) rfl
  simp [advance, Scan.comment, Scan.next, read, own.1, own.2, run, pushComment]

theorem comment_dash : Leads ⟨.comment, draft, '-' :: cs⟩ [] ⟨.commentEndDash, draft, cs⟩ := by
  refine .of_char [] (fun cursor d buffer read => ?_) rfl
  simp [advance, Scan.comment, Scan.next, read, goto]

theorem commentEndDash_dash : Leads ⟨.commentEndDash, draft, '-' :: cs⟩ []
    ⟨.commentEnd, draft, cs⟩ := by
  refine .of_char [] (fun cursor d buffer read => ?_) rfl
  simp [advance, commentEndDash, Scan.next, read, goto]

theorem commentEndDash_other (other : c ≠ '-') (solid : c ≠ null) :
    Leads ⟨.commentEndDash, .comment said, c :: cs⟩ []
      ⟨.comment, .comment (said ++ String.ofList ['-', c]), cs⟩ := by
  refine .of_char [] (fun cursor d buffer read => ?_) rfl
  simp [advance, commentEndDash, Scan.next, read, other, solid, pushComment, goto]

theorem commentEnd_dash : Leads ⟨.commentEnd, .comment said, '-' :: cs⟩ []
    ⟨.commentEnd, .comment (said ++ String.ofList ['-']), cs⟩ := by
  refine .of_char [.fault ⟨"unexpected-dash-after-double-dash-in-comment", []⟩]
    (fun cursor d buffer read => ?_) rfl
  simp [advance, commentEnd, Scan.next, read, pushComment, fault, emit]

theorem commentEnd_bang : Leads ⟨.commentEnd, draft, '!' :: cs⟩ []
    ⟨.commentEndBang, draft, cs⟩ := by
  refine .of_char [.fault ⟨"unexpected-bang-after-double-dash-in-comment", []⟩]
    (fun cursor d buffer read => ?_) rfl
  simp [advance, commentEnd, Scan.next, read, fault, emit, goto]

theorem commentEnd_bracket : Leads ⟨.commentEnd, .comment said, '>' :: cs⟩ [.comment said]
    ⟨.data, .comment said, cs⟩ := by
  refine .of_char [.comment said] (fun cursor d buffer read => ?_) rfl
  simp [advance, commentEnd, Scan.next, read, emitComment, emit, goto]

theorem commentEnd_other (dash : c ≠ '-') (bang : c ≠ '!') (bracket : c ≠ '>') (solid : c ≠ null) :
    Leads ⟨.commentEnd, .comment said, c :: cs⟩ []
      ⟨.comment, .comment (said ++ String.ofList ['-', '-', c]), cs⟩ := by
  refine .of_char [.fault ⟨"unexpected-char-in-comment", []⟩] (fun cursor d buffer read => ?_) rfl
  simp [advance, commentEnd, Scan.next, read, dash, bang, bracket, solid, pushComment, fault, emit,
    goto]

theorem commentEndBang_dash : Leads ⟨.commentEndBang, .comment said, '-' :: cs⟩ []
    ⟨.commentEndDash, .comment (said ++ String.ofList ['-', '-', '!']), cs⟩ := by
  refine .of_char [] (fun cursor d buffer read => ?_) rfl
  simp [advance, commentEndBang, Scan.next, read, pushComment, goto]

theorem commentEndBang_other (dash : c ≠ '-') (bracket : c ≠ '>') (solid : c ≠ null) :
    Leads ⟨.commentEndBang, .comment said, c :: cs⟩ []
      ⟨.comment, .comment (said ++ String.ofList ['-', '-', '!', c]), cs⟩ := by
  refine .of_char [] (fun cursor d buffer read => ?_) rfl
  simp [advance, commentEndBang, Scan.next, read, dash, bracket, solid, pushComment, goto]

-- The end of a comment is the first that is written as one, whatever was held back before.
theorem comment_end {state : ScanState} {held : List Char} (holding : Holding state held) :
    Leads ⟨state, .comment said, '-' :: '-' :: '>' :: rest⟩ [.comment (said ++ String.ofList held)]
      ⟨.data, .comment (said ++ String.ofList held), rest⟩ := by
  cases holding with
  | nothing =>
    rw [said_nil]
    exact comment_dash.silent (commentEndDash_dash.silent commentEnd_bracket)
  | dash => exact commentEndDash_dash.silent (commentEnd_dash.silent commentEnd_bracket)
  | dashes =>
    have split : ['-', '-'] = ['-'] ++ ['-'] := rfl
    rw [split, said_append]
    exact commentEnd_dash.silent (commentEnd_dash.silent commentEnd_bracket)
  | bang => exact commentEndBang_dash.silent (commentEndDash_dash.silent commentEnd_bracket)

-- Inside a comment a step goes on to a state that holds back what may still turn out to be its end,
-- and all that is before that has been said.
theorem comment_step {state : ScanState} {held : List Char} (holding : Holding state held)
    (uncut : Uncut (held ++ c :: cs)) :
    ∃ after holds spent left, Holding after holds ∧ held ++ c :: cs = spent ++ (holds ++ left) ∧
      left.length ≤ cs.length ∧
      Leads ⟨state, .comment said, c :: cs ++ '-' :: '-' :: '>' :: rest⟩ []
        ⟨after, .comment (said ++ String.ofList spent), left ++ '-' :: '-' :: '>' :: rest⟩ := by
  have solid : c ≠ null := uncut.solid (by simp)
  cases holding with
  | nothing =>
    by_cases dash : c = '-'
    · subst dash
      refine ⟨_, _, [], cs, .dash, rfl, le_rfl, ?_⟩
      rw [said_nil]
      exact comment_dash
    · have own : inComment c = true := by simp [inComment, dash, solid]
      have stops : ∀ c ∈ ('-' :: '-' :: '>' :: rest).head?, inComment c = false := by
        rintro c ⟨⟩
        rfl
      have run := @comment_run c (cs ++ '-' :: '-' :: '>' :: rest) said own
      rw [takeWhile_before stops, dropWhile_before stops] at run
      exact ⟨_, _, c :: cs.takeWhile inComment, cs.dropWhile inComment, .nothing, by simp,
        (List.dropWhile_sublist _).length_le, run⟩
  | dash =>
    by_cases dash : c = '-'
    · subst dash
      refine ⟨_, _, [], cs, .dashes, rfl, le_rfl, ?_⟩
      rw [said_nil]
      exact commentEndDash_dash
    · exact ⟨_, _, ['-', c], cs, .nothing, rfl, le_rfl, commentEndDash_other dash solid⟩
  | dashes =>
    by_cases dash : c = '-'
    · subst dash
      exact ⟨_, _, ['-'], cs, .dashes, rfl, le_rfl, commentEnd_dash⟩
    by_cases bang : c = '!'
    · subst bang
      refine ⟨_, _, [], cs, .bang, rfl, le_rfl, ?_⟩
      rw [said_nil]
      exact commentEnd_bang
    by_cases bracket : c = '>'
    · subst bracket
      exact absurd ⟨[], cs, rfl⟩ uncut.whole
    · exact ⟨_, _, ['-', '-', c], cs, .nothing, rfl, le_rfl,
        commentEnd_other dash bang bracket solid⟩
  | bang =>
    by_cases dash : c = '-'
    · subst dash
      exact ⟨_, _, ['-', '-', '!'], cs, .dash, rfl, le_rfl, commentEndBang_dash⟩
    by_cases bracket : c = '>'
    · subst bracket
      exact absurd ⟨[], cs, rfl⟩ uncut.unbanged
    · exact ⟨_, _, ['-', '-', '!', c], cs, .nothing, rfl, le_rfl,
        commentEndBang_other dash bracket solid⟩

theorem comment_rest {state : ScanState} {held : List Char} (holding : Holding state held)
    (uncut : Uncut (held ++ cs)) :
    Leads ⟨state, .comment said, cs ++ '-' :: '-' :: '>' :: rest⟩
      [.comment (said ++ String.ofList (held ++ cs))]
      ⟨.data, .comment (said ++ String.ofList (held ++ cs)), rest⟩ := by
  -- a run is read in one step, so the induction is on the length
  induction size : cs.length using Nat.strong_induction_on generalizing cs state held said with
  | _ size ih =>
    subst size
    cases cs with
    | nil =>
      rw [List.append_nil]
      exact comment_end holding
    | cons c cs =>
      obtain ⟨after, holds, spent, left, still, split, fewer, first⟩ := comment_step holding uncut
      rw [split] at uncut ⊢
      rw [said_append]
      have part : Uncut (holds ++ left) := uncut.part (List.suffix_append spent _).isInfix
      exact first.silent (ih _ (Nat.lt_succ_of_le fewer) still part rfl)

-- At its beginning a comment can also be ended by a bracket, or a dash and a bracket.
structure Enclosed (text : List Char) : Prop extends Uncut text where
  opened : ¬ ['>'] <+: text
  dashed : ¬ ['-', '>'] <+: text

theorem commentStart_dash : Leads ⟨.commentStart, draft, '-' :: cs⟩ []
    ⟨.commentStartDash, draft, cs⟩ := by
  refine .of_char [] (fun cursor d buffer read => ?_) rfl
  simp [advance, commentStart, Scan.next, read, goto]

theorem commentStart_other (dash : c ≠ '-') (bracket : c ≠ '>') (solid : c ≠ null) :
    Leads ⟨.commentStart, .comment said, c :: cs⟩ []
      ⟨.comment, .comment (said ++ String.ofList [c]), cs⟩ := by
  refine .of_char [] (fun cursor d buffer read => ?_) rfl
  simp [advance, commentStart, Scan.next, read, dash, bracket, solid, pushComment, goto]

theorem commentStartDash_dash : Leads ⟨.commentStartDash, draft, '-' :: cs⟩ []
    ⟨.commentEnd, draft, cs⟩ := by
  refine .of_char [] (fun cursor d buffer read => ?_) rfl
  simp [advance, commentStart, Scan.next, read, goto]

theorem commentStartDash_other (dash : c ≠ '-') (bracket : c ≠ '>') (solid : c ≠ null) :
    Leads ⟨.commentStartDash, .comment said, c :: cs⟩ []
      ⟨.comment, .comment (said ++ String.ofList ['-', c]), cs⟩ := by
  refine .of_char [] (fun cursor d buffer read => ?_) rfl
  simp [advance, commentStart, Scan.next, read, dash, bracket, solid, pushComment, goto]

theorem comment_begun {text : List Char} (enclosed : Enclosed text) :
    Leads ⟨.commentStart, .comment "", text ++ '-' :: '-' :: '>' :: rest⟩
      [.comment (String.ofList text)] ⟨.data, .comment (String.ofList text), rest⟩ := by
  have uncut := enclosed.toUncut
  have whole : String.ofList text = "" ++ String.ofList text := by simp
  rw [whole]
  cases text with
  | nil => exact commentStart_dash.silent (commentStartDash_dash.silent commentEnd_bracket)
  | cons c cs =>
    by_cases dash : c = '-'
    · subst dash
      refine commentStart_dash.silent ?_
      cases cs with
      | nil => exact commentStartDash_dash.silent (commentEnd_dash.silent commentEnd_bracket)
      | cons d cs =>
        by_cases again : d = '-'
        · subst again
          exact commentStartDash_dash.silent (comment_rest .dashes uncut)
        have bracket : d ≠ '>' := by
          rintro rfl
          exact enclosed.dashed ⟨cs, rfl⟩
        have split : '-' :: d :: cs = ['-', d] ++ ([] ++ cs) := rfl
        rw [split, said_append]
        exact (commentStartDash_other again bracket (uncut.solid (by simp))).silent
          (comment_rest .nothing (uncut.part ⟨['-', d], [], by simp⟩))
    · have bracket : c ≠ '>' := by
        rintro rfl
        exact enclosed.opened ⟨cs, rfl⟩
      have split : c :: cs = [c] ++ ([] ++ cs) := rfl
      rw [split, said_append]
      exact (commentStart_other dash bracket (uncut.solid (by simp))).silent
        (comment_rest .nothing (uncut.part ⟨[c], [], by simp⟩))

theorem comment_read {text : String} (enclosed : Enclosed text.toList) :
    Leads ⟨.data, draft, (Markup.commentMarkup text).toList ++ rest⟩ [.comment text]
      ⟨.data, .comment text, rest⟩ := by
  have written : (Markup.commentMarkup text).toList ++ rest =
      '<' :: '!' :: '-' :: '-' :: (text.toList ++ '-' :: '-' :: '>' :: rest) := by
    simp [Markup.commentMarkup]
  rw [written]
  refine declaration_dashes.silent ?_
  have begun := @comment_begun rest text.toList enclosed
  rwa [String.ofList_toList] at begun

end HtmlTree

import HtmlTree.Proofs.Renderings

namespace HtmlTree

namespace Text

-- What is left of a text without its blanks.
def unblanked (text : String) : List Char := text.toList.filter fun c => !isBlank c

theorem unblanked_append (front back : String) :
    unblanked (front ++ back) = unblanked front ++ unblanked back := by
  simp [unblanked]

theorem unblanked_join (parts : List String) :
    unblanked (String.join parts) = parts.flatMap unblanked := by
  rw [unblanked, String.toList_join, List.filter_flatMap]
  rfl

theorem unblanked_intercalate {separator : String} (blank : unblanked separator = [])
    (parts : List String) : unblanked (separator.intercalate parts) = parts.flatMap unblanked := by
  rw [unblanked, String.toList_intercalate]
  induction parts with
  | nil => rfl
  | cons part parts ih =>
    cases parts with
    | nil => simp [unblanked]
    | cons next parts =>
      rw [List.map_cons, List.map_cons, List.intercalate_cons_cons, List.filter_append,
        List.filter_append, List.flatMap_cons, ← ih, ← unblanked, ← unblanked, blank,
        List.append_nil]
      rfl

theorem flatMap_unblanked_filter {keep : String → Bool}
    (empty : ∀ part, keep part = false → part = "") (parts : List String) :
    (parts.filter keep).flatMap unblanked = parts.flatMap unblanked := by
  induction parts with
  | nil => rfl
  | cons part parts ih =>
    cases kept : keep part with
    | true => simp [kept, ih]
    | false =>
      have nothing : unblanked part = [] := by
        rw [empty part kept]
        rfl
      simp [kept, ih, nothing]

theorem flatMap_unblanked_nonempty (parts : List String) :
    (parts.filter (!·.isEmpty)).flatMap unblanked = parts.flatMap unblanked :=
  flatMap_unblanked_filter (fun part empty => by simpa using empty) parts

theorem filter_dropWhile {drop : Char → Bool} (cs : List Char) :
    (cs.dropWhile drop).filter (!drop ·) = cs.filter (!drop ·) := by
  induction cs with
  | nil => rfl
  | cons c cs ih => cases blank : drop c <;> simp [blank, ih]

theorem unblanked_strip (text : String) : unblanked (strip text) = unblanked text := by
  simp only [unblanked, strip, trim, trimEnd, trimStart, String.toList_ofList, List.filter_reverse,
    filter_dropWhile, List.reverse_reverse]

-- A reference has no blanks, and of the characters that are written as they stand those that are
-- blank go.
theorem filter_escapeTextChar {c : Char} (bound : c ≠ noBreakSpace) :
    (escapeTextChar c).filter (!isBlank ·) = if isBlank c then [] else escapeTextChar c := by
  unfold escapeTextChar
  by_cases ampersand : c = '&'
  · subst ampersand
    decide
  by_cases left : c = '<'
  · subst left
    decide
  by_cases right : c = '>'
  · subst right
    decide
  cases blank : isBlank c <;> simp [ampersand, bound, left, right, blank]

theorem unblanked_escapeText {text : String} (bound : noBreakSpace ∉ text.toList) :
    unblanked (escapeText text) = (unblanked text).flatMap escapeTextChar := by
  rw [unblanked, escapeText, String.toList_ofList, unblanked]
  generalize text.toList = cs at bound
  induction cs with
  | nil => rfl
  | cons c cs ih =>
    rw [List.mem_cons, not_or] at bound
    rw [List.flatMap_cons, List.filter_append, ih bound.2, filter_escapeTextChar (Ne.symm bound.1)]
    cases blank : isBlank c <;> simp [blank]

theorem strip_sublist (text : String) : (strip text).toList.Sublist text.toList := by
  rw [strip, String.toList_ofList, trim, trimEnd, ← List.reverse_sublist, List.reverse_reverse]
  exact (List.dropWhile_sublist _).trans (List.dropWhile_sublist _).reverse

theorem unblanked_escapeText_strip {text : String} (bound : noBreakSpace ∉ text.toList) :
    unblanked (escapeText (strip text)) = unblanked (escapeText text) := by
  have still : noBreakSpace ∉ (strip text).toList := fun member =>
    bound ((strip_sublist text).subset member)
  rw [unblanked_escapeText bound, unblanked_escapeText still, unblanked_strip]

end Text

namespace Forest
open Walk Relation Markup Text

variable {f : Forest} {c n : NodeId} {depth height : Nat} {line layout : Layout}

theorem unblanked_indent (layout : Layout) (level : Int) : unblanked (layout.indent level) = [] := by
  have blank : isBlank ' ' = true := by decide
  unfold Layout.indent
  split <;> simp [unblanked, blank]

theorem unblanked_layout (layout : Layout) (parts : List String) :
    unblanked (layout.join parts) = parts.flatMap unblanked := by
  refine unblanked_intercalate ?_ parts
  cases layout.pretty <;> decide

theorem unblanked_textMarkup {data : String} (bound : noBreakSpace ∉ data.toList)
    (layout : Layout) (level : Int) (raw : Bool) :
    unblanked (textMarkup layout level raw data) = unblanked (textMarkup .flat 0 raw data) := by
  have indent := unblanked_indent layout level
  have stripped := unblanked_escapeText_strip bound
  rw [textMarkup_flat, textMarkup]
  cases raw with
  | true =>
    by_cases empty : data = ""
    · simp [empty]
    · simp [empty, unblanked_append, indent]
  | false =>
    cases layout.pretty with
    | false => rfl
    | true =>
      rw [if_neg Bool.false_ne_true, if_neg Bool.false_ne_true, if_pos rfl]
      dsimp only
      split
      · rename_i empty
        rw [← stripped, String.isEmpty_iff.mp empty]
        rfl
      · rw [unblanked_append, indent, List.nil_append, stripped]

-- In the tree of a node no text has a no-break space, which is a blank but is written as a reference.
def Unbound (f : Forest) (n : NodeId) : Prop :=
  ∀ m, ReflTransGen (Goes f.inside) n m → (f.node m).isText = true →
    noBreakSpace ∉ (f.node m).ownText.toList

theorem Unbound.child (unbound : f.Unbound n) (member : c ∈ f.inside n) : f.Unbound c :=
  fun m way => unbound m (.head member way)

-- Whatever layout an element is written in, it has its tags, and between them what its children are
-- written as, in this layout or on one line.
theorem unblanked_tagged (f : Forest) (depth : Nat) (layout : Layout) (level : Int) (raw : Bool)
    (n : NodeId) (text : (f.node n).isText = false) (comment : (f.node n).isComment = false)
    (doctype : (f.node n).name ≠ Node.doctypeName) (fragment : (f.node n).isFragment = false)
    (each : ∀ c ∈ f.writtenChildren n, ∀ raw,
      unblanked (f.markupWithin depth layout (level + 1) raw c) =
        unblanked (f.markupWithin depth .flat 0 raw c)) :
    unblanked (f.markupWithin (depth + 1) layout level raw n) =
      unblanked (f.markupWithin (depth + 1) .flat 0 raw n) := by
  have indent := unblanked_indent layout level
  have children : (f.writtenChildren n).flatMap (fun c =>
        unblanked (f.markupWithin depth layout (level + 1) (isRawText (f.node n)) c)) =
      (f.writtenChildren n).flatMap fun c =>
        unblanked (f.markupWithin depth .flat 0 (isRawText (f.node n)) c) :=
    List.flatMap_congr fun c member => each c member _
  rw [markupWithin_tagged text comment doctype fragment, markupWithin]
  simp only [text, comment, fragment, beq_false_of_ne doctype, Bool.false_eq_true, if_false]
  split_ifs with void empty inline
  · simp [unblanked_append, indent]
  · have none : f.writtenChildren n = [] := List.isEmpty_iff.mp empty
    simp [unblanked_append, indent, none, String.join]
  · simp [unblanked_append, indent]
  · rw [unblanked_layout, List.flatMap_cons, List.flatMap_append, flatMap_unblanked_nonempty,
      List.flatMap_map, children, List.flatMap_singleton]
    simp [unblanked_append, unblanked_join, indent, List.flatMap_map]

-- Neither the layout nor the level makes a difference but for blanks.
theorem unblanked_markupWithin (unbound : f.Unbound n) (depth : Nat) (layout : Layout) (level : Int)
    (raw : Bool) : unblanked (f.markupWithin depth layout level raw n) =
      unblanked (f.markupWithin depth .flat 0 raw n) := by
  induction depth generalizing layout level raw n with
  | zero => rfl
  | succ depth ih =>
    have indent := unblanked_indent layout level
    have flat : Layout.flat.indent 0 = "" := rfl
    cases text : (f.node n).isText with
    | true =>
      simp only [markupWithin, text, if_true]
      exact unblanked_textMarkup (unbound n .refl text) layout level raw
    | false =>
      cases comment : (f.node n).isComment with
      | true => simp [markupWithin, text, comment, unblanked_append, indent, flat]
      | false =>
        by_cases doctype : (f.node n).name = Node.doctypeName
        · simp [markupWithin, text, comment, doctype, unblanked_append, indent, flat]
        · cases fragment : (f.node n).isFragment with
          | true =>
            simp only [markupWithin, text, comment, fragment, beq_false_of_ne doctype,
              Bool.false_eq_true, if_false, if_true]
            rw [unblanked_layout, unblanked_layout, flatMap_unblanked_nonempty,
              flatMap_unblanked_nonempty, List.flatMap_map, List.flatMap_map]
            refine List.flatMap_congr fun c member => ?_
            exact ih (unbound.child (List.mem_append_left _ member)) layout level false
          | false =>
            refine unblanked_tagged f depth layout level raw n text comment doctype fragment ?_
            intro c member raw
            exact ih (unbound.child (written_subset f n member)) layout (level + 1) raw

theorem unblanked_outerMarkup (unbound : f.Unbound n) (single : line.pretty = false) (below : Int)
    (layout : Layout) (level : Int) :
    unblanked (f.outerMarkup layout level n) = unblanked (f.outerMarkup line below n) := by
  rw [outerMarkup_single single, outerMarkup]
  split
  · have silent (part : String) (dropped : (!layout.pretty || !part.isEmpty) = false) : part = "" := by
      simpa using (Bool.or_eq_false_iff.mp dropped).2
    rw [unblanked_layout, unblanked_join, flatMap_unblanked_filter silent, List.flatMap_map,
      List.flatMap_map]
    refine List.flatMap_congr fun c member => ?_
    exact unblanked_markupWithin (unbound.child (List.mem_append_left _ member)) f.reach layout
      level false
  · exact unblanked_markupWithin unbound f.reach layout level false

theorem forM_error {list : List NodeId} {visit : NodeId → Except Failure Unit} {failure : Failure}
    (refused : list.forM visit = .error failure) : ∃ c ∈ list, visit c = .error failure := by
  induction list with
  | nil => cases refused
  | cons c list ih =>
    cases visited : visit c with
    | error reason =>
      rw [List.forM, visited] at refused
      cases refused
      exact ⟨c, List.mem_cons_self, visited⟩
    | ok _ =>
      rw [List.forM, visited] at refused
      obtain ⟨m, member, failed⟩ := ih refused
      exact ⟨m, List.mem_cons_of_mem _ member, failed⟩

-- Where all is there, a survey is stopped by nothing but an indent, and none is further to the right
-- than the tree is deep.
theorem Present.surveyWithin_refused {failure : Failure} (present : f.Present n)
    (finite : Shallow f.inside height n) {level : Int}
    (refused : f.surveyWithin depth layout level n = .error failure) :
    ∃ k ≤ height, layout.admit (level + k) = .error failure := by
  induction depth generalizing height level n with
  | zero => cases refused
  | succ depth ih =>
    rw [surveyWithin_onward present.here] at refused
    cases admitted : layout.admit level with
    | error reason =>
      rw [admitted] at refused
      cases refused
      exact ⟨0, Nat.zero_le _, by simpa using admitted⟩
    | ok _ =>
      rw [admitted] at refused
      obtain ⟨c, member, failed⟩ := forM_error refused
      have inside := f.onward_subset layout level n member
      have onward := present.child inside
      rcases f.onward_cases layout level n with flat | ⟨same, next⟩
      · rw [flat, onward.surveyWithin rfl] at failed
        cases failed
      · rw [same] at failed
        obtain ⟨_, rfl, lower⟩ := finite.child inside
        obtain ⟨k, short, width⟩ := ih onward lower failed
        rcases next with level | further
        · exact ⟨k, Nat.le_succ_of_le short, by rwa [level] at width⟩
        · refine ⟨k + 1, Nat.succ_le_succ short, ?_⟩
          rw [further, Int.add_assoc, Int.add_comm 1] at width
          exact width

theorem Present.outerMarkupRead_cases (present : f.Present n) (finite : Shallow f.inside height n)
    (layout : Layout) (level : Int) :
    f.outerMarkupRead layout level n = .ok (f.outerMarkup layout level n) ∨
      ∃ k ≤ height, ∃ failure, layout.admit (level + k) = .error failure ∧
        f.outerMarkupRead layout level n = .error failure := by
  rw [outerMarkupRead_known present.here.1]
  cases surveyed : (f.parts n).forM (f.surveyWithin f.reach layout level) with
  | ok _ => exact .inl rfl
  | error failure =>
    obtain ⟨c, member, refused⟩ := forM_error surveyed
    have width : ∃ k ≤ height, layout.admit (level + k) = .error failure := by
      rcases mem_parts member with rfl | inside
      · exact present.surveyWithin_refused finite refused
      · obtain ⟨_, rfl, lower⟩ := finite.child inside
        obtain ⟨k, short, width⟩ := (present.child inside).surveyWithin_refused lower refused
        exact ⟨k, Nat.le_succ_of_le short, width⟩
    obtain ⟨k, short, width⟩ := width
    exact .inr ⟨k, short, failure, width, rfl⟩

-- Laid out over several lines, a tree is written with the same characters as on one line, blanks
-- apart. It can be written so unless an indent on the way is no length for a text.
theorem laid_out_unblanked (finite : Shallow f.inside height n) (present : f.Present n)
    (unbound : f.Unbound n) (single : line.pretty = false) (below : Int) (layout : Layout)
    (level : Int) :
    Ends f n ∧ ∃ flat, f.outerMarkupRead line below n = .ok flat ∧
      ((∃ laid, f.outerMarkupRead layout level n = .ok laid ∧ unblanked laid = unblanked flat) ∨
        ∃ k ≤ height, ∃ failure, layout.admit (level + k) = .error failure ∧
          f.outerMarkupRead layout level n = .error failure) := by
  refine ⟨ends_of_shallow (within_size finite), _, present.outerMarkupRead single below, ?_⟩
  rcases present.outerMarkupRead_cases finite layout level with laid | refused
  · exact .inl ⟨_, laid, unblanked_outerMarkup unbound single below layout level⟩
  · exact .inr refused

-- Texts with blanks around them, one of blanks alone, a script, and a template with its content.
theorem laid_out_unblanked_mixed :
    let f := Forest.empty.through [.text (some " a < b\n"), .text (some "\t"), .text (some " if "),
      .element (some "script") (some "html"), .element (some "template") (some "html"),
      .element (some "p") (some "html"), .document, .move (.append 3 (some 2)),
      .move (.append 4 (some 3)), .move (.append 6 (some 1)), .move (.append 6 (some 0)),
      .move (.append 6 (some 5)), .move (.append 7 (some 6))]
    let flat := "<p>\t a &lt; b\n<template><script> if </script></template></p>"
    let laid := "<p>\n  a &lt; b\n  <template>\n    <script> if </script>\n  </template>\n</p>"
    Shallow f.inside f.size 7 ∧ f.Present 7 ∧ f.Unbound 7 ∧ f.outerMarkupRead .flat 0 7 = .ok flat ∧
      f.outerMarkupRead ⟨true, 2, none⟩ 0 7 = .ok laid ∧ unblanked laid = unblanked flat := by
  intro f flat laid
  have orderly : Orderly f := orderly_through (by decide) (by decide)
  have untangled : f.Untangled := untangled_of_earlier (by decide)
  have present : f.Present 7 := orderly.present (by decide)
  have free : ∀ node ∈ f.nodes.toList, node.isText = true → noBreakSpace ∉ node.ownText.toList := by
    decide
  have unbound : f.Unbound 7 := fun m _ => node_all free (by decide) m
  have line : Layout.flat.pretty = false := rfl
  have single : f.outerMarkupRead .flat 0 7 = .ok flat := by decide
  have several : f.outerMarkupRead ⟨true, 2, none⟩ 0 7 = .ok laid := by decide
  obtain ⟨_, _, first, ⟨_, second, same⟩ | ⟨_, _, _, _, refused⟩⟩ :=
    laid_out_unblanked (untangled.shallow 7) present unbound line 0 ⟨true, 2, none⟩ 0
  · cases first.symm.trans single
    cases second.symm.trans several
    exact ⟨untangled.shallow 7, present, unbound, single, several, same⟩
  · cases refused.symm.trans several

-- A length may be negative, but it has to be a number that lengths are counted in. So even an
-- indent of no width may not be written.
theorem indent_beyond_lengths :
    let f := Forest.empty.through [.element (some "p") (some "html")]
    Shallow f.inside 0 0 ∧ f.Present 0 ∧ f.Unbound 0 ∧
      f.outerMarkupRead .flat 0 0 = .ok "<p></p>" ∧
      f.outerMarkupRead ⟨true, 1, none⟩ (-0x8000000000000001) 0 = .error .outOfRange := by
  intro f
  have orderly : Orderly f := orderly_through (by decide) (by decide)
  have present : f.Present 0 := orderly.present (by decide)
  have alone : f.inside 0 = [] := by decide
  refine ⟨alone, present, fun m way text => ?_, by decide, by decide⟩
  rcases way.cases_head with rfl | ⟨c, leads, _⟩
  · exact absurd text (by decide)
  · rw [Goes, alone] at leads
    cases leads

end Forest
end HtmlTree

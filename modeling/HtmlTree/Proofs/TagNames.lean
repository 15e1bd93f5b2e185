import Mathlib
import HtmlTree.Node
import HtmlTree.Scan.Step

set_option mvcgen.warning false

namespace HtmlTree

open Std.Do

-- A name that begins with a letter.
def Lettered (name : String) : Prop :=
  ∃ c rest, name.toList = c :: rest ∧ Scan.isLetter c = true

def Draft.Proper : Draft → Prop
  | .tag false name _ _ => Lettered name
  | _ => True

-- A start tag is not called like text.
def Token.Proper : Token → Prop
  | .start tag => tag.name ≠ Node.textName
  | _ => True

-- The start tag in hand has at least a letter of its name, and those handed out are proper.
structure Scanner.Proper (s : Scanner) : Prop where
  draft : s.draft.Proper
  queue : ∀ token ∈ s.queue, token.Proper

theorem Scanner.start_proper (input : String) : (start input).Proper :=
  ⟨trivial, fun _ member => nomatch member⟩

theorem Lettered.singleton {c : Char} (letter : Scan.isLetter c = true) :
    Lettered (String.singleton c) :=
  ⟨c, [], by simp, letter⟩

theorem Lettered.push {name : String} (lettered : Lettered name) (c : Char) :
    Lettered (name.push c) := by
  obtain ⟨first, rest, spelled, letter⟩ := lettered
  exact ⟨first, rest ++ [c], by simp [spelled], letter⟩

theorem asciiLower_ne_hash {c : Char} (letter : Scan.isLetter c = true) :
    Text.asciiLower c ≠ '#' := by
  intro same
  unfold Text.asciiLower at same
  split at same
  · rename_i upper
    have lower : 'A'.toNat ≤ c.toNat := upper.1
    have code := congrArg Char.toNat same
    have valid : (c.toNat + 32).isValidChar := Or.inl (by
      have above : c.toNat ≤ 'Z'.toNat := upper.2
      simp at above
      omega)
    rw [Char.toNat_ofNat, if_pos valid] at code
    simp at lower code
    omega
  · subst same
    exact absurd letter (by decide)

theorem Lettered.lowered {name : String} (lettered : Lettered name) :
    Text.lowerAscii name ≠ Node.textName := by
  obtain ⟨first, rest, spelled, letter⟩ := lettered
  intro same
  have spelling := congrArg String.toList same
  rw [Text.lowerAscii, spelled, String.toList_ofList, List.map_cons] at spelling
  exact asciiLower_ne_hash letter (List.head_eq_of_cons_eq spelling)

namespace Scan

variable {α : Type}

abbrev Upholds (e : Scan α) : Prop :=
  ⦃fun s => ⌜s.Proper⌝⦄ e ⦃⇓ _ s => ⌜s.Proper⌝⦄

@[spec]
theorem discard_spec {e : Scan α} {Q : PostCond PUnit (.arg Scanner .pure)} :
    ⦃wp⟦e⟧ (fun _ => Q.1 ⟨⟩, Q.2)⦄ (discard e : Scan PUnit) ⦃Q⦄ := by
  have same : (discard e : Scan PUnit) = e >>= fun _ => pure ⟨⟩ := rfl
  rw [same]
  mvcgen

@[spec]
theorem next_upholds : Upholds next := fun _ proper => ⟨proper.draft, proper.queue⟩

@[spec]
theorem upTo_upholds (stop : Char → Bool) : Upholds (upTo stop) :=
  fun _ proper => ⟨proper.draft, proper.queue⟩

@[spec]
theorem back_upholds (c : Option Char) : Upholds (back c) := by
  mvcgen [back] with grind [Scanner.Proper]

@[spec]
theorem goto_upholds (state : ScanState) : Upholds (goto state) := by
  mvcgen [goto] with grind [Scanner.Proper]

@[spec]
theorem emit_upholds {token : Token} (proper : token.Proper) : Upholds (emit token) := by
  mvcgen [emit] with grind [Scanner.Proper]

@[spec]
theorem fault_upholds (code : String) : Upholds (fault code) := by
  mvcgen [fault] with grind [Token.Proper]

@[spec]
theorem text_upholds (cs : List Char) : Upholds (text cs) := by
  mvcgen [text] with grind [Token.Proper]

@[spec]
theorem setDraft_upholds {draft : Draft} (proper : draft.Proper) : Upholds (setDraft draft) := by
  mvcgen [setDraft] with grind [Scanner.Proper]

@[spec]
theorem setBuffer_upholds (cs : List Char) : Upholds (setBuffer cs) := by
  mvcgen [setBuffer] with grind [Scanner.Proper]

@[spec]
theorem pushBuffer_upholds (c : Char) : Upholds (pushBuffer c) := by
  mvcgen [pushBuffer] with grind [Scanner.Proper]

@[spec]
theorem onTag_upholds {change : String → List (String × String) → Bool →
      String × List (String × String) × Bool}
    (kept : ∀ name attrs sc, Lettered name → Lettered (change name attrs sc).1) :
    Upholds (onTag change) := by
  refine fun s proper => (?_ : Scanner.Proper _)
  cases held : s.draft with
  | tag closing name attrs sc =>
    have before := proper.draft
    rw [held] at before
    simp only [held]
    cases closing with
    | false => exact ⟨kept name attrs sc before, proper.queue⟩
    | true => exact ⟨trivial, proper.queue⟩
  | _ =>
    simp only [held]
    exact proper

@[spec]
theorem onDoctype_upholds (change : Doctype → Doctype) : Upholds (onDoctype change) := by
  mvcgen [onDoctype] with grind [Scanner.Proper, Draft.Proper]

@[spec]
theorem pushComment_upholds (cs : List Char) : Upholds (pushComment cs) := by
  mvcgen [pushComment] with grind [Scanner.Proper, Draft.Proper]

@[spec]
theorem forM_upholds {list : List α} {visit : α → Scan PUnit}
    (each : ∀ a, Upholds (visit a)) : Upholds (list.forM visit) := by
  induction list with
  | nil => mvcgen [List.forM]
  | cons a rest ih => mvcgen [List.forM, each, ih]

@[spec]
theorem pushName_upholds (c : Char) : Upholds (pushName c) := by
  mvcgen [pushName] with grind [Lettered.push]

@[spec]
theorem newAttr_upholds (c : Char) : Upholds (newAttr c) := by
  mvcgen [newAttr] with grind [Token.Proper]

@[spec]
theorem pushAttrName_upholds (cs : List Char) : Upholds (pushAttrName cs) := by
  mvcgen [pushAttrName] with grind [Token.Proper]

@[spec]
theorem pushAttrValue_upholds (cs : List Char) : Upholds (pushAttrValue cs) := by
  mvcgen [pushAttrValue] with grind [Token.Proper]

@[spec]
theorem emitTag_upholds : Upholds emitTag := by
  mvcgen [emitTag] with
    grind [Token.Proper, Scanner.Proper, Draft.Proper, Lettered.lowered]

@[spec]
theorem emitComment_upholds : Upholds emitComment := by
  mvcgen [emitComment]

@[spec]
theorem emitDoctype_upholds : Upholds emitDoctype := by
  mvcgen [emitDoctype]

@[spec]
theorem emitSpoiltDoctype_upholds (code : String) : Upholds (emitSpoiltDoctype code) := by
  mvcgen [emitSpoiltDoctype]

@[spec]
theorem readWord_upholds (foldCase : Bool) (word : List Char) (read : List (Option Char)) :
    Upholds (readWord foldCase word read) := by
  induction word generalizing read with
  | nil => mvcgen [readWord]
  | cons c word ih =>
    have each (agrees : Bool) (read : List (Option Char)) : Upholds
        (if agrees then readWord foldCase word read else pure (read, false)) := by
      cases agrees with
      | false => mvcgen
      | true => exact ih read
    exact Triple.bind _ _ next_upholds fun read => each _ _

@[spec]
theorem readNames_upholds (fuel : Nat) (names : List (List Char × List Char)) (read : List Char)
    (last : Option Char) (best : Option NameMatch) :
    Upholds (readNames fuel names read last best) := by
  induction fuel generalizing names read last best with
  | zero => mvcgen [readNames]
  | succ fuel ih =>
    cases last with
    | none => mvcgen [readNames]
    | some c => mvcgen [readNames, ih]

@[spec]
theorem readDigits_upholds (isDigit : Char → Bool) (fuel : Nat) (read : List Char) :
    Upholds (readDigits isDigit fuel read) := by
  induction fuel generalizing read with
  | zero => mvcgen [readDigits]
  | succ fuel ih => mvcgen [readDigits, ih]

@[spec]
theorem numberReference_upholds (hex : Bool) : Upholds (numberReference hex) := by
  mvcgen [numberReference]

@[spec]
theorem reference_upholds (closer : Option Char) (inValue : Bool) :
    Upholds (reference closer inValue) := by
  have closing (found hex : Bool) (second : Option Char) : Upholds
      (if found then numberReference hex else do
        fault "expected-numeric-entity"
        pure (['&', '#'] ++ (if hex then second.toList else []))) := by
    mvcgen
  mvcgen [reference]
  all_goals exact closing _ _ _

@[spec]
theorem referenceInText_upholds : Upholds referenceInText := by
  mvcgen [referenceInText] with grind [Token.Proper]

@[spec]
theorem referenceInValue_upholds (closer : Char) : Upholds (referenceInValue closer) := by
  mvcgen [referenceInValue]

@[spec]
theorem lost_upholds : Upholds lost := by
  mvcgen [lost]

@[spec]
theorem data_upholds : Upholds data := by
  mvcgen [data]

@[spec]
theorem rcdata_upholds : Upholds rcdata := by
  mvcgen [rcdata]

@[spec]
theorem raw_upholds (content : RawContent) : Upholds (raw content) := by
  mvcgen [raw]

@[spec]
theorem plaintext_upholds : Upholds plaintext := by
  mvcgen [plaintext]

@[spec]
theorem rawLess_upholds (content : RawContent) : Upholds (rawLess content) := by
  mvcgen [rawLess]

@[spec]
theorem rawEndOpen_upholds (content : RawContent) : Upholds (rawEndOpen content) := by
  mvcgen [rawEndOpen]

@[spec]
theorem rawEndName_upholds (content : RawContent) : Upholds (rawEndName content) := by
  mvcgen [rawEndName]

@[spec]
theorem escapeStart_upholds (dashed : Bool) : Upholds (escapeStart dashed) := by
  mvcgen [escapeStart]

@[spec]
theorem escaped_upholds (dashes : Nat) : Upholds (escaped dashes) := by
  mvcgen [escaped]

@[spec]
theorem doubleWord_upholds (onScript otherwise : ScanState) :
    Upholds (doubleWord onScript otherwise) := by
  mvcgen [doubleWord]

@[spec]
theorem double_upholds (dashes : Nat) : Upholds (double dashes) := by
  mvcgen [double]

@[spec]
theorem doubleLess_upholds : Upholds doubleLess := by
  mvcgen [doubleLess]

@[spec]
theorem bogusComment_upholds : Upholds bogusComment := by
  mvcgen [bogusComment]

@[spec]
theorem declaration_upholds (foreign : Bool) : Upholds (declaration foreign) := by
  mvcgen [declaration]

@[spec]
theorem endComment_upholds (code : String) : Upholds (endComment code) := by
  mvcgen [endComment]

@[spec]
theorem commentStart_upholds (dashed : Bool) : Upholds (commentStart dashed) := by
  mvcgen [commentStart]

@[spec]
theorem comment_upholds : Upholds comment := by
  mvcgen [comment]

@[spec]
theorem commentEndDash_upholds : Upholds commentEndDash := by
  mvcgen [commentEndDash]

@[spec]
theorem commentEnd_upholds : Upholds commentEnd := by
  mvcgen [commentEnd]

@[spec]
theorem commentEndBang_upholds : Upholds commentEndBang := by
  mvcgen [commentEndBang]

@[spec]
theorem doctype_upholds : Upholds doctype := by
  mvcgen [doctype]

@[spec]
theorem beforeDoctypeName_upholds : Upholds beforeDoctypeName := by
  mvcgen [beforeDoctypeName]

@[spec]
theorem lowerDoctypeName_upholds : Upholds lowerDoctypeName := by
  mvcgen [lowerDoctypeName]

@[spec]
theorem doctypeName_upholds : Upholds doctypeName := by
  mvcgen [doctypeName]

@[spec]
theorem afterDoctypeName_upholds : Upholds afterDoctypeName := by
  mvcgen [afterDoctypeName]

@[spec]
theorem afterKeyword_upholds (isPublic : Bool) : Upholds (afterKeyword isPublic) := by
  mvcgen [afterKeyword]

@[spec]
theorem openIdentifier_upholds (isPublic : Bool) (quote : Char) :
    Upholds (openIdentifier isPublic quote) := by
  mvcgen [openIdentifier]

@[spec]
theorem spoilDoctype_upholds : Upholds spoilDoctype := by
  mvcgen [spoilDoctype]

@[spec]
theorem beforeIdentifier_upholds (isPublic : Bool) : Upholds (beforeIdentifier isPublic) := by
  mvcgen [beforeIdentifier]

@[spec]
theorem quotedIdentifier_upholds (isPublic : Bool) (quote : Char) :
    Upholds (quotedIdentifier isPublic quote) := by
  mvcgen [quotedIdentifier]

@[spec]
theorem betweenIdentifiers_upholds (atOnce : Bool) : Upholds (betweenIdentifiers atOnce) := by
  mvcgen [betweenIdentifiers]

@[spec]
theorem afterSystemIdentifier_upholds : Upholds afterSystemIdentifier := by
  mvcgen [afterSystemIdentifier]

@[spec]
theorem bogusDoctype_upholds : Upholds bogusDoctype := by
  mvcgen [bogusDoctype]

@[spec]
theorem cdataText_upholds (fuel : Nat) (read : List Char) : Upholds (cdataText fuel read) := by
  induction fuel generalizing read with
  | zero => mvcgen [cdataText]
  | succ fuel ih => mvcgen [cdataText, ih]

@[spec]
theorem cdata_upholds : Upholds cdata := by
  mvcgen [cdata]

@[spec]
theorem tagOpen_upholds : Upholds tagOpen := by
  mvcgen [tagOpen] with grind [Draft.Proper, Lettered.singleton]

@[spec]
theorem endTagOpen_upholds : Upholds endTagOpen := by
  mvcgen [endTagOpen]

@[spec]
theorem tagName_upholds : Upholds tagName := by
  mvcgen [tagName]

@[spec]
theorem beginAttr_upholds (c : Char) (doubtful : Bool) (code : String) :
    Upholds (beginAttr c doubtful code) := by
  mvcgen [beginAttr]

@[spec]
theorem beforeAttrName_upholds : Upholds beforeAttrName := by
  mvcgen [beforeAttrName]

@[spec]
theorem finishAttrName_upholds : Upholds finishAttrName := by
  mvcgen [finishAttrName] with grind [Token.Proper]

@[spec]
theorem attrName_upholds : Upholds attrName := by
  mvcgen [attrName]

@[spec]
theorem afterAttrName_upholds : Upholds afterAttrName := by
  mvcgen [afterAttrName]

@[spec]
theorem beforeAttrValue_upholds : Upholds beforeAttrValue := by
  mvcgen [beforeAttrValue]

@[spec]
theorem quotedValue_upholds (quote : Char) : Upholds (quotedValue quote) := by
  mvcgen [quotedValue]

@[spec]
theorem bareValue_upholds : Upholds bareValue := by
  mvcgen [bareValue]

@[spec]
theorem afterAttrValue_upholds : Upholds afterAttrValue := by
  mvcgen [afterAttrValue]

@[spec]
theorem selfClosing_upholds : Upholds selfClosing := by
  mvcgen [selfClosing] with grind [Token.Proper]

@[spec]
theorem advance_upholds (foreign : Bool) : Upholds (advance foreign) := by
  mvcgen [advance]

theorem advance_proper (foreign : Bool) {s : Scanner} (proper : s.Proper) :
    (advance foreign s).2.Proper :=
  advance_upholds foreign s proper

end Scan

-- What scanning hands out is proper, whatever there is to read.
theorem Scanner.step_proper {s next : Scanner} {foreign : Bool} {tokens : List Token}
    (proper : s.Proper) (stepped : s.step foreign = some (tokens, next)) :
    (∀ token ∈ tokens, token.Proper) ∧ next.Proper := by
  have after := Scan.advance_proper foreign proper
  unfold step at stepped
  split at stepped
  · cases stepped
  · rename_i advanced ran
    rw [ran] at after
    cases stepped
    refine ⟨fun token member => ?_, after.draft, fun _ member => nomatch member⟩
    rcases List.mem_append.mp member with strange | queued
    · rw [List.eq_of_mem_replicate strange]
      trivial
    · exact after.queue token (List.mem_reverse.mp queued)

end HtmlTree

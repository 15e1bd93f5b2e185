import HtmlTree.Proofs.BodyStarts
import HtmlTree.Proofs.CommentPieces
import HtmlTree.Proofs.TagPieces

namespace HtmlTree

namespace Construct

open Forest

variable {origin : Forest} {frame : Frame} {frames outer : List Frame} {after : List Frame → Prop}

-- What tokens do one after the other while these elements are open at first.
inductive TakesAll (origin : Forest) (after : List Frame → Prop) : List Frame → List Token → Prop where
  | nil {frames : List Frame} (holds : after frames) : TakesAll origin after frames []
  | cons {frames : List Frame} {token : Token} {tokens : List Token} {between : List Frame → Prop}
    (first : Takes origin frames token between)
    (later : ∀ now, between now → TakesAll origin after now tokens) :
    TakesAll origin after frames (token :: tokens)

-- Faults among the tokens are passed over.
theorem TakesAll.front {tokens found : List Token}
    (takes : TakesAll origin after frames (tokens.filter (!·.isFault) ++ found)) {c : Construction origin}
    (calm : Calm frames c) : ∃ d now, tokens.forM take c = .ok () d ∧ Calm now d ∧
      d.progress.scanner = c.progress.scanner ∧ TakesAll origin after now found := by
  induction tokens generalizing frames c with
  | nil => exact ⟨c, frames, rfl, calm, rfl, takes⟩
  | cons token tokens ih =>
    have going {between : List Frame → Prop} (first : Takes origin frames token between)
        (later : ∀ now, between now → TakesAll origin after now (tokens.filter (!·.isFault) ++ found)) :
        ∃ d now, (token :: tokens).forM take c = .ok () d ∧ Calm now d ∧
          d.progress.scanner = c.progress.scanner ∧ TakesAll origin after now found := by
      obtain ⟨d, now, ran, holds, still, same⟩ := first c calm
      obtain ⟨e, final, rest, calmly, kept, remaining⟩ := ih (later now holds) still
      exact ⟨e, final, (EStateM.bind_ok ran _).trans rest, calmly, kept.trans same, remaining⟩
    cases token with
    | fault fault =>
      exact going (takes_fault fault) fun now same => same ▸ takes
    | _ =>
      cases takes with
      | cons first later => exact going first later

theorem Calm.native {c : Construction origin} (calm : Calm frames c) : isForeign c.progress = false := by
  rw [isForeign, Progress.current?, calm.stack]
  cases frames <;> rfl

-- The tokens that scanning finds are taken, and then it goes on.
theorem scans_taken {n : Nat} {s t : Scanner} {found : List Token} (scans : Scans n s found t)
    (takes : TakesAll origin after frames found) {c : Construction origin} (calm : Calm frames c)
    (scanner : c.progress.scanner = s) :
    ∃ d now, (∀ fuel, takeAll (n + fuel) c = takeAll fuel d) ∧ after now ∧ Calm now d ∧
      d.progress.scanner = t := by
  induction scans generalizing frames c with
  | done =>
    cases takes with
    | nil holds => exact ⟨c, frames, fun fuel => by rw [Nat.zero_add], holds, calm, scanner⟩
  | @step n s t u tokens found here later ih =>
    obtain ⟨moved, same⟩ : ∃ moved : Construction origin,
      update ({ · with scanner := t }) c = .ok () moved ∧ Calm frames moved ∧ moved.progress.scanner = t :=
      ⟨_, rfl, calm.alike rfl rfl, rfl⟩
    obtain ⟨ran, calm', scanner'⟩ := same
    obtain ⟨d, now, taken, still, kept, remaining⟩ := takes.front calm'
    obtain ⟨e, final, goes, holds, calmly, ends⟩ := ih remaining still (kept.trans scanner')
    refine ⟨e, final, fun fuel => ?_, holds, calmly, ends⟩
    rw [Nat.add_right_comm, ← goes fuel, takeAll, bind_run, progress_run]
    dsimp only
    rw [scanner, calm.native, here]
    exact (EStateM.bind_ok ran _).trans (EStateM.bind_ok taken _)

-- Reading is between two pieces of content, with these characters to come.
structure Held (frames : List Frame) (rest : List Char) (c : Construction origin) : Prop where
  calm : Calm frames c
  ready : ∃ draft, c.progress.scanner.At ⟨.data, draft, rest⟩

-- Reading comes from some characters to what follows them, and takes no more steps than there are
-- characters.
def Reads (origin : Forest) (after : List Frame → Prop) (frames : List Frame) (cs rest : List Char) : Prop :=
  ∀ c : Construction origin, Held frames cs c → ∃ n d now, (∀ fuel, takeAll (n + fuel) c = takeAll fuel d) ∧
    after now ∧ Held now rest d ∧ n + rest.length ≤ cs.length

theorem Reads.refl (holds : after frames) (cs : List Char) : Reads origin after frames cs cs :=
  fun c held => ⟨0, c, frames, fun fuel => by rw [Nat.zero_add], holds, held, by omega⟩

theorem Reads.trans {between : List Frame → Prop} {cs ds rest : List Char}
    (first : Reads origin between frames cs ds) (second : ∀ now, between now → Reads origin after now ds rest) :
    Reads origin after frames cs rest := by
  intro c held
  obtain ⟨m, d, now, goes, mid, there, fewer⟩ := first c held
  obtain ⟨n, e, final, on, holds, beyond, less⟩ := second now mid d there
  refine ⟨m + n, e, final, fun fuel => ?_, holds, beyond, by omega⟩
  rw [Nat.add_assoc, goes, on]

theorem Reads.of_leads {cs rest : List Char}
    (leads : ∀ draft, ∃ found next, Leads ⟨.data, draft, cs⟩ found ⟨.data, next, rest⟩ ∧
      TakesAll origin after frames found) : Reads origin after frames cs rest := by
  rintro c ⟨calm, draft, here⟩
  obtain ⟨found, next, leads, takes⟩ := leads draft
  obtain ⟨n, t, scans, there, fewer⟩ := leads _ here
  obtain ⟨d, now, goes, holds, still, same⟩ := scans_taken scans takes calm rfl
  exact ⟨n, d, now, goes, holds, ⟨still, next, same ▸ there⟩, fewer⟩

theorem takesAll_single {token : Token} (takes : Takes origin frames token after) :
    TakesAll origin after frames [token] := .cons takes fun _ holds => .nil holds

theorem isNull_solid {word : List Char} (solid : Scan.null ∉ word) : isNull (String.ofList word) = false := by
  refine beq_eq_false_iff_ne.mpr fun same => ?_
  have chars : word = ['\x00'] := by simpa using congrArg String.toList same
  rw [chars] at solid
  exact solid (List.mem_singleton.mpr rfl)

-- A piece of text that is read, of either kind, and then what follows it.
theorem takesAll_word {now : Frame} {word : List Char} {token : Token} {tokens : List Token}
    (kind : token = .text (String.ofList word) ∧ Scan.null ∉ word ∨ token = .space (String.ofList word))
    (nonempty : word ≠ []) (later : TakesAll origin after (now :: outer) tokens)
    (inserts : ∀ c : Construction origin, Steady (frame :: outer) c → ∃ d,
      insertText (String.ofList word) c = .ok () d ∧ Steady (now :: outer) d ∧ d.progress = c.progress)
    (site : now.site = frame.site) : TakesAll origin after (frame :: outer) (token :: tokens) := by
  refine .cons (takes_piece ?_ site inserts) fun final same => same ▸ later
  rcases kind with ⟨rfl, solid⟩ | rfl
  · exact .inl ⟨rfl, isNull_solid solid⟩
  · refine .inr ⟨rfl, fun same => nonempty ?_⟩
    simpa using congrArg String.toList same

-- More of a text that has begun.
theorem takesAll_more {tokens : List Token} {text : List Char} (tells : Tells tokens text) (old : String) :
    TakesAll origin (· = frame.grown (.text (some (old ++ String.ofList text))) :: outer)
      (frame.grown (.text (some old)) :: outer) tokens := by
  induction tells generalizing old with
  | nil => exact .nil (by simp)
  | text word nonempty solid _ ih =>
    rw [String.ofList_append, ← String.append_assoc]
    exact takesAll_word (.inl ⟨rfl, solid⟩) nonempty (ih _) (fun _ steady => insertText_more steady _) rfl
  | space word nonempty _ ih =>
    rw [String.ofList_append, ← String.append_assoc]
    exact takesAll_word (.inr rfl) nonempty (ih _) (fun _ steady => insertText_more steady _) rfl

theorem takesAll_text {tokens : List Token} {text : List Char} (tells : Tells tokens text)
    (spoken : text ≠ []) (other : ∀ t ∈ frame.kids.getLast?, t.isText = false) :
    TakesAll origin (· = frame.grown (.text (some (String.ofList text))) :: outer) (frame :: outer)
      tokens := by
  cases tells with
  | nil => exact absurd rfl spoken
  | text word nonempty solid later =>
    rw [String.ofList_append]
    exact takesAll_word (.inl ⟨rfl, solid⟩) nonempty (takesAll_more later _)
      (fun _ steady => insertText_run steady other _) rfl
  | space word nonempty later =>
    rw [String.ofList_append]
    exact takesAll_word (.inr rfl) nonempty (takesAll_more later _)
      (fun _ steady => insertText_run steady other _) rfl

end Construct
end HtmlTree

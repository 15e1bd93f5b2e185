import HtmlTree.Source.Piece
import HtmlTree.Source.Grid.Ksx1001

namespace HtmlTree.Source.Korean

-- The letters of a syllable by their second bytes: which initials and which finals they are, as far
-- as they can be.
def initials : List Nat :=
  [0xA1, 0xA2, 0xA4, 0xA7, 0xA8, 0xA9, 0xB1, 0xB2, 0xB3, 0xB5, 0xB6, 0xB7, 0xB8, 0xB9, 0xBA, 0xBB,
   0xBC, 0xBD, 0xBE]

def finals : List Nat :=
  [0xD4, 0xA1, 0xA2, 0xA3, 0xA4, 0xA5, 0xA6, 0xA7, 0xA9, 0xAA, 0xAB, 0xAC, 0xAD, 0xAE, 0xAF, 0xB0,
   0xB1, 0xB2, 0xB4, 0xB5, 0xB6, 0xB7, 0xB8, 0xBA, 0xBB, 0xBC, 0xBD, 0xBE]

-- A syllable made up from its letters.
def syllable? (initial vowel final : Nat) : Option Char :=
  match initials.idxOf? initial, finals.idxOf? final with
  | some i, some f =>
    if 0xBF ≤ vowel && vowel ≤ 0xD3 then
      some (Char.ofNat (0xAC00 + i * 588 + (vowel - 0xBF) * 28 + f))
    else none
  | _, _ => none

-- EUC-KR: two upper bytes, or a filler and three letters of two bytes each that make up a syllable.
def seeEuc (b : UInt8) (rest : List UInt8) : Sight :=
  if b < 0x80 then .char (Char.ofNat b.toNat) 1
  else
    match rest with
    | [] => .short
    | c :: rest =>
      if b == 0xA4 && c == 0xD4 then
        match rest with
        | p :: initial :: q :: vowel :: r :: final :: _ =>
          if p == 0xA4 && q == 0xA4 && r == 0xA4 then
            match syllable? initial.toNat vowel.toNat final.toNat with
            | some found => .char found 8
            | none => .broken 1
          else .broken 1
        | _ => .short
      else .ofPair (Grid.ksx1001.upper? b.toNat c.toNat)

end HtmlTree.Source.Korean

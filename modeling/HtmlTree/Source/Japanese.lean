import HtmlTree.Source.Piece
import HtmlTree.Source.Grid.Jis208
import HtmlTree.Source.Grid.Jis212

namespace HtmlTree.Source.Japanese

-- The narrow katakana, one byte each.
def katakana? (b : Nat) : Option Char :=
  if 0xA1 ≤ b && b ≤ 0xDF then some (Char.ofNat (0xFEC0 + b)) else none

-- EUC-JP: two upper bytes, or one of two marks with the bytes of another set.
def seeEuc (b : UInt8) (rest : List UInt8) : Sight :=
  if b < 0x80 then .char (Char.ofNat b.toNat) 1
  else if b == 0x8F then
    match rest with
    | c :: d :: _ =>
      match Grid.jis212.upper? c.toNat d.toNat with
      | some found => .char found 3
      | none => .broken 1
    | _ => .short
  else
    match rest with
    | c :: _ =>
      if b == 0x8E then .ofPair (katakana? c.toNat)
      else .ofPair (Grid.jis208.upper? b.toNat c.toNat)
    | [] => .short

-- The character of two bytes of Shift JIS. The first counts pairs of rows, and the second goes
-- through both rows of a pair.
def shifted? (b c : Nat) : Option Char :=
  if c < 0x40 || c == 0x7F || 0xFC < c then none
  else
    let pair := if b < 0xE0 then b - 0x81 else b - 0xC1
    let place := if c < 0x80 then c - 0x40 else c - 0x41
    Grid.jis208.at? (2 * pair + place / 94) (place % 94)

def seeShifted (b : UInt8) (rest : List UInt8) : Sight :=
  let n := b.toNat
  if n < 0x80 then .char (Char.ofNat n) 1
  else if (0x81 ≤ n && n ≤ 0x9F) || (0xE0 ≤ n && n ≤ 0xFC) then
    match rest with
    | c :: _ => .ofPair (shifted? n c.toNat)
    | [] => .short
  else
    match katakana? n with
    | some found => .char found 1
    | none => .broken 1

-- The letters of JIS X 0201: ASCII but for the yen sign and the overline.
def roman? (b : Nat) : Option Char :=
  if b == 0x5C then some '¥'
  else if b == 0x7E then some '‾'
  else if b < 0x80 then some (Char.ofNat b)
  else none

end HtmlTree.Source.Japanese

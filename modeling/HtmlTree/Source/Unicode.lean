import HtmlTree.Source.Piece

namespace HtmlTree.Source

-- What a first byte calls for: how many bytes are to follow, the bits it gives, and the range that
-- the next byte has to lie in.
structure Lead where
  owed : Nat
  bits : Nat
  least : Nat
  most : Nat
deriving DecidableEq, Repr

def lead? (b : Nat) : Option Lead :=
  if b < 0x80 then some ⟨0, b, 0x80, 0xBF⟩
  else if b < 0xC2 then none
  else if b < 0xE0 then some ⟨1, b % 0x20, 0x80, 0xBF⟩
  else if b == 0xE0 then some ⟨2, b % 0x10, 0xA0, 0xBF⟩
  else if b == 0xED then some ⟨2, b % 0x10, 0x80, 0x9F⟩
  else if b < 0xF0 then some ⟨2, b % 0x10, 0x80, 0xBF⟩
  else if b == 0xF0 then some ⟨3, b % 0x08, 0x90, 0xBF⟩
  else if b < 0xF4 then some ⟨3, b % 0x08, 0x80, 0xBF⟩
  else if b == 0xF4 then some ⟨3, b % 0x08, 0x80, 0x8F⟩
  else none

-- The piece that a first byte begins, and the bytes after it.
def followUtf8 : Lead → List UInt8 → Piece × List UInt8
  | ⟨0, bits, _, _⟩, rest => (.char (Char.ofNat bits), rest)
  | _, [] => (.cut, [])
  | ⟨owed + 1, bits, least, most⟩, b :: rest =>
    if least ≤ b.toNat && b.toNat ≤ most then
      followUtf8 ⟨owed, bits * 0x40 + b.toNat % 0x40, 0x80, 0xBF⟩ rest
    else (.broken, b :: rest)

def piecesUtf8 : Nat → List UInt8 → List Piece
  | 0, _ => []
  | _, [] => []
  | fuel + 1, b :: rest =>
    match lead? b.toNat with
    | none => .broken :: piecesUtf8 fuel rest
    | some lead =>
      let (piece, rest) := followUtf8 lead rest
      piece :: piecesUtf8 fuel rest

-- Two bytes are a unit, and two units can be needed for a character.
def piecesUtf16 (unit : UInt8 → UInt8 → Nat) : Nat → List UInt8 → List Piece
  | fuel + 1, a :: b :: rest =>
    let high := unit a b
    if 0xD800 ≤ high && high < 0xDC00 then
      match rest with
      | c :: d :: more =>
        let low := unit c d
        if 0xDC00 ≤ low && low < 0xE000 then
          .char (Char.ofNat (0x10000 + (high - 0xD800) * 0x400 + (low - 0xDC00))) ::
            piecesUtf16 unit fuel more
        else .broken :: piecesUtf16 unit fuel rest
      | _ => [.cut]
    else if 0xDC00 ≤ high && high < 0xE000 then .broken :: piecesUtf16 unit fuel rest
    else .char (Char.ofNat high) :: piecesUtf16 unit fuel rest
  | _, [_] => [.cut]
  | _, _ => []

-- The low byte of a unit first, or the high one.
def unitLittle (a b : UInt8) : Nat := b.toNat * 0x100 + a.toNat

def unitBig (a b : UInt8) : Nat := a.toNat * 0x100 + b.toNat

end HtmlTree.Source

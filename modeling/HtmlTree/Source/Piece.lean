namespace HtmlTree.Source

-- What stands in for bytes that spell no character.
def malformed : Char := Char.ofNat 0xFFFD

-- A piece of text in bytes: a character, bytes that spell none, or a character that the end of the
-- bytes cuts off.
inductive Piece where
  | char (c : Char)
  | broken
  | cut
deriving DecidableEq, Repr

namespace Piece

-- The character, if there is one.
def char? : Piece → Option Char
  | .char c => some c
  | _ => none

-- Broken pieces are replaced; one that is cut off counts for nothing.
def shown? : Piece → Option Char
  | .char c => some c
  | .broken => some malformed
  | .cut => none

end Piece

-- What can be told from the bytes that come next, and how many of them it takes: a character, bytes
-- that spell none, or bytes that only change how the others are read. There may be too few bytes to
-- tell.
inductive Sight where
  | char (c : Char) (width : Nat)
  | broken (width : Nat)
  | silent (width : Nat)
  | short
deriving DecidableEq, Repr

namespace Sight

-- A character of two bytes if there is one. If there is none, the second byte is looked at again.
def ofPair : Option Char → Sight
  | some c => .char c 2
  | none => .broken 1

-- Looks at bytes one after the other. Where bytes are wanting at the end, what is left is broken.
-- Every sight takes a byte, so that there are no more of them than bytes.
def pieces (see : σ → UInt8 → List UInt8 → Sight × σ) : Nat → σ → List UInt8 → List Piece
  | 0, _, _ => []
  | _, _, [] => []
  | fuel + 1, state, b :: rest =>
    match see state b rest with
    | (.char c width, state) => .char c :: pieces see fuel state (rest.drop (width - 1))
    | (.broken width, state) => .broken :: pieces see fuel state (rest.drop (width - 1))
    | (.silent width, state) => pieces see fuel state (rest.drop (width - 1))
    | (.short, _) => [.broken]

-- Looks at bytes that are read alike wherever they stand.
def piecesAlike (see : UInt8 → List UInt8 → Sight) (bytes : List UInt8) : List Piece :=
  pieces (fun _ b rest => (see b rest, ())) bytes.length () bytes

end Sight
end HtmlTree.Source

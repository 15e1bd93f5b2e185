import HtmlTree.Text.Lower

namespace HtmlTree.Text

-- Lower-case letters that are one letter in two or three shapes: they share a capital.
def caseTwins : List (List Nat) :=
  [[0x69, 0x131], [0x73, 0x17F], [0xB5, 0x3BC], [0x345, 0x3B9, 0x1FBE], [0x390, 0x1FD3],
   [0x3B0, 0x1FE3], [0x3B2, 0x3D0], [0x3B5, 0x3F5], [0x3B8, 0x3D1], [0x3BA, 0x3F0],
   [0x3C0, 0x3D6], [0x3C1, 0x3F1], [0x3C2, 0x3C3], [0x3C6, 0x3D5], [0x432, 0x1C80],
   [0x434, 0x1C81], [0x43E, 0x1C82], [0x441, 0x1C83], [0x442, 0x1C84, 0x1C85], [0x44A, 0x1C86],
   [0x463, 0x1C87], [0x1C88, 0xA64B], [0x1E61, 0x1E9B], [0xFB05, 0xFB06]]

-- The shapes of a lower-case letter, itself among them.
def twinsOf (code : Nat) : List Nat := (caseTwins.find? (·.contains code)).getD [code]

-- Every code point whose lower case is the given one, by the rows of the table.
def capitalsOf (code : Nat) : List Nat :=
  (if 0x61 ≤ code && code ≤ 0x7A then [code - 32] else []) ++
    (if code = 0x69 then [0x130] else []) ++
    lowerShifts.filterMap fun row =>
      let capital := ((code : Int) - row.2.2.2).toNat
      if row.1 ≤ capital && capital ≤ row.2.1 && lowerCode capital == code then some capital
      else none

-- Which letters are taken for the same: each only for itself, capitals and small letters of ASCII
-- for each other, or all shapes that a letter has.
inductive CaseFold where
  | exact
  | ascii
  | full
deriving DecidableEq, Repr

namespace CaseFold

-- The shape by which a letter is known.
def lowered : CaseFold → Nat → Nat
  | .exact, code => code
  | .ascii, code => if 0x41 ≤ code && code ≤ 0x5A then code + 32 else code
  | .full, code => lowerCode code

-- All code points that are taken for the same letter as this one.
def forms : CaseFold → Nat → List Nat
  | .exact, code => [code]
  | .ascii, code =>
    let small := CaseFold.ascii.lowered code
    if 0x61 ≤ small && small ≤ 0x7A then [small, small - 32] else [small]
  | .full, code => (twinsOf (lowerCode code)).flatMap fun twin => twin :: capitalsOf twin

-- Whether two code points are taken for the same letter.
def alike (fold : CaseFold) (left right : Nat) : Bool := (fold.forms left).contains right

end CaseFold
end HtmlTree.Text

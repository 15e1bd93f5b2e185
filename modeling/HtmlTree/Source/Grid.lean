namespace HtmlTree.Source

-- Characters in rows of cells, both counted from nought. A blank stands in a cell that is free, and
-- so are the cells after the end of a row.
structure Grid where
  rows : Array String

namespace Grid

def at? (g : Grid) (row cell : Nat) : Option Char :=
  (g.rows[row]?.bind fun text => text.toList[cell]?).filter (· != ' ')

-- The character of two bytes that count rows and cells from 21 on.
def plain? (g : Grid) (a b : Nat) : Option Char :=
  if 0x21 ≤ a && a ≤ 0x7E && 0x21 ≤ b && b ≤ 0x7E then g.at? (a - 0x21) (b - 0x21) else none

-- The same for bytes that count from A1 on.
def upper? (g : Grid) (a b : Nat) : Option Char :=
  if 0x80 ≤ a && 0x80 ≤ b then g.plain? (a - 0x80) (b - 0x80) else none

end Grid
end HtmlTree.Source

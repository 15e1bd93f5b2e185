import HtmlTree.Text.CharSet

namespace HtmlTree.Text

-- Characters that stripping a text removes from its ends.
def blanks : CharSet :=
  ⟨[(0x09, 0x0D), (0x1C, 0x20), (0x85, 0x85), (0xA0, 0xA0), (0x1680, 0x1680), (0x2000, 0x200A),
    (0x2028, 0x2029), (0x202F, 0x202F), (0x205F, 0x205F), (0x3000, 0x3000)]⟩

def isBlank (c : Char) : Bool := blanks.contains c

-- The five separators of markup: space, tab, line feed, carriage return, form feed.
def isSpace (c : Char) : Bool :=
  c == ' ' || c == '\t' || c == '\n' || c == '\r' || c == '\x0c'

def trimStart (drop : Char → Bool) (cs : List Char) : List Char := cs.dropWhile drop

def trimEnd (drop : Char → Bool) (cs : List Char) : List Char :=
  (cs.reverse.dropWhile drop).reverse

def trim (drop : Char → Bool) (cs : List Char) : List Char := trimEnd drop (trimStart drop cs)

def strip (text : String) : String := String.ofList (trim isBlank text.toList)

-- Pieces between runs of separators. A run at either end leaves an empty piece there, and an
-- empty text is one empty piece.
def pieces : List Char → List (List Char)
  | [] => [[]]
  | c :: cs =>
    let tail := pieces cs
    if isSpace c then
      match cs with
      | d :: _ => if isSpace d then tail else [] :: tail
      | [] => [] :: tail
    else match tail with
      | word :: more => (c :: word) :: more
      | [] => [[c]]

-- Words of a class-like value: the text is trimmed of separators and then cut at their runs, so a
-- value of separators only counts as the one empty word.
def words (text : String) : List String :=
  (pieces (trim isSpace text.toList)).map String.ofList

end HtmlTree.Text

namespace HtmlTree.Text

-- A set of code points, kept as inclusive ranges.
structure CharSet where
  ranges : List (Nat × Nat)
deriving DecidableEq, Repr

namespace CharSet

def containsCode (s : CharSet) (code : Nat) : Bool :=
  s.ranges.any fun range => decide (range.1 ≤ code) && decide (code ≤ range.2)

def contains (s : CharSet) (c : Char) : Bool := s.containsCode c.toNat

-- The value of a hexadecimal digit, either case.
def hexDigit? (c : Char) : Option Nat :=
  if '0' ≤ c ∧ c ≤ '9' then some (c.toNat - '0'.toNat)
  else if 'a' ≤ c ∧ c ≤ 'f' then some (c.toNat - 'a'.toNat + 10)
  else if 'A' ≤ c ∧ c ≤ 'F' then some (c.toNat - 'A'.toNat + 10)
  else none

-- The number that a run of hexadecimal digits writes; other characters are passed over.
def hexNumber (digits : List Char) : Nat :=
  digits.foldl (fun total c => match hexDigit? c with
    | some d => 16 * total + d
    | none => total) 0

-- One written range: `20-7E`, or a single code point `A0`.
def readRange (text : String) : Nat × Nat :=
  match text.splitOn "-" with
  | [lo, hi] => (hexNumber lo.toList, hexNumber hi.toList)
  | _ => (hexNumber text.toList, hexNumber text.toList)

-- Ranges written in hexadecimal, separated by single blanks, on as many lines as they take.
def ofLines (lines : List String) : CharSet :=
  ⟨lines.flatMap fun line => (line.splitOn " ").map readRange⟩

end CharSet
end HtmlTree.Text

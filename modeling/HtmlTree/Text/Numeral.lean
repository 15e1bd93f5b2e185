namespace HtmlTree.Text.Numeral

-- How many binary digits of a measured number are kept, and the bound for its size.
def precisionBits : Nat := 53
def sizeBits : Nat := 1024

-- A quotient rounded to the nearest whole number; a half goes to the even neighbour.
def divideEven (n d : Nat) : Nat :=
  let q := n / d
  let r := n % d
  if d < 2 * r || (2 * r == d && q % 2 == 1) then q + 1 else q

-- A whole number with no more binary digits than are kept, unless it is too large.
def rounded? (n : Nat) : Option Nat :=
  let excess := n.log2 + 1 - precisionBits
  let near := divideEven n (Nat.pow 2 excess) * Nat.pow 2 excess
  if near < Nat.pow 2 sizeBits then some near else none

def zeros (count : Nat) : List Char := List.replicate count '0'

-- Digits with a point behind the first so many of them. A point with nothing behind it is written
-- only if it is asked for.
def pointed (digits : List Char) (whole : Nat) (keepPoint : Bool) : List Char :=
  match digits.drop whole with
  | [] => if keepPoint then digits ++ ['.'] else digits
  | places => digits.take whole ++ '.' :: places

-- So many places behind the point.
def fixed (n places : Nat) (keepPoint : Bool) : List Char :=
  let digits := Nat.toDigits 10 n
  pointed (digits ++ zeros places) digits.length keepPoint

-- The first so many digits of a number, and the power of ten of the first.
def leading (n count : Nat) : List Char × Nat :=
  let size := (Nat.toDigits 10 n).length
  if size ≤ count then (Nat.toDigits 10 n ++ zeros (count - size), size - 1)
  else
    let near := Nat.toDigits 10 (divideEven n (Nat.pow 10 (size - count)))
    (near.take count, size - 1 + (near.length - count))

-- A power of ten has two digits at least.
def exponent (power : Nat) : List Char :=
  let digits := Nat.toDigits 10 power
  'e' :: '+' :: (zeros (2 - digits.length) ++ digits)

-- One digit in front of the point, so many behind it, and a power of ten.
def scientific (n places : Nat) (keepPoint : Bool) : List Char :=
  let (digits, power) := leading n (places + 1)
  pointed digits 1 keepPoint ++ exponent power

-- Digits without the zeros at their end, of which so many are left in any case.
def trimmed (digits : List Char) (least : Nat) : List Char :=
  digits.take least ++ ((digits.drop least).reverse.dropWhile (· == '0')).reverse

-- So many digits in all, with a power of ten if they are too few for the number. Zeros at the end
-- are left out unless the point is to be kept.
def general (n count : Nat) (keepPoint : Bool) : List Char :=
  let count := max count 1
  let (digits, power) := leading n count
  let whole := if power < count then power + 1 else 1
  let digits := if keepPoint then digits else trimmed digits whole
  pointed digits whole keepPoint ++ (if power < count then [] else exponent power)

end HtmlTree.Text.Numeral

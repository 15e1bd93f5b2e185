import HtmlTree.Text.Numeral
import HtmlTree.Text.Quoted

namespace HtmlTree.Text

-- A value that a message template can name. Of one that is made up of others only the literal
-- counts.
inductive Slot where
  | text (value : String)
  | number (value : Int)
  | truth (value : Bool)
  | absent
  | compound (literal : String)
deriving DecidableEq, Repr, Inhabited

namespace Slot

def shown : Slot → String
  | .text value => value
  | .number value => toString value
  | .truth value => if value then "True" else "False"
  | .absent => "None"
  | .compound literal => literal

def literal : Slot → String
  | .text value => quoted value
  | slot => slot.shown

def integer? : Slot → Option Int
  | .number value => some value
  | .truth value => some (if value then 1 else 0)
  | _ => none

def listOf (items : List Slot) : Slot :=
  .compound ("[" ++ ", ".intercalate (items.map literal) ++ "]")

def tableOf (entries : List (String × Slot)) : Slot :=
  .compound ("\x7b" ++ ", ".intercalate
    (entries.map fun entry => quoted entry.1 ++ ": " ++ entry.2.literal) ++ "\x7d")

end Slot

abbrev Slots := List (String × Slot)

-- Why a template cannot be filled.
inductive Misfit where
  -- a placeholder is not well formed, has no value, or has one of the wrong kind
  | unsuited
  -- a value or a number of places is beyond what the letter can show
  | outOfRange
  -- the text would be longer than any text can be
  | tooLong
deriving DecidableEq, Repr

-- How one placeholder asks to be written: its flags, least width and precision.
structure Directive where
  minus : Bool
  plus : Bool
  blank : Bool
  zero : Bool
  alternate : Bool
  width : Nat
  precision : Option Nat
deriving DecidableEq, Repr

namespace Directive

def plain : Directive := ⟨false, false, false, false, false, 0, none⟩

def flags : Directive → List Char → Directive × List Char
  | d, '-' :: cs => flags { d with minus := true } cs
  | d, '+' :: cs => flags { d with plus := true } cs
  | d, ' ' :: cs => flags { d with blank := true } cs
  | d, '0' :: cs => flags { d with zero := true } cs
  | d, '#' :: cs => flags { d with alternate := true } cs
  | d, cs => (d, cs)

def decimal (digits : List Char) : Nat :=
  digits.foldl (fun total c => 10 * total + (c.toNat - '0'.toNat)) 0

-- Bounds for what can be written as a width and as a precision, for the precision of an integer,
-- and for the length of a text.
def widthBound : Nat := 0x8000000000000000
def precisionBound : Nat := 0x80000000
def integerPrecisionBound : Nat := 0x80000000 - 3
def lengthBound : Nat := 10000000000

-- A star asks for the value itself as a width or precision, and leaves none to be written.
def star (slot : Slot) (bound : Nat) : Misfit :=
  match slot.integer? with
  | some n => if -(bound : Int) ≤ n && n < bound then .unsuited else .outOfRange
  | none => .unsuited

-- Flags, width, precision and a length letter that means nothing, in this order.
def read (slot : Slot) (cs : List Char) : Except Misfit (Directive × List Char) := do
  let (d, cs) := flags plain cs
  let width := decimal (cs.takeWhile Char.isDigit)
  let d := { d with width := width }
  if cs.head? = some '*' then throw (star slot widthBound)
  if widthBound ≤ width then throw .unsuited
  let cs := cs.dropWhile Char.isDigit
  let (d, cs) ← match cs with
    | '.' :: '*' :: _ => throw (star slot precisionBound)
    | '.' :: more =>
      let precision := decimal (more.takeWhile Char.isDigit)
      if precisionBound ≤ precision then throw .unsuited
      pure ({ d with precision := some precision }, more.dropWhile Char.isDigit)
    | _ => pure (d, cs)
  match cs with
  | 'h' :: more | 'l' :: more | 'L' :: more => pure (d, more)
  | _ => pure (d, cs)

def pad (d : Directive) (cs : List Char) : Except Misfit (List Char) :=
  if lengthBound ≤ d.width then .error .tooLong
  else
    let fill := List.replicate (d.width - cs.length) ' '
    .ok (if d.minus then cs ++ fill else fill ++ cs)

def words (d : Directive) (value : String) : Except Misfit (List Char) :=
  d.pad (match d.precision with
    | some n => value.toList.take n
    | none => value.toList)

-- A number from its parts: sign, marker of the base, zeros up to the width, digits.
def signed (d : Directive) (negative : Bool) (marker digits : List Char) :
    Except Misfit (List Char) :=
  let sign := if negative then ['-'] else if d.plus then ['+'] else if d.blank then [' '] else []
  let front := sign ++ marker
  if lengthBound ≤ d.width then .error .tooLong
  else
    let zeros := if d.zero && !d.minus then d.width - front.length - digits.length else 0
    d.pad (front ++ List.replicate zeros '0' ++ digits)

-- An integer in the given base.
def numeral (d : Directive) (base : Nat) (marker : List Char) (upper : Bool) (value : Int) :
    Except Misfit (List Char) :=
  if integerPrecisionBound ≤ d.precision.getD 0 then .error .outOfRange
  else
    let digits := Nat.toDigits base value.natAbs
    let digits := if upper then digits.map Char.toUpper else digits
    let digits := List.replicate (d.precision.getD 0 - digits.length) '0' ++ digits
    d.signed (value < 0) (if d.alternate then marker else []) digits

-- An integer written as a measured number, in the style of the letter.
def measure (d : Directive) (letter : Char) (value : Int) : Except Misfit (List Char) :=
  match Numeral.rounded? value.natAbs with
  | none => .error .outOfRange
  | some n =>
    let places := d.precision.getD 6
    let digits := match letter.toLower with
      | 'f' => Numeral.fixed n places d.alternate
      | 'e' => Numeral.scientific n places d.alternate
      | _ => Numeral.general n places d.alternate
    d.signed (value < 0) [] (if letter.isUpper then digits.map Char.toUpper else digits)

end Directive

-- The name in parentheses, which may hold balanced parentheses, and what follows it.
def readName : Nat → List Char → Option (List Char × List Char)
  | _, [] => none
  | depth, '(' :: cs => (readName (depth + 1) cs).map fun r => ('(' :: r.1, r.2)
  | 0, ')' :: cs => some ([], cs)
  | depth + 1, ')' :: cs => (readName depth cs).map fun r => (')' :: r.1, r.2)
  | depth, c :: cs => (readName depth cs).map fun r => (c :: r.1, r.2)

-- One character: given as itself or by its code point.
def writeCharacter (d : Directive) : Slot → Except Misfit (List Char)
  | .text value =>
    match value.toList with
    | [c] => d.pad [c]
    | _ => .error .unsuited
  | slot =>
    match slot.integer? with
    | none => .error .unsuited
    | some code =>
      if 0 ≤ code && code < 0x110000 then d.pad [Char.ofNat code.toNat] else .error .outOfRange

-- What stands for one placeholder, if the value suits the letter.
def writeSlot (d : Directive) (letter : Char) (slot : Slot) : Except Misfit (List Char) :=
  let integer (write : Int → Except Misfit (List Char)) : Except Misfit (List Char) :=
    match slot.integer? with
    | some value => write value
    | none => .error .unsuited
  match letter with
  | 's' => d.words slot.shown
  | 'r' => d.words slot.literal
  | 'a' => d.words (inAscii slot.literal)
  | 'c' => writeCharacter d slot
  | 'd' | 'i' | 'u' => integer (d.numeral 10 [] false)
  | 'x' => integer (d.numeral 16 ['0', 'x'] false)
  | 'X' => integer (d.numeral 16 ['0', 'X'] true)
  | 'o' => integer (d.numeral 8 ['0', 'o'] false)
  | 'f' | 'F' | 'e' | 'E' | 'g' | 'G' => integer (d.measure letter)
  | _ => .error .unsuited

-- Fills the placeholders of a template. A named one takes its slot; the first unnamed one takes
-- the whole table, and there is none for a second. `unused` tells that the table is still to be
-- had. Two percent signs write one.
def fillFrom (slots : Slots) : Nat → Bool → List Char → Except Misfit (List Char)
  | 0, _, _ => .error .unsuited
  | _ + 1, _, [] => .ok []
  | fuel + 1, unused, '%' :: '%' :: cs => ('%' :: ·) <$> fillFrom slots fuel unused cs
  | fuel + 1, unused, '%' :: cs =>
    let found : Option (Slot × List Char) := match cs with
      | '(' :: cs => do
        let (name, cs) ← readName 0 cs
        pure (← slots.lookup (String.ofList name), cs)
      | _ => if unused then some (Slot.tableOf slots, cs) else none
    match found with
    | none => .error .unsuited
    | some (slot, cs) =>
      match Directive.read slot cs with
      | .error misfit => .error misfit
      | .ok (_, []) => .error .unsuited
      | .ok (d, letter :: cs) => do
        let here ← writeSlot d letter slot
        let more ← fillFrom slots fuel false cs
        pure (here ++ more)
  | fuel + 1, unused, c :: cs => (c :: ·) <$> fillFrom slots fuel unused cs

-- The template with its placeholders filled. It is left as it stands when one of them cannot be,
-- unless what it asks for is beyond all bounds.
def fill (template : String) (slots : Slots) : Except Misfit String :=
  match fillFrom slots (template.length + 1) true template.toList with
  | .ok cs => .ok (String.ofList cs)
  | .error .unsuited => .ok template
  | .error misfit => .error misfit

end HtmlTree.Text

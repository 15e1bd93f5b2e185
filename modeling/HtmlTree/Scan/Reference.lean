import HtmlTree.Scan
import HtmlTree.Token.References

namespace HtmlTree.Scan

-- The names that go on with a character, without it.
def narrow (c : Char) (names : List (List Char × List Char)) : List (List Char × List Char) :=
  names.filterMap fun entry => match entry.1 with
    | d :: rest => if c == d then some (rest, entry.2) else none
    | [] => none

-- A name that has been read to its end: how long it is, whether a semicolon ends it, and what it
-- stands for.
structure NameMatch where
  length : Nat
  closed : Bool
  value : List Char
deriving DecidableEq, Repr

-- Reads characters as long as they begin some name. Gives those, the one read beyond them, and the
-- longest name among their beginnings.
def readNames : Nat → List (List Char × List Char) → List Char → Option Char → Option NameMatch →
    Scan (List Char × Option Char × Option NameMatch)
  | 0, _, read, last, best => pure (read.reverse, last, best)
  | _ + 1, _, read, none, best => pure (read.reverse, none, best)
  | fuel + 1, names, read, some c, best => do
    let names := narrow c names
    if names.isEmpty then pure (read.reverse, some c, best)
    else
      let best := match names.find? (·.1.isEmpty) with
        | some entry => some ⟨read.length + 1, c == ';', entry.2⟩
        | none => best
      readNames fuel names (c :: read) (← next) best

-- No name is longer than this.
def longestName : Nat := 64

def readDigits (isDigit : Char → Bool) : Nat → List Char → Scan (List Char × Option Char)
  | 0, read => pure (read.reverse, none)
  | fuel + 1, read => do
    match ← next with
    | some c =>
      if isDigit c then readDigits isDigit fuel (c :: read) else pure (read.reverse, some c)
    | none => pure (read.reverse, none)

-- More decimal digits than this are not read as a number, be the first ones noughts or not.
def mostDigits : Nat := 4300

-- The rest of a numeric reference, from its first digit on.
def numberReference (hex : Bool) : Scan (List Char) := do
  let isDigit (c : Char) : Bool := if hex then (Text.CharSet.hexDigit? c).isSome else c.isDigit
  let bound := (← get).cursor.remaining + 1
  let (digits, last) ← readDigits isDigit bound []
  if !hex && mostDigits < digits.length then emit .overlong
  let base := if hex then 16 else 10
  let code := digits.foldl (fun n c => base * n + (Text.CharSet.hexDigit? c).getD 0) 0
  let (c, doubtful) := Token.numericReference code
  if doubtful then
    emit (.fault ⟨"illegal-codepoint-for-numeric-entity", [("charAsInt", .number code)]⟩)
  if last != some ';' then
    fault "numeric-entity-without-semicolon"
    back last
  pure [c]

-- A reference after its ampersand. What is no reference stays as it was written. Inside an
-- attribute value a name without a semicolon does not count before a letter, a digit or an equals
-- sign. `closer` is a character that ends the surroundings.
def reference (closer : Option Char) (inValue : Bool) : Scan (List Char) := do
  let first ← next
  match first with
  | none => pure ['&']
  | some c =>
    if Text.isSpace c || c == '<' || c == '&' || some c == closer then
      back first
      pure ['&']
    else if c == '#' then
      let second ← next
      let hex := second == some 'x' || second == some 'X'
      let digit ← if hex then next else pure second
      let found := match digit with
        | some d => if hex then (Text.CharSet.hexDigit? d).isSome else d.isDigit
        | none => false
      back digit
      if found then numberReference hex
      else
        fault "expected-numeric-entity"
        pure (['&', '#'] ++ (if hex then second.toList else []))
    else
      let (read, last, best) ← readNames longestName Token.namedReferences [] first none
      match best with
      | none =>
        fault "expected-named-entity"
        back last
        pure ('&' :: read)
      | some found =>
        if !found.closed then fault "named-entity-without-semicolon"
        let follower := if found.length < read.length then read[found.length]? else last
        let goesOn := match follower with
          | some d => d.isAlphanum || d == '='
          | none => false
        back last
        if !found.closed && inValue && goesOn then pure ('&' :: read)
        else pure (found.value ++ read.drop found.length)

-- A reference in text is a piece of its own.
def referenceInText : Scan Unit := do
  let cs ← reference none false
  match cs with
  | [c] => if Text.isSpace c then emit (.space (String.singleton c)) else text cs
  | _ => text cs

def referenceInValue (closer : Char) : Scan Unit := do
  pushAttrValue (← reference (some closer) true)

end HtmlTree.Scan

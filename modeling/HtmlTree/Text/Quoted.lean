import HtmlTree.Text.Printable

namespace HtmlTree.Text

def hexDigits : List Char :=
  ['0', '1', '2', '3', '4', '5', '6', '7', '8', '9', 'a', 'b', 'c', 'd', 'e', 'f']

-- The last `width` hexadecimal digits of `n`, most significant first.
def hexFixed : Nat → Nat → List Char
  | 0, _ => []
  | width + 1, n => hexFixed width (n / 16) ++ [hexDigits.getD (n % 16) '0']

-- Single quotes enclose a text unless it holds one and no double quote.
def chooseQuote (cs : List Char) : Char :=
  if cs.contains '\'' && !cs.contains '"' then '"' else '\''

-- A character by its code point.
def escapeCode (c : Char) : List Char :=
  if c.toNat ≤ 0xFF then '\\' :: 'x' :: hexFixed 2 c.toNat
  else if c.toNat ≤ 0xFFFF then '\\' :: 'u' :: hexFixed 4 c.toNat
  else '\\' :: 'U' :: hexFixed 8 c.toNat

def quoteChar (quote c : Char) : List Char :=
  if c = quote || c = '\\' then ['\\', c]
  else if c = '\n' then ['\\', 'n']
  else if c = '\r' then ['\\', 'r']
  else if c = '\t' then ['\\', 't']
  else if isPrintable c then [c]
  else escapeCode c

-- A text as a literal: quotes around it, and escapes for what cannot be read off the page.
def quoted (text : String) : String :=
  let cs := text.toList
  let quote := chooseQuote cs
  String.ofList (quote :: (cs.flatMap (quoteChar quote) ++ [quote]))

-- A text with escapes for all that is beyond ASCII.
def inAscii (text : String) : String :=
  String.ofList (text.toList.flatMap fun c => if c.toNat < 0x80 then [c] else escapeCode c)

-- A text or its absence.
def quotedOption : Option String → String
  | some text => quoted text
  | none => "None"

end HtmlTree.Text

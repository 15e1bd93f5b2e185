namespace HtmlTree.Source

-- Characters that a document should not hold: controls other than white space, and code points
-- set aside as no characters. The null character is dealt with where it is met.
def isStrange (c : Char) : Bool :=
  let n := c.toNat
  (0x01 ≤ n && n ≤ 0x08) || n == 0x0B || (0x0E ≤ n && n ≤ 0x1F) || (0x7F ≤ n && n ≤ 0x9F) ||
    (0xFDD0 ≤ n && n ≤ 0xFDEF) || n % 0x10000 == 0xFFFE || n % 0x10000 == 0xFFFF

-- Every line end becomes a line feed.
def oneLineEnd : List Char → List Char
  | '\r' :: '\n' :: cs => '\n' :: oneLineEnd cs
  | '\r' :: cs => '\n' :: oneLineEnd cs
  | c :: cs => c :: oneLineEnd cs
  | [] => []

-- A stretch of input as it is taken in, with the number of strange characters in it.
structure Chunk where
  text : List Char
  strange : Nat
deriving DecidableEq, Repr

def chunkSize : Nat := 10240

-- Cuts input into chunks. A carriage return at the end of one waits for the next, so that a line
-- end is never cut in two.
def chunksFrom : Nat → Option Char → List Char → List Chunk
  | 0, _, _ => []
  | fuel + 1, carry, input =>
    if carry.isNone && input.isEmpty then []
    else
      let raw := carry.toList ++ input.take chunkSize
      let wait := decide (1 < raw.length) && raw.getLast? == some '\r'
      let raw := if wait then raw.dropLast else raw
      ⟨oneLineEnd raw, raw.countP isStrange⟩ ::
        chunksFrom fuel (if wait then some '\r' else none) (input.drop chunkSize)

def chunks (input : List Char) : List Chunk := chunksFrom (input.length + 2) none input

-- A place in the input. `past` is what has been read of the current chunk, nearest first; `line`
-- and `column` tell where the chunk begins; `strange` counts strange characters not reported yet.
structure Cursor where
  past : List Char
  rest : List Char
  line : Nat
  column : Nat
  later : List Chunk
  strange : Nat
deriving DecidableEq, Repr, Inhabited

namespace Cursor

def start (input : String) : Cursor := ⟨[], [], 0, 0, chunks input.toList, 0⟩

-- How many characters are still to be read.
def remaining (c : Cursor) : Nat :=
  c.later.foldl (fun count chunk => count + chunk.text.length) c.rest.length

-- Line counted from nought, and characters read on it.
def place (c : Cursor) : Nat × Nat :=
  let breaks := c.past.count '\n'
  (c.line + breaks,
    if breaks = 0 then c.column + c.past.length else (c.past.takeWhile (· != '\n')).length)

-- Line counted from one, and characters read on it.
def position (c : Cursor) : Int × Int := (c.place.1 + 1, c.place.2)

-- Leaves the current chunk behind.
def turn (c : Cursor) (text : List Char) (strange : Nat) (later : List Chunk) : Cursor :=
  ⟨[], text, c.place.1, c.place.2, later, c.strange + strange⟩

-- The next character, or nothing at the end of the input.
def next (c : Cursor) : Option Char × Cursor :=
  match c.rest with
  | ch :: rest => (some ch, { c with past := ch :: c.past, rest := rest })
  | [] =>
    match c.later with
    | [] => (none, c.turn [] 0 [])
    | chunk :: later =>
      match chunk.text with
      | ch :: rest =>
        let c := c.turn rest chunk.strange later
        (some ch, { c with past := [ch] })
      | [] => (none, c.turn [] chunk.strange later)

-- Gives a character back. At the very beginning of a chunk it is put in front of it.
def back (c : Cursor) (ch : Char) : Cursor :=
  { c with past := c.past.tail, rest := ch :: c.rest }

def spanFrom (p : Char → Bool) : List Chunk → Cursor → List Char × Cursor
  | later, c =>
    let taken := c.rest.takeWhile p
    let rest := c.rest.dropWhile p
    let c := { c with past := taken.reverse ++ c.past, rest := rest }
    match rest, later with
    | _ :: _, _ => (taken, c)
    | [], [] => (taken, c.turn [] 0 [])
    | [], chunk :: later =>
      let more := spanFrom p later (c.turn chunk.text chunk.strange later)
      (taken ++ more.1, more.2)

-- The characters from here on for which `p` holds, up to the first for which it does not.
def span (p : Char → Bool) (c : Cursor) : List Char × Cursor := spanFrom p c.later c

-- Strange characters met since this was last asked.
def report (c : Cursor) : Nat × Cursor := (c.strange, { c with strange := 0 })

end Cursor
end HtmlTree.Source

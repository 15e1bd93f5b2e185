import HtmlTree.Source.Japanese
import HtmlTree.Source.Korean

namespace HtmlTree.Source

-- Seven-bit text in which escape sequences say what the bytes mean from there on.

-- The sets that a sequence can call for.
inductive Designated where
  | ascii
  | roman
  | kanji
  | hangul
deriving DecidableEq, Repr

namespace Designated

-- How many bytes a character takes.
def width : Designated → Nat
  | .ascii | .roman => 1
  | .kanji | .hangul => 2

def char? (set : Designated) (b : Nat) (rest : List UInt8) : Option Char :=
  match set, rest with
  | .ascii, _ => some (Char.ofNat b)
  | .roman, _ => Japanese.roman? b
  | .kanji, c :: _ => Grid.jis208.plain? b c.toNat
  | .hangul, c :: _ => Grid.ksx1001.plain? b c.toNat
  | _, [] => none

end Designated

-- The two kinds of such text: Japanese, which has no shifts, and Korean, which shifts to and fro.
inductive Language where
  | japanese
  | korean
deriving DecidableEq, Repr

-- The sets that a language has, by the last byte of the sequence, and by whether they take two bytes.
def Language.set? : Language → Bool → UInt8 → Option Designated
  | _, false, 0x42 => some .ascii
  | .japanese, false, 0x4A => some .roman
  | .japanese, true, 0x40 => some .kanji
  | .japanese, true, 0x42 => some .kanji
  | .korean, true, 0x43 => some .hangul
  | _, _, _ => none

-- What has been called for. `through` is set after an escape that calls for nothing, up to the
-- letter that ends its sequence.
structure Designation where
  base : Designated
  other : Designated
  shifted : Bool
  through : Bool
deriving DecidableEq, Repr

namespace Designation

def start : Designation := ⟨.ascii, .ascii, false, false⟩

def escape : UInt8 := 0x1B

-- Sequences end with an upper case letter or with the sign before them.
def endsSequence (b : UInt8) : Bool := 0x40 ≤ b && b ≤ 0x5A

-- No sequence is longer than this.
def longestSequence : Nat := 16

-- How many bytes a sequence takes, counted from its escape; `count` of them have been seen. It is
-- nought if the sequence has no end, and unknown if the bytes end first. In Japanese text an edition
-- can be named in front of another sequence.
def sequenceLength (language : Language) : Nat → Nat → List UInt8 → Option Nat
  | 0, _, _ => some 0
  | fuel + 1, count, bytes =>
    if longestSequence ≤ count then some 0
    else
      match bytes with
      | [] => none
      | b :: rest =>
        if endsSequence b then some (count + 1)
        else if language = .japanese ∧ b = 0x26 ∧ rest.head? = some 0x40 then
          sequenceLength language fuel (count + 3) (rest.drop 2)
        else sequenceLength language fuel (count + 1) rest

-- What a sequence without its escape does, if it does anything.
def obey (d : Designation) (language : Language) : List UInt8 → Option Designation
  | [0x24, last] | [0x24, 0x28, last] =>
    (language.set? true last).map fun set => { d with base := set }
  | [0x24, 0x29, last] => (language.set? true last).map fun set => { d with other := set }
  | [0x28, last] => (language.set? false last).map fun set => { d with base := set }
  | [0x29, last] => (language.set? false last).map fun set => { d with other := set }
  | [_, _, 0x1B, 0x24, 0x42] => if language = .japanese then some { d with base := .kanji } else none
  | _ => none

def seeSequence (d : Designation) (language : Language) (rest : List UInt8) : Sight × Designation :=
  match sequenceLength language longestSequence 1 rest with
  | none => (.short, d)
  | some 0 => (.broken 1, d)
  | some (width + 1) =>
    match d.obey language (rest.take width) with
    | some next => (.silent (width + 1), next)
    | none => (.broken (width + 1), d)

def see (language : Language) (d : Designation) (b : UInt8) (rest : List UInt8) :
    Sight × Designation :=
  let itself : Sight := .char (Char.ofNat b.toNat) 1
  if d.through then (itself, { d with through := !endsSequence b })
  else if b == escape then
    match rest with
    | [] => (.short, d)
    | c :: _ =>
      if [0x24, 0x26, 0x28, 0x29, 0x2E].contains c then d.seeSequence language rest
      else (itself, { d with through := true })
  else if b == 0x0E && language == .korean then (.silent 1, { d with shifted := true })
  else if b == 0x0F && language == .korean then (.silent 1, { d with shifted := false })
  else if b == 0x0A then (itself, { d with shifted := false })
  else if b < 0x20 then (itself, d)
  else if 0x80 ≤ b then (.broken 1, d)
  else
    let set := if d.shifted then d.other else d.base
    if rest.length + 1 < set.width then (.short, d)
    else
      match set.char? b.toNat rest with
      | some found => (.char found set.width, d)
      | none => (.broken set.width, d)

end Designation
end HtmlTree.Source

import HtmlTree.Text.Blank
import HtmlTree.Text.CaseFold
import HtmlTree.Text.WordChar

namespace HtmlTree.Text

-- The character classes that an escape letter names.
inductive CharClass where
  | digit
  | space
  | word
deriving DecidableEq, Repr

-- Whether a character is in a class, or in the part of it that is ASCII.
def CharClass.holds (cls : CharClass) (ascii : Bool) (c : Char) : Bool :=
  (!ascii || decide (c.toNat < 0x80)) &&
    match cls with
    | .digit => isDecimalDigit c
    | .space => isBlank c && (!ascii || !(0x1C ≤ c.toNat && c.toNat ≤ 0x1F))
    | .word => isWordChar c

-- A member of a set: a code point, all from one to another, or a class.
inductive SetItem where
  | one (code : Nat)
  | range (lo hi : Nat)
  | named (cls : CharClass) (ascii negated : Bool)
deriving DecidableEq, Repr

-- Beyond the basic plane a single code point stands for its own shape only, a range for all.
def SetItem.holds (fold : CaseFold) : SetItem → Char → Bool
  | .one code, c =>
    if code ≤ 0xFFFF then fold.alike c.toNat code else fold.lowered c.toNat == code
  | .range lo hi, c => (fold.forms c.toNat).any fun code => decide (lo ≤ code) && decide (code ≤ hi)
  | .named cls ascii negated, c => cls.holds ascii c != negated

-- How a repetition goes about it: as often as it can, as seldom as it can, or as often as it can
-- without giving anything back.
inductive Greed where
  | greedy
  | sparing
  | possessive
deriving DecidableEq, Repr

-- Regular expressions over characters, with the anchors that look at a place and not at a
-- character.
inductive Pattern where
  | empty
  | char (fold : CaseFold) (code : Nat)
  | any (lineFeed : Bool)
  | oneOf (fold : CaseFold) (negated : Bool) (items : List SetItem)
  | atStart (eachLine : Bool)
  | atEnd (eachLine : Bool)
  | atLast
  | atEdge (ascii negated : Bool)
  | seq (first second : Pattern)
  | alt (left right : Pattern)
  -- a part in parentheses, with the number under which what it matches is kept, if any
  | group (number : Option Nat) (body : Pattern)
  | rep (greed : Greed) (body : Pattern) (least : Nat) (most : Option Nat)
  -- what a group has matched, once more
  | again (fold : CaseFold) (number : Nat)
  -- the first way to match, and no other
  | atomic (body : Pattern)
  -- whether a match begins here, or lies so many characters back
  | look (back : Nat) (negated : Bool) (body : Pattern)
  -- one part or another, depending on whether a group has matched
  | given (number : Nat) (yes no : Pattern)
deriving Repr

namespace Pattern

-- A place in a text, and the stretches that groups have matched on the way to it.
structure Spot where
  place : Nat
  groups : List (Nat × Nat × Nat)
deriving DecidableEq, Repr

def Spot.keep (spot : Spot) (number start : Nat) : Spot :=
  { spot with
    groups := (number, start, spot.place) :: spot.groups.filter fun kept => kept.1 != number }

def Spot.kept? (spot : Spot) (number : Nat) : Option (Nat × Nat) := spot.groups.lookup number

-- The spot behind the next character, if that is accepted.
def one (text : Array Char) (accepts : Char → Bool) (spot : Spot) : List Spot :=
  match text[spot.place]? with
  | some c => if accepts c then [{ spot with place := spot.place + 1 }] else []
  | none => []

def holdsAt (text : Array Char) (accepts : Char → Bool) (place : Nat) : Bool :=
  match text[place]? with
  | some c => accepts c
  | none => false

def isWordAt (text : Array Char) (ascii : Bool) (place : Nat) : Bool :=
  holdsAt text (CharClass.holds .word ascii) place

-- Whether exactly one of the two characters beside a place is part of a word.
def edge (text : Array Char) (ascii : Bool) (place : Nat) : Bool :=
  (decide (0 < place) && isWordAt text ascii (place - 1)) != isWordAt text ascii place

def startsHere (text : Array Char) (eachLine : Bool) (place : Nat) : Bool :=
  place == 0 || (eachLine && holdsAt text (· == '\n') (place - 1))

-- The end of the text or the place before a line feed that ends it; with `eachLine` before any.
def endsHere (text : Array Char) (eachLine : Bool) (place : Nat) : Bool :=
  place == text.size ||
    (holdsAt text (· == '\n') place && (eachLine || place + 1 == text.size))

-- The spot behind a stretch of text that is there once more.
def repeated (text : Array Char) (fold : CaseFold) (spot : Spot) (start stop : Nat) : List Spot :=
  let length := stop - start
  if (List.range length).all fun k =>
      match text[start + k]?, text[spot.place + k]? with
      | some a, some b => fold.lowered a.toNat == fold.lowered b.toNat
      | _, _ => false
  then [{ spot with place := spot.place + length }]
  else []

-- Spots reached by exactly so many steps, in the order of preference. Once a step leads to
-- nothing new, more of them do not either.
def exactly (step : Spot → List Spot) : Nat → List Spot → List Spot
  | 0, spots => spots
  | n + 1, spots =>
    let next := (spots.flatMap step).eraseDups
    if next = spots then spots else exactly step n next

-- A search for spots: those found, best first, and the points from where the search went on, each
-- with the number of steps that were still allowed.
structure Search where
  found : List Spot
  seen : List (Option Nat × Spot)

-- Spots reached by further steps, at most `left` of them. A step that does not move is the last.
-- From a point where the search has been before, nothing new is to be found.
def further (sparing : Bool) (step : Spot → List Spot) :
    Nat → Option Nat → Spot → Search → Search
  | 0, _, spot, search => { search with found := search.found ++ [spot] }
  | fuel + 1, left, spot, search =>
    if search.seen.contains (left, spot) then search
    else
      let search := { search with seen := (left, spot) :: search.seen }
      let onward (search : Search) : Search :=
        if left = some 0 then search
        else (step spot).foldl (fun search next =>
          if next.place = spot.place then { search with found := search.found ++ [next] }
          else further sparing step fuel (left.map (· - 1)) next search) search
      if sparing then onward { search with found := search.found ++ [spot] }
      else
        let search := onward search
        { search with found := search.found ++ [spot] }

-- Spots reached by at least `least` and at most `most` steps.
def repeatedly (text : Array Char) (greed : Greed) (step : Spot → List Spot) (least : Nat)
    (most : Option Nat) (spot : Spot) : List Spot :=
  let begun := exactly step least [spot]
  let search := begun.foldl (fun search spot =>
    further (greed == .sparing) step (text.size + 2) (most.map (· - least)) spot search) ⟨[], []⟩
  let found := search.found.eraseDups
  if greed == .possessive then found.take 1 else found

-- Every spot where a match that begins at the given one can end, in the order of preference. An
-- empty text has no edges of words, nor places that are none.
def ends (text : Array Char) : Pattern → Spot → List Spot
  | .empty, spot => [spot]
  | .char fold code, spot => one text (fun c => fold.alike c.toNat code) spot
  | .any lineFeed, spot => one text (fun c => lineFeed || c != '\n') spot
  | .oneOf fold negated items, spot =>
    one text (fun c => items.any (·.holds fold c) != negated) spot
  | .atStart eachLine, spot => if startsHere text eachLine spot.place then [spot] else []
  | .atEnd eachLine, spot => if endsHere text eachLine spot.place then [spot] else []
  | .atLast, spot => if spot.place == text.size then [spot] else []
  | .atEdge ascii negated, spot =>
    if 0 < text.size && edge text ascii spot.place != negated then [spot] else []
  | .seq first second, spot => ((ends text first spot).flatMap (ends text second)).eraseDups
  | .alt left right, spot => (ends text left spot ++ ends text right spot).eraseDups
  | .group none body, spot => ends text body spot
  | .group (some number) body, spot =>
    (ends text body spot).map (·.keep number spot.place)
  | .rep greed body least most, spot => repeatedly text greed (ends text body) least most spot
  | .again fold number, spot =>
    match spot.kept? number with
    | some (start, stop) => repeated text fold spot start stop
    | none => []
  | .atomic body, spot => (ends text body spot).take 1
  | .look back negated body, spot =>
    let met := if back ≤ spot.place
      then ends text body { spot with place := spot.place - back } else []
    match met, negated with
    | [], false => []
    | [], true => [spot]
    | first :: _, false => [{ first with place := spot.place }]
    | _ :: _, true => []
  | .given number yes no, spot =>
    if (spot.kept? number).isSome then ends text yes spot else ends text no spot

-- Whether a match begins anywhere in the text.
def search (p : Pattern) (text : String) : Bool :=
  let text := text.toList.toArray
  (List.range (text.size + 1)).any fun place => !(ends text p ⟨place, []⟩).isEmpty

end Pattern
end HtmlTree.Text

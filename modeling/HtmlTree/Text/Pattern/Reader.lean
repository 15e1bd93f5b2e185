import HtmlTree.Text.Pattern

namespace HtmlTree.Text.Pattern

-- Why a text is not taken for a pattern.
inductive Refusal where
  -- it is not well formed
  | malformed
  -- a number of repetitions is beyond all bounds
  | boundless
  -- it asks for characters to be taken both as ASCII and beyond
  | contrary
deriving DecidableEq, Repr

-- A character of the text, or one behind a backslash.
inductive Sign where
  | plain (c : Char)
  | escaped (c : Char)
deriving DecidableEq, Repr

-- Cuts a text into signs. A backslash cannot be the last character.
def Sign.cut : List Char → Option (List Sign)
  | [] => some []
  | ['\\'] => none
  | '\\' :: c :: cs => (Sign.cut cs).map (.escaped c :: ·)
  | c :: cs => (Sign.cut cs).map (.plain c :: ·)

-- The ways of reading that letters in parentheses switch on and off.
structure Manner where
  foldCase : Bool
  eachLine : Bool
  lineFeed : Bool
  spaced : Bool
  ascii : Bool
deriving DecidableEq, Repr

namespace Manner

def plain : Manner := ⟨false, false, false, false, false⟩

def fold (m : Manner) : CaseFold :=
  if m.foldCase then (if m.ascii then .ascii else .full) else .exact

end Manner

-- The least number of characters of a match and the greatest, if there is one.
structure Width where
  least : Nat
  most : Option Nat
deriving DecidableEq, Repr

namespace Width

def fixed (n : Nat) : Width := ⟨n, some n⟩

def add (a b : Width) : Width := ⟨a.least + b.least, do pure ((← a.most) + (← b.most))⟩

def join (a b : Width) : Width :=
  ⟨min a.least b.least, do pure (max (← a.most) (← b.most))⟩

def times (a : Width) (least : Nat) (most : Option Nat) : Width :=
  ⟨a.least * least, match a.most, most with
    | some 0, _ => some 0
    | some n, some m => some (n * m)
    | _, _ => none⟩

end Width

-- How wide a match is, given the widths of the groups in front of it.
def width (groups : Nat → Width) : Pattern → Width
  | .char .. | .any _ | .oneOf .. => .fixed 1
  | .seq first second => (width groups first).add (width groups second)
  | .alt left right => (width groups left).join (width groups right)
  | .group _ body | .atomic body => width groups body
  | .rep _ body least most => (width groups body).times least most
  | .again _ number => groups number
  | .given _ yes no => (width groups yes).join (width groups no)
  | _ => .fixed 0

-- What has been read so far: the signs still to come, the groups opened with the widths of those
-- that are closed, their names, the number of groups in front of the look-behind that is being
-- read, the groups that conditions ask for, whether all look-behinds have a fixed width, and the
-- manner of the whole pattern.
structure Progress where
  rest : List Sign
  groups : List (Option Width)
  names : List (String × Nat)
  fence : Option Nat
  asked : List Nat
  even : Bool
  manner : Manner
  wide : Bool

abbrev Reader := StateT Progress (Except Refusal)

namespace Reader

def refuse : Reader α := throw .malformed

def peek : Reader (Option Sign) := do pure (← get).rest.head?

def next : Reader (Option Sign) := do
  let p ← get
  set { p with rest := p.rest.tail }
  pure p.rest.head?

-- Passes over a character if it comes next.
def skip (c : Char) : Reader Bool := do
  if (← peek) = some (.plain c) then
    let _ ← next
    pure true
  else pure false

-- Characters of a kind that come next, at most so many.
def span (accepts : Char → Bool) (limit : Nat) : Reader (List Char) := do
  let p ← get
  let taken := ((p.rest.take limit).takeWhile fun sign => match sign with
    | .plain c => accepts c
    | .escaped _ => false)
  set { p with rest := p.rest.drop taken.length }
  pure (taken.filterMap fun sign => match sign with
    | .plain c => some c
    | .escaped _ => none)

-- Characters up to a sign that closes them, of which there is at least one.
def word (stop : Char) : Reader String := do
  let p ← get
  let taken := p.rest.takeWhile fun sign => sign != .plain stop
  match p.rest.drop taken.length with
  | [] => refuse
  | _ :: rest =>
    set { p with rest := rest }
    if taken.isEmpty then refuse
    else pure (String.ofList (taken.flatMap fun sign => match sign with
      | .plain c => [c]
      | .escaped c => ['\\', c]))

def isClosed (p : Progress) (number : Nat) : Bool :=
  match number with
  | 0 => false
  | k + 1 => match p.groups[k]? with
    | some width => width.isSome
    | none => false

-- Inside a look-behind, groups can be asked for only if they were closed in front of it.
def checkFence (number : Nat) : Reader Unit := do
  let p ← get
  match p.fence with
  | none => pure ()
  | some count =>
    if isClosed p number && number ≤ count then pure () else refuse

def widthOf (p : Progress) (number : Nat) : Width :=
  ((p.groups.getD (number - 1) none)).getD (.fixed 0)

end Reader

open Reader

def isDigit (c : Char) : Bool := '0' ≤ c && c ≤ '9'
def isOctal (c : Char) : Bool := '0' ≤ c && c ≤ '7'
def isHex (c : Char) : Bool := (CharSet.hexDigit? c).isSome

def octal (digits : List Char) : Nat :=
  digits.foldl (fun total c => 8 * total + (c.toNat - '0'.toNat)) 0

def decimal (digits : List Char) : Nat :=
  digits.foldl (fun total c => 10 * total + (c.toNat - '0'.toNat)) 0

-- Names begin with a letter or a low line, and go on with these and digits.
def isName (text : String) : Bool :=
  match text.toList with
  | [] => false
  | c :: cs => isWordChar c && !isDecimalDigit c && cs.all isWordChar

def classOf? (ascii : Bool) : Char → Option SetItem
  | 'd' => some (.named .digit ascii false)
  | 'D' => some (.named .digit ascii true)
  | 's' => some (.named .space ascii false)
  | 'S' => some (.named .space ascii true)
  | 'w' => some (.named .word ascii false)
  | 'W' => some (.named .word ascii true)
  | _ => none

def controlOf? : Char → Option Nat
  | 'a' => some 0x07
  | 'f' => some 0x0C
  | 'n' => some 0x0A
  | 'r' => some 0x0D
  | 't' => some 0x09
  | 'v' => some 0x0B
  | _ => none

-- A code point written in exactly so many hexadecimal digits.
def hexCode (digits : Nat) : Reader Nat := do
  let taken ← span isHex digits
  let code := CharSet.hexNumber taken
  if taken.length = digits && code ≤ 0x10FFFF then pure code else refuse

-- The code point that an escape stands for, inside of sets and outside: a control, a number in
-- hexadecimal, or any character that is neither a letter nor a digit.
def escapedCode (c : Char) : Reader Nat :=
  match controlOf? c with
  | some code => pure code
  | none =>
    if c = 'x' then hexCode 2
    else if c = 'u' then hexCode 4
    else if c = 'U' then hexCode 8
    else if c.isAlphanum then refuse
    else pure c.toNat

-- A member of a set by its escape. Numbers are octal.
def setEscape (ascii : Bool) (c : Char) : Reader SetItem :=
  match classOf? ascii c with
  | some item => pure item
  | none => do
    if c = 'b' then pure (.one 0x08)
    else if isOctal c then
      let code := octal (c :: (← span isOctal 2))
      if code ≤ 0o377 then pure (.one code) else refuse
    else pure (.one (← escapedCode c))

def setMember (ascii : Bool) : Sign → Reader SetItem
  | .plain c => pure (.one c.toNat)
  | .escaped c => setEscape ascii c

-- Members of a set up to its closing bracket, which stands for itself in first place.
def setMembers (ascii : Bool) : Nat → List SetItem → Reader (List SetItem)
  | 0, _ => refuse
  | fuel + 1, items => do
    match ← next with
    | none => refuse
    | some sign =>
      if sign = .plain ']' && !items.isEmpty then pure items.reverse
      else
        let member ← setMember ascii sign
        if ← skip '-' then
          match ← next with
          | none => refuse
          | some (.plain ']') => pure (.one '-'.toNat :: member :: items).reverse
          | some sign =>
            match member, ← setMember ascii sign with
            | .one lo, .one hi =>
              if hi < lo then refuse else setMembers ascii fuel (.range lo hi :: items)
            | _, _ => refuse
        else setMembers ascii fuel (member :: items)

-- A set from behind its opening bracket. One with a single code point is no more than that.
def readSet (m : Manner) : Reader Pattern := do
  let negated ← skip '^'
  let items ← setMembers m.ascii ((← get).rest.length + 1) []
  match items.eraseDups with
  | [.one code] =>
    if negated then pure (.oneOf m.fold true [.range code code]) else pure (.char m.fold code)
  | items => pure (.oneOf m.fold negated items)

-- Back to what a group has matched.
def backTo (m : Manner) (number : Nat) : Reader Pattern := do
  if isClosed (← get) number then
    checkFence number
    pure (.again m.fold number)
  else refuse

-- A number behind a backslash: three octal digits are a code point, otherwise a group is meant.
def readNumber (m : Manner) (first : Char) : Reader Pattern := do
  if first = '0' then pure (.char m.fold (octal (first :: (← span isOctal 2))))
  else
    match ← span isDigit 1 with
    | [second] =>
      if isOctal first && isOctal second then
        match ← span isOctal 1 with
        | [third] =>
          let code := octal [first, second, third]
          if code ≤ 0o377 then pure (.char m.fold code) else refuse
        | _ => backTo m (decimal [first, second])
      else backTo m (decimal [first, second])
    | _ => backTo m (decimal [first])

def readEscape (m : Manner) (c : Char) : Reader Pattern :=
  match c with
  | 'A' => pure (.atStart false)
  | 'Z' => pure .atLast
  | 'b' => pure (.atEdge m.ascii false)
  | 'B' => pure (.atEdge m.ascii true)
  | _ =>
    match classOf? m.ascii c with
    | some item => pure (.oneOf m.fold false [item])
    | none => do
      if isDigit c then readNumber m c
      else pure (.char m.fold (← escapedCode c))

-- Numbers of repetitions are below this bound.
def repetitionBound : Nat := 4294967295

-- A number of repetitions from behind its opening brace: `{n}`, `{n,}`, `{,m}` or `{n,m}`. If it
-- is none of these, nothing is read and the brace stands for itself.
def readCounts : Reader (Option (Nat × Option Nat)) := do
  let before ← get
  if (← peek) = some (.plain '\x7d') then pure none
  else
    let length := before.rest.length
    let lo ← span isDigit length
    let hi ← if ← skip ',' then span isDigit length else pure lo
    if ← skip '\x7d' then
      if repetitionBound ≤ decimal lo || repetitionBound ≤ decimal hi then throw .boundless
      else if hi.isEmpty then pure (some (decimal lo, none))
      else if decimal hi < decimal lo then refuse
      else pure (some (decimal lo, some (decimal hi)))
    else
      set before
      pure none

def isAnchor : Pattern → Bool
  | .atStart _ | .atEnd _ | .atLast | .atEdge .. => true
  | _ => false

def isRepetition : Pattern → Bool
  | .rep .. => true
  | _ => false

-- The mark behind a repetition, if there is one.
def readGreed : Reader Greed := do
  match ← peek with
  | some (.plain '?') => do
    let _ ← next
    pure .sparing
  | some (.plain '+') => do
    let _ ← next
    pure .possessive
  | _ => pure .greedy

-- Puts a repetition on the item read last. There has to be one, and it can be neither an anchor
-- nor a repetition.
def repeatLast (items : List Pattern) (least : Nat) (most : Option Nat) : Reader (List Pattern) := do
  match items with
  | [] => refuse
  | item :: others =>
    if isAnchor item || isRepetition item then refuse
    else
      let greed ← readGreed
      pure (.rep greed item least most :: others)

-- Letters that switch ways of reading on or off.
structure Switches where
  manner : Manner
  ascii : Bool
  wide : Bool
deriving DecidableEq, Repr

namespace Switches

def none : Switches := ⟨.plain, false, false⟩

def isEmpty (s : Switches) : Bool := s = none

def add? (s : Switches) : Char → Option Switches
  | 'i' => some { s with manner := { s.manner with foldCase := true } }
  | 'm' => some { s with manner := { s.manner with eachLine := true } }
  | 's' => some { s with manner := { s.manner with lineFeed := true } }
  | 'x' => some { s with manner := { s.manner with spaced := true } }
  | 'a' => if s.wide then .none else some { s with ascii := true }
  | 'u' => if s.ascii then .none else some { s with wide := true }
  | _ => .none

-- The manner with some ways switched on and then others off.
def apply (on off : Switches) (m : Manner) : Manner :=
  let a := on.manner
  let b := off.manner
  ⟨(m.foldCase || a.foldCase) && !b.foldCase, (m.eachLine || a.eachLine) && !b.eachLine,
   (m.lineFeed || a.lineFeed) && !b.lineFeed, (m.spaced || a.spaced) && !b.spaced,
   (m.ascii || on.ascii) && !on.wide⟩

def clash (on off : Switches) : Bool :=
  let a := on.manner
  let b := off.manner
  (a.foldCase && b.foldCase) || (a.eachLine && b.eachLine) || (a.lineFeed && b.lineFeed) ||
    (a.spaced && b.spaced)

end Switches

-- Letters from the given one on, and the character that ends them.
def readLetters (stops : List Char) : Nat → Switches → Char → Reader (Switches × Char)
  | 0, _, _ => refuse
  | fuel + 1, s, c =>
    match s.add? c with
    | none => refuse
    | some s => do
      match ← next with
      | some (.plain d) =>
        if stops.contains d then pure (s, d) else readLetters stops fuel s d
      | _ => refuse

-- Switches from the letter or minus sign behind the question mark on, and whether they are for the
-- whole pattern.
def readSwitches (c : Char) : Reader (Switches × Switches × Bool) := do
  let fuel := (← get).rest.length + 1
  let (on, stop) ← if c = '-' then pure (Switches.none, '-')
    else readLetters [')', '-', ':'] fuel .none c
  if stop = ')' then pure (on, .none, true)
  else if stop = ':' then pure (on, .none, false)
  else
    match ← next with
    | some (.plain d) =>
      let (off, _) ← readLetters [':'] fuel .none d
      if off.ascii || off.wide || on.clash off then refuse else pure (on, off, false)
    | _ => refuse

-- Switches for the whole pattern.
def switchAll (on : Switches) : Reader Manner := do
  let p ← get
  let manner := { Switches.apply on .none p.manner with ascii := p.manner.ascii || on.ascii }
  set { p with manner := manner, wide := p.wide || on.wide }
  pure manner

-- Passes over a remark up to its closing parenthesis.
def skipRemark : Reader Unit := do
  let p ← get
  match p.rest.dropWhile fun sign => sign != .plain ')' with
  | [] => refuse
  | _ :: rest => set { p with rest := rest }

-- Passes over the rest of a line.
def skipLine : Reader Unit := modify fun p =>
  { p with rest := (p.rest.dropWhile fun sign => sign != .plain '\n').tail }

def openGroup (name : Option String) : Reader Nat := do
  let p ← get
  let number := p.groups.length + 1
  match name with
  | none => set { p with groups := p.groups ++ [none] }
  | some name =>
    if (p.names.lookup name).isSome then refuse
    else set { p with groups := p.groups ++ [none], names := (name, number) :: p.names }
  pure number

def closeGroup (number : Nat) (body : Pattern) : Reader Unit := modify fun p =>
  { p with groups := p.groups.set (number - 1) (some (width (widthOf p) body)) }

def groupName : Reader String := do
  let name ← word '>'
  if isName name then pure name else refuse

def close : Reader Unit := do
  if ← skip ')' then pure () else refuse

-- The group that a condition asks for, by its name or number. Numbers are checked at the end.
def conditionGroup : Reader Nat := do
  let name ← word ')'
  let p ← get
  let number ← if isName name then
      match p.names.lookup name with
      | some number => pure number
      | none => refuse
    else if name.toList.all isDigit && decimal name.toList ≠ 0 then
      let number := decimal name.toList
      set { p with asked := number :: p.asked }
      pure number
    else refuse
  checkFence number
  pure number

def blanksBetween : List Char := [' ', '\t', '\n', '\r', '\x0b', '\x0c']

def joined (items : List Pattern) : Pattern :=
  items.reverse.foldr (fun item more => .seq item more) .empty

mutual

-- Alternatives, up to the end of the text or a closing parenthesis. Those of the whole pattern
-- take up its manner.
def readAlternatives : Nat → Bool → Bool → Manner → Reader Pattern
  | 0, _, _, _ => refuse
  | fuel + 1, outermost, first, m => do
    let left ← readSequence fuel (outermost && first) m []
    if ← skip '|' then
      let p ← get
      let m := if outermost then p.manner else m
      pure (.alt left (← readAlternatives fuel outermost false m))
    else pure left

-- Items one after the other; `items` are those read before, latest first.
def readSequence : Nat → Bool → Manner → List Pattern → Reader Pattern
  | 0, _, _, _ => refuse
  | fuel + 1, first, m, items => do
    match ← peek with
    | none | some (.plain '|') | some (.plain ')') => pure (joined items)
    | some sign => do
      let _ ← next
      let onward (item : Pattern) : Reader Pattern := readSequence fuel first m (item :: items)
      match sign with
      | .escaped c => onward (← readEscape m c)
      | .plain c =>
        if m.spaced && blanksBetween.contains c then readSequence fuel first m items
        else if m.spaced && c = '#' then do
          skipLine
          readSequence fuel first m items
        else
          match c with
          | '.' => onward (.any m.lineFeed)
          | '^' => onward (.atStart m.eachLine)
          | '$' => onward (.atEnd m.eachLine)
          | '[' => onward (← readSet m)
          | '*' => readSequence fuel first m (← repeatLast items 0 none)
          | '+' => readSequence fuel first m (← repeatLast items 1 none)
          | '?' => readSequence fuel first m (← repeatLast items 0 (some 1))
          | '\x7b' =>
            match ← readCounts with
            | some (least, most) => readSequence fuel first m (← repeatLast items least most)
            | none => onward (.char m.fold c.toNat)
          | '(' => readParenthesis fuel first m items
          | _ => onward (.char m.fold c.toNat)

-- What an opening parenthesis begins, and the items after it.
def readParenthesis : Nat → Bool → Manner → List Pattern → Reader Pattern
  | 0, _, _, _ => refuse
  | fuel + 1, first, m, items => do
    let onward (item : Pattern) : Reader Pattern := readSequence fuel first m (item :: items)
    let inside (m : Manner) : Reader Pattern := do
      let body ← readAlternatives fuel false false m
      close
      pure body
    let captured (name : Option String) : Reader Pattern := do
      let number ← openGroup name
      let body ← inside m
      closeGroup number body
      pure (.group (some number) body)
    let behind (negated : Bool) : Reader Pattern := do
      let p ← get
      if p.fence.isNone then set { p with fence := some p.groups.length }
      let body ← readAlternatives fuel false false m
      if p.fence.isNone then modify ({ · with fence := none })
      close
      let w := width (widthOf (← get)) body
      modify fun p => { p with even := p.even && decide (w.most = some w.least) }
      pure (.look w.least negated body)
    if ← skip '?' then
      match ← next with
      | some (.plain ':') => onward (.group none (← inside m))
      | some (.plain '>') => onward (.atomic (← inside m))
      | some (.plain '=') => onward (.look 0 false (← inside m))
      | some (.plain '!') => onward (.look 0 true (← inside m))
      | some (.plain '#') => do
        skipRemark
        readSequence fuel first m items
      | some (.plain '<') =>
        match ← next with
        | some (.plain '=') => onward (← behind false)
        | some (.plain '!') => onward (← behind true)
        | _ => refuse
      | some (.plain 'P') =>
        match ← next with
        | some (.plain '<') => onward (← captured (some (← groupName)))
        | some (.plain '=') => do
          let name ← word ')'
          match (← get).names.lookup name with
          | some number => onward (← backTo m number)
          | none => refuse
        | _ => refuse
      | some (.plain '(') => do
        let number ← conditionGroup
        let yes ← readSequence fuel false m []
        let no ← if ← skip '|' then readSequence fuel false m [] else pure .empty
        close
        onward (.given number yes no)
      | some (.plain c) => do
        let (on, off, whole) ← readSwitches c
        if whole then
          if first && items.isEmpty then readSequence fuel first (← switchAll on) items
          else refuse
        else onward (.group none (← inside (on.apply off m)))
      | _ => refuse
    else onward (← captured none)

end

-- Reads a whole pattern, or tells why it is not one.
def read (foldCase : Bool) (text : String) : Except Refusal Pattern :=
  match Sign.cut text.toList with
  | none => .error .malformed
  | some signs =>
    let manner := { Manner.plain with foldCase := foldCase }
    match (readAlternatives (3 * signs.length + 4) true true manner).run
        ⟨signs, [], [], none, [], true, manner, false⟩ with
    | .error refusal => .error refusal
    | .ok (pattern, p) =>
      if p.manner.ascii && p.wide then .error .contrary
      else if !p.rest.isEmpty || !p.even || p.asked.any (p.groups.length < ·) then
        .error .malformed
      else .ok pattern

end HtmlTree.Text.Pattern

import HtmlTree.Text.WordChar

namespace HtmlTree.CommandLine

inductive Switch where
  | help
  | tag
  | className
  | attr
  | format
  | first
  | normalize
  | includeTemplates
  | debug
  | version
deriving DecidableEq, Repr

namespace Switch

def spellings : List (String × Switch) :=
  [("-h", .help), ("--help", .help), ("--tag", .tag), ("--class", .className), ("--attr", .attr),
   ("--format", .format), ("--first", .first), ("--normalize", .normalize),
   ("--include-templates", .includeTemplates), ("--debug", .debug), ("--version", .version)]

def takesValue : Switch → Bool
  | .tag | .className | .attr | .format => true
  | _ => false

end Switch

-- What an argument looks like: a plain word, a switch with a value that may come with it, short
-- for more than one switch, like a switch but none that is known, or the mark behind which all are
-- plain.
inductive Argument where
  | plain
  | switch (s : Switch) (value : Option String)
  | ambiguous
  | unknown
  | divider
deriving DecidableEq, Repr

-- A text up to its first equals sign, and what follows the sign if there is one.
def cutAtEquals (text : String) : String × Option String :=
  match text.toList.dropWhile (· != '=') with
  | [] => (text, none)
  | _ :: rest => (String.ofList (text.toList.takeWhile (· != '=')), some (String.ofList rest))

-- A number with a minus sign is no switch. A line feed may end it.
def isNegativeNumber (arg : String) : Bool :=
  let cs := arg.toList
  let cs := if cs.getLast? = some '\n' then cs.dropLast else cs
  match cs with
  | '-' :: cs =>
    let whole := cs.takeWhile Text.isDecimalDigit
    match cs.dropWhile Text.isDecimalDigit with
    | [] => !whole.isEmpty
    | '.' :: places => !places.isEmpty && places.all Text.isDecimalDigit
    | _ => false
  | _ => false

-- The switches that an argument can be short for. A long one can be cut short and have a value
-- behind an equals sign; behind a short one others can follow at once.
def candidates (arg : String) : List (Switch × Option String) :=
  match arg.toList with
  | '-' :: '-' :: _ =>
    let (word, value) := cutAtEquals arg
    (Switch.spellings.filter fun s => word.toList.isPrefixOf s.1.toList).map fun s => (s.2, value)
  | '-' :: c :: rest =>
    (Switch.spellings.filter fun s => s.1.toList == ['-', c]).map fun s =>
      (s.2, some (String.ofList rest))
  | _ => []

def Argument.classify (arg : String) : Argument :=
  if arg.toList.head? != some '-' || arg == "-" then .plain
  else
    match Switch.spellings.lookup arg with
    | some s => .switch s none
    | none =>
      let (word, value) := cutAtEquals arg
      match value, Switch.spellings.lookup word with
      | some _, some s => .switch s value
      | _, _ =>
        match candidates arg with
        | [(s, value)] => .switch s value
        | _ :: _ :: _ => .ambiguous
        | [] =>
          if isNegativeNumber arg || arg.toList.contains ' ' then .plain else .unknown

inductive Format where
  | html
  | text
deriving DecidableEq, Repr

def Format.ofName? : String → Option Format
  | "html" => some .html
  | "text" => some .text
  | _ => none

-- What the arguments ask for. An attribute can be asked for without saying which.
structure Command where
  path : Option String
  tag : Option String
  className : Option String
  attrs : List (Option String)
  format : Format
  first : Bool
  normalize : Bool
  includeTemplates : Bool
  debug : Bool
deriving DecidableEq, Repr

def Command.default : Command := ⟨none, none, none, [], .html, false, false, false, false⟩

-- What becomes of a list of arguments.
inductive Request where
  | command (c : Command)
  | help
  | version
  | invalid
deriving DecidableEq, Repr

namespace Command

-- The last value of a switch counts, but attributes add up. The divider is no value: for a tag or
-- class it takes the last one back, and a format that is none is the plain one.
def addValue (c : Command) (s : Switch) (value : String) : Option Command :=
  let given := if value == "--" then none else some value
  match s with
  | .tag => some { c with tag := given }
  | .className => some { c with className := given }
  | .attr => some { c with attrs := c.attrs ++ [given] }
  | .format =>
    match given with
    | some name => (Format.ofName? name).map fun format => { c with format := format }
    | none => some { c with format := .text }
  | _ => none

def setSwitch (c : Command) (s : Switch) : Command :=
  match s with
  | .first => { c with first := true }
  | .normalize => { c with normalize := true }
  | .includeTemplates => { c with includeTemplates := true }
  | .debug => { c with debug := true }
  | _ => c

end Command

-- Every argument with what it looks like. Behind the divider all are plain.
def marked : List String → List (String × Argument)
  | [] => []
  | arg :: rest =>
    if arg == "--" then (arg, .divider) :: rest.map fun later => (later, .plain)
    else (arg, .classify arg) :: marked rest

-- Arguments that have been taken up: the command so far, whether the place of the path is filled,
-- and whether there were more than have a place.
structure Uptake where
  command : Command
  placed : Bool
  surplus : Bool
deriving DecidableEq, Repr

namespace Uptake

def start : Uptake := ⟨.default, false, false⟩

-- The first plain argument is the path, and there should be no other.
def plain (u : Uptake) (arg : String) : Uptake :=
  if u.placed then { u with surplus := true }
  else { u with command := { u.command with path := some arg }, placed := true }

-- The divider goes with the place of the path. Behind a switch, when that place is filled already,
-- it is one argument too many.
def divider (u : Uptake) (behindPath : Bool) : Uptake :=
  if u.placed && !behindPath then { u with surplus := true } else u

end Uptake

namespace Request

-- Reads arguments from left to right. Help and version are answered as soon as they are met;
-- superfluous arguments come to light only at the end. `behindPath` tells that the path stands
-- directly before.
def read : Bool → Uptake → List (String × Argument) → Request
  | _, u, [] => if u.surplus then .invalid else .command u.command
  | behindPath, u, (_, .divider) :: rest => read false (u.divider behindPath) rest
  | _, u, (arg, .plain) :: rest => read (!u.placed) (u.plain arg) rest
  | _, u, (_, .unknown) :: rest => read false { u with surplus := true } rest
  | _, _, (_, .ambiguous) :: _ => .invalid
  | _, u, (arg, .switch s given) :: rest =>
    if s.takesValue then
      match given, rest with
      | some value, rest =>
        match u.command.addValue s value with
        | some c => read false { u with command := c } rest
        | none => .invalid
      | none, (value, .plain) :: rest =>
        match u.command.addValue s value with
        | some c => read false { u with command := c } rest
        | none => .invalid
      | none, _ => .invalid
    else
      match given, s with
      | none, .help => .help
      | none, .version => .version
      | none, s => read false { u with command := u.command.setSwitch s } rest
      | some others, .help =>
        if !arg.startsWith "--" && !others.isEmpty && others.toList.all (· == 'h') then .help
        else .invalid
      | some _, _ => .invalid

-- An argument that is short for more than one switch is refused before any is acted on.
def ofArguments (args : List String) : Request :=
  let all := marked args
  if all.any fun entry => entry.2 == .ambiguous then .invalid else read false .start all

end Request
end HtmlTree.CommandLine

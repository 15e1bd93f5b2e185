import HtmlTree.Builder
import HtmlTree.Scan.Step
import HtmlTree.Source.Declared

namespace HtmlTree

-- Which part of a document tree construction is in. It decides what a token means.
inductive Mode where
  | initial
  | beforeHtml
  | beforeHead
  | inHead
  | inHeadNoscript
  | afterHead
  | inBody
  | text
  | inTable
  | inTableText
  | inCaption
  | inColumnGroup
  | inTableBody
  | inRow
  | inCell
  | inSelect
  | inSelectInTable
  | inFrameset
  | afterBody
  | afterFrameset
  | afterAfterBody
  | afterAfterFrameset
deriving DecidableEq, Repr

-- What tree construction keeps in mind between tokens.
structure Progress where
  scanner : Scanner
  mode : Mode
  -- where to go on after the text of one element, and after text between the parts of a table
  textMode : Mode
  tableMode : Mode
  -- the current element first
  openElements : List Site
  -- elements whose formatting goes on, latest first; a marker is none
  formatting : List (Option Site)
  head : Option Site
  form : Option Site
  -- misplaced content of a table goes in front of the table
  fostering : Bool
  framesetOk : Bool
  looseDoctype : Bool
  -- the first start tag was that of the root
  rootTag : Bool
  -- a line feed that comes next in the body is dropped
  skipNewline : Bool
  -- text between the parts of a table, latest first
  tableText : List String
  -- the name of the element that a fragment is read inside of
  container : Option String
  -- the solidus at the end of the tag in hand has been taken account of
  acknowledged : Bool
  -- latest first, each with its place
  faults : List (Fault × (Int × Int))
  -- the encoding, while it is only a guess
  guessed : Option Source.Encoding
deriving Repr

namespace Progress

def start (scanner : Scanner) (container : Option String) (guessed : Option Source.Encoding) :
    Progress where
  scanner := scanner
  mode := .initial
  textMode := .initial
  tableMode := .initial
  openElements := []
  formatting := []
  head := none
  form := none
  fostering := false
  framesetOk := true
  looseDoctype := false
  rootTag := false
  skipNewline := false
  tableText := []
  container := container
  acknowledged := false
  faults := []
  guessed := guessed

def current? (p : Progress) : Option Site := p.openElements.head?

def currentName (p : Progress) : String := (p.current?.map Site.name).getD ""

-- A fragment is read inside of a named element.
def isFragment (p : Progress) : Bool :=
  match p.container with
  | some name => !name.isEmpty
  | none => false

def root? (p : Progress) : Option Site := p.openElements.getLast?

-- The element that was opened first inside the root.
def second? (p : Progress) : Option Site := p.openElements.reverse[1]?

end Progress

-- Tree construction with the progress made. The builder can only have come about step by step from
-- a fresh one.
structure Construction (origin : Forest) where
  builder : Builder
  built : Built origin builder
  progress : Progress

-- Why tree construction broke off.
inductive Interrupt where
  | failure (f : Failure)
  -- the document is in another encoding than was guessed
  | reread (e : Source.Encoding)
  -- the open elements admit no way on
  | stuck
  -- formatting was to be forgotten where there was none, not even a marker
  | unformatted
  -- a number has too many digits
  | overlong
deriving DecidableEq, Repr

abbrev Construct (origin : Forest) := EStateM Interrupt (Construction origin)

-- Whether a token is done with, or has to be looked at again in the mode that is now set.
inductive Reply where
  | done
  | again
deriving DecidableEq, Repr

namespace Construction

def begin (origin : Forest) (progress : Progress) : Construction origin :=
  ⟨.fresh origin, .fresh, progress⟩

end Construction

namespace Construct

variable {origin : Forest}

-- Takes a step with the builder.
def apply (step : BuildStep) : Construct origin (Option Site)
  | ⟨builder, built, progress⟩ =>
    match taken : step.run builder with
    | .ok site next =>
      .ok site ⟨next, by simpa [BuildStep.after, taken] using built.step step, progress⟩
    | .error failure next =>
      .error (.failure failure)
        ⟨next, by simpa [BuildStep.after, taken] using built.step step, progress⟩

-- A step that makes a node.
def make (step : BuildStep) : Construct origin Site := do
  match ← apply step with
  | some site => pure site
  | none => throw .stuck

def act (step : BuildStep) : Construct origin Unit := do discard (apply step)

def progress : Construct origin Progress := return (← get).progress

def builder : Construct origin Builder := return (← get).builder

def update (change : Progress → Progress) : Construct origin Unit :=
  modify fun s => { s with progress := change s.progress }

def goto (mode : Mode) : Construct origin Unit := update ({ · with mode := mode })

def mode : Construct origin Mode := return (← progress).mode

def scanAs (state : ScanState) : Construct origin Unit :=
  update fun p => { p with scanner := { p.scanner with state := state } }

-- Reports a fault at the place that reading has come to.
def faultWith (code : String) (slots : List (String × String)) : Construct origin Unit :=
  update fun p =>
    let fault : Fault := ⟨code, slots.map fun s => (s.1, .text s.2)⟩
    { p with faults := (fault, p.scanner.cursor.position) :: p.faults }

def fault (code : String) : Construct origin Unit := faultWith code []

-- Reports a fault with the tag that brought it about.
def faultAt (code name : String) : Construct origin Unit := faultWith code [("name", name)]

-- A fault that has no code of its own.
def faultUnnamed : Construct origin Unit := fault "XXX-undefined-error"

def noFrameset : Construct origin Unit := update ({ · with framesetOk := false })

-- The solidus of a tag that was written has been taken account of.
def acknowledge (tag : Tag) : Construct origin Unit :=
  if tag.implied then pure () else update ({ · with acknowledged := true })

-- Only a fragment can leave the open elements like this.
def fragmentOnly : Construct origin Unit := do
  if !(← progress).isFragment then throw .stuck

def done : Construct origin Reply := pure .done

def again : Construct origin Reply := pure .again

end Construct
end HtmlTree

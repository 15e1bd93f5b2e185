import HtmlTree.Construct.Foreign
import HtmlTree.Construct.Outer
import HtmlTree.Construct.Select

namespace HtmlTree

def Rules.of {origin : Forest} : Mode → Rules origin
  | .initial => initial
  | .beforeHtml => beforeHtml
  | .beforeHead => beforeHead
  | .inHead => inHead
  | .inHeadNoscript => inHeadNoscript
  | .afterHead => afterHead
  | .inBody => inBody
  | .text => inText
  | .inTable => inTable
  | .inTableText => inTableText
  | .inCaption => inCaption
  | .inColumnGroup => inColumnGroup
  | .inTableBody => inTableBody
  | .inRow => inRow
  | .inCell => inCell
  | .inSelect => inSelect
  | .inSelectInTable => inSelectInTable
  | .inFrameset => inFrameset
  | .afterBody => afterBody
  | .afterFrameset => afterFrameset
  | .afterAfterBody => afterAfterBody
  | .afterAfterFrameset => afterAfterFrameset

namespace Construct

variable {origin : Forest}

-- The rules that a token falls under now.
def rulesFor (token : Token) : Construct origin (Rules origin) := do
  let p ← progress
  let here : Rules origin := .of p.mode
  match p.current? with
  | none => pure here
  | some s =>
    if (← builder).takesAsForeign s token then pure (.inForeign here) else pure here

def takeOnce (token : Token) : Construct origin Reply := do
  match token with
  | .fault f => do
    update fun p => { p with faults := (f, p.scanner.cursor.position) :: p.faults }
    done
  | .overlong => throw .overlong
  | .text data => (← rulesFor token).text data
  | .space data => (← rulesFor token).space data
  | .comment data => (← rulesFor token).comment data
  | .doctype d => (← rulesFor token).doctype d
  | .start tag => (← rulesFor token).start tag
  | .close tag => (← rulesFor token).close tag

-- Looks at a token until it is done with. Each further look is in another mode or with fewer open
-- elements.
def takeWhileAgain (token : Token) : Nat → Construct origin Unit
  | 0 => pure ()
  | fuel + 1 => do
    match ← takeOnce token with
    | .done => pure ()
    | .again => takeWhileAgain token fuel

-- A solidus at the end of a start tag means something on some elements only.
def take (token : Token) : Construct origin Unit := do
  update ({ · with acknowledged := false })
  takeWhileAgain token (4 * (← progress).openElements.length + 64)
  match token with
  | .start tag =>
    if tag.selfClosing && !(← progress).acknowledged then
      faultAt "non-void-element-with-trailing-solidus" tag.name
  | _ => pure ()

-- Whether the current element is of another namespace than html.
def isForeign (p : Progress) : Bool :=
  p.current?.any fun s => s.uri != some Namespace.html

-- Scans and takes what is found, until the input has come to its end.
def takeAll : Nat → Construct origin Unit
  | 0 => pure ()
  | fuel + 1 => do
    let p ← progress
    match p.scanner.step (isForeign p) with
    | none => pure ()
    | some (tokens, scanner) =>
      update ({ · with scanner := scanner })
      tokens.forM take
      takeAll fuel

-- The end of the input is looked at in one mode after another.
def finishWhileAgain : Nat → Construct origin Unit
  | 0 => pure ()
  | fuel + 1 => do
    match ← (Rules.of (← mode)).finish with
    | .done => pure ()
    | .again => finishWhileAgain fuel

-- How the content of an element is scanned from its beginning.
def scanInside : List (String × ScanState) :=
  [("title", .rcdata), ("textarea", .rcdata), ("style", .rawtext), ("script", .rawtext),
   ("xmp", .rawtext), ("iframe", .rawtext), ("noembed", .rawtext), ("noframes", .rawtext),
   ("noscript", .rawtext), ("plaintext", .plaintext)]

-- A fragment is read as the content of a root that stands for its container.
def openContainer : Construct origin Unit := do
  match (← progress).container with
  | none => pure ()
  | some name =>
    match scanInside.lookup name with
    | some state => scanAs state
    | none => pure ()
    insertRoot
    resetMode

-- Every character is looked at by a few states of scanning at most.
def enough (p : Progress) : Nat := 16 * (p.scanner.cursor.remaining + 16)

-- Reads all of the input and gives the node that holds what was read.
def readAll : Construct origin NodeId := do
  openContainer
  takeAll (enough (← progress))
  finishWhileAgain 64
  let p ← progress
  if p.container.isSome then
    match p.root? with
    | none => throw .stuck
    | some root => return (← make (.gather root)).node
  else return (← builder).document.node

end Construct
end HtmlTree

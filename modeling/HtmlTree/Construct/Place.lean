import HtmlTree.Construct.Open

namespace HtmlTree.Construct

variable {origin : Forest}

-- Whether what comes now belongs in front of a table rather than into the current element.
def misplaced : Construct origin Bool := do
  let p ← progress
  pure (p.fostering && Elements.tableParts.contains p.currentName)

-- Where content that a table does not admit goes: in front of the table, or if that hangs
-- nowhere, to the end of the element that was opened before it.
def fosterPlace : Construct origin (Site × Option Site) := do
  let p ← progress
  match p.openElements.dropWhile (·.name != "table") with
  | table :: outer =>
    match (← builder).parentOf? table with
    | some parent => pure (parent, some table)
    | none =>
      match outer.head? with
      | some parent => pure (parent, none)
      | none => throw .stuck
  | [] =>
    match p.root? with
    | some root => pure (root, none)
    | none => throw .stuck

-- Makes an element, puts it where it belongs and opens it.
def openElement (name : String) (uri : Option String) (attrs : Attributes) :
    Construct origin Site := do
  let outer ← current
  let site ← make (.element name uri)
  act (.attributes site attrs)
  if ← misplaced then
    match ← fosterPlace with
    | (parent, some table) => act (.before parent site table)
    | (parent, none) => act (.append parent site)
  else act (.append outer site)
  update (·.push site)
  pure site

def insertElement (tag : Tag) : Construct origin Unit :=
  discard (openElement tag.name (some Namespace.html) tag.attributes)

-- An element that has no content.
def insertVoid (tag : Tag) : Construct origin Unit := do
  insertElement tag
  pop

def insertText (data : String) : Construct origin Unit := do
  if ← misplaced then
    let (parent, table) ← fosterPlace
    act (.text parent data table)
  else act (.text (← current) data none)

def insertCommentInto (parent : Site) (data : String) : Construct origin Unit := do
  act (.append parent (← make (.comment (some data))))

def insertComment (data : String) : Construct origin Unit := do
  insertCommentInto (← current) data

def insertCommentInDocument (data : String) : Construct origin Unit := do
  insertCommentInto (← builder).document data

-- The root element stands directly in the document.
def insertRoot : Construct origin Unit := do
  let site ← make (.element "html" (some Namespace.html))
  act (.attributes site .empty)
  update (·.push site)
  act (.append (← builder).document site)
  goto .beforeHead

-- Opens copies of elements, the latest last, and gives the new ones, latest first.
def reopen : List Site → Construct origin (List Site)
  | [] => pure []
  | site :: earlier => do
    let made ← reopen earlier
    let again ← openElement site.name site.uri ((← builder).attributes site)
    pure (again :: made)

-- Formatting that goes on but whose element has been closed is opened again.
def reconstruct : Construct origin Unit := do
  let p ← progress
  let closed := p.formatting.takeWhile fun entry => match entry with
    | some site => !p.openElements.contains site
    | none => false
  let kept := p.formatting.drop closed.length
  let made ← reopen (closed.filterMap id)
  update ({ · with formatting := made.map some ++ kept })

-- Opens a formatting element. Of four that are alike the earliest is given up.
def insertFormatting (tag : Tag) : Construct origin Unit := do
  let site ← openElement tag.name (some Namespace.html) tag.attributes
  let b ← builder
  let p ← progress
  let alike := p.activeFormatting.filter fun s =>
    s.qualified == site.qualified && (b.attributes s).agrees (b.attributes site)
  let p := match alike with
    | [_, _, earliest] => p.removeFormatting earliest
    | _ => p
  update fun _ => { p with formatting := some site :: p.formatting }

-- The root element takes on attributes that it does not have yet.
def startHtml (tag : Tag) : Construct origin Unit := do
  if !(← progress).rootTag then fault "non-html-root"
  match (← progress).root? with
  | some root => act (.addAttributes root tag.attributes)
  | none => throw .stuck
  update ({ · with rootTag := false })

-- The content of the element is text up to its end tag.
def insertTextElement (tag : Tag) (state : ScanState) : Construct origin Unit := do
  insertElement tag
  scanAs state
  update fun p => { p with textMode := p.mode, mode := .text }

end HtmlTree.Construct

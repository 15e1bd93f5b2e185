import HtmlTree.Source.Cursor
import HtmlTree.Text.Blank
import HtmlTree.Token

namespace HtmlTree

-- Content in which only one end tag is markup. Escaped script is script inside a comment.
inductive RawContent where
  | rcdata
  | rawtext
  | script
  | escaped
deriving DecidableEq, Repr

-- Where scanning stands between two characters.
inductive ScanState where
  | data
  | rcdata
  | rawtext
  | script
  | plaintext
  | referenceInData
  | referenceInRcdata
  | tagOpen
  | endTagOpen
  | tagName
  | rawLess (raw : RawContent)
  | rawEndOpen (raw : RawContent)
  | rawEndName (raw : RawContent)
  | escapeStart
  | escapeStartDash
  | escaped
  | escapedDash
  | escapedDashDash
  | doubleStart
  | double
  | doubleDash
  | doubleDashDash
  | doubleLess
  | doubleEnd
  | beforeAttrName
  | attrName
  | afterAttrName
  | beforeAttrValue
  | quotedValue (quote : Char)
  | bareValue
  | afterAttrValue
  | selfClosing
  | bogusComment
  | declaration
  | commentStart
  | commentStartDash
  | comment
  | commentEndDash
  | commentEnd
  | commentEndBang
  | doctype
  | beforeDoctypeName
  | doctypeName
  | afterDoctypeName
  | afterKeyword (isPublic : Bool)
  | beforeIdentifier (isPublic : Bool)
  | quotedIdentifier (isPublic : Bool) (quote : Char)
  | afterPublicIdentifier
  | betweenIdentifiers
  | afterSystemIdentifier
  | bogusDoctype
  | cdata
deriving DecidableEq, Repr

-- The piece of markup that is being put together. Attributes stand latest first.
inductive Draft where
  | none
  | tag (closing : Bool) (name : String) (attrs : List (String × String)) (selfClosing : Bool)
  | comment (data : String)
  | doctype (d : Doctype)
deriving DecidableEq, Repr

structure Scanner where
  cursor : Source.Cursor
  state : ScanState
  draft : Draft
  buffer : List Char
  queue : List Token
deriving Repr

def Scanner.start (input : String) : Scanner := ⟨.start input, .data, .none, [], []⟩

abbrev Scan := StateM Scanner

namespace Scan

-- The stand-in for a null character.
def replacement : Char := Char.ofNat 0xFFFD

def null : Char := Char.ofNat 0

def isLetter (c : Char) : Bool := c.isAlpha

def next : Scan (Option Char) := fun s =>
  let read := s.cursor.next
  (read.1, { s with cursor := read.2 })

-- Gives back what was read last; the end of input needs no giving back.
def back : Option Char → Scan Unit
  | some c => modify fun s => { s with cursor := s.cursor.back c }
  | none => pure ()

-- The characters up to the first that `stop` holds for.
def upTo (stop : Char → Bool) : Scan (List Char) := fun s =>
  let read := s.cursor.span (fun c => !stop c)
  (read.1, { s with cursor := read.2 })

def goto (state : ScanState) : Scan Unit := modify ({ · with state := state })

-- The queue stands latest first.
def emit (token : Token) : Scan Unit := modify fun s => { s with queue := token :: s.queue }

def fault (code : String) : Scan Unit := emit (.fault ⟨code, []⟩)

def text (cs : List Char) : Scan Unit := emit (.text (String.ofList cs))

def setDraft (draft : Draft) : Scan Unit := modify ({ · with draft := draft })

def setBuffer (cs : List Char) : Scan Unit := modify ({ · with buffer := cs })

def pushBuffer (c : Char) : Scan Unit := modify fun s => { s with buffer := s.buffer ++ [c] }

-- Changes the tag in hand, if there is one.
def onTag (change : String → List (String × String) → Bool →
    String × List (String × String) × Bool) : Scan Unit :=
  modify fun s => match s.draft with
    | .tag closing name attrs selfClosing =>
      let (name, attrs, selfClosing) := change name attrs selfClosing
      { s with draft := .tag closing name attrs selfClosing }
    | _ => s

def pushName (c : Char) : Scan Unit := onTag fun name attrs sc => (name.push c, attrs, sc)

def newAttr (c : Char) : Scan Unit :=
  onTag fun name attrs sc => (name, (String.singleton c, "") :: attrs, sc)

def pushAttrName (cs : List Char) : Scan Unit := onTag fun name attrs sc =>
  match attrs with
  | (key, value) :: rest => (name, (key ++ String.ofList cs, value) :: rest, sc)
  | [] => (name, [], sc)

def pushAttrValue (cs : List Char) : Scan Unit := onTag fun name attrs sc =>
  match attrs with
  | (key, value) :: rest => (name, (key, value ++ String.ofList cs) :: rest, sc)
  | [] => (name, [], sc)

-- Attributes in the order they were written, the first of a name counting.
def firstWins (attrs : List (String × String)) : List (String × String) :=
  attrs.foldl (fun kept a => if kept.any (·.1 == a.1) then kept else kept ++ [a]) []

-- Hands out the tag in hand. An end tag should have neither attributes nor a solidus.
def emitTag : Scan Unit := do
  match (← get).draft with
  | .tag closing name attrs selfClosing =>
    let name := Text.lowerAscii name
    if closing then
      if !attrs.isEmpty then fault "attributes-in-end-tag"
      if selfClosing then fault "self-closing-flag-on-end-tag"
      emit (.close ⟨name, attrs.reverse, selfClosing, false⟩)
    else emit (.start ⟨name, firstWins attrs.reverse, selfClosing, false⟩)
  | _ => pure ()
  goto .data

def pushComment (cs : List Char) : Scan Unit := modify fun s =>
  match s.draft with
  | .comment data => { s with draft := .comment (data ++ String.ofList cs) }
  | _ => s

def emitComment : Scan Unit := do
  match (← get).draft with
  | .comment data => emit (.comment data)
  | _ => pure ()
  goto .data

def onDoctype (change : Doctype → Doctype) : Scan Unit := modify fun s =>
  match s.draft with
  | .doctype d => { s with draft := .doctype (change d) }
  | _ => s

def emitDoctype : Scan Unit := do
  match (← get).draft with
  | .doctype d => emit (.doctype d)
  | _ => pure ()
  goto .data

-- A doctype that is cut short counts as incorrect.
def emitSpoiltDoctype (code : String) : Scan Unit := do
  fault code
  onDoctype ({ · with correct := false })
  emitDoctype

-- Reads on as long as the characters are those of a word, either case of each counting. Gives what
-- was read after that word's beginning, latest first, and whether all of it came.
def readWord (foldCase : Bool) : List Char → List (Option Char) → Scan (List (Option Char) × Bool)
  | [], read => pure (read, true)
  | expected :: word, read => do
    let c ← next
    let agrees := match c with
      | some c => c == expected || (foldCase && Text.asciiLower c == Text.asciiLower expected)
      | none => false
    if agrees then readWord foldCase word (c :: read) else pure (c :: read, false)

end Scan
end HtmlTree

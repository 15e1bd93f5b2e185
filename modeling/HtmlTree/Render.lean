import HtmlTree.Content
import HtmlTree.Text.Escape

namespace HtmlTree

namespace Markup

-- Elements that have a start tag only.
def voidNames : List String :=
  ["area", "base", "basefont", "bgsound", "br", "col", "embed", "frame", "hr", "img", "input",
   "keygen", "link", "meta", "param", "source", "track", "wbr"]

-- Elements whose text is written as it stands.
def rawTextNames : List String :=
  ["iframe", "noembed", "noframes", "noscript", "plaintext", "script", "style", "xmp"]

def isRawText (node : Node) : Bool :=
  rawTextNames.contains node.name && (node.ns == none || node.ns == some "html")

-- One attribute of a start tag. A missing value leaves the bare name.
def attributeMarkup (entry : String × Option String) : String :=
  match entry.2 with
  | none => " " ++ entry.1
  | some value =>
    let quote := Text.attributeQuote value
    " " ++ entry.1 ++ "=" ++ quote.toString ++ Text.escapeValue quote value ++ quote.toString

def startTag (name : String) (attrs : Attributes) : String :=
  "<" ++ name ++ String.join (attrs.entries.map attributeMarkup) ++ ">"

def endTag (name : String) : String := "</" ++ name ++ ">"

-- How to lay out a tree: on one line, or with each node on its own line behind an indent. What room
-- there is for an indent is for the machine to say; there may be as much as is asked for.
structure Layout where
  pretty : Bool
  step : Int
  room : Option Int
deriving DecidableEq, Repr

def Layout.flat : Layout := ⟨false, 0, none⟩

-- Blanks before a node at this level; a negative product of level and step leaves none.
def Layout.indent (layout : Layout) (level : Int) : String :=
  if layout.pretty then String.ofList (List.replicate (level * layout.step).toNat ' ') else ""

-- The least number that is no length.
def Layout.lengths : Int := 0x8000000000000000

-- Whether the blanks before a node at this level can be written. A product may be negative, but it
-- has to be a number that lengths are counted in.
def Layout.admit (layout : Layout) (level : Int) : Except Failure Unit :=
  let width := level * layout.step
  if !layout.pretty then .ok ()
  else if width < -Layout.lengths || Layout.lengths ≤ width then .error .outOfRange
  else if layout.room.any (· ≤ width) then .error .tooLong
  else .ok ()

def Layout.join (layout : Layout) (parts : List String) : String :=
  (if layout.pretty then "\n" else "").intercalate parts

def textMarkup (layout : Layout) (level : Int) (raw : Bool) (data : String) : String :=
  if raw then
    if data.isEmpty then "" else layout.indent level ++ data
  else if layout.pretty then
    let text := Text.strip data
    if text.isEmpty then "" else layout.indent level ++ Text.escapeText text
  else Text.escapeText data

def commentMarkup (data : String) : String := "<!--" ++ data ++ "-->"

-- A doctype without a name is written with the usual one.
def doctypeMarkup (data : String) : String :=
  "<!DOCTYPE " ++ (if data.isEmpty then "html" else data) ++ ">"

end Markup

namespace Forest
open Markup

-- The children that are written inside an element: those of the content fragment if there is one.
def writtenChildren (f : Forest) (n : NodeId) : List NodeId :=
  match f.content n with
  | some fragment => (f.children fragment).getD []
  | none => (f.children n).getD []

-- The markup of a node and of all below it, down to a depth. `raw` says that the parent's text is
-- written as it stands.
def markupWithin (f : Forest) : Nat → Layout → Int → Bool → NodeId → String
  | 0, _, _, _, _ => ""
  | depth + 1, layout, level, raw, n =>
    let node := f.node n
    let indent := layout.indent level
    if node.isText then textMarkup layout level raw node.ownText
    else if node.isComment then indent ++ commentMarkup node.ownText
    else if node.name == Node.doctypeName then indent ++ doctypeMarkup node.ownText
    else if node.isFragment then
      layout.join (((node.children.getD []).map
        (f.markupWithin depth layout level false)).filter (!·.isEmpty))
    else
      let opening := indent ++ startTag node.name (node.attrs.getD .empty)
      let children := f.writtenChildren n
      if voidNames.contains node.name then opening
      else if children.isEmpty then opening ++ endTag node.name
      else if !layout.pretty || children.all (fun c => (f.node c).isText) then
        opening ++ String.join (children.map (f.markupWithin depth .flat 0 (isRawText node)))
          ++ endTag node.name
      else
        layout.join (opening :: ((children.map
          (f.markupWithin depth layout (level + 1) (isRawText node))).filter (!·.isEmpty)
            ++ [indent ++ endTag node.name]))

def markup (f : Forest) (layout : Layout) (level : Int) (raw : Bool) (n : NodeId) : String :=
  f.markupWithin f.reach layout level raw n

-- The markup of what is inside a node.
def innerMarkup (f : Forest) (n : NodeId) : String :=
  String.join ((f.writtenChildren n).map (f.markup .flat 0 (isRawText (f.node n))))

-- The markup of a node, starting at a level. A document gives the markup of its children.
def outerMarkup (f : Forest) (layout : Layout) (level : Int) (n : NodeId) : String :=
  if (f.node n).isDocument then
    layout.join (((f.children n).getD []).map (f.markup layout level false)
      |>.filter fun part => !layout.pretty || !part.isEmpty)
  else f.markup layout level false n

-- Goes to the nodes that the markup of a node is made from, in the order in which they are written.
-- There is no markup if a link leads nowhere, an indent cannot be written or a name is missing.
def surveyWithin (f : Forest) : Nat → Layout → Int → NodeId → Except Failure Unit
  | 0, _, _, _ => .ok ()
  | depth + 1, layout, level, n => do
    layout.admit level
    if !f.known n then throw .noNode
    let node := f.node n
    if node.isText || node.isComment || node.name == Node.doctypeName then pure ()
    else if node.isFragment then
      (node.children.getD []).forM (f.surveyWithin depth layout level)
    else if !node.isNamed then throw .missingPart
    else if voidNames.contains node.name then pure ()
    else
      let children := f.writtenChildren n
      if !layout.pretty || children.all (fun c => (f.node c).isText) then
        children.forM (f.surveyWithin depth .flat 0)
      else children.forM (f.surveyWithin depth layout (level + 1))

def outerMarkupRead (f : Forest) (layout : Layout) (level : Int) (n : NodeId) :
    Except Failure String := do
  if !f.known n then throw .noNode
  let parts := if (f.node n).isDocument then (f.children n).getD [] else [n]
  parts.forM (f.surveyWithin f.reach layout level)
  pure (f.outerMarkup layout level n)

-- The markup of a node where the level or the step may be missing. Then nothing can be put behind
-- an indent, so that only a document without children is laid out over several lines.
def markupLaidOut (f : Forest) (pretty : Bool) (step level : Option Int) (room : Option Int)
    (n : NodeId) : Except Failure String :=
  match step, level with
  | some step, some level => f.outerMarkupRead ⟨pretty, step, room⟩ level n
  | _, _ =>
    if !pretty then f.outerMarkupRead .flat 0 n
    else if !f.known n then .error .noNode
    else if (f.node n).isDocument && ((f.children n).getD []).isEmpty then .ok ""
    else .error .missingPart

def innerMarkupRead (f : Forest) (n : NodeId) : Except Failure String := do
  if !f.known n then throw .noNode
  (f.writtenChildren n).forM (f.surveyWithin f.reach .flat 0)
  pure (f.innerMarkup n)

end Forest
end HtmlTree

import HtmlTree.Construct.Table

namespace HtmlTree

namespace Builder

-- Elements of another namespace whose content is html.
def isContentPoint (b : Builder) (s : Site) : Bool :=
  if s.name == "annotation-xml" && s.uri == some Namespace.math then
    match (b.attributes s).find? "encoding" with
    | some (some encoding) =>
      ["text/html", "application/xhtml+xml"].contains (Text.lowerAscii encoding)
    | _ => false
  else Elements.svgContentPoints.contains s.qualified

def isTextPoint (s : Site) : Bool := Elements.mathTextPoints.contains s.qualified

-- Whether a token that comes while this element is the current one follows the rules for foreign
-- content.
def takesAsForeign (b : Builder) (s : Site) (token : Token) : Bool :=
  let isText := match token with
    | .text _ | .space _ => true
    | _ => false
  let tagName := match token with
    | .start tag => some tag.name
    | _ => none
  !(s.uri == some Namespace.html ||
    (isTextPoint s && (isText || tagName.any fun name => !Elements.mathGlyphs.contains name)) ||
    (s.uri == some Namespace.math && s.name == "annotation-xml" && tagName == some "svg") ||
    (b.isContentPoint s && (isText || tagName.isSome)))

end Builder

namespace Rules

open Construct

variable {origin : Forest}

-- Tags of html that cannot stand in foreign content.
def breaksOut (tag : Tag) : Bool :=
  Elements.breakouts.contains tag.name ||
    (tag.name == "font" && tag.attrs.any fun a => ["color", "face", "size"].contains a.1)

-- An end tag looks outwards for an element of its name, in either case. At an element of html the
-- rules of the mode take over, which `outside` stands for.
def endForeign (name : String) (outside : Construct origin Reply) :
    List Site → Construct origin Reply
  | [] => throw .stuck
  | s :: rest => do
    if Text.lowerAscii s.name == name then
      if (← mode) == .inTableText then
        flushTableText
        update fun p => { p with mode := p.tableMode }
      update (·.popThrough (· == s))
      done
    else
      match rest with
      | [] => throw .stuck
      | outer :: _ =>
        if outer.uri == some Namespace.html then outside else endForeign name outside rest

-- Content of another namespace. The rules of the mode are `here`.
def inForeign (here : Rules origin) : Rules origin :=
  { usual with
    text := fun data => do
      if isNull data then insertText (String.singleton Scan.replacement)
      else
        if !isAllSpace data then noFrameset
        insertText data
      done
    start := fun tag => do
      let s ← current
      if breaksOut tag then
        faultAt "unexpected-html-element-in-foreign-content" tag.name
        let b ← builder
        update (·.popUntil fun s =>
          s.uri == some Namespace.html || b.isContentPoint s || Builder.isTextPoint s)
        again
      else
        let uri := s.uri.getD Namespace.html
        if uri == Namespace.math then insertForeign tag uri [] Elements.mathAttributes
        else if uri == Namespace.svg then
          insertForeign tag uri Elements.svgNames Elements.svgAttributes
        else insertForeign tag uri [] []
        done
    close := fun tag => do
      let p ← progress
      if Text.lowerAscii p.currentName != tag.name then faultAt "unexpected-end-tag" tag.name
      endForeign tag.name (here.close tag) p.openElements }

end Rules
end HtmlTree

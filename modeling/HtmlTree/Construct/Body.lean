import HtmlTree.Construct.BodyEnds
import HtmlTree.Construct.Head

namespace HtmlTree.Rules

open Construct

variable {origin : Forest}

def spaceInBody (data : String) : Construct origin Reply := do
  let p ← progress
  let drops := p.skipNewline && data.toList.head? == some '\n' &&
    ["pre", "listing", "textarea"].contains p.currentName &&
    !(← builder).hasContent (← current)
  let data := if drops then String.ofList data.toList.tail else data
  update ({ · with skipNewline := false })
  if !data.isEmpty then
    reconstruct
    insertText data
  done

def textInBody (data : String) : Construct origin Reply := do
  if !isNull data then
    reconstruct
    insertText data
    if !isAllSpace data then noFrameset
  done

def startBlock (tag : Tag) : Construct origin Unit := do
  closeParagraph
  insertElement tag

def startBody (tag : Tag) : Construct origin Unit := do
  faultAt "unexpected-start-tag" "body"
  match (← progress).second? with
  | some site =>
    if site.name == "body" then
      noFrameset
      act (.addAttributes site tag.attributes)
    else fragmentOnly
  | none => fragmentOnly

-- Frames can take the place of a body that has shown nothing yet.
def startFrameset (tag : Tag) : Construct origin Unit := do
  faultAt "unexpected-start-tag" "frameset"
  match (← progress).second? with
  | some site =>
    if site.name == "body" then
      if (← progress).framesetOk then
        detachSite site
        popUntilNamed ["html"]
        insertElement tag
        goto .inFrameset
    else fragmentOnly
  | none => fragmentOnly

def startHeading (tag : Tag) : Construct origin Unit := do
  closeParagraph
  if ← currentIs Elements.headings then
    faultAt "unexpected-start-tag" tag.name
    pop
  insertElement tag

def startPreformatted (tag : Tag) : Construct origin Unit := do
  startBlock tag
  update fun p => { p with framesetOk := false, skipNewline := true }

def startForm (tag : Tag) : Construct origin Unit := do
  if (← progress).form.isSome then faultAt "unexpected-start-tag" "form"
  else
    startBlock tag
    update fun p => { p with form := p.current? }

-- An item closes the item before it, if nothing special stands in between.
def startListItem (tag : Tag) : Construct origin Unit := do
  noFrameset
  let stops := if tag.name == "li" then ["li"] else ["dt", "dd"]
  let site := (← progress).openElements.find? fun s =>
    stops.contains s.name ||
      (Elements.special.contains s.qualified && !Elements.plainBlocks.contains s.name)
  match site with
  | some s => if stops.contains s.name then endHere s.name
  | none => pure ()
  if ← inReach .button "p" then endHere "p"
  insertElement tag

def startAnchor (tag : Tag) : Construct origin Unit := do
  match (← progress).formattingNamed? "a" with
  | some site =>
    faultWith "unexpected-start-tag-implies-end-tag" [("startName", "a"), ("endName", "a")]
    endFormattingTag "a"
    update fun p => (p.removeOpen site).removeFormatting site
  | none => pure ()
  reconstruct
  insertFormatting tag

def startNobr (tag : Tag) : Construct origin Unit := do
  reconstruct
  if ← inReach .usual "nobr" then
    faultWith "unexpected-start-tag-implies-end-tag" [("startName", "nobr"), ("endName", "nobr")]
    endFormattingTag "nobr"
    reconstruct
  insertFormatting tag

def startButton (tag : Tag) : Construct origin Reply := do
  if ← inReach .usual "button" then
    faultWith "unexpected-start-tag-implies-end-tag"
      [("startName", "button"), ("endName", "button")]
    endBlock "button"
    again
  else
    reconstruct
    insertElement tag
    noFrameset
    done

def startOrdinary (tag : Tag) : Construct origin Unit := do
  reconstruct
  insertElement tag

def startTable (tag : Tag) : Construct origin Unit := do
  if !(← progress).looseDoctype then closeParagraph
  insertElement tag
  noFrameset
  goto .inTable

def startVoid (tag : Tag) : Construct origin Unit := do
  reconstruct
  insertVoid tag
  acknowledge tag
  noFrameset

def isHidden (tag : Tag) : Bool :=
  (tag.attr? "type").any fun kind => Text.lowerAscii kind == "hidden"

-- A hidden input shows nothing.
def startInput (tag : Tag) : Construct origin Unit := do
  let ok := (← progress).framesetOk
  startVoid tag
  if isHidden tag then update ({ · with framesetOk := ok })

def startRule (tag : Tag) : Construct origin Unit := do
  closeParagraph
  insertVoid tag
  acknowledge tag
  noFrameset

def indexPrompt : String := "This is a searchable index. Enter search keywords: "

-- A search field stands for a form with a prompt and an input between two rules.
def startIndex (tag : Tag) : Construct origin Unit := do
  faultAt "deprecated-tag" "isindex"
  if (← progress).form.isNone then
    let named (name : String) (attrs : List (String × String)) : Tag := ⟨name, attrs, false, true⟩
    startForm (named "form" (tag.attrs.filter (·.1 == "action")))
    startRule (.imply "hr")
    startOrdinary (.imply "label")
    discard (textInBody ((tag.attr? "prompt").getD indexPrompt))
    let others := tag.attributes.drop "action" |>.drop "prompt" |>.put "name" (some "isindex")
    let attrs := others.entries.map fun a => (a.1, a.2.getD "")
    startInput ⟨"input", attrs, tag.selfClosing, true⟩
    endOrdinary "label"
    startRule (.imply "hr")
    endForm

def startSelect (tag : Tag) : Construct origin Unit := do
  startOrdinary tag
  noFrameset
  let here ← mode
  if [.inTable, .inCaption, .inColumnGroup, .inTableBody, .inRow, .inCell].contains here then
    goto .inSelectInTable
  else goto .inSelect

def startRuby (tag : Tag) : Construct origin Unit := do
  if ← inReach .usual "ruby" then
    closeImplied
    if !(← currentIs ["ruby"]) then faultUnnamed
  insertElement tag

def startOption (tag : Tag) : Construct origin Unit := do
  if ← currentIs ["option"] then endHere "option"
  startOrdinary tag

-- Opens an element of another namespace, whose names have spellings of their own.
def insertForeign (tag : Tag) (uri : String) (names attributes : List String) :
    Construct origin Unit := do
  let attrs := tag.attrs.map fun a => (Elements.respell attributes a.1, a.2)
  let tag : Tag := { tag with name := Elements.respell names tag.name, attrs := attrs }
  discard (openElement tag.name (some uri) tag.attributes)
  if tag.selfClosing then
    pop
    acknowledge tag

def startForeign (tag : Tag) : Construct origin Unit := do
  reconstruct
  if tag.name == "math" then insertForeign tag Namespace.math [] Elements.mathAttributes
  else insertForeign tag Namespace.svg [] Elements.svgAttributes

def startRaw (tag : Tag) : Construct origin Unit := insertTextElement tag .rawtext

def startInBody (tag : Tag) : Construct origin Reply := do
  match tag.name with
  | "html" => do
    startHtml tag
    done
  | "body" => do
    startBody tag
    done
  | "frameset" => do
    startFrameset tag
    done
  | "pre" | "listing" => do
    startPreformatted tag
    done
  | "form" => do
    startForm tag
    done
  | "li" | "dd" | "dt" => do
    startListItem tag
    done
  | "plaintext" => do
    startBlock tag
    scanAs .plaintext
    done
  | "a" => do
    startAnchor tag
    done
  | "nobr" => do
    startNobr tag
    done
  | "button" => startButton tag
  | "applet" | "marquee" | "object" => do
    startOrdinary tag
    update Progress.markFormatting
    noFrameset
    done
  | "xmp" => do
    closeParagraph
    reconstruct
    noFrameset
    startRaw tag
    done
  | "table" => do
    startTable tag
    done
  | "area" | "br" | "embed" | "img" | "keygen" | "wbr" => do
    startVoid tag
    done
  | "param" | "source" | "track" => do
    insertVoid tag
    acknowledge tag
    done
  | "input" => do
    startInput tag
    done
  | "hr" => do
    startRule tag
    done
  | "image" => do
    faultWith "unexpected-start-tag-treated-as" [("originalName", "image"), ("newName", "img")]
    startVoid { tag with name := "img", implied := true }
    done
  | "isindex" => do
    startIndex tag
    done
  | "textarea" => do
    insertElement tag
    scanAs .rcdata
    update fun p => { p with framesetOk := false, skipNewline := true }
    done
  | "iframe" => do
    noFrameset
    startRaw tag
    done
  | "noembed" | "noframes" => do
    startRaw tag
    done
  | "select" => do
    startSelect tag
    done
  | "rp" | "rt" => do
    startRuby tag
    done
  | "option" | "optgroup" => do
    startOption tag
    done
  | "math" | "svg" => do
    startForeign tag
    done
  | "caption" | "col" | "colgroup" | "frame" | "head" | "tbody" | "td" | "tfoot" | "th" | "thead"
  | "tr" => do
    faultAt "unexpected-start-tag-ignored" tag.name
    done
  | name => do
    if Elements.headStarts.contains name then startInHead tag
    else
      if Elements.blockStarts.contains name then startBlock tag
      else if Elements.headings.contains name then startHeading tag
      else if Elements.formatting.contains name then
        reconstruct
        insertFormatting tag
      else startOrdinary tag
      done

-- Something is left open that should have been closed.
def finishInBody : Construct origin Reply := do
  if (← progress).openElements.any (fun s => !Elements.openAtEnd.contains s.name) then
    fault "expected-closing-tag-but-got-eof"
  done

def inBody : Rules origin :=
  { usual with
    space := spaceInBody
    text := textInBody
    start := startInBody
    close := fun tag => endInBody tag.name
    finish := finishInBody }

-- The content of an element that is nothing but text.
def inText : Rules origin :=
  let ended : Construct origin Unit := do
    pop
    update fun p => { p with mode := p.textMode }
  { usual with
    start := fun _ => throw .stuck
    close := fun _ => do
      ended
      done
    finish := do
      faultAt "expected-named-closing-tag-but-got-eof" (← progress).currentName
      ended
      again }

end HtmlTree.Rules

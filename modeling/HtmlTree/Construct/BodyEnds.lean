import HtmlTree.Construct.Adoption
import HtmlTree.Construct.Rules

namespace HtmlTree.Rules

open Construct

variable {origin : Forest}

-- Closes a paragraph; one that is not there is opened first.
def endParagraph : Construct origin Unit := do
  if !(← inReach .button "p") then
    insertElement (.imply "p")
    faultAt "unexpected-end-tag" "p"
  closeImpliedExcept "p"
  if !(← currentIs ["p"]) then faultAt "unexpected-end-tag" "p"
  popThroughNamed "p"

-- Closes a paragraph that is open.
def closeParagraph : Construct origin Unit := do
  if ← inReach .button "p" then endParagraph

def endBody : Construct origin Unit := do
  if !(← inReach .usual "body") then faultUnnamed
  else
    if !(← currentIs ["body"]) then
      let inner := (← progress).openElements.reverse.drop 2
      match inner.find? (fun s => !Elements.openAtBodyEnd.contains s.name) with
      | some site =>
        faultWith "expected-one-end-tag-but-got-another"
          [("gotName", "body"), ("expectedName", site.name)]
      | none => pure ()
    goto .afterBody

def endHtml : Construct origin Reply := do
  if ← inReach .usual "body" then
    endBody
    again
  else done

def endBlock (name : String) : Construct origin Unit := do
  if name == "pre" then update ({ · with skipNewline := false })
  let found ← inReach .usual name
  if found then closeImplied
  if !(← currentIs [name]) then faultAt "end-tag-too-early" name
  if found then popThroughNamed name

def endForm : Construct origin Unit := do
  let p ← progress
  update ({ · with form := none })
  match p.form with
  | none => faultAt "unexpected-end-tag" "form"
  | some site =>
    if p.siteInReach site then
      closeImplied
      if (← progress).current? != some site then faultAt "end-tag-too-early-ignored" "form"
      update (·.removeOpen site)
    else faultAt "unexpected-end-tag" "form"

def endListItem (name : String) : Construct origin Unit := do
  if ← inReach (if name == "li" then .list else .usual) name then
    closeImpliedExcept name
    if !(← currentIs [name]) then faultAt "end-tag-too-early" name
    popThroughNamed name
  else faultAt "unexpected-end-tag" name

-- Any heading that is open is closed.
def endHeading (name : String) : Construct origin Unit := do
  let headingOpen (p : Progress) : Bool := Elements.headings.any (p.inReach .usual)
  if headingOpen (← progress) then closeImplied
  if !(← currentIs [name]) then faultAt "end-tag-too-early" name
  if headingOpen (← progress) then
    update (·.popThrough (Elements.headings.contains ·.name))

-- Elements that formatting does not reach into.
def endEnclosed (name : String) : Construct origin Unit := do
  if ← inReach .usual name then closeImplied
  if !(← currentIs [name]) then faultAt "end-tag-too-early" name
  if ← inReach .usual name then
    popThroughNamed name
    clearFormatting

def endBreak : Construct origin Unit := do
  faultWith "unexpected-end-tag-treated-as" [("originalName", "br"), ("newName", "br element")]
  reconstruct
  insertVoid (.imply "br")

def endInBody (name : String) : Construct origin Reply := do
  match name with
  | "body" => do
    endBody
    done
  | "html" => endHtml
  | "form" => do
    endForm
    done
  | "p" => do
    endParagraph
    done
  | "dd" | "dt" | "li" => do
    endListItem name
    done
  | "applet" | "marquee" | "object" => do
    endEnclosed name
    done
  | "br" => do
    endBreak
    done
  | _ => do
    if Elements.blockEnds.contains name then endBlock name
    else if Elements.headings.contains name then endHeading name
    else if Elements.formattingEnds.contains name then endFormattingTag name
    else endOrdinary name
    done

-- Does something with content that a table does not admit, which goes in front of the table.
def fostered (act : Construct origin Reply) : Construct origin Reply := do
  update ({ · with fostering := true })
  discard act
  update ({ · with fostering := false })
  done

-- An end tag among the parts of a table that means nothing there.
def endMisplaced (name : String) : Construct origin Reply := do
  faultAt "unexpected-end-tag-implies-table-voodoo" name
  fostered (endInBody name)

-- An end tag that a start tag in the body brings with it, in the mode that is set.
def endHere (name : String) : Construct origin Unit := do
  match ← mode with
  | .inTable | .inTableBody | .inRow => discard (endMisplaced name)
  | _ => discard (endInBody name)

end HtmlTree.Rules

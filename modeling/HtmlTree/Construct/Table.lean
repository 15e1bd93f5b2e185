import HtmlTree.Construct.Body

namespace HtmlTree.Rules

open Construct

variable {origin : Forest}

-- Text between the parts of a table is collected until something else comes.
def collectTableText (data : String) : Construct origin Reply := do
  if !isNull data then update fun p => { p with tableText := data :: p.tableText }
  done

def beginTableText (data : String) : Construct origin Reply := do
  update fun p => { p with tableMode := p.mode, mode := .inTableText }
  collectTableText data

-- Space stays where it is; anything else goes in front of the table.
def flushTableText : Construct origin Unit := do
  let data := String.join (← progress).tableText.reverse
  if !isAllSpace data then discard (fostered (textInBody data))
  else if !data.isEmpty then insertText data
  update ({ · with tableText := [] })

def inTableText : Rules origin :=
  let flushed : Construct origin Reply := do
    flushTableText
    update fun p => { p with mode := p.tableMode }
    again
  { usual with
    space := fun data => do
      update fun p => { p with tableText := data :: p.tableText }
      done
    text := collectTableText
    comment := fun _ => flushed
    start := fun _ => flushed
    close := fun _ => flushed
    finish := flushed }

def clearToTable : Construct origin Unit := popUntilNamed ["table", "html"]

def clearToRowGroup : Construct origin Unit := do
  popUntilNamed ("html" :: Elements.rowGroups)
  if ← currentIs ["html"] then fragmentOnly

-- Names what it closes.
def clearToRow : Construct origin Unit := do
  let p ← progress
  let closed := p.openElements.takeWhile fun s => !Elements.rowBounds.contains s.name
  closed.forM fun s => do
    faultAt "unexpected-implied-end-tag-in-table-row" s.name
    pop

def endRowGroup (name : String) : Construct origin Unit := do
  if ← inReach .table name then
    clearToRowGroup
    pop
    goto .inTable
  else faultAt "unexpected-end-tag-in-table-body" name

-- Closes the group of rows that is open.
def leaveRowGroup : Construct origin Reply := do
  let p ← progress
  if ["tbody", "thead", "tfoot"].any (p.inReach .table) then
    clearToRowGroup
    endRowGroup (← progress).currentName
    again
  else
    fragmentOnly
    faultUnnamed
    done

def endRow : Construct origin Unit := do
  if ← inReach .table "tr" then
    clearToRow
    pop
    goto .inTableBody
  else
    fragmentOnly
    faultUnnamed

-- Closes the row that is open.
def leaveRow : Construct origin Reply := do
  let found ← inReach .table "tr"
  endRow
  if found then again else done

def endTable : Construct origin Unit := do
  if ← inReach .table "table" then
    closeImplied
    if !(← currentIs ["table"]) then
      faultWith "end-tag-too-early-named"
        [("gotName", "table"), ("expectedName", (← progress).currentName)]
    popThroughNamed "table"
    resetMode
  else
    fragmentOnly
    faultUnnamed

def startCaption (tag : Tag) : Construct origin Unit := do
  clearToTable
  update Progress.markFormatting
  insertElement tag
  goto .inCaption

def startTablePart (tag : Tag) (inside : Mode) : Construct origin Unit := do
  clearToTable
  insertElement tag
  goto inside

-- A table directly in a table closes the outer one.
def startTableAgain : Construct origin Reply := do
  faultWith "unexpected-start-tag-implies-end-tag" [("startName", "table"), ("endName", "table")]
  match ← mode with
  | .inTableBody => discard leaveRowGroup
  | .inRow => discard leaveRow
  | _ => endTable
  if (← progress).isFragment then done else again

def startMisplaced (tag : Tag) : Construct origin Reply := do
  faultAt "unexpected-start-tag-implies-table-voodoo" tag.name
  fostered (startInBody tag)

def startInTable (tag : Tag) : Construct origin Reply := do
  match tag.name with
  | "html" => do
    startHtml tag
    done
  | "caption" => do
    startCaption tag
    done
  | "colgroup" => do
    startTablePart tag .inColumnGroup
    done
  | "col" => do
    startTablePart (.imply "colgroup") .inColumnGroup
    again
  | "tbody" | "tfoot" | "thead" => do
    startTablePart tag .inTableBody
    done
  | "td" | "th" | "tr" => do
    startTablePart (.imply "tbody") .inTableBody
    again
  | "table" => startTableAgain
  | "style" | "script" => startInHead tag
  | "input" => do
    if isHidden tag then
      fault "unexpected-hidden-input-in-table"
      insertVoid tag
      done
    else startMisplaced tag
  | "form" => do
    fault "unexpected-form-in-table"
    if (← progress).form.isNone then
      insertElement tag
      update fun p => { p with form := p.current? }
      pop
    done
  | _ => startMisplaced tag

def endInTable (name : String) : Construct origin Reply := do
  match name with
  | "table" => do
    endTable
    done
  | "body" | "caption" | "col" | "colgroup" | "html" | "tbody" | "td" | "tfoot" | "th" | "thead"
  | "tr" => do
    faultAt "unexpected-end-tag" name
    done
  | _ => endMisplaced name

def finishInTable : Construct origin Reply := do
  if ← currentIs ["html"] then fragmentOnly else fault "eof-in-table"
  done

def inTable : Rules origin :=
  { usual with
    space := beginTableText
    text := beginTableText
    start := startInTable
    close := fun tag => endInTable tag.name
    finish := finishInTable }

def endCaption : Construct origin Unit := do
  if ← inReach .table "caption" then
    closeImplied
    if !(← currentIs ["caption"]) then
      faultWith "expected-one-end-tag-but-got-another"
        [("gotName", "caption"), ("expectedName", (← progress).currentName)]
    popThroughNamed "caption"
    clearFormatting
    goto .inTable
  else
    fragmentOnly
    faultUnnamed

def leaveCaption : Construct origin Reply := do
  faultUnnamed
  let found ← inReach .table "caption"
  endCaption
  if found then again else done

def inCaption : Rules origin :=
  { usual with
    text := textInBody
    start := fun tag => do
      if tag.name == "html" then
        startHtml tag
        done
      else if Elements.tableStarts.contains tag.name then leaveCaption
      else startInBody tag
    close := fun tag => do
      match tag.name with
      | "caption" => do
        endCaption
        done
      | "table" => leaveCaption
      | "body" | "col" | "colgroup" | "html" | "tbody" | "td" | "tfoot" | "th" | "thead"
      | "tr" => do
        faultAt "unexpected-end-tag" tag.name
        done
      | name => endInBody name
    finish := finishInBody }

-- Closes a group of columns, if it is not the container itself.
def leaveColumns : Construct origin Reply := do
  if ← currentIs ["html"] then
    fragmentOnly
    faultUnnamed
    done
  else
    pop
    goto .inTable
    again

def inColumnGroup : Rules origin :=
  { usual with
    text := fun _ => leaveColumns
    start := fun tag => do
      match tag.name with
      | "html" => do
        startHtml tag
        done
      | "col" => do
        insertVoid tag
        acknowledge tag
        done
      | _ => leaveColumns
    close := fun tag => do
      match tag.name with
      | "colgroup" => do
        discard leaveColumns
        done
      | "col" => do
        faultAt "no-end-tag" "col"
        done
      | _ => leaveColumns
    finish := do
      if ← currentIs ["html"] then
        fragmentOnly
        done
      else leaveColumns }

def startRow (tag : Tag) : Construct origin Unit := do
  clearToRowGroup
  insertElement tag
  goto .inRow

def inTableBody : Rules origin :=
  { inTable with
    start := fun tag => do
      match tag.name with
      | "tr" => do
        startRow tag
        done
      | "td" | "th" => do
        faultAt "unexpected-cell-in-table-body" tag.name
        startRow (.imply "tr")
        again
      | "caption" | "col" | "colgroup" | "tbody" | "tfoot" | "thead" => leaveRowGroup
      | _ => startInTable tag
    close := fun tag => do
      match tag.name with
      | "tbody" | "tfoot" | "thead" => do
        endRowGroup tag.name
        done
      | "table" => leaveRowGroup
      | "body" | "caption" | "col" | "colgroup" | "html" | "td" | "th" | "tr" => do
        faultAt "unexpected-end-tag-in-table-body" tag.name
        done
      | name => endInTable name }

def inRow : Rules origin :=
  { inTable with
    start := fun tag => do
      match tag.name with
      | "td" | "th" => do
        clearToRow
        insertElement tag
        goto .inCell
        update Progress.markFormatting
        done
      | "caption" | "col" | "colgroup" | "tbody" | "tfoot" | "thead" | "tr" => leaveRow
      | _ => startInTable tag
    close := fun tag => do
      match tag.name with
      | "tr" => do
        endRow
        done
      | "table" => leaveRow
      | "tbody" | "tfoot" | "thead" => do
        if ← inReach .table tag.name then
          endRow
          again
        else
          faultUnnamed
          done
      | "body" | "caption" | "col" | "colgroup" | "html" | "td" | "th" => do
        faultAt "unexpected-end-tag-in-table-row" tag.name
        done
      | name => endInTable name }

def endCell (name : String) : Construct origin Unit := do
  if ← inReach .table name then
    closeImpliedExcept name
    if !(← currentIs [name]) then faultAt "unexpected-cell-end-tag" name
    popThroughNamed name
    clearFormatting
    goto .inRow
  else faultAt "unexpected-end-tag" name

-- Closes the cell that is open.
def closeCell : Construct origin Unit := do
  if ← inReach .table "td" then endCell "td"
  else if ← inReach .table "th" then endCell "th"

def inCell : Rules origin :=
  { usual with
    text := textInBody
    start := fun tag => do
      if tag.name == "html" then
        startHtml tag
        done
      else if Elements.tableStarts.contains tag.name then
        let p ← progress
        if p.inReach .table "td" || p.inReach .table "th" then
          closeCell
          again
        else
          fragmentOnly
          faultUnnamed
          done
      else startInBody tag
    close := fun tag => do
      match tag.name with
      | "td" | "th" => do
        endCell tag.name
        done
      | "body" | "caption" | "col" | "colgroup" | "html" => do
        faultAt "unexpected-end-tag" tag.name
        done
      | "table" | "tbody" | "tfoot" | "thead" | "tr" => do
        if ← inReach .table tag.name then
          closeCell
          again
        else
          faultUnnamed
          done
      | name => endInBody name
    finish := finishInBody }

end HtmlTree.Rules

import HtmlTree.Construct.Body

namespace HtmlTree.Rules

open Construct

variable {origin : Forest}

def endSelect : Construct origin Unit := do
  if ← inReach .select "select" then
    popThroughNamed "select"
    resetMode
  else
    fragmentOnly
    faultUnnamed

def popIf (name : String) : Construct origin Unit := do
  if ← currentIs [name] then pop

def startInSelect (tag : Tag) : Construct origin Reply := do
  match tag.name with
  | "html" => do
    startHtml tag
    done
  | "option" => do
    popIf "option"
    insertElement tag
    done
  | "optgroup" => do
    popIf "option"
    popIf "optgroup"
    insertElement tag
    done
  | "select" => do
    fault "unexpected-select-in-select"
    endSelect
    done
  | "input" | "keygen" | "textarea" => do
    fault "unexpected-input-in-select"
    if ← inReach .select "select" then
      endSelect
      again
    else
      fragmentOnly
      done
  | "script" => startInHead tag
  | name => do
    faultAt "unexpected-start-tag-in-select" name
    done

def endInSelect (name : String) : Construct origin Reply := do
  match name with
  | "option" => do
    if ← currentIs ["option"] then pop else faultAt "unexpected-end-tag-in-select" "option"
    done
  | "optgroup" => do
    match ((← progress).openElements.take 2).map Site.name with
    | ["option", "optgroup"] => pop
    | _ => pure ()
    if ← currentIs ["optgroup"] then pop else faultAt "unexpected-end-tag-in-select" "optgroup"
    done
  | "select" => do
    endSelect
    done
  | _ => do
    faultAt "unexpected-end-tag-in-select" name
    done

def inSelect : Rules origin :=
  { usual with
    text := fun data => do
      if !isNull data then insertText data
      done
    start := startInSelect
    close := fun tag => endInSelect tag.name
    finish := do
      if ← currentIs ["html"] then fragmentOnly else fault "eof-in-select"
      done }

-- Tags of a table that end a list of choices inside of one.
def tableTags : List String :=
  ["caption", "table", "tbody", "tfoot", "thead", "tr", "td", "th"]

def inSelectInTable : Rules origin :=
  { inSelect with
    start := fun tag => do
      if tableTags.contains tag.name then
        faultAt "unexpected-table-element-start-tag-in-select-in-table" tag.name
        endSelect
        again
      else startInSelect tag
    close := fun tag => do
      if tableTags.contains tag.name then
        faultAt "unexpected-table-element-end-tag-in-select-in-table" tag.name
        if ← inReach .table tag.name then
          endSelect
          again
        else done
      else endInSelect tag.name }

end HtmlTree.Rules

import HtmlTree.Construct.Body

namespace HtmlTree.Rules

open Construct

variable {origin : Forest}

-- What comes after the body belongs into it all the same.
def backToBody (code : String) (slots : List (String × String)) : Construct origin Reply := do
  faultWith code slots
  goto .inBody
  again

def afterBody : Rules origin :=
  { usual with
    text := fun _ => backToBody "unexpected-char-after-body" []
    comment := fun data => do
      match (← progress).root? with
      | some root => insertCommentInto root data
      | none => throw .stuck
      done
    start := fun tag => do
      if tag.name == "html" then
        startHtml tag
        done
      else backToBody "unexpected-start-tag-after-body" [("name", tag.name)]
    close := fun tag => do
      if tag.name == "html" then
        if (← progress).isFragment then fault "unexpected-end-tag-after-body-innerhtml"
        else goto .afterAfterBody
        done
      else backToBody "unexpected-end-tag-after-body" [("name", tag.name)] }

def afterAfterBody : Rules origin :=
  { usual with
    space := spaceInBody
    text := fun _ => backToBody "expected-eof-but-got-char" []
    comment := fun data => do
      insertCommentInDocument data
      done
    start := fun tag => do
      if tag.name == "html" then
        startHtml tag
        done
      else backToBody "expected-eof-but-got-start-tag" [("name", tag.name)]
    close := fun tag => backToBody "expected-eof-but-got-end-tag" [("name", tag.name)] }

def inFrameset : Rules origin :=
  { usual with
    text := fun _ => do
      fault "unexpected-char-in-frameset"
      done
    start := fun tag => do
      match tag.name with
      | "html" => do
        startHtml tag
        done
      | "frameset" => do
        insertElement tag
        done
      | "frame" => do
        insertVoid tag
        done
      | "noframes" => startInBody tag
      | name => do
        faultAt "unexpected-start-tag-in-frameset" name
        done
    close := fun tag => do
      if tag.name == "frameset" then
        if ← currentIs ["html"] then fault "unexpected-frameset-in-frameset-innerhtml" else pop
        let p ← progress
        if !p.isFragment && p.currentName != "frameset" then goto .afterFrameset
      else faultAt "unexpected-end-tag-in-frameset" tag.name
      done
    finish := do
      if ← currentIs ["html"] then fragmentOnly else fault "eof-in-frameset"
      done }

def afterFrameset : Rules origin :=
  { usual with
    text := fun _ => do
      fault "unexpected-char-after-frameset"
      done
    start := fun tag => do
      match tag.name with
      | "html" => do
        startHtml tag
        done
      | "noframes" => startInHead tag
      | name => do
        faultAt "unexpected-start-tag-after-frameset" name
        done
    close := fun tag => do
      if tag.name == "html" then goto .afterAfterFrameset
      else faultAt "unexpected-end-tag-after-frameset" tag.name
      done }

def afterAfterFrameset : Rules origin :=
  { usual with
    space := spaceInBody
    text := fun _ => do
      fault "expected-eof-but-got-char"
      done
    comment := fun data => do
      insertCommentInDocument data
      done
    start := fun tag => do
      match tag.name with
      | "html" => do
        startHtml tag
        done
      | "noframes" => startInHead tag
      | name => do
        faultAt "expected-eof-but-got-start-tag" name
        done
    close := fun tag => do
      faultAt "expected-eof-but-got-end-tag" tag.name
      done }

end HtmlTree.Rules

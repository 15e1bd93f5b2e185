import HtmlTree.Construct.Doctypes
import HtmlTree.Construct.Rules

namespace HtmlTree.Rules

open Construct

variable {origin : Forest}

-- Before anything has been read. All but a doctype belongs to what comes after it.
def initial : Rules origin where
  space _ := done
  text _ := missing "expected-doctype-but-got-chars" []
  comment data := do
    insertCommentInDocument data
    done
  doctype d := do
    if !d.isPlain then fault "unknown-doctype"
    let site ← make (.doctype (some d.name))
    act (.append (← builder).document site)
    update fun p => { p with looseDoctype := d.isLoose, mode := .beforeHtml }
    done
  start tag := missing "expected-doctype-but-got-start-tag" [("name", tag.name)]
  close tag := missing "expected-doctype-but-got-end-tag" [("name", tag.name)]
  finish := missing "expected-doctype-but-got-eof" []
where
  missing (code : String) (slots : List (String × String)) : Construct origin Reply := do
    faultWith code slots
    update fun p => { p with looseDoctype := true, mode := .beforeHtml }
    again

def beforeHtml : Rules origin :=
  let implied : Construct origin Reply := do
    insertRoot
    again
  { usual with
    space := fun _ => done
    text := fun _ => implied
    comment := fun data => do
      insertCommentInDocument data
      done
    start := fun tag => do
      if tag.name == "html" then update ({ · with rootTag := true })
      implied
    close := fun tag => do
      if ["head", "body", "html", "br"].contains tag.name then implied
      else
        faultAt "unexpected-end-tag-before-html" tag.name
        done
    finish := implied }

-- Opens the head.
def openHead (tag : Tag) : Construct origin Unit := do
  insertElement tag
  update fun p => { p with head := p.current?, mode := .inHead }

def beforeHead : Rules origin :=
  let implied : Construct origin Reply := do
    openHead (.imply "head")
    again
  { usual with
    space := fun _ => done
    text := fun _ => implied
    start := fun tag => do
      match tag.name with
      | "html" => do
        startHtml tag
        done
      | "head" => do
        openHead tag
        done
      | _ => implied
    close := fun tag => do
      if ["head", "body", "html", "br"].contains tag.name then implied
      else
        faultAt "end-tag-after-implied-root" tag.name
        done
    finish := implied }

-- The encoding that a meta tag declares.
def declaredLabel (tag : Tag) : Option String :=
  match tag.attr? "charset" with
  | some label => some label
  | none => do
    let content ← tag.attr? "content"
    let equiv ← tag.attr? "http-equiv"
    if Text.lower equiv == "content-type" then
      Source.charsetIn (Text.lowerAscii content).toList
    else none

-- While the encoding is a guess, a declaration can confirm it, or tell that all has to be read
-- again. One of two bytes to the character is passed over.
def heedDeclared (tag : Tag) : Construct origin Unit := do
  match (← progress).guessed with
  | none => pure ()
  | some guess =>
    match (declaredLabel tag).bind Source.Encoding.ofLabel? with
    | none => pure ()
    | some e =>
      if e.isUtf16 then pure ()
      else if e == guess then update ({ · with guessed := none })
      else throw (.reread e)

-- Closes the head.
def endHead : Construct origin Unit := do
  if !(← currentIs ["head"]) then throw .stuck
  pop
  goto .afterHead

-- Start tags of the head's own elements. They mean the same wherever they are let in.
def startInHead (tag : Tag) : Construct origin Reply := do
  match tag.name with
  | "html" => do
    startHtml tag
    done
  | "title" => do
    insertTextElement tag .rcdata
    done
  | "noframes" | "style" => do
    insertTextElement tag .rawtext
    done
  | "noscript" => do
    insertElement tag
    goto .inHeadNoscript
    done
  | "script" => do
    insertTextElement tag .script
    done
  | "base" | "basefont" | "bgsound" | "command" | "link" => do
    insertVoid tag
    acknowledge tag
    done
  | "meta" => do
    insertVoid tag
    acknowledge tag
    heedDeclared tag
    done
  | "head" => do
    fault "two-heads-are-not-better-than-one"
    done
  | _ => do
    endHead
    again

def inHead : Rules origin :=
  let ended : Construct origin Reply := do
    endHead
    again
  { usual with
    text := fun _ => ended
    start := startInHead
    close := fun tag => do
      match tag.name with
      | "head" => do
        endHead
        done
      | "html" | "body" | "br" => ended
      | name => do
        faultAt "unexpected-end-tag" name
        done
    finish := ended }

def inHeadNoscript : Rules origin :=
  let endNoscript : Construct origin Unit := do
    if !(← currentIs ["noscript"]) then throw .stuck
    pop
    goto .inHead
  let ended (code : String) (slots : List (String × String)) : Construct origin Reply := do
    faultWith code slots
    endNoscript
    again
  { usual with
    text := fun _ => ended "char-in-head-noscript" []
    start := fun tag => do
      match tag.name with
      | "html" => do
        startHtml tag
        done
      | "basefont" | "bgsound" | "link" | "meta" | "noframes" | "style" => startInHead tag
      | "head" | "noscript" => do
        faultAt "unexpected-start-tag" tag.name
        done
      | name => ended "unexpected-inhead-noscript-tag" [("name", name)]
    close := fun tag => do
      match tag.name with
      | "noscript" => do
        endNoscript
        done
      | "br" => ended "unexpected-inhead-noscript-tag" [("name", "br")]
      | name => do
        faultAt "unexpected-end-tag" name
        done
    finish := ended "eof-in-head-noscript" [] }

-- Reads a tag as if the head were still open.
def startBackInHead (tag : Tag) : Construct origin Reply := do
  faultAt "unexpected-start-tag-out-of-my-head" tag.name
  match (← progress).head with
  | none => throw .stuck
  | some head =>
    update (·.push head)
    discard (startInHead tag)
    update fun p => match p.openElements.find? (·.name == "head") with
      | some site => p.removeOpen site
      | none => p
    done

def afterHead : Rules origin :=
  let implied : Construct origin Reply := do
    insertElement (.imply "body")
    update fun p => { p with mode := .inBody, framesetOk := true }
    again
  { usual with
    text := fun _ => implied
    start := fun tag => do
      match tag.name with
      | "html" => do
        startHtml tag
        done
      | "body" => do
        noFrameset
        insertElement tag
        goto .inBody
        done
      | "frameset" => do
        insertElement tag
        goto .inFrameset
        done
      | "base" | "basefont" | "bgsound" | "link" | "meta" | "noframes" | "script" | "style"
      | "title" => startBackInHead tag
      | "head" => do
        faultAt "unexpected-start-tag" "head"
        done
      | _ => implied
    close := fun tag => do
      match tag.name with
      | "body" | "html" | "br" => implied
      | name => do
        faultAt "unexpected-end-tag" name
        done
    finish := implied }

end HtmlTree.Rules

import HtmlTree.Scan.Reference

namespace HtmlTree.Scan

def tagOpen : Scan Unit := do
  let c ← next
  let stray : Scan Unit := do
    fault "expected-tag-name"
    text ['<']
    back c
    goto .data
  match c with
  | none => stray
  | some d =>
    if d == '!' then goto .declaration
    else if d == '/' then goto .endTagOpen
    else if isLetter d then
      setDraft (.tag false (String.singleton d) [] false)
      goto .tagName
    else if d == '>' then
      fault "expected-tag-name-but-got-right-bracket"
      text ['<', '>']
      goto .data
    else if d == '?' then
      fault "expected-tag-name-but-got-question-mark"
      back c
      goto .bogusComment
    else stray

def endTagOpen : Scan Unit := do
  let c ← next
  match c with
  | none =>
    fault "expected-closing-tag-but-got-eof"
    text ['<', '/']
    goto .data
  | some d =>
    if isLetter d then
      setDraft (.tag true (String.singleton d) [] false)
      goto .tagName
    else if d == '>' then
      fault "expected-closing-tag-but-got-right-bracket"
      goto .data
    else
      emit (.fault ⟨"expected-closing-tag-but-got-char", [("data", .text (String.singleton d))]⟩)
      back c
      goto .bogusComment

def tagName : Scan Unit := do
  match ← next with
  | none =>
    fault "eof-in-tag-name"
    goto .data
  | some c =>
    if Text.isSpace c then goto .beforeAttrName
    else if c == '>' then emitTag
    else if c == '/' then goto .selfClosing
    else if c == null then
      fault "invalid-codepoint"
      pushName replacement
    else pushName c

-- Begins an attribute name with a character that may be out of place there.
def beginAttr (c : Char) (doubtful : Bool) (code : String) : Scan Unit := do
  if c == null then
    fault "invalid-codepoint"
    newAttr replacement
  else
    if doubtful then fault code
    newAttr c
  goto .attrName

def beforeAttrName : Scan Unit := do
  match ← next with
  | none =>
    fault "expected-attribute-name-but-got-eof"
    goto .data
  | some c =>
    if Text.isSpace c then discard (upTo (fun d => !Text.isSpace d))
    else if c == '>' then emitTag
    else if c == '/' then goto .selfClosing
    else
      let doubtful := c == '\'' || c == '"' || c == '=' || c == '<'
      beginAttr c doubtful "invalid-character-in-attribute-name"

-- The name just read is put into lower case and compared with those before it.
def finishAttrName : Scan Unit := do
  onTag fun name attrs sc => match attrs with
    | (key, value) :: rest => (name, (Text.lowerAscii key, value) :: rest, sc)
    | [] => (name, [], sc)
  match (← get).draft with
  | .tag _ _ ((key, _) :: rest) _ =>
    if rest.any (·.1 == key) then fault "duplicate-attribute"
  | _ => pure ()

def attrName : Scan Unit := do
  match ← next with
  | none =>
    fault "eof-in-attribute-name"
    goto .data
    finishAttrName
  | some c =>
    if c == '=' then
      goto .beforeAttrValue
      finishAttrName
    else if isLetter c then pushAttrName (c :: (← upTo (fun d => !isLetter d)))
    else if c == '>' then
      finishAttrName
      emitTag
    else if Text.isSpace c then
      goto .afterAttrName
      finishAttrName
    else if c == '/' then
      goto .selfClosing
      finishAttrName
    else if c == null then
      fault "invalid-codepoint"
      pushAttrName [replacement]
    else
      if c == '\'' || c == '"' || c == '<' then fault "invalid-character-in-attribute-name"
      pushAttrName [c]

def afterAttrName : Scan Unit := do
  match ← next with
  | none =>
    fault "expected-end-of-tag-but-got-eof"
    goto .data
  | some c =>
    if Text.isSpace c then discard (upTo (fun d => !Text.isSpace d))
    else if c == '=' then goto .beforeAttrValue
    else if c == '>' then emitTag
    else if c == '/' then goto .selfClosing
    else beginAttr c (c == '\'' || c == '"' || c == '<') "invalid-character-after-attribute-name"

def beforeAttrValue : Scan Unit := do
  let c ← next
  match c with
  | none =>
    fault "expected-attribute-value-but-got-eof"
    goto .data
  | some d =>
    if Text.isSpace d then discard (upTo (fun e => !Text.isSpace e))
    else if d == '"' || d == '\'' then goto (.quotedValue d)
    else if d == '&' then
      goto .bareValue
      back c
    else if d == '>' then
      fault "expected-attribute-value-but-got-right-bracket"
      emitTag
    else if d == null then
      fault "invalid-codepoint"
      pushAttrValue [replacement]
      goto .bareValue
    else
      if d == '=' || d == '<' || d == '\x60' then fault "equals-in-unquoted-attribute-value"
      pushAttrValue [d]
      goto .bareValue

def quotedValue (quote : Char) : Scan Unit := do
  match ← next with
  | none =>
    fault (if quote == '"' then "eof-in-attribute-value-double-quote"
      else "eof-in-attribute-value-single-quote")
    goto .data
  | some c =>
    if c == quote then goto .afterAttrValue
    else if c == '&' then referenceInValue quote
    else if c == null then
      fault "invalid-codepoint"
      pushAttrValue [replacement]
    else pushAttrValue (c :: (← upTo (fun d => d == quote || d == '&' || d == null)))

def endsBareRun (c : Char) : Bool :=
  c == '&' || c == '>' || c == '"' || c == '\'' || c == '=' || c == '<' || c == '\x60' ||
    c == null || Text.isSpace c

def bareValue : Scan Unit := do
  match ← next with
  | none =>
    fault "eof-in-attribute-value-no-quotes"
    goto .data
  | some c =>
    if Text.isSpace c then goto .beforeAttrName
    else if c == '&' then referenceInValue '>'
    else if c == '>' then emitTag
    else if c == null then
      fault "invalid-codepoint"
      pushAttrValue [replacement]
    else if endsBareRun c then
      fault "unexpected-character-in-unquoted-attribute-value"
      pushAttrValue [c]
    else pushAttrValue (c :: (← upTo endsBareRun))

def afterAttrValue : Scan Unit := do
  let c ← next
  match c with
  | none =>
    fault "unexpected-EOF-after-attribute-value"
    goto .data
  | some d =>
    if Text.isSpace d then goto .beforeAttrName
    else if d == '>' then emitTag
    else if d == '/' then goto .selfClosing
    else
      fault "unexpected-character-after-attribute-value"
      back c
      goto .beforeAttrName

def selfClosing : Scan Unit := do
  let c ← next
  match c with
  | none =>
    fault "unexpected-EOF-after-solidus-in-tag"
    goto .data
  | some d =>
    if d == '>' then
      onTag fun name attrs _ => (name, attrs, true)
      emitTag
    else
      fault "unexpected-character-after-solidus-in-tag"
      back c
      goto .beforeAttrName

end HtmlTree.Scan

import HtmlTree.Scan.Reference

namespace HtmlTree.Scan

-- Content states give `false` when the input has come to its end, which ends the scan; all other
-- states go back to content first.

def lost : Scan Bool := do
  fault "invalid-codepoint"
  text [replacement]
  pure true

def data : Scan Bool := do
  match ← next with
  | none => pure false
  | some c =>
    if c == '&' then goto .referenceInData
    else if c == '<' then goto .tagOpen
    else if c == null then
      fault "invalid-codepoint"
      text [null]
    else if Text.isSpace c then
      emit (.space (String.ofList (c :: (← upTo (fun d => !Text.isSpace d)))))
    else text (c :: (← upTo (fun d => d == '&' || d == '<' || d == null)))
    pure true

def rcdata : Scan Bool := do
  match ← next with
  | none => pure false
  | some c =>
    if c == '&' then do goto .referenceInRcdata; pure true
    else if c == '<' then do goto (.rawLess .rcdata); pure true
    else if c == null then lost
    else if Text.isSpace c then do
      emit (.space (String.ofList (c :: (← upTo (fun d => !Text.isSpace d)))))
      pure true
    else do
      text (c :: (← upTo (fun d => d == '&' || d == '<' || d == null)))
      pure true

-- Raw text and script alike, but for the end tag that they look for.
def raw (content : RawContent) : Scan Bool := do
  match ← next with
  | none => pure false
  | some c =>
    if c == '<' then do goto (.rawLess content); pure true
    else if c == null then lost
    else do
      text (c :: (← upTo (fun d => d == '<' || d == null)))
      pure true

def plaintext : Scan Bool := do
  match ← next with
  | none => pure false
  | some c =>
    if c == null then lost
    else do
      text (c :: (← upTo (· == null)))
      pure true

def home : RawContent → ScanState
  | .rcdata => .rcdata
  | .rawtext => .rawtext
  | .script => .script
  | .escaped => .escaped

def rawLess (content : RawContent) : Scan Unit := do
  let c ← next
  if c == some '/' then
    setBuffer []
    goto (.rawEndOpen content)
  else
    match content, c with
    | .script, some '!' =>
      text ['<', '!']
      goto .escapeStart
    | .escaped, some d =>
      if isLetter d then
        text ['<', d]
        setBuffer [d]
        goto .doubleStart
      else
        text ['<']
        back c
        goto .escaped
    | _, _ =>
      text ['<']
      back c
      goto (home content)

def rawEndOpen (content : RawContent) : Scan Unit := do
  let c ← next
  match c with
  | some d =>
    if isLetter d then
      setBuffer [d]
      goto (.rawEndName content)
    else
      text ['<', '/']
      back c
      goto (home content)
  | none =>
    text ['<', '/']
    goto (home content)

-- Only the end tag of the element that was opened last ends raw content.
def isAppropriate (s : Scanner) : Bool :=
  match s.draft with
  | .tag _ name _ _ => name.toList.map Text.asciiLower == s.buffer.map Text.asciiLower
  | _ => false

def rawEndName (content : RawContent) : Scan Unit := do
  let s ← get
  let appropriate := isAppropriate s
  let closing : Draft := .tag true (String.ofList s.buffer) [] false
  let c ← next
  let giveUp : Scan Unit := do
    text (['<', '/'] ++ s.buffer)
    back c
    goto (home content)
  match c with
  | none => giveUp
  | some d =>
    if Text.isSpace d && appropriate then
      setDraft closing
      goto .beforeAttrName
    else if d == '/' && appropriate then
      setDraft closing
      goto .selfClosing
    else if d == '>' && appropriate then
      setDraft closing
      emitTag
    else if isLetter d then pushBuffer d
    else giveUp

def escapeStart (dashed : Bool) : Scan Unit := do
  let c ← next
  if c == some '-' then
    text ['-']
    goto (if dashed then .escapedDashDash else .escapeStartDash)
  else
    back c
    goto .script

-- Script inside a comment. `dashes` counts the dashes just read, two standing for more.
def escaped (dashes : Nat) : Scan Unit := do
  match ← next with
  | none => goto .data
  | some c =>
    if c == '-' then
      text ['-']
      goto (if dashes = 0 then .escapedDash else .escapedDashDash)
    else if c == '<' then goto (.rawLess .escaped)
    else if c == '>' && dashes == 2 then
      text ['>']
      goto .script
    else if c == null then
      fault "invalid-codepoint"
      text [replacement]
      goto .escaped
    else if dashes = 0 then text (c :: (← upTo (fun d => d == '<' || d == '-' || d == null)))
    else
      text [c]
      goto .escaped

def endsWord (c : Char) : Bool := Text.isSpace c || c == '/' || c == '>'

def bufferIsScript (s : Scanner) : Bool :=
  s.buffer.map Text.asciiLower == ['s', 'c', 'r', 'i', 'p', 't']

-- A tag name inside escaped script: the name script turns double escaping on or off.
def doubleWord (onScript otherwise : ScanState) : Scan Unit := do
  let c ← next
  match c with
  | some d =>
    if endsWord d then
      text [d]
      goto (if bufferIsScript (← get) then onScript else otherwise)
    else if isLetter d then
      text [d]
      pushBuffer d
    else
      back c
      goto otherwise
  | none => goto otherwise

def double (dashes : Nat) : Scan Unit := do
  match ← next with
  | none =>
    fault "eof-in-script-in-script"
    goto .data
  | some c =>
    if c == '-' then
      text ['-']
      goto (if dashes = 0 then .doubleDash else .doubleDashDash)
    else if c == '<' then
      text ['<']
      goto .doubleLess
    else if c == '>' && dashes == 2 then
      text ['>']
      goto .script
    else if c == null then
      fault "invalid-codepoint"
      text [replacement]
      goto .double
    else
      text [c]
      goto .double

def doubleLess : Scan Unit := do
  let c ← next
  if c == some '/' then
    text ['/']
    setBuffer []
    goto .doubleEnd
  else
    back c
    goto .double

end HtmlTree.Scan

import HtmlTree.Scan

namespace HtmlTree.Scan

-- Everything up to the next bracket is a comment.
def bogusComment : Scan Unit := do
  let cs ← upTo (· == '>')
  emit (.comment (String.ofList (cs.map fun c => if c == null then replacement else c)))
  discard next
  goto .data

-- What begins with an exclamation mark: a comment, a doctype, or in foreign content a section of
-- character data. Anything else is given back and becomes a comment.
def declaration (foreign : Bool) : Scan Unit := do
  let c ← next
  let giveUp (read : List (Option Char)) : Scan Unit := do
    fault "expected-dashes-or-doctype"
    read.forM back
    goto .bogusComment
  match c with
  | some '-' =>
    let (read, whole) ← readWord false ['-'] [c]
    if whole then
      setDraft (.comment "")
      goto .commentStart
    else giveUp read
  | some 'd' | some 'D' =>
    let (read, whole) ← readWord true ['O', 'C', 'T', 'Y', 'P', 'E'] [c]
    if whole then
      setDraft (.doctype ⟨"", none, none, true⟩)
      goto .doctype
    else giveUp read
  | some '[' =>
    if foreign then
      let (read, whole) ← readWord false ['C', 'D', 'A', 'T', 'A', '['] [c]
      if whole then goto .cdata else giveUp read
    else giveUp [c]
  | _ => giveUp [c]

def endComment (code : String) : Scan Unit := do
  fault code
  emitComment

-- The beginning of a comment, where a bracket ends it at once. `dashed` tells that a dash has been
-- read.
def commentStart (dashed : Bool) : Scan Unit := do
  let held := if dashed then ['-'] else []
  match ← next with
  | none => endComment "eof-in-comment"
  | some c =>
    if c == '-' then goto (if dashed then .commentEnd else .commentStartDash)
    else if c == null then
      fault "invalid-codepoint"
      pushComment (held ++ [replacement])
    else if c == '>' then endComment "incorrect-comment"
    else
      pushComment (held ++ [c])
      goto .comment

def comment : Scan Unit := do
  match ← next with
  | none => endComment "eof-in-comment"
  | some c =>
    if c == '-' then goto .commentEndDash
    else if c == null then
      fault "invalid-codepoint"
      pushComment [replacement]
    else pushComment (c :: (← upTo (fun d => d == '-' || d == null)))

def commentEndDash : Scan Unit := do
  match ← next with
  | none => endComment "eof-in-comment-end-dash"
  | some c =>
    if c == '-' then goto .commentEnd
    else
      if c == null then fault "invalid-codepoint"
      pushComment ['-', if c == null then replacement else c]
      goto .comment

def commentEnd : Scan Unit := do
  match ← next with
  | none => endComment "eof-in-comment-double-dash"
  | some c =>
    if c == '>' then emitComment
    else if c == '!' then
      fault "unexpected-bang-after-double-dash-in-comment"
      goto .commentEndBang
    else if c == '-' then
      fault "unexpected-dash-after-double-dash-in-comment"
      pushComment ['-']
    else
      fault (if c == null then "invalid-codepoint" else "unexpected-char-in-comment")
      pushComment ['-', '-', if c == null then replacement else c]
      goto .comment

def commentEndBang : Scan Unit := do
  match ← next with
  | none => endComment "eof-in-comment-end-bang-state"
  | some c =>
    if c == '>' then emitComment
    else if c == '-' then
      pushComment ['-', '-', '!']
      goto .commentEndDash
    else
      if c == null then fault "invalid-codepoint"
      pushComment ['-', '-', '!', if c == null then replacement else c]
      goto .comment

def doctype : Scan Unit := do
  let c ← next
  match c with
  | none => emitSpoiltDoctype "expected-doctype-name-but-got-eof"
  | some d =>
    if Text.isSpace d then goto .beforeDoctypeName
    else
      fault "need-space-after-doctype"
      back c
      goto .beforeDoctypeName

def beforeDoctypeName : Scan Unit := do
  match ← next with
  | none => emitSpoiltDoctype "expected-doctype-name-but-got-eof"
  | some c =>
    if Text.isSpace c then pure ()
    else if c == '>' then emitSpoiltDoctype "expected-doctype-name-but-got-right-bracket"
    else
      if c == null then fault "invalid-codepoint"
      onDoctype ({ · with name := String.singleton (if c == null then replacement else c) })
      goto .doctypeName

def lowerDoctypeName : Scan Unit := onDoctype fun d => { d with name := Text.lowerAscii d.name }

def doctypeName : Scan Unit := do
  match ← next with
  | none =>
    fault "eof-in-doctype-name"
    onDoctype ({ · with correct := false })
    lowerDoctypeName
    emitDoctype
  | some c =>
    if Text.isSpace c then
      lowerDoctypeName
      goto .afterDoctypeName
    else if c == '>' then
      lowerDoctypeName
      emitDoctype
    else
      if c == null then fault "invalid-codepoint"
      onDoctype fun d => { d with name := d.name.push (if c == null then replacement else c) }

-- After the name only the words public and system mean anything.
def afterDoctypeName : Scan Unit := do
  let c ← next
  let giveUp (last : Option Char) : Scan Unit := do
    back last
    emit (.fault ⟨"expected-space-or-right-bracket-in-doctype",
      [("data", match last with
        | some d => .text (String.singleton d)
        | none => .absent)]⟩)
    onDoctype ({ · with correct := false })
    goto .bogusDoctype
  let keyword (word : List Char) (isPublic : Bool) : Scan Unit := do
    let (read, whole) ← readWord true word [c]
    if whole then goto (.afterKeyword isPublic) else giveUp (read.head?.getD none)
  match c with
  | none => emitSpoiltDoctype "eof-in-doctype"
  | some d =>
    if Text.isSpace d then pure ()
    else if d == '>' then emitDoctype
    else if d == 'p' || d == 'P' then keyword ['U', 'B', 'L', 'I', 'C'] true
    else if d == 's' || d == 'S' then keyword ['Y', 'S', 'T', 'E', 'M'] false
    else giveUp c

def afterKeyword (isPublic : Bool) : Scan Unit := do
  let c ← next
  match c with
  | none => emitSpoiltDoctype "eof-in-doctype"
  | some d =>
    if Text.isSpace d then goto (.beforeIdentifier isPublic)
    else
      if d == '"' || d == '\'' then fault "unexpected-char-in-doctype"
      back c
      goto (.beforeIdentifier isPublic)

def openIdentifier (isPublic : Bool) (quote : Char) : Scan Unit := do
  onDoctype fun d =>
    if isPublic then { d with publicId := some "" } else { d with systemId := some "" }
  goto (.quotedIdentifier isPublic quote)

def spoilDoctype : Scan Unit := do
  fault "unexpected-char-in-doctype"
  onDoctype ({ · with correct := false })
  goto .bogusDoctype

def beforeIdentifier (isPublic : Bool) : Scan Unit := do
  match ← next with
  | none => emitSpoiltDoctype "eof-in-doctype"
  | some c =>
    if Text.isSpace c then pure ()
    else if c == '"' || c == '\'' then openIdentifier isPublic c
    else if c == '>' then
      emitSpoiltDoctype (if isPublic then "unexpected-end-of-doctype"
        else "unexpected-char-in-doctype")
    else spoilDoctype

def quotedIdentifier (isPublic : Bool) (quote : Char) : Scan Unit := do
  match ← next with
  | none => emitSpoiltDoctype "eof-in-doctype"
  | some c =>
    if c == quote then goto (if isPublic then .afterPublicIdentifier else .afterSystemIdentifier)
    else if c == '>' then emitSpoiltDoctype "unexpected-end-of-doctype"
    else
      if c == null then fault "invalid-codepoint"
      let c := if c == null then replacement else c
      onDoctype fun d =>
        if isPublic then { d with publicId := d.publicId.map (·.push c) }
        else { d with systemId := d.systemId.map (·.push c) }

-- Between the two identifiers; right after the first one a second one should not follow at once.
def betweenIdentifiers (atOnce : Bool) : Scan Unit := do
  match ← next with
  | none => emitSpoiltDoctype "eof-in-doctype"
  | some c =>
    if Text.isSpace c then
      if atOnce then goto .betweenIdentifiers
    else if c == '>' then emitDoctype
    else if c == '"' || c == '\'' then
      if atOnce then fault "unexpected-char-in-doctype"
      openIdentifier false c
    else spoilDoctype

def afterSystemIdentifier : Scan Unit := do
  match ← next with
  | none => emitSpoiltDoctype "eof-in-doctype"
  | some c =>
    if Text.isSpace c then pure ()
    else if c == '>' then emitDoctype
    else
      fault "unexpected-char-in-doctype"
      goto .bogusDoctype

def bogusDoctype : Scan Unit := do
  match ← next with
  | none => emitDoctype
  | some c => if c == '>' then emitDoctype

-- Reads up to two closing brackets and an angle bracket, or to the end of the input.
def cdataText : Nat → List Char → Scan (List Char)
  | 0, read => pure read
  | fuel + 1, read => do
    let before ← upTo (· == ']')
    let brackets ← upTo (· == '>')
    let read := read ++ before
    match ← next with
    | none => pure (read ++ brackets)
    | some _ =>
      match brackets.reverse with
      | ']' :: ']' :: kept => pure (read ++ kept.reverse)
      | _ => cdataText fuel (read ++ brackets ++ ['>'])

def cdata : Scan Unit := do
  let bound := (← get).cursor.remaining + 1
  let cs ← cdataText bound []
  (List.range (cs.count null)).forM fun _ => fault "invalid-codepoint"
  if !cs.isEmpty then text (cs.map fun c => if c == null then replacement else c)
  goto .data

end HtmlTree.Scan

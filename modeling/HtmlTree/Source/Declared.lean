import HtmlTree.Source.Encoding

namespace HtmlTree.Source

-- What follows the first place where a word stands.
def after? (word : List Char) : List Char → Option (List Char)
  | [] => if word.isEmpty then some [] else none
  | c :: cs =>
    if word.isPrefixOf (c :: cs) then some ((c :: cs).drop word.length) else after? word cs

def afterStart? (word : String) (cs : List Char) : Option (List Char) :=
  if word.toList.isPrefixOf cs then some (cs.drop word.length) else none

-- The label in a content attribute: what stands after "charset" and an equals sign, in quotes or up
-- to a space. The text is in lower case.
def charsetIn (content : List Char) : Option String := do
  let rest := (← after? "charset".toList content).dropWhile Text.isSpace
  let value := (← afterStart? "=" rest).dropWhile Text.isSpace
  match value with
  | [] => none
  | c :: cs =>
    if c == '"' || c == '\'' then
      if cs.contains c then some (String.ofList (cs.takeWhile (· != c))) else none
    else some (String.ofList (value.takeWhile (fun d => !Text.isSpace d)))

-- The value of an attribute from behind its equals sign, and what follows. There is none if the
-- text comes to its end first.
def attributeValue (cs : List Char) : Option (List Char × List Char) :=
  match cs.dropWhile Text.isSpace with
  | [] => none
  | c :: rest =>
    if c == '"' || c == '\'' then
      match rest.dropWhile (· != c) with
      | _ :: d :: more => some (rest.takeWhile (· != c), d :: more)
      | _ => none
    else if c == '>' then some ([], c :: rest)
    else
      let inside (d : Char) : Bool := !(Text.isSpace d || d == '<' || d == '>')
      match rest.dropWhile inside with
      | [] => none
      | more => some (c :: rest.takeWhile inside, more)

-- What comes next inside a tag: an attribute, the end of the tag, or the end of the text.
inductive InTag where
  | attribute (name value : String) (rest : List Char)
  | closed (rest : List Char)
  | cut
deriving DecidableEq, Repr

def InTag.make (name : List Char) : Option (List Char × List Char) → InTag
  | some (value, rest) => .attribute (String.ofList name) (String.ofList value) rest
  | none => .cut

def InTag.read (cs : List Char) : InTag :=
  match cs.dropWhile (fun c => Text.isSpace c || c == '/') with
  | [] => .cut
  | '>' :: rest => .closed rest
  | c :: rest =>
    let inside (d : Char) : Bool := !(d == '=' || Text.isSpace d || d == '/' || d == '>')
    let name := c :: rest.takeWhile inside
    match rest.dropWhile inside with
    | [] => .cut
    | d :: more =>
      if d == '=' then .make name (attributeValue more)
      else if Text.isSpace d then
        match more.dropWhile Text.isSpace with
        | [] => .cut
        | '=' :: value => .make name (attributeValue value)
        | rest => .make name (some ([], rest))
      else .make name (some ([], d :: more))

-- The attributes of a tag, and what follows the tag if it is closed.
def tagAttributes : Nat → List Char → List (String × String) × Option (List Char)
  | 0, _ => ([], none)
  | fuel + 1, cs =>
    match InTag.read cs with
    | .attribute name value rest =>
      let (others, rest) := tagAttributes fuel rest
      ((name, value) :: others, rest)
    | .closed rest => ([], some rest)
    | .cut => ([], none)

-- The encoding that the attributes of a meta tag declare: a charset, or a charset in the content
-- next to the word that says that the content tells the type. `pending` waits for that word.
def declaredBy : Bool → Option Encoding → List (String × String) → Option Encoding
  | _, _, [] => none
  | pragma, pending, (name, value) :: rest =>
    if name == "http-equiv" then
      let pragma := value == "content-type"
      match pragma, pending with
      | true, some e => some e
      | _, _ => declaredBy pragma pending rest
    else if name == "charset" then
      match Encoding.ofLabel? value with
      | some e => some e
      | none => declaredBy pragma pending rest
    else if name == "content" then
      match (charsetIn value.toList).bind Encoding.ofLabel? with
      | some e => if pragma then some e else declaredBy pragma (some e) rest
      | none => declaredBy pragma pending rest
    else declaredBy pragma pending rest

-- Where to look on after something that is no meta tag, if the text goes on.
def pastTag (cs : List Char) : Option (List Char) :=
  match cs.dropWhile (fun c => !(Text.isSpace c || c == '<' || c == '>')) with
  | [] => none
  | '<' :: rest => some ('<' :: rest)
  | rest => (tagAttributes rest.length rest).2

-- Looks through text in lower case for a meta tag that declares an encoding. Comments,
-- declarations and the attributes of other tags are passed over.
def findDeclared : Nat → List Char → Option Encoding
  | 0, _ => none
  | fuel + 1, cs =>
    let here := cs.dropWhile (· != '<')
    let onward (rest : Option (List Char)) : Option Encoding := rest.bind (findDeclared fuel)
    if let some rest := afterStart? "<!--" here then onward (after? "-->".toList rest)
    else if let some rest := afterStart? "<meta" here then
      match rest with
      | [] => none
      | c :: more =>
        if Text.isSpace c then
          let (attrs, rest) := tagAttributes rest.length rest
          match declaredBy false none attrs with
          | some e => some e
          | none => onward rest
        else onward (some more)
    else if let some rest := afterStart? "</" here then
      match rest with
      | _ :: c :: more =>
        if c.isAlpha then onward (pastTag (c :: more)) else onward (after? [ '>'] rest)
      | _ => none
    else if let some rest := afterStart? "<!" here then onward (after? [ '>'] rest)
    else if let some rest := afterStart? "<?" here then onward (after? [ '>'] rest)
    else
      match here with
      | _ :: c :: more => if c.isAlpha then onward (pastTag (c :: more)) else onward (some more)
      | _ => none

-- How many bytes are looked through for a declaration.
def declaredWithin : Nat := 1024

-- The encoding that a document declares in its first bytes. One that has two bytes to the
-- character cannot have been meant.
def declared? (bytes : List UInt8) : Option Encoding :=
  let text := (bytes.take declaredWithin).map fun b => Text.asciiLower (Char.ofNat b.toNat)
  (findDeclared (text.length + 1) text).map fun e => if e.isUtf16 then .utf8 else e

-- How a document in bytes is to be read: its encoding, whether that is sure, and the bytes that
-- are text.
structure Reading where
  encoding : Encoding
  sure : Bool
  bytes : List UInt8
deriving DecidableEq, Repr

-- A mark in front of the text settles the encoding and is no part of the text. After it count the
-- label that was given, what the document declares, and at last the usual encoding. The marks of
-- four bytes name no encoding that is known here.
def Reading.choose (label : Option String) (bytes : List UInt8) : Reading :=
  match bytes with
  | 0xEF :: 0xBB :: 0xBF :: rest => ⟨.utf8, true, rest⟩
  | 0xFF :: 0xFE :: 0x00 :: 0x00 :: rest => guess rest
  | 0x00 :: 0x00 :: 0xFE :: 0xFF :: rest => guess rest
  | 0xFF :: 0xFE :: rest => ⟨.utf16le, true, rest⟩
  | 0xFE :: 0xFF :: rest => ⟨.utf16be, true, rest⟩
  | _ => guess bytes
where
  guess (rest : List UInt8) : Reading :=
    match label.bind Encoding.ofLabel? with
    | some e => ⟨e, true, rest⟩
    | none => ⟨(declared? rest).getD .usual, false, bytes⟩

end HtmlTree.Source

import HtmlTree.Construct.Place

namespace HtmlTree

-- What each kind of token means in a mode, and what the end of the input does.
structure Rules (origin : Forest) where
  space : String → Construct origin Reply
  text : String → Construct origin Reply
  comment : String → Construct origin Reply
  doctype : Doctype → Construct origin Reply
  start : Tag → Construct origin Reply
  close : Tag → Construct origin Reply
  finish : Construct origin Reply

namespace Rules

variable {origin : Forest}

-- In most modes text and comments go into the current element and a doctype is out of place.
def usual : Rules origin where
  space data := do Construct.insertText data; Construct.done
  text data := do Construct.insertText data; Construct.done
  comment data := do Construct.insertComment data; Construct.done
  doctype _ := do Construct.fault "unexpected-doctype"; Construct.done
  start _ := Construct.done
  close _ := Construct.done
  finish := Construct.done

end Rules

-- Text that is a null character counts as nothing in most places.
def isNull (data : String) : Bool := data == "\x00"

def isAllSpace (data : String) : Bool := data.toList.all Text.isSpace

end HtmlTree

import HtmlTree.Attributes
import HtmlTree.Diagnostic

namespace HtmlTree

-- A start or end tag. An implied one was not written but is acted on as if it had been.
structure Tag where
  name : String
  attrs : List (String × String)
  selfClosing : Bool
  implied : Bool
deriving DecidableEq, Repr, Inhabited

namespace Tag

def imply (name : String) : Tag := ⟨name, [], false, true⟩

def attr? (t : Tag) (name : String) : Option String := t.attrs.lookup name

def attributes (t : Tag) : Attributes := .ofPairs (t.attrs.map fun a => (a.1, some a.2))

end Tag

structure Doctype where
  name : String
  publicId : Option String
  systemId : Option String
  correct : Bool
deriving DecidableEq, Repr, Inhabited

-- The pieces that markup falls into. White space at the beginning of a run of text is a piece of
-- its own.
inductive Token where
  | doctype (d : Doctype)
  | text (data : String)
  | space (data : String)
  | start (tag : Tag)
  | close (tag : Tag)
  | comment (data : String)
  | fault (f : Fault)
  -- a number with more digits than are ever read
  | overlong
deriving DecidableEq, Repr

end HtmlTree

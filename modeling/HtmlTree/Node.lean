import HtmlTree.Attributes

namespace HtmlTree

-- Nodes are named by their place in the forest that holds them.
abbrev NodeId := Nat

-- What a node is made as. Its name says what it stands for in a document; the kind says which
-- parts it has.
inductive Kind where
  | text
  | plain
  | element
  | template
deriving DecidableEq, Repr, Inhabited

namespace Kind

-- Text nodes are leaves for good: they have no place for attributes or children.
def isBranch : Kind → Bool
  | .text => false
  | _ => true

def isElement : Kind → Bool
  | .element | .template => true
  | _ => false

def label : Kind → String
  | .text => "TextNode"
  | .plain => "SimpleDomNode"
  | .element => "ElementNode"
  | .template => "TemplateNode"

end Kind

-- One node with its links. A missing children list is not the same as an empty one, and links may
-- disagree with each other: that they agree is a property of a forest, not of this record.
structure Node where
  kind : Kind
  -- what constructors make has a name; it can be taken away later
  name? : Option String
  ns : Option String
  data : Option String
  attrs : Option Attributes
  -- a number if other nodes can have the same table of attributes, so that what is written into it
  -- shows at all of them; without one the table is the node's own
  table : Option Nat
  parent : Option NodeId
  children : Option (List NodeId)
  content : Option NodeId
deriving DecidableEq, Repr, Inhabited

namespace Node

def textName : String := "#text"
def commentName : String := "#comment"
def documentName : String := "#document"
def fragmentName : String := "#document-fragment"
def doctypeName : String := "!doctype"

-- The name as it is written. A node without one is written as None.
def name (n : Node) : String := n.name?.getD "None"

def isNamed (n : Node) : Bool := n.name?.isSome

def isText (n : Node) : Bool := n.name == textName
def isComment (n : Node) : Bool := n.name == commentName
def isDocument (n : Node) : Bool := n.name == documentName
def isFragment (n : Node) : Bool := n.name == fragmentName

-- Whether a name is a tag name and not one of the marked names of other nodes.
def isTagName (name : String) : Bool := name.toList.head? != some '#' && name != doctypeName

def isElement (n : Node) : Bool := isTagName n.name

-- Documents, fragments and elements are searched through and normalized.
def isContainer (n : Node) : Bool := n.isElement || n.isDocument || n.isFragment

-- The data of a node that carries its own text, an absent one counting as empty.
def ownText (n : Node) : String := n.data.getD ""

def newText (data : Option String) : Node :=
  ⟨.text, some textName, none, data, none, none, none, none, none⟩

-- Documents, fragments, comments and doctypes. Comments and doctypes have neither attributes nor
-- a children list, and a tag name falls into the html namespace by default.
def newPlain (name : String) (attrs : Option Attributes) (data ns : Option String) : Node :=
  if name == commentName || name == doctypeName then
    ⟨.plain, some name, ns, data, none, none, none, none, none⟩
  else if isTagName name then
    let ns := match ns with
      | some given => if given.isEmpty then "html" else given
      | none => "html"
    ⟨.plain, some name, some ns, data, some (attrs.getD .empty), none, none, some [], none⟩
  else ⟨.plain, some name, ns, data, some (attrs.getD .empty), none, none, some [], none⟩

def newComment (data : Option String) : Node := newPlain commentName none data none
def newDoctype (data : Option String) : Node := newPlain doctypeName none data none
def newFragment : Node := newPlain fragmentName none none none
def newDocument : Node := newPlain documentName none none none

def newElement (name : Option String) (attrs : Option Attributes) (ns : Option String) : Node :=
  ⟨.element, name, ns, none, some (attrs.getD .empty), none, none, some [], none⟩

-- A template in the html namespace keeps its parsed children in a content fragment.
def newTemplate (name : Option String) (attrs : Option Attributes) (ns : Option String)
    (content : Option NodeId) : Node :=
  ⟨.template, name, ns, none, some (attrs.getD .empty), none, none, some [], content⟩

end Node
end HtmlTree

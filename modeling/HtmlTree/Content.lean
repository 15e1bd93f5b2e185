import HtmlTree.Walk
import HtmlTree.Text.Blank

namespace HtmlTree.Forest

-- The text directly inside a node. Texts and comments give their own.
def directText (f : Forest) (n : NodeId) : String :=
  let node := f.node n
  if node.isText || node.isComment then node.ownText
  else String.join (((node.children.getD []).filter fun c => (f.node c).isText).map
    fun c => (f.node c).ownText)

-- The text of all text nodes below a node, in document order. Texts and comments give their own.
def textContent (f : Forest) (n : NodeId) : String :=
  let node := f.node n
  if node.isText || node.isComment then node.ownText
  else String.join (((f.depthFirst .visible n).filter fun c => (f.node c).isText).map
    fun c => (f.node c).ownText)

-- The value of a text or comment; other nodes have none of their own.
def ownText (f : Forest) (n : NodeId) : String :=
  let node := f.node n
  if node.kind == .text || node.isComment then node.ownText else ""

-- The segment that a text contributes, if any.
def segment (strip : Bool) (node : Node) : Option String :=
  let text := if strip then Text.strip node.ownText else node.ownText
  if node.isText && !text.isEmpty then some text else none

-- The texts of a tree, templates included, joined by a separator. A text node alone gives its own
-- text whatever the separator.
def readableText (f : Forest) (separator : String) (strip : Bool) (n : NodeId) : String :=
  let node := f.node n
  if node.kind == .text then
    if strip then Text.strip node.ownText else node.ownText
  else separator.intercalate
    ((f.depthFirst .templates n).filterMap fun c => segment strip (f.node c))

-- A value that was read off these nodes. There is none if a link led nowhere.
def readOff (f : Forest) (nodes : List NodeId) (value : α) : Except Failure α :=
  if nodes.all f.known then .ok value else .error .noNode

def directTextRead (f : Forest) (n : NodeId) : Except Failure String :=
  let node := f.node n
  let inside := if node.isText || node.isComment then [] else node.children.getD []
  f.readOff (n :: inside) (f.directText n)

def textContentRead (f : Forest) (n : NodeId) : Except Failure String :=
  let node := f.node n
  let inside := if node.isText || node.isComment then [n] else f.depthFirst .visible n
  f.readOff inside (f.textContent n)

def readableTextRead (f : Forest) (separator : String) (strip : Bool) (n : NodeId) :
    Except Failure String :=
  let inside := if (f.node n).kind == .text then [n] else f.depthFirst .templates n
  f.readOff inside (f.readableText separator strip n)

end HtmlTree.Forest

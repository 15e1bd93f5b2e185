import HtmlTree.Edit

namespace HtmlTree

-- A tree as a value, without identities: what two trees of a forest have in common when they look
-- the same. `content` is the inside of a template.
inductive Tree where
  | text (data : Option String)
  | comment (data : Option String)
  | doctype (data : Option String)
  | fragment (kids : List Tree)
  | document (kids : List Tree)
  | element (name : String) (ns : Option String) (attrs : Attributes) (kids : List Tree)
      (content : Option (List Tree))
deriving Repr, Inhabited

namespace Tree

mutual

-- Makes the nodes of a tree and links them, children in order.
def plant : Tree → Edit NodeId
  | .text data => Edit.make (.newText data)
  | .comment data => Edit.make (.newComment data)
  | .doctype data => Edit.make (.newDoctype data)
  | .fragment kids => do
    let n ← Edit.make .newFragment
    plantAll n kids
    pure n
  | .document kids => do
    let n ← Edit.make .newDocument
    plantAll n kids
    pure n
  | .element name ns attrs kids content => do
    let n ← Edit.makeElement (some name) ns
    modify (·.setAttrs n (some attrs))
    plantAll n kids
    match content, (← get).content n with
    | some inside, some holder => plantAll holder inside
    | some (_ :: _), none => throw .noNode
    | _, _ => pure ()
    pure n

-- Plants trees one after the other under a parent.
def plantAll (parent : NodeId) : List Tree → Edit Unit
  | [] => pure ()
  | tree :: rest => do
    let n ← plant tree
    Edit.append parent (some n)
    plantAll parent rest

end

end Tree

namespace Forest

-- The tree below a node, cut off at a depth.
def treeWithin (f : Forest) : Nat → NodeId → Tree
  | 0, _ => .fragment []
  | depth + 1, n =>
    let node := f.node n
    let kids := (node.children.getD []).map (f.treeWithin depth)
    if node.isText then .text node.data
    else if node.isComment then .comment node.data
    else if node.name == Node.doctypeName then .doctype node.data
    else if node.isFragment then .fragment kids
    else if node.isDocument then .document kids
    else .element node.name node.ns (node.attrs.getD .empty) kids
      (node.content.map fun fragment => ((f.children fragment).getD []).map (f.treeWithin depth))

def tree (f : Forest) (n : NodeId) : Tree := f.treeWithin f.reach n

-- Whether every child below a node, template contents included, names its container as parent.
def linksAgree (f : Forest) (n : NodeId) : Bool :=
  let owns (container : NodeId) : Bool :=
    ((f.children container).getD []).all fun child => f.parent child == some container
  (f.depthFirst .templates n).all fun m =>
    owns m && (match f.content m with
      | some fragment => owns fragment
      | none => true)

end Forest
end HtmlTree

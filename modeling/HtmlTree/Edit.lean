import HtmlTree.Walk

namespace HtmlTree

-- An operation on a forest. When it fails, the forest it leaves is the one it had made by then.
abbrev Edit := EStateM Failure Forest

namespace Edit

def make (new : Node) : Edit NodeId := fun f =>
  let made := f.alloc new
  .ok made.1 made.2

def lift (result : Except Failure α) : Edit α :=
  match result with
  | .ok value => pure value
  | .error failure => throw failure

-- An element of the html namespace named template comes with an empty content fragment.
def makeTemplate (name : Option String) (attrs : Option Attributes) (ns : Option String) :
    Edit NodeId := do
  if ns == some "html" then
    let fragment ← make .newFragment
    make (.newTemplate name attrs ns (some fragment))
  else make (.newTemplate name attrs ns none)

def makeElement (name ns : Option String) : Edit NodeId :=
  if name == some "template" && ns == some "html" then makeTemplate name none ns
  else make (.newElement name none ns)

-- What a node is made with for attributes: entries of a table of its own, or the table that a node
-- has already.
inductive Table where
  | own (entries : Option Attributes)
  | of (owner : NodeId)
deriving DecidableEq, Repr

-- The entries of a table. A node that has no table gives none.
def entriesIn : Table → Edit (Option Attributes)
  | .own entries => pure entries
  | .of owner => do
    let f ← get
    if !f.known owner then throw .noNode
    pure (f.attrs owner)

-- Makes a node with a table. The two nodes have it between them from then on.
def makeWith (table : Table) (create : Option Attributes → Edit NodeId) : Edit NodeId := do
  let n ← create (← entriesIn table)
  match table with
  | .own _ => pure ()
  | .of owner => modify (·.shareAttrs n owner)
  pure n

-- The children a node owns.
def owned (parent : NodeId) : Edit (List NodeId) := do
  match (← get).children parent with
  | some children => pure children
  | none => throw (.hierarchy .nodeCannotHaveChildren parent)

-- Takes a node out of its parent's children. A node without a parent is left alone.
def detach (n : NodeId) : Edit Unit := do
  let f ← get
  if !f.known n then throw .noNode
  match f.parent n with
  | none => pure ()
  | some parent =>
    let (siblings, place) ← lift (f.placeIn parent n)
    modify fun f => (f.setChildren parent (some (siblings.eraseIdx place))).setParent n none

-- Empties a fragment and gives what it held.
def takeChildren (fragment : NodeId) : Edit (Option (List NodeId)) := do
  let f ← get
  if (f.node fragment).kind == .text then throw .unsupported
  else
    let moved := f.children fragment
    modify (·.setChildren fragment (some []))
    let count := (moved.getD []).length
    if 0 < count then modify (·.note (.splicing count))
    pure moved

-- The child at an index. A link that leads nowhere is no child.
def childAt (f : Forest) (children : List NodeId) (index : Nat) : Option NodeId :=
  children[index]?.filter f.known

-- The child to insert before, remembered before anything moves. When the new node itself stands
-- there, it is the next one.
def neighbour (f : Forest) (children : List NodeId) (index : Nat) (new : Option NodeId) :
    Option NodeId :=
  match childAt f children index with
  | some found => if new = some found then childAt f children (index + 1) else some found
  | none => none

-- Frees what is to be inserted from where it stands: a fragment gives its children, any other node
-- leaves its parent.
def release (parent : NodeId) (new : NodeId) : Edit (Option (List NodeId)) := do
  let f ← get
  if (f.ancestors parent).contains new then throw (.hierarchy .insertIntoDescendant new)
  else if (f.node new).isFragment then takeChildren new
  else
    match f.parent new with
    | none => pure (some [new])
    | some old =>
      modify (·.note (.detaching (f.summary new) (f.summary old)))
      detach new
      pure (some [new])

-- Puts a block of nodes before the reference, or at the end without one; `width` children from
-- there on give way.
def splice (parent : NodeId) (reference : Option NodeId) (block : Option (List NodeId))
    (width : Nat) : Edit (List NodeId) := do
  let children ← owned parent
  let place ← match reference with
    | none => pure children.length
    | some r => match children.idxOf? r with
      | some i => pure i
      | none => throw .notListed
  match block with
  | none => throw .missingPart
  | some nodes =>
    modify (·.setChildren parent
      (some (children.take place ++ nodes ++ children.drop (place + width))))
    pure nodes

-- Links nodes to their new parent, as far as they are nodes.
def adopt (parent : NodeId) (nodes : List NodeId) : Edit Unit := do
  let f ← get
  modify fun f => (nodes.takeWhile f.known).foldl (fun f n => f.setParent n (some parent)) f
  if !nodes.all f.known then throw .noNode

-- Inserts a node, or the children of a fragment, at an index, in place of the child there if asked
-- to. Gives the child that was replaced.
def insertNode (parent : NodeId) (index : Int) (new : Option NodeId) (replacing : Bool) :
    Edit (Option NodeId) := do
  let children ← owned parent
  let limit : Int := if replacing then (children.length : Int) - 1 else children.length
  if index < 0 ∨ limit < index then throw (.hierarchy .indexOutOfRange parent)
  else
    let f ← get
    let removed := if replacing then childAt f children index.toNat else none
    if replacing ∧ new = removed then pure removed
    else
      let reference := neighbour f children index.toNat new
      let block ← match new with
        | none => pure (some [])
        | some n => release parent n
      let nodes ← splice parent reference block (if replacing then 1 else 0)
      adopt parent nodes
      match removed with
      | some old => modify (·.setParent old none)
      | none => pure ()
      pure removed

-- Inserts before a child of the parent, or at the end when no child is given.
def insertBefore (parent : NodeId) (reference new : Option NodeId) : Edit Unit := do
  let children ← owned parent
  match reference with
  | none => discard (insertNode parent children.length new false)
  | some r =>
    let f ← get
    if f.parent r = some parent then
      let (_, place) ← lift (f.placeIn parent r)
      discard (insertNode parent place new false)
    else throw (.inconsistent .referenceNotAChild r)

def append (parent : NodeId) (new : Option NodeId) : Edit Unit := do
  let children ← owned parent
  discard (insertNode parent children.length new false)

-- Puts a node where another is, which is then without a parent.
def replace (old : NodeId) (new : Option NodeId) : Edit NodeId := do
  let f ← get
  match f.parent old with
  | none => throw (.hierarchy .replaceDetachedNode old)
  | some parent =>
    let (_, place) ← lift (f.placeIn parent old)
    let _ ← insertNode parent place new true
    pure old

-- Only nodes that can hold children answer for them.
def requireBranch (n : NodeId) : Edit Unit := do
  if (← get).node n |>.kind.isBranch then pure () else throw .unsupported

def requireElement (n : NodeId) : Edit Unit := do
  if (← get).node n |>.kind.isElement then pure () else throw .unsupported

def appendChild (parent : NodeId) (new : Option NodeId) : Edit Unit := do
  requireBranch parent
  append parent new

def insertChildBefore (parent : NodeId) (new reference : Option NodeId) : Edit Unit := do
  requireBranch parent
  insertBefore parent reference new

def replaceChild (parent : NodeId) (new : Option NodeId) (old : NodeId) : Edit NodeId := do
  requireBranch parent
  if (← get).parent old = some parent then replace old new
  else throw (.inconsistent .referenceNotAChild old)

def removeChild (parent child : NodeId) : Edit NodeId := do
  requireBranch parent
  if (← get).parent child = some parent then
    detach child
    pure child
  else throw (.inconsistent .referenceNotAChild child)

def setAttribute (n : NodeId) (name : String) (value : Option String) : Edit Unit := do
  match (← get).attrs n with
  | some attrs => modify (·.writeAttrs n (attrs.set name value))
  | none => throw .missingPart

def removeAttribute (n : NodeId) (name : String) : Edit Unit := do
  match (← get).attrs n with
  | some attrs => modify (·.writeAttrs n (attrs.remove name))
  | none => pure ()

-- The text of a text node or comment becomes its data; any other node keeps one new text child.
def setTextContent (n : NodeId) (value : Option String) : Edit Unit := do
  let f ← get
  if (f.node n).isText || (f.node n).isComment then modify (·.setData n value)
  else
    match f.children n with
    | none => throw .missingPart
    | some children =>
      children.forM detach
      let text ← make (.newText value)
      append n (some text)

end Edit
end HtmlTree

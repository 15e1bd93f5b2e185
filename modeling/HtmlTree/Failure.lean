import HtmlTree.Node

namespace HtmlTree

-- What can be wrong with a tree, or with a request to change one.
inductive TreeFault where
  | parentMissingChildren
  | parentMissingChild
  | referenceNotAChild
  | nodeCannotHaveChildren
  | replaceDetachedNode
  | insertIntoDescendant
  | indexOutOfRange
deriving DecidableEq, Repr

namespace TreeFault

def all : List TreeFault :=
  [.parentMissingChildren, .parentMissingChild, .referenceNotAChild, .nodeCannotHaveChildren,
   .replaceDetachedNode, .insertIntoDescendant, .indexOutOfRange]

def code : TreeFault → String
  | .parentMissingChildren => "parent-missing-children"
  | .parentMissingChild => "parent-missing-child"
  | .referenceNotAChild => "reference-not-a-child"
  | .nodeCannotHaveChildren => "node-cannot-have-children"
  | .replaceDetachedNode => "replace-detached-node"
  | .insertIntoDescendant => "insert-into-descendant"
  | .indexOutOfRange => "index-out-of-range"

-- The sentence for a fault at the node of this name.
def message (name : String) : TreeFault → String
  | .parentMissingChildren => "Inconsistent tree: parent of " ++ name ++ " does not have children"
  | .parentMissingChild => "Inconsistent tree: parent does not know about child " ++ name
  | .referenceNotAChild => "Reference node " ++ name ++ " is not a child of this node"
  | .nodeCannotHaveChildren => "Node " ++ name ++ " cannot have children"
  | .replaceDetachedNode => "Cannot replace " ++ name ++ ": it has no parent"
  | .insertIntoDescendant => "Inserting " ++ name ++ " would make it its own ancestor"
  | .indexOutOfRange => "Insertion index is out of range for " ++ name

def ofCode? (code : String) : Option TreeFault := all.find? (·.code == code)

end TreeFault

-- The sentence for a code; an unknown code speaks for itself.
def describeCode (code : String) (name : Option String) : String :=
  match TreeFault.ofCode? code with
  | some fault => fault.message (name.getD "None")
  | none => code

inductive TreeErrorClass where
  | general
  | inconsistency
  | hierarchy
deriving DecidableEq, Repr

namespace TreeErrorClass

def label : TreeErrorClass → String
  | .general => "TreeError"
  | .inconsistency => "TreeInconsistencyError"
  | .hierarchy => "HierarchyRequestError"

-- The class itself and then the more general ones.
def lineage : TreeErrorClass → List String
  | .general => ["TreeError", "ValueError", "Exception", "BaseException"]
  | cls => cls.label :: ["TreeError", "ValueError", "Exception", "BaseException"]

end TreeErrorClass

-- A report of a tree error: its class, its code, the name of the node it is about, and a text that
-- is given with it or made from the code.
structure TreeError where
  cls : TreeErrorClass
  code : String
  about : Option String
  given : Option String
deriving DecidableEq, Repr

def TreeError.text (e : TreeError) : String :=
  match e.given with
  | some text => if text.isEmpty then describeCode e.code e.about else text
  | none => describeCode e.code e.about

-- Why an operation on a forest stopped.
inductive Failure where
  -- a link to a parent that the parent does not return, or a reference outside the parent
  | inconsistent (fault : TreeFault) (node : NodeId)
  -- a change that the target does not admit
  | hierarchy (fault : TreeFault) (node : NodeId)
  -- no node was given where one is needed
  | noNode
  -- the node is of a kind without this part or operation
  | unsupported
  -- a list, a table or a text that the operation works on is absent
  | missingPart
  -- a node that was looked for in a list is not in it
  | notListed
  -- a length that no text can have, and one that no text can be given
  | outOfRange
  | tooLong
  -- the ancestors of no node were asked for, by itself or by a part of a condition
  | noAncestry
  | noAncestryOfPart
deriving DecidableEq, Repr

namespace Failure

-- The node that the failure is about.
def node? : Failure → Option NodeId
  | .inconsistent _ node | .hierarchy _ node => some node
  | _ => none

def isTreeError : Failure → Bool
  | .inconsistent .. | .hierarchy .. => true
  | _ => false

end Failure
end HtmlTree

import HtmlTree.Forest

namespace HtmlTree

-- Which children a walk down a tree follows: the node's own, or for a template its content's.
inductive Scope where
  | visible
  | templates
deriving DecidableEq, Repr

namespace Forest

-- A template shows its content only under its own name; otherwise its own children are followed.
def childrenIn (f : Forest) (scope : Scope) (n : NodeId) : Option (List NodeId) :=
  match scope with
  | .visible => f.children n
  | .templates =>
    match f.content n with
    | some fragment => if f.name n == "template" then f.children fragment else f.children n
    | none => f.children n

-- The children that a walk visits below a node; a missing list has none.
def below (f : Forest) (scope : Scope) (n : NodeId) : List NodeId := (f.childrenIn scope n).getD []

-- A bound for the length of any path that repeats no node.
def reach (f : Forest) : Nat := f.size + 1

end Forest

namespace Walk

-- The node, then what lies below each child in turn, cut off at a depth.
def preorder (next : NodeId → List NodeId) : Nat → NodeId → List NodeId
  | 0, n => [n]
  | depth + 1, n => n :: (next n).flatMap (preorder next depth)

-- How many nodes the recursive walk names.
def extent (next : NodeId → List NodeId) : Nat → NodeId → Nat
  | 0, _ => 1
  | depth + 1, n => (next n).foldl (fun count c => count + extent next depth c) 1

theorem extent_eq (next : NodeId → List NodeId) (depth : Nat) (n : NodeId) :
    extent next depth n = (preorder next depth n).length := by
  induction depth generalizing n with
  | zero => rfl
  | succ depth ih =>
    have counted (ns : List NodeId) (count : Nat) :
        ns.foldl (fun count c => count + extent next depth c) count =
          count + (ns.flatMap (preorder next depth)).length := by
      induction ns generalizing count with
      | nil => rfl
      | cons c ns rest =>
        rw [List.foldl_cons, rest, ih, List.flatMap_cons, List.length_append]
        omega
    rw [extent, preorder, counted, List.length_cons]
    omega

-- Walking forward with a stack: the top is named, and its children take its place. `fuel` bounds
-- how many nodes are named.
def forward (next : NodeId → List NodeId) : Nat → List NodeId → List NodeId
  | 0, _ => []
  | _ + 1, [] => []
  | fuel + 1, n :: stack => n :: forward next fuel (next n ++ stack)

-- Walking backward with a stack of nodes and their children still to come, last child first. A
-- node is named when no child of it is left.
def backward (next : NodeId → List NodeId) : Nat → List (NodeId × List NodeId) → List NodeId
  | 0, _ => []
  | _ + 1, [] => []
  | fuel + 1, (n, []) :: stack => n :: backward next fuel stack
  | fuel + 1, (n, child :: pending) :: stack =>
    backward next fuel ((child, (next child).reverse) :: (n, pending) :: stack)

-- A node and the chain of its parents, at most `fuel` of them.
def chain (up : NodeId → Option NodeId) : Nat → NodeId → List NodeId
  | 0, _ => []
  | fuel + 1, n => n :: (match up n with
    | some p => chain up fuel p
    | none => [])

-- What a walk brings before it ends, and why it ends if not by coming to its end.
structure Trail (α : Type) where
  items : List α
  failure : Option Failure
deriving DecidableEq, Repr

namespace Trail

-- A consumer that stops after `count` items does not see what would have come later.
def take (t : Trail α) (count : Nat) : Trail α :=
  if count ≤ t.items.length then ⟨t.items.take count, none⟩ else t

-- A walk that names a node before it looks at its links: a link without a node is named, and the
-- walk ends there.
def downTo (known : NodeId → Bool) (items : List NodeId) : Trail NodeId :=
  match items.dropWhile known with
  | [] => ⟨items, none⟩
  | hole :: _ => ⟨items.takeWhile known ++ [hole], some .noNode⟩

-- A walk that looks at the links of a node before it names it: it ends in front of a link without
-- a node.
def upTo (known : NodeId → Bool) (t : Trail NodeId) : Trail NodeId :=
  if t.items.all known then t else ⟨t.items.takeWhile known, some .noNode⟩

-- What a mapping gives for each item, up to the first item that it fails on.
def flatMap (g : α → Except Failure (List β)) (t : Trail α) : Trail β :=
  let rec collect : List α → Trail β
    | [] => ⟨[], t.failure⟩
    | item :: rest =>
      match g item with
      | .error failure => ⟨[], some failure⟩
      | .ok results =>
        let after := collect rest
        ⟨results ++ after.items, after.failure⟩
  collect t.items

end Trail

end Walk

namespace Forest
open Walk

-- A node and everything below it in document order, by at most `limit` steps.
def depthFirstWithin (f : Forest) (scope : Scope) (limit : Nat) (n : NodeId) : List NodeId :=
  forward (f.below scope) limit [n]

def depthFirst (f : Forest) (scope : Scope) (n : NodeId) : List NodeId :=
  f.depthFirstWithin scope (extent (f.below scope) f.reach n) n

-- The same nodes from the last to the first.
def depthFirstReversed (f : Forest) (scope : Scope) (n : NodeId) : List NodeId :=
  backward (f.below scope) (2 * extent (f.below scope) f.reach n) [(n, (f.below scope n).reverse)]

-- The node itself, then its parent, and so on up.
def ancestorsWithin (f : Forest) (limit : Nat) (n : NodeId) : List NodeId := chain f.parent limit n

def ancestors (f : Forest) (n : NodeId) : List NodeId := f.ancestorsWithin f.reach n

def strictAncestors (f : Forest) (n : NodeId) : List NodeId := (f.ancestors n).tail

-- Where a node stands among the children of its parent.
def placeIn (f : Forest) (parent n : NodeId) : Except Failure (List NodeId × Nat) :=
  match f.children parent with
  | none => .error (.inconsistent .parentMissingChildren n)
  | some siblings =>
    match siblings.idxOf? n with
    | some i => .ok (siblings, i)
    | none => .error (.inconsistent .parentMissingChild n)

-- The earlier children of the same parent, nearest first.
def previousSiblings (f : Forest) (n : NodeId) : Except Failure (List NodeId) :=
  match f.parent n with
  | none => .ok []
  | some parent => (f.placeIn parent n).map fun found => (found.1.take found.2).reverse

-- Everything before a node in document order, nearest first: at each level the trees of the
-- earlier siblings, then the parent. `levels` bounds how far up the walk goes.
def priorWithin (f : Forest) : Nat → NodeId → Trail NodeId
  | 0, _ => ⟨[], none⟩
  | levels + 1, n =>
    match f.previousSiblings n with
    | .error failure => ⟨[], some failure⟩
    | .ok siblings =>
      let here := siblings.flatMap (f.depthFirstReversed .visible)
      match f.parent n with
      | none => ⟨here, none⟩
      | some parent =>
        let above := f.priorWithin levels parent
        ⟨here ++ parent :: above.items, above.failure⟩

def prior (f : Forest) (n : NodeId) : Trail NodeId := f.priorWithin f.reach n

def priorIncluding (f : Forest) (n : NodeId) : Trail NodeId :=
  let before := f.prior n
  ⟨n :: before.items, before.failure⟩

end Forest
end HtmlTree

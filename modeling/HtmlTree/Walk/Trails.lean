import HtmlTree.Walk

namespace HtmlTree.Forest
open Walk

-- The walks of a forest in which a link may lead nowhere. Where every link leads to a node, a
-- trail has the items of the plain walk and ends as that does.

-- A node and everything below it in document order.
def trail (f : Forest) (scope : Scope) (n : NodeId) : Trail NodeId :=
  .downTo f.known (f.depthFirst scope n)

-- The first `limit` items alone, which may be had where the whole walk has no end.
def trailWithin (f : Forest) (scope : Scope) (limit : Nat) (n : NodeId) : Trail NodeId :=
  (Trail.downTo f.known (f.depthFirstWithin scope limit n)).take limit

def trailReversed (f : Forest) (scope : Scope) (n : NodeId) : Trail NodeId :=
  .upTo f.known ⟨f.depthFirstReversed scope n, none⟩

-- No node has no ancestors.
def ancestorsTrail (f : Forest) (limit : Nat) (n : NodeId) : Trail NodeId :=
  ⟨if f.known n then f.ancestorsWithin limit n else [], none⟩

-- The siblings themselves are not looked at.
def siblingsTrail (f : Forest) (n : NodeId) : Trail NodeId :=
  if f.known n then
    match f.previousSiblings n with
    | .ok siblings => ⟨siblings, none⟩
    | .error failure => ⟨[], some failure⟩
  else ⟨[], some .noNode⟩

-- Goes up as many levels at most.
def priorTrailWithin (f : Forest) (levels : Nat) (n : NodeId) : Trail NodeId :=
  if f.known n then .upTo f.known (f.priorWithin levels n) else ⟨[], some .noNode⟩

def priorTrail (f : Forest) (n : NodeId) : Trail NodeId := f.priorTrailWithin f.reach n

def including (n : NodeId) (before : Trail NodeId) : Trail NodeId :=
  ⟨n :: before.items, before.failure⟩

def priorIncludingTrail (f : Forest) (n : NodeId) : Trail NodeId := including n (f.priorTrail n)

-- What a mapping gives for each node of a tree, in document order.
def treeMap (f : Forest) (scope : Scope) (g : NodeId → Except Failure (List α)) (n : NodeId) :
    Trail α :=
  (f.trail scope n).flatMap g

-- The first `limit` results. Where a walk has no end it comes to a result in every round.
def treeMapWithin (f : Forest) (scope : Scope) (limit : Nat)
    (g : NodeId → Except Failure (List α)) (n : NodeId) : Trail α :=
  ((f.trailWithin scope ((limit + 1) * f.reach) n).flatMap g).take limit

end HtmlTree.Forest

import HtmlTree.Predicate
import HtmlTree.Walk.Trails

namespace HtmlTree

-- A search that may leave a trace, and that fails where the walk or the condition does.
abbrev Searching := EStateM Failure Trace

namespace Search

-- The first node of a list that passes; those after it are not asked.
def first (check : NodeId → Check) : List NodeId → Searching (Option NodeId)
  | [] => pure none
  | n :: rest => do if ← check n then pure (some n) else first check rest

-- The first node of a trail that passes. If there is none, the trail's failure comes to light.
def firstOnTrail (check : NodeId → Check) (trail : Walk.Trail NodeId) :
    Searching (Option NodeId) := do
  match ← first check trail.items, trail.failure with
  | none, some failure => throw failure
  | found, _ => pure found

-- Every node of a list that passes, in the order of the list, up to the first one that the
-- condition fails on. Gives also what ended the search, if not the end of the list.
def every (check : NodeId → Check) (failure : Option Failure) :
    List NodeId → StateM Trace (Walk.Trail NodeId)
  | [], trace => (⟨[], failure⟩, trace)
  | n :: rest, trace =>
    match check n trace with
    | .ok true trace =>
      let (found, trace) := every check failure rest trace
      (⟨n :: found.items, found.failure⟩, trace)
    | .ok false trace => every check failure rest trace
    | .error failure trace => (⟨[], some failure⟩, trace)

-- The same, with what is found put behind what was found before.
def everyInto (check : NodeId → Check) (failure : Option Failure) :
    List NodeId → List NodeId → StateM Trace (Walk.Trail NodeId)
  | found, [], trace => (⟨found, failure⟩, trace)
  | found, n :: rest, trace =>
    match check n trace with
    | .ok true trace => everyInto check failure (found ++ [n]) rest trace
    | .ok false trace => everyInto check failure found rest trace
    | .error failure trace => (⟨found, some failure⟩, trace)

def everyOnTrail (check : NodeId → Check) (trail : Walk.Trail NodeId) :
    StateM Trace (Walk.Trail NodeId) :=
  every check trail.failure trail.items

def everyOnTrailInto (check : NodeId → Check) (trail : Walk.Trail NodeId) (found : List NodeId) :
    StateM Trace (Walk.Trail NodeId) :=
  everyInto check trail.failure found trail.items

end Search

namespace Forest
open Search

-- Searches down from a node, the node included.
def walkFirst (f : Forest) (scope : Scope) (p : Predicate) (n : NodeId) :
    Searching (Option NodeId) :=
  firstOnTrail (p.check f) (f.trail scope n)

def walkAll (f : Forest) (scope : Scope) (p : Predicate) (n : NodeId) :
    StateM Trace (Walk.Trail NodeId) :=
  everyOnTrail (p.check f) (f.trail scope n)

-- Searches back from a node in document order, the node included.
def walkFirstPrior (f : Forest) (p : Predicate) (n : NodeId) : Searching (Option NodeId) :=
  firstOnTrail (p.check f) (f.priorIncludingTrail n)

def walkAllPrior (f : Forest) (p : Predicate) (n : NodeId) : StateM Trace (Walk.Trail NodeId) :=
  everyOnTrail (p.check f) (f.priorIncludingTrail n)

-- The searches for all nodes that pass may go on with a list that other searches have begun.
def walkAllInto (f : Forest) (scope : Scope) (p : Predicate) (found : List NodeId) (n : NodeId) :
    StateM Trace (Walk.Trail NodeId) :=
  everyOnTrailInto (p.check f) (f.trail scope n) found

def walkAllPriorInto (f : Forest) (p : Predicate) (found : List NodeId) (n : NodeId) :
    StateM Trace (Walk.Trail NodeId) :=
  everyOnTrailInto (p.check f) (f.priorIncludingTrail n) found

-- The nearest strict ancestor that passes.
def walkAncestors (f : Forest) (p : Predicate) (n : NodeId) : Searching (Option NodeId) :=
  if f.known n then first (p.check f) (f.strictAncestors n) else throw .noAncestry

def query (f : Forest) (scope : Scope) (p : Predicate) (n : NodeId) :
    Searching (Option NodeId) :=
  f.walkFirst scope p.onElements n

def queryAll (f : Forest) (scope : Scope) (p : Predicate) (n : NodeId) :
    StateM Trace (Walk.Trail NodeId) :=
  f.walkAll scope p.onElements n

def queryPrior (f : Forest) (p : Predicate) (n : NodeId) : Searching (Option NodeId) :=
  f.walkFirstPrior p.onElements n

def queryAllPrior (f : Forest) (p : Predicate) (n : NodeId) : StateM Trace (Walk.Trail NodeId) :=
  f.walkAllPrior p.onElements n

def queryAllInto (f : Forest) (scope : Scope) (p : Predicate) (found : List NodeId) (n : NodeId) :
    StateM Trace (Walk.Trail NodeId) :=
  f.walkAllInto scope p.onElements found n

def queryAllPriorInto (f : Forest) (p : Predicate) (found : List NodeId) (n : NodeId) :
    StateM Trace (Walk.Trail NodeId) :=
  f.walkAllPriorInto p.onElements found n

end Forest
end HtmlTree

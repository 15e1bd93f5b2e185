import HtmlTree.Proofs.Merging

namespace HtmlTree

-- A request to move nodes about. What is handed over may be nothing at all.
inductive Move where
  | insert (parent : NodeId) (index : Int) (new : Option NodeId) (replacing : Bool)
  | before (parent : NodeId) (reference new : Option NodeId)
  | append (parent : NodeId) (new : Option NodeId)
  | replace (old : NodeId) (new : Option NodeId)
  | remove (n : NodeId)
  | appendChild (parent : NodeId) (new : Option NodeId)
  | childBefore (parent : NodeId) (new reference : Option NodeId)
  | replaceChild (parent : NodeId) (new : Option NodeId) (old : NodeId)
  | removeChild (parent child : NodeId)
deriving DecidableEq, Repr

-- What a request comes down to in a forest: where something is put, whatever it is.
inductive Plan where
  | refuse (failure : Failure)
  | detach (n : NodeId)
  | insert (parent : NodeId) (index : Int) (replacing : Bool)
deriving DecidableEq, Repr

namespace Plan

def run (new : Option NodeId) : Plan → Edit Unit
  | .refuse failure => throw failure
  | .detach n => Edit.detach n
  | .insert parent index replacing => discard (Edit.insertNode parent index new replacing)

def atEnd (f : Forest) (parent : NodeId) : Plan :=
  match f.children parent with
  | none => .refuse (.hierarchy .nodeCannotHaveChildren parent)
  | some list => .insert parent list.length false

def atPlace (f : Forest) (parent child : NodeId) (replacing : Bool) : Plan :=
  match f.placeIn parent child with
  | .error failure => .refuse failure
  | .ok (_, place) => .insert parent place replacing

def inFront (f : Forest) (parent : NodeId) : Option NodeId → Plan
  | none => atEnd f parent
  | some reference =>
    match f.children parent with
    | none => .refuse (.hierarchy .nodeCannotHaveChildren parent)
    | some _ =>
      if f.parent reference = some parent then atPlace f parent reference false
      else .refuse (.inconsistent .referenceNotAChild reference)

def instead (f : Forest) (old : NodeId) : Plan :=
  match f.parent old with
  | none => .refuse (.hierarchy .replaceDetachedNode old)
  | some parent => atPlace f parent old true

-- Only a node that can have children answers for them.
def ofBranch (f : Forest) (n : NodeId) (plan : Plan) : Plan :=
  if (f.node n).kind.isBranch then plan else .refuse .unsupported

def ofChild (f : Forest) (parent child : NodeId) (plan : Plan) : Plan :=
  if f.parent child = some parent then plan
  else .refuse (.inconsistent .referenceNotAChild child)

end Plan

namespace Move
open Edit

def run : Move → Edit Unit
  | .insert parent index new replacing => discard (insertNode parent index new replacing)
  | .before parent reference new => insertBefore parent reference new
  | .append parent new => Edit.append parent new
  | .replace old new => discard (Edit.replace old new)
  | .remove n => detach n
  | .appendChild parent new => Edit.appendChild parent new
  | .childBefore parent new reference => insertChildBefore parent new reference
  | .replaceChild parent new old => discard (Edit.replaceChild parent new old)
  | .removeChild parent child => discard (Edit.removeChild parent child)

def given : Move → Option NodeId
  | .insert _ _ new _ | .before _ _ new | .append _ new | .replace _ new => new
  | .appendChild _ new | .childBefore _ new _ | .replaceChild _ new _ => new
  | .remove _ | .removeChild _ _ => none

def plan (f : Forest) : Move → Plan
  | .insert parent index _ replacing => .insert parent index replacing
  | .before parent reference _ => .inFront f parent reference
  | .append parent _ => .atEnd f parent
  | .replace old _ => .instead f old
  | .remove n => .detach n
  | .appendChild parent _ => .ofBranch f parent (.atEnd f parent)
  | .childBefore parent _ reference => .ofBranch f parent (.inFront f parent reference)
  | .replaceChild parent _ old => .ofBranch f parent (.ofChild f parent old (.instead f old))
  | .removeChild parent child => .ofBranch f parent (.ofChild f parent child (.detach child))

variable {f : Forest}

theorem append_plan (parent : NodeId) (new : Option NodeId) :
    Edit.append parent new f = (Plan.atEnd f parent).run new f := by
  unfold Plan.atEnd
  cases owns : f.children parent with
  | none => simp [Edit.append, bind_run, owned_barren owns, Plan.run]
  | some list => simp [Edit.append, bind_run, owned_run owns, Plan.run]

theorem insertBefore_plan (parent : NodeId) (reference new : Option NodeId) :
    insertBefore parent reference new f = (Plan.inFront f parent reference).run new f := by
  unfold Plan.inFront Plan.atEnd
  cases owns : f.children parent with
  | none => cases reference <;> simp [insertBefore, bind_run, owned_barren owns, Plan.run]
  | some list =>
    cases reference with
    | none => simp [insertBefore, bind_run, owned_run owns, Plan.run]
    | some r =>
      by_cases linked : f.parent r = some parent
      · cases placed : f.placeIn parent r <;>
          simp [insertBefore, bind_run, owned_run owns, linked, placed, Plan.atPlace, Plan.run]
      · simp [insertBefore, bind_run, owned_run owns, linked, Plan.run]

theorem replace_plan (old : NodeId) (new : Option NodeId) :
    (discard (Edit.replace old new) : Edit Unit) f = (Plan.instead f old).run new f := by
  unfold Plan.instead
  cases linked : f.parent old with
  | none => simp [Edit.replace, discard_run, bind_run, linked, Plan.run]
  | some parent =>
    cases placed : f.placeIn parent old with
    | error failure =>
      simp [Edit.replace, discard_run, bind_run, linked, placed, Plan.atPlace, Plan.run]
    | ok found =>
      cases ran : insertNode parent found.2 new true f <;>
        simp [Edit.replace, discard_run, bind_run, map_run, linked, placed, Plan.atPlace, Plan.run,
          ran]

theorem ofBranch_run (n : NodeId) (e : Edit Unit) {plan : Plan} {new : Option NodeId}
    (planned : e f = plan.run new f) :
    (requireBranch n >>= fun _ => e) f = (Plan.ofBranch f n plan).run new f := by
  unfold Plan.ofBranch
  cases branch : (f.node n).kind.isBranch <;>
    simp [requireBranch, bind_run, branch, planned, Plan.run]

theorem replaceChild_plan (parent : NodeId) (new : Option NodeId) (old : NodeId) :
    (discard (Edit.replaceChild parent new old) : Edit Unit) f =
      (Plan.ofBranch f parent (.ofChild f parent old (.instead f old))).run new f := by
  unfold Plan.ofBranch Plan.ofChild
  cases branch : (f.node parent).kind.isBranch with
  | false => simp [Edit.replaceChild, requireBranch, discard_run, bind_run, branch, Plan.run]
  | true =>
    by_cases linked : f.parent old = some parent
    · rw [if_pos rfl, if_pos linked, ← replace_plan]
      simp [Edit.replaceChild, requireBranch, discard_run, bind_run, branch, linked]
    · simp [Edit.replaceChild, requireBranch, discard_run, bind_run, branch, linked, Plan.run]

theorem removeChild_plan (parent child : NodeId) :
    (discard (Edit.removeChild parent child) : Edit Unit) f =
      (Plan.ofBranch f parent (.ofChild f parent child (.detach child))).run none f := by
  unfold Plan.ofBranch Plan.ofChild
  cases branch : (f.node parent).kind.isBranch with
  | false => simp [Edit.removeChild, requireBranch, discard_run, bind_run, branch, Plan.run]
  | true =>
    by_cases linked : f.parent child = some parent
    · cases ran : detach child f <;>
        simp [Edit.removeChild, requireBranch, discard_run, bind_run, map_run, branch, linked,
          Plan.run, ran]
    · simp [Edit.removeChild, requireBranch, discard_run, bind_run, branch, linked, Plan.run]

-- In every forest a request does what it comes down to there.
theorem run_plan (move : Move) (f : Forest) : move.run f = (move.plan f).run move.given f := by
  cases move with
  | insert parent index new replacing => rfl
  | before parent reference new => exact insertBefore_plan parent reference new
  | append parent new => exact append_plan parent new
  | replace old new => exact replace_plan old new
  | remove n => rfl
  | appendChild parent new => exact ofBranch_run parent _ (append_plan parent new)
  | childBefore parent new reference =>
    exact ofBranch_run parent _ (insertBefore_plan parent reference new)
  | replaceChild parent new old => exact replaceChild_plan parent new old
  | removeChild parent child => exact removeChild_plan parent child

theorem after_plan (move : Move) (f : Forest) :
    move.run.after f = ((move.plan f).run move.given).after f := by
  rw [EStateM.after, move.run_plan f, EStateM.after]

end Move

-- What a caller can ask of a forest without reading it: to make nodes, to move them about, and to
-- change what they hold.
inductive Call where
  | text (data : Option String)
  | comment (data : Option String)
  | fragment
  | document
  | element (name ns : Option String)
  | plainNode (name : String) (table : Edit.Table) (data ns : Option String)
  | elementNode (name : Option String) (table : Edit.Table) (ns : Option String)
  | templateNode (name : Option String) (table : Edit.Table) (ns : Option String)
  | copy (n : NodeId)
  | move (move : Move)
  | normalize (n : NodeId)
  | setTextContent (n : NodeId) (value : Option String)
  | setAttribute (n : NodeId) (name : String) (value : Option String)
  | removeAttribute (n : NodeId) (name : String)
deriving DecidableEq, Repr

namespace Call
open Edit Forest EStateM

def run : Call → Edit Unit
  | .text data => discard (make (.newText data))
  | .comment data => discard (make (.newComment data))
  | .fragment => discard (make .newFragment)
  | .document => discard (make .newDocument)
  | .element name ns => discard (makeElement name ns)
  | .plainNode name table data ns =>
    discard (makeWith table fun attrs => make (.newPlain name attrs data ns))
  | .elementNode name table ns => discard (makeWith table fun attrs => make (.newElement name attrs ns))
  | .templateNode name table ns => discard (makeWith table fun attrs => makeTemplate name attrs ns)
  | .copy n => discard (shallowClone n)
  | .move m => m.run
  | .normalize n => Edit.normalize n
  | .setTextContent n value => Edit.setTextContent n value
  | .setAttribute n name value => Edit.setAttribute n name value
  | .removeAttribute n name => Edit.removeAttribute n name

def given : Call → Option NodeId
  | .move m => m.given
  | _ => none

-- Whatever holds on through moves holds on through all calls.
theorem run_keeps {holds : Forest → Prop} (stable : Stable holds) {f : Forest} (held : holds f)
    (call : Call) (moved : ∀ m, call = .move m → holds (m.run.after f)) :
    holds (call.run.after f) := by
  cases call with
  | text data =>
    have bare : (Node.newText data).Bare := ⟨rfl, rfl, rfl⟩
    exact (make_keeps stable bare).discard f held
  | comment data =>
    have bare : (Node.newComment data).Bare := Node.newPlain_bare _ _ _ _
    exact (make_keeps stable bare).discard f held
  | fragment =>
    have bare : Node.newFragment.Bare := Node.newPlain_bare _ _ _ _
    exact (make_keeps stable bare).discard f held
  | document =>
    have bare : Node.newDocument.Bare := Node.newPlain_bare _ _ _ _
    exact (make_keeps stable bare).discard f held
  | element name ns => exact (makeElement_keeps stable name ns).discard f held
  | plainNode name table data ns =>
    refine (makeWith_keeps stable table fun attrs => ?_).discard f held
    exact make_keeps stable (Node.newPlain_bare name attrs data ns)
  | elementNode name table ns =>
    exact (makeWith_keeps stable table fun attrs => make_keeps stable ⟨rfl, rfl, rfl⟩).discard f held
  | templateNode name table ns =>
    refine (makeWith_keeps stable table fun attrs => ?_).discard f held
    exact makeTemplate_keeps stable name attrs ns
  | copy n => exact (shallowClone_keeps stable).discard f held
  | move m => exact moved m rfl
  | normalize n => exact normalize_keeps stable f held
  | setTextContent n value => exact setTextContent_keeps stable value f held
  | setAttribute n name value => exact setAttribute_keeps stable name value f held
  | removeAttribute n name => exact removeAttribute_keeps stable name f held

end Call
end HtmlTree

import HtmlTree.Edit
import HtmlTree.Proofs.Lineage

-- What a computation leaves behind, whether it succeeds or fails, and what holds on through it.
namespace EStateM

variable {ε σ α β : Type} {s t : σ}

def after (e : EStateM ε σ α) (s : σ) : σ :=
  match e s with
  | .ok _ t => t
  | .error _ t => t

theorem after_ok {e : EStateM ε σ α} {value : α} (ran : e s = .ok value t) : e.after s = t := by
  simp [after, ran]

theorem after_error {e : EStateM ε σ α} {failure : ε} (ran : e s = .error failure t) :
    e.after s = t := by
  simp [after, ran]

theorem after_bind (e : EStateM ε σ α) (next : α → EStateM ε σ β) :
    (e >>= next).after s = match e s with
      | .ok value t => (next value).after t
      | .error _ t => t := by
  cases ran : e s <;> simp [after, bind, EStateM.bind, ran]

theorem after_read (next : σ → EStateM ε σ β) :
    ((get : EStateM ε σ σ) >>= next).after s = (next s).after s := rfl

theorem after_map (change : α → β) (e : EStateM ε σ α) : (change <$> e).after s = e.after s := by
  cases ran : e s <;> simp [after, Functor.map, EStateM.map, ran]

theorem after_then (e : EStateM ε σ α) (value : β) :
    (e >>= fun _ => pure value).after s = e.after s := by
  rw [after_bind]
  cases ran : e s <;> simp [after, ran, pure, EStateM.pure]

theorem after_discard (e : EStateM ε σ α) :
    (discard e : EStateM ε σ PUnit).after s = e.after s :=
  after_map _ e

def Keeps (holds : σ → Prop) (e : EStateM ε σ α) : Prop := ∀ s, holds s → holds (e.after s)

variable {holds : σ → Prop}

theorem Keeps.pure (value : α) : Keeps holds (pure value : EStateM ε σ α) := fun _ held => held

theorem Keeps.read : Keeps holds (get : EStateM ε σ σ) := fun _ held => held

theorem Keeps.throw (failure : ε) : Keeps holds (throw failure : EStateM ε σ α) :=
  fun _ held => held

theorem Keeps.modify {change : σ → σ} (kept : ∀ s, holds s → holds (change s)) :
    Keeps holds (modify change : EStateM ε σ PUnit) := kept

theorem Keeps.bind {e : EStateM ε σ α} {next : α → EStateM ε σ β} (first : Keeps holds e)
    (rest : ∀ value, Keeps holds (next value)) : Keeps holds (e >>= next) := by
  intro s held
  have between := first s held
  rw [after_bind]
  cases ran : e s with
  | ok value t => exact rest value t (after_ok ran ▸ between)
  | error failure t => exact after_error ran ▸ between

-- What would have come next is never reached.
theorem Keeps.refuse {failure : ε} {next : α → EStateM ε σ β} :
    Keeps holds (MonadExcept.throw failure >>= next) := fun _ held => held

theorem Keeps.map {e : EStateM ε σ α} (change : α → β) (kept : Keeps holds e) :
    Keeps holds (change <$> e) := by
  intro s held
  rw [after_map]
  exact kept s held

theorem Keeps.discard {e : EStateM ε σ α} (kept : Keeps holds e) :
    Keeps holds (discard e : EStateM ε σ PUnit) :=
  Keeps.map _ kept

-- What a computation asks of the state may be used for what it then does.
theorem Keeps.get {next : σ → EStateM ε σ β} (rest : ∀ s, holds s → holds ((next s).after s)) :
    Keeps holds ((get : EStateM ε σ σ) >>= next) := fun s held => rest s held

theorem Keeps.forM {ns : List α} {visit : α → EStateM ε σ PUnit}
    (each : ∀ n ∈ ns, Keeps holds (visit n)) : Keeps holds (ns.forM visit) := by
  induction ns with
  | nil => exact Keeps.pure _
  | cons n ns ih =>
    refine Keeps.bind (each n (by simp)) fun _ => ih ?_
    intro m member
    exact each m (List.mem_cons_of_mem _ member)

end EStateM

namespace HtmlTree

def Node.relink (node : Node) (parent : Option NodeId) (children : Option (List NodeId)) : Node :=
  { node with parent := parent, children := children }

@[simp] theorem Node.relink_relink (node : Node) (parent parent' : Option NodeId)
    (children children' : Option (List NodeId)) :
    (node.relink parent children).relink parent' children' = node.relink parent' children' := rfl

@[simp] theorem Node.relink_parent (node : Node) (parent : Option NodeId)
    (children : Option (List NodeId)) : (node.relink parent children).parent = parent := rfl

@[simp] theorem Node.relink_children (node : Node) (parent : Option NodeId)
    (children : Option (List NodeId)) : (node.relink parent children).children = children := rfl

namespace Forest

variable {f : Forest} {n m : NodeId}

theorem known_iff : f.known n = true ↔ n < f.size := decide_eq_true_iff

theorem node_update (known : f.known n = true) (change : Node → Node) :
    (f.update n change).node m = if m = n then change (f.node m) else f.node m := by
  by_cases here : m = n
  · subst here
    rw [if_pos rfl, node_update_same f m change (known_iff.mp known)]
  · rw [if_neg here, node_update_other f n m change here]

theorem update_unknown (unknown : f.known n = false) (change : Node → Node) :
    f.update n change = f := by
  have outside : f.nodes.size ≤ n := Nat.le_of_not_lt (of_decide_eq_false unknown)
  have same : f.nodes.modify n change = f.nodes := by
    ext i small inside
    · simp
    · have other : n ≠ i := Nat.ne_of_gt (Nat.lt_of_lt_of_le inside outside)
      simp [Array.getElem_modify, other]
  simp [update, same]

theorem node_setParent (known : f.known n = true) (link : Option NodeId) :
    (f.setParent n link).node m =
      (f.node m).relink (if m = n then link else f.parent m) (f.children m) := by
  rw [setParent, node_update known]
  split <;> rfl

theorem node_setChildren (known : f.known n = true) (list : Option (List NodeId)) :
    (f.setChildren n list).node m =
      (f.node m).relink (f.parent m) (if m = n then list else f.children m) := by
  rw [setChildren, node_update known]
  split <;> rfl

theorem parent_setParent (known : f.known n = true) (link : Option NodeId) :
    (f.setParent n link).parent m = if m = n then link else f.parent m := by
  rw [parent, node_setParent known, Node.relink_parent]

theorem children_setParent (known : f.known n = true) (link : Option NodeId) :
    (f.setParent n link).children m = f.children m := by
  rw [children, node_setParent known, Node.relink_children]

theorem parent_setChildren (known : f.known n = true) (list : Option (List NodeId)) :
    (f.setChildren n list).parent m = f.parent m := by
  rw [parent, node_setChildren known, Node.relink_parent]

theorem children_setChildren (known : f.known n = true) (list : Option (List NodeId)) :
    (f.setChildren n list).children m = if m = n then list else f.children m := by
  rw [children, node_setChildren known, Node.relink_children]

@[simp] theorem size_setParent (link : Option NodeId) : (f.setParent n link).size = f.size :=
  size_update _ _ _

@[simp] theorem size_setChildren (list : Option (List NodeId)) :
    (f.setChildren n list).size = f.size :=
  size_update _ _ _

-- The journal has no part in what the nodes read as.
theorem node_of_nodes {g : Forest} (same : g.nodes = f.nodes) : g.node m = f.node m := by
  simp [node, same]

theorem nodes_ext {g : Forest} (size : g.size = f.size) (same : ∀ m, g.node m = f.node m) :
    g.nodes = f.nodes := by
  refine Array.ext size fun i left right => ?_
  have read := same i
  simpa [node, left, right] using read

def linkAll (f : Forest) (ns : List NodeId) (link : Option NodeId) : Forest :=
  ns.foldl (fun f n => f.setParent n link) f

@[simp] theorem size_linkAll (ns : List NodeId) (link : Option NodeId) :
    (f.linkAll ns link).size = f.size := by
  induction ns generalizing f with
  | nil => rfl
  | cons n ns ih => exact (ih (f := f.setParent n link)).trans (size_setParent link)

theorem node_linkAll (ns : List NodeId) (link : Option NodeId)
    (known : ∀ n ∈ ns, f.known n = true) :
    (f.linkAll ns link).node m =
      (f.node m).relink (if m ∈ ns then link else f.parent m) (f.children m) := by
  induction ns generalizing f with
  | nil => simp [linkAll]; rfl
  | cons n ns ih =>
    have here : f.known n = true := known n (by simp)
    have later : ∀ c ∈ ns, (f.setParent n link).known c = true := by
      intro c member
      simpa [Forest.known] using known c (List.mem_cons_of_mem _ member)
    have rest := ih (f := f.setParent n link) later
    simp only [node_setParent here, parent_setParent here, children_setParent here,
      Node.relink_relink] at rest
    refine rest.trans ?_
    by_cases same : m = n <;> by_cases member : m ∈ ns <;> simp [same, member]

theorem parent_linkAll (ns : List NodeId) (link : Option NodeId)
    (known : ∀ n ∈ ns, f.known n = true) :
    (f.linkAll ns link).parent m = if m ∈ ns then link else f.parent m := by
  rw [parent, node_linkAll ns link known, Node.relink_parent]

theorem children_linkAll (ns : List NodeId) (link : Option NodeId)
    (known : ∀ n ∈ ns, f.known n = true) : (f.linkAll ns link).children m = f.children m := by
  rw [children, node_linkAll ns link known, Node.relink_children]

end Forest

namespace Edit

variable {α β : Type} {f g : Forest}

@[simp] theorem pure_run (value : α) : (pure value : Edit α) f = .ok value f := rfl

@[simp] theorem throw_run (failure : Failure) : (throw failure : Edit α) f = .error failure f := rfl

@[simp] theorem get_run : (get : Edit Forest) f = .ok f f := rfl

@[simp] theorem modify_run (change : Forest → Forest) :
    (modify change : Edit Unit) f = .ok () (change f) := rfl

theorem bind_run (e : Edit α) (next : α → Edit β) :
    (e >>= next) f = match e f with
      | .ok value g => next value g
      | .error failure g => .error failure g := by
  cases ran : e f <;> simp [bind, EStateM.bind, ran]

theorem map_run (change : α → β) (e : Edit α) :
    (change <$> e) f = match e f with
      | .ok value g => .ok (change value) g
      | .error failure g => .error failure g := by
  cases ran : e f <;> simp [Functor.map, EStateM.map, ran]

@[simp] theorem lift_ok (value : α) : lift (.ok value) f = .ok value f := rfl

@[simp] theorem lift_error (failure : Failure) :
    (lift (.error failure) : Edit α) f = .error failure f := rfl

theorem discard_run (e : Edit α) :
    (discard e : Edit Unit) f = match e f with
      | .ok _ g => .ok () g
      | .error failure g => .error failure g := by
  cases ran : e f <;> simp [discard, Functor.discard, Functor.mapConst, EStateM.map, ran]

end Edit
end HtmlTree

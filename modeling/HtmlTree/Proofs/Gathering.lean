import HtmlTree.Tree
import HtmlTree.Proofs.Growth
import HtmlTree.Proofs.Histories

namespace HtmlTree

open Forest

-- How far the children of one node have gone over to a fragment.
structure Moving (f g : Forest) (source target : Nat) (left moved : List NodeId) : Prop where
  size : g.size = f.size
  stays : g.children source = some left
  came : g.children target = some moved
  free : g.parent target = none
  linked : ∀ n ∈ left, g.parent n = some source
  loose : ∀ m : Nat, m ≠ source → m ≠ target → (g.node m).loose = (f.node m).loose
  target : (g.node target).loose = { (f.node target).loose with children := some moved }

namespace Moving

variable {f g : Forest} {source target : Nat} {left moved : List NodeId} {n : NodeId}

-- A child is cut off one list and is the last one in another, where its parent is now.
def shifted (g : Forest) (source target n : NodeId) (left moved : List NodeId) : Forest :=
  (((g.setChildren source (some left)).setParent n none).setChildren target (some moved)).setParent n
    (some target)

theorem shifted_node (left moved : List NodeId)
    (known : g.known source = true ∧ g.known target = true ∧ g.known n = true) (m : NodeId) :
    (shifted g source target n left moved).node m =
      (g.node m).relink (if m = n then some target else g.parent m)
        (if m = target then some moved else if m = source then some left else g.children m) := by
  obtain ⟨first, last, here⟩ := known
  have one : (g.setChildren source (some left)).known n = true := by
    rwa [known_iff, size_setChildren, ← known_iff]
  have two : ((g.setChildren source (some left)).setParent n none).known target = true := by
    rwa [known_iff, size_setParent, size_setChildren, ← known_iff]
  have three : (((g.setChildren source (some left)).setParent n none).setChildren target
      (some moved)).known n = true := by
    rwa [known_iff, size_setChildren, size_setParent, size_setChildren, ← known_iff]
  simp only [shifted, node_setParent three, node_setChildren two, node_setParent one,
    node_setChildren first, children_setChildren two, children_setParent one,
    children_setChildren first, parent_setChildren two, parent_setParent one,
    parent_setChildren first, Node.relink_relink]
  congr 1
  split <;> rfl

section
variable (moving : Moving f g source target (n :: left) moved)
  (within : source < f.size ∧ target < f.size)
include moving within

theorem known : g.known source = true ∧ g.known target = true ∧ g.known n = true :=
  ⟨known_iff.mpr (moving.size ▸ within.1), known_iff.mpr (moving.size ▸ within.2),
    known_of_parent (moving.linked n List.mem_cons_self)⟩

variable (other : target ≠ source) (apart : n ≠ source ∧ n ≠ target)
include other apart

theorem append_shifted (plain : (f.node n).isFragment = false) :
    Edit.append target (some n) g = .ok () (shifted
      (g.note (.detaching (g.summary n) (g.summary source))) source target n left (moved ++ [n])) := by
  have up := moving.linked n List.mem_cons_self
  let noted := g.note (.detaching (g.summary n) (g.summary source))
  have known : noted.known source = true ∧ noted.known target = true ∧ noted.known n = true :=
    moving.known within
  have clear : n ∉ g.ancestors target := by
    have alone : g.ancestors target = [target] := by
      simp [ancestors, ancestorsWithin, reach, Walk.chain, moving.free]
    rw [alone, List.mem_singleton]
    exact apart.2
  have still : (g.node n).isFragment = false := by
    have same : (g.node n).name? = (f.node n).name? :=
      (congrArg Node.name? (moving.loose n apart.1 apart.2) :)
    rw [← plain, Node.isFragment, Node.isFragment, Node.name, Node.name, same]
  have placed : noted.placeIn source n = .ok (n :: left, 0) := by
    have owns : noted.children source = some (n :: left) := moving.stays
    simp [placeIn, owns, List.idxOf?_cons]
  have freed : Edit.release target n g =
      .ok (some [n]) ((noted.setChildren source (some left)).setParent n none) := by
    have linked : noted.parent n = some source := up
    rw [Edit.release_linked clear still up, Edit.detach_placed linked placed]
    rfl
  have first : (noted.setChildren source (some left)).known n = true := by
    rw [known_iff, size_setChildren]
    exact known_iff.mp known.2.2
  have owns : ((noted.setChildren source (some left)).setParent n none).children target =
      some moved := by
    rw [children_setParent first, children_setChildren known.1, if_neg other]
    exact moving.came
  have last : ((noted.setChildren source (some left)).setParent n none).known n = true := by
    rw [known_iff, size_setParent, size_setChildren]
    exact known_iff.mp known.2.2
  exact Edit.append_freed moving.came freed owns last

theorem of_shifted (once : n ∉ left) (note : Note) :
    Moving f (shifted (g.note note) source target n left (moved ++ [n])) source target left
      (moved ++ [n]) := by
  have known := moving.known within
  have nodes := shifted_node (g := g.note note) left (moved ++ [n]) known
  have parents (m : NodeId) := congrArg Node.parent (nodes m)
  have children (m : NodeId) := congrArg Node.children (nodes m)
  refine ⟨?size, ?stays, ?came, ?free, fun m member => ?linked, fun m away beyond => ?loose, ?target⟩
  case size =>
    simp only [shifted, size_setParent, size_setChildren]
    exact moving.size
  case stays =>
    refine (children source).trans ?_
    simp [other.symm]
  case came =>
    refine (children target).trans ?_
    simp
  case free =>
    refine (parents target).trans ?_
    rw [Node.relink_parent, if_neg apart.2.symm]
    exact moving.free
  case linked =>
    refine (parents m).trans ?_
    rw [Node.relink_parent, if_neg fun same : m = n => once (same ▸ member)]
    exact moving.linked m (List.mem_cons_of_mem _ member)
  case loose =>
    rw [nodes m, if_neg beyond, if_neg away, ← moving.loose m away beyond]
    rfl
  case target =>
    have kept := congrArg Node.loose (nodes target)
    rw [if_pos rfl] at kept
    refine kept.trans (Eq.trans ?_ (congrArg
      (fun node => { node with children := some (moved ++ [n]) }) moving.target))
    rfl

-- The first child that is left goes to the end of those that have moved.
theorem step (once : n ∉ left) (plain : (f.node n).isFragment = false) :
    ∃ h, Edit.append target (some n) g = .ok () h ∧ Moving f h source target left (moved ++ [n]) :=
  ⟨_, moving.append_shifted within other apart plain, moving.of_shifted within other apart once _⟩

end

-- All children go over, one by one.
theorem run (moving : Moving f g source target left moved) (other : target ≠ source)
    (within : source < f.size ∧ target < f.size) (once : left.Nodup)
    (apart : ∀ n ∈ left, n ≠ source ∧ n ≠ target ∧ (f.node n).isFragment = false) :
    ∃ h, left.forM (fun n => Edit.append target (some n)) g = .ok ⟨⟩ h ∧
      Moving f h source target [] (moved ++ left) := by
  induction left generalizing g moved with
  | nil => exact ⟨g, rfl, by rwa [List.append_nil]⟩
  | cons n left ih =>
    obtain ⟨away, beyond, plain⟩ := apart n List.mem_cons_self
    obtain ⟨fresh, later⟩ := List.nodup_cons.mp once
    obtain ⟨h, ran, moving⟩ := moving.step within other ⟨away, beyond⟩ fresh plain
    obtain ⟨e, rest, moving⟩ := ih moving later fun m member => apart m (List.mem_cons_of_mem _ member)
    rw [List.append_assoc] at moving
    exact ⟨e, (EStateM.bind_ok ran _).trans rest, moving⟩

section
variable {root : Frame} {h : Forest} {ids : List NodeId}
  (stands : root.Stands f f.size ids []) (plain : root.isTemplate = false)
include stands plain

-- A fragment that has just been made has taken nothing yet.
theorem begun :
    Moving (f.alloc .newFragment).2 (f.alloc .newFragment).2 root.node f.size ids [] := by
  have holder : root.holder = root.node := by simp [Frame.holder, plain]
  have here := node_alloc_new f .newFragment
  have old (m : Nat) (below : m < f.size) := node_alloc_old f .newFragment m below
  refine ⟨rfl, ?_, congrArg Node.children here, congrArg Node.parent here, fun n member => ?_,
    fun _ _ _ => rfl, ?_⟩
  · rw [children, old _ stands.below]
    exact (holder ▸ stands.children).trans (congrArg some (List.append_nil ids))
  · rw [parent, old n (stands.row.within n member).2, ← holder]
    exact stands.linked n member
  · rw [here]
    rfl

theorem gathers (solid : ∀ t ∈ root.kids, ∀ inside, t ≠ .fragment inside) :
    ∃ h, ids.forM (fun n => Edit.append f.size (some n)) (f.alloc .newFragment).2 = .ok ⟨⟩ h ∧
      Moving (f.alloc .newFragment).2 h root.node f.size [] ids := by
  have below := stands.below
  refine (begun stands plain).run (Nat.ne_of_gt below) ?_ stands.row.nodup fun n member => ?_
  · rw [size_alloc]
    exact ⟨Nat.lt_succ_of_lt below, Nat.lt_succ_self _⟩
  · have inside := stands.row.within n member
    rw [node_alloc_old f _ n inside.2]
    exact ⟨Nat.ne_of_gt inside.1, Nat.ne_of_lt inside.2, stands.row.plain solid n member⟩

omit plain in
theorem gathered (moving : Moving (f.alloc .newFragment).2 h root.node f.size [] ids) :
    h.tree f.size = .fragment root.kids := by
  have agree : AgreeWithin f h (root.node + 1) f.size := by
    intro m above less
    rw [moving.loose m (Nat.ne_of_gt above) (Nat.ne_of_lt less), node_alloc_old f _ m less]
  have deep : f.size - (root.node + 1) ≤ h.size := by
    rw [moving.size, size_alloc]
    omega
  have kids := (stands.row.congr agree).read deep
  have name : (h.node f.size).name? = some Node.fragmentName := by
    have same := congrArg Node.name? moving.target
    rw [node_alloc_new] at same
    exact same
  have whole : (h.node f.size).name = Node.fragmentName := by rw [Node.name, name]; rfl
  have owned : (h.node f.size).children = some ids := moving.came
  show h.treeWithin (h.size + 1) f.size = _
  rw [treeWithin, Node.isText, Node.isComment, Node.isFragment, whole, owned]
  exact congrArg Tree.fragment kids

end

end Moving

namespace Builder

variable {b : Builder} {root : Frame}

-- At the end the trees inside the root become those of a fragment.
theorem gather_run (standing : b.forest.Standing b.forest.size [] [root])
    (solid : ∀ t ∈ root.kids, ∀ inside, t ≠ .fragment inside) (plain : root.isTemplate = false) :
    ∃ site b', (BuildStep.gather root.site).run b = .ok (some site) b' ∧
      b'.forest.tree site.node = .fragment root.kids := by
  obtain ⟨⟨ids, stands⟩, _⟩ := standing
  obtain ⟨h, ran, moving⟩ := Moving.gathers stands plain solid
  have begun := Moving.begun stands plain
  let site : Site := ⟨b.forest.size, Node.fragmentName, none⟩
  let next : Builder := { b with forest := (b.forest.alloc .newFragment).2, sites := site :: b.sites }
  have registered : newFragment b = .ok site next := rfl
  have source : next.container root.site = root.node := by
    have hollow : next.forest.content root.site.node = none := by
      have content := stands.content
      rw [plain] at content
      exact (congrArg Node.content (node_alloc_old b.forest _ _ stands.below)).trans content
    rw [container, hollow]
    rfl
  have target : next.container site = b.forest.size := by
    have hollow : next.forest.content site.node = none :=
      congrArg Node.content (node_alloc_new b.forest .newFragment)
    rw [container, hollow]
    rfl
  have known (n : NodeId) (member : n ∈ ids) : next.forest.known n = true :=
    known_of_parent (begun.linked n member)
  have moved : reparentChildren root.site site next = .ok ⟨⟩ { next with forest := h } := by
    have read : (get : Build Builder) next = .ok next next := rfl
    have listed : next.forest.children root.node = some ids := begun.stays
    rw [reparentChildren, EStateM.bind_ok read, source, listed, target]
    exact (forM_onForest (fun n member => by rw [if_pos (known n member)]) next).trans (onForest_ok ran)
  have gathered : gatherFragment root.site b = .ok site { next with forest := h } :=
    (EStateM.bind_ok registered _).trans (EStateM.bind_ok moved _)
  exact ⟨site, _, EStateM.map_ok gathered some, Moving.gathered stands moving⟩

end Builder
end HtmlTree

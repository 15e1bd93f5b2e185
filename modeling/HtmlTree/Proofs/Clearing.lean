import HtmlTree.Proofs.Refusals
import HtmlTree.Proofs.Undoing
import Mathlib.Data.List.Dedup

namespace HtmlTree

namespace Forest

variable {f g h : Forest} {b c m n : NodeId} {one two gone list : List NodeId} {fault : TreeFault}

-- A node that a removal can take out: its parent, if there is one, returns the link.
def Removable (f : Forest) (c : NodeId) : Prop :=
  f.known c = true ∧ ∀ q, f.parent c = some q → c ∈ f.kids q

-- A node with a parent that does not return the link, and what a removal says about it.
def Stray (f : Forest) (c : NodeId) (fault : TreeFault) : Prop :=
  ∃ q, f.parent c = some q ∧ f.placeIn q c = .error (.inconsistent fault c)

theorem placeIn_listed (listed : c ∈ f.kids n) :
    ∃ list, f.children n = some list ∧ f.placeIn n c = .ok (list, list.idxOf c) ∧
      list.eraseIdx (list.idxOf c) = list.erase c := by
  obtain ⟨list, owns, member⟩ := children_of_kids listed
  have found : list.idxOf? c = some (list.idxOf c) := by
    rw [List.idxOf_eq_getD_idxOf?]
    obtain ⟨place, found⟩ := Option.isSome_iff_exists.mp (List.isSome_idxOf?.mpr member)
    rw [found, Option.getD_some]
  refine ⟨list, owns, by simp [placeIn, owns, found], ?_⟩
  rw [List.erase_eq_eraseIdx, found]

theorem placeIn_unlisted (unlisted : c ∉ f.kids n) : f.placeIn n c = .error (.inconsistent
    (if (f.children n).isSome then .parentMissingChild else .parentMissingChildren) c) := by
  cases owns : f.children n with
  | none => simp [placeIn, owns]
  | some list =>
    have absent : list.idxOf? c = none := by simpa [mem_kids owns] using unlisted
    simp [placeIn, owns, absent]

theorem unlisted_of_refused (refused : f.placeIn n c = .error (.inconsistent fault c)) :
    c ∉ f.kids n := by
  intro listed
  obtain ⟨list, _, placed, _⟩ := placeIn_listed listed
  cases refused.symm.trans placed

-- A stray node is not removable, and only one that is no node at all is neither.
theorem Stray.not_removable (stray : Stray f c fault) : ¬ Removable f c := by
  obtain ⟨q, linked, refused⟩ := stray
  rintro ⟨_, returned⟩
  exact unlisted_of_refused refused (returned q linked)

theorem stray_of_not_removable (known : f.known c = true) (stuck : ¬ Removable f c) :
    ∃ fault, Stray f c fault := by
  obtain ⟨q, linked, unlisted⟩ : ∃ q, f.parent c = some q ∧ c ∉ f.kids q := by
    simpa [Removable, known] using stuck
  exact ⟨_, q, linked, placeIn_unlisted unlisted⟩

-- The entries that a list loses when nodes leave their parents: one for each of its own.
def entriesOf (f : Forest) (gone : List NodeId) (m : NodeId) : List NodeId :=
  gone.dedup.filter fun c => f.parent c = some m

theorem mem_entriesOf : c ∈ f.entriesOf gone m ↔ c ∈ gone ∧ f.parent c = some m := by
  rw [entriesOf, List.mem_filter, List.mem_dedup, decide_eq_true_iff]

-- What is left when some nodes have gone from where they were, whatever the links are. A node that
-- is met more than once has gone the first time.
structure Cleared (f g : Forest) (gone : List NodeId) : Prop where
  journal : g.journal = f.journal
  size : g.size = f.size
  node : ∀ m, g.node m = (f.node m).relink (if m ∈ gone then none else f.parent m)
    ((f.children m).map (·.diff (f.entriesOf gone m)))

theorem Cleared.parent (cleared : Cleared f g gone) (m : NodeId) :
    g.parent m = if m ∈ gone then none else f.parent m := by
  rw [Forest.parent, cleared.node m, Node.relink_parent]

theorem Cleared.children (cleared : Cleared f g gone) (m : NodeId) :
    g.children m = (f.children m).map (·.diff (f.entriesOf gone m)) := by
  rw [Forest.children, cleared.node m, Node.relink_children]

theorem Cleared.known (cleared : Cleared f g gone) (m : NodeId) : g.known m = f.known m := by
  rw [Forest.known, Forest.known, cleared.size]

theorem Cleared.kids (cleared : Cleared f g gone) (m : NodeId) :
    g.kids m = (f.kids m).diff (f.entriesOf gone m) := by
  cases owns : f.children m <;> simp [Forest.kids, cleared.children, owns]

theorem Cleared.unique (left : Cleared f g gone) (right : Cleared f h gone) : h = g :=
  forest_ext (right.journal.trans left.journal.symm) (right.size.trans left.size.symm) fun m =>
    (right.node m).trans (left.node m).symm

-- A node that keeps its link and its list is as it was.
theorem relink_kept {link : Option NodeId} {entries : List NodeId} (same : link = f.parent m)
    (none : entries = []) :
    (f.node m).relink link ((f.children m).map (·.diff entries)) = f.node m := by
  have whole : (f.children m).map (·.diff entries) = f.children m := by
    cases f.children m <;> simp [none]
  rw [whole, same]
  rfl

theorem Cleared.refl (f : Forest) : Cleared f f [] :=
  ⟨rfl, rfl, fun _ => (relink_kept (if_neg List.not_mem_nil) rfl).symm⟩

-- Those that go first and those that go later are as many entries in all.
theorem Cleared.entriesOf_append (cleared : Cleared f g one) (two : List NodeId) (m : NodeId) :
    (f.entriesOf (one ++ two) m).Perm (f.entriesOf one m ++ g.entriesOf two m) := by
  have distinct (f : Forest) (gone : List NodeId) : (f.entriesOf gone m).Nodup :=
    (List.nodup_dedup gone).filter _
  have later (c : NodeId) : c ∈ g.entriesOf two m ↔ c ∈ two ∧ c ∉ one ∧ f.parent c = some m := by
    rw [mem_entriesOf, cleared.parent]
    by_cases early : c ∈ one <;> simp [early]
  refine (List.perm_ext_iff_of_nodup (distinct f _) (List.nodup_append.mpr
    ⟨distinct f one, distinct g two, ?_⟩)).mpr fun c => ?_
  · rintro c early _ late rfl
    exact ((later c).mp late).2.1 (mem_entriesOf.mp early).1
  · rw [List.mem_append, mem_entriesOf, mem_entriesOf, later, List.mem_append]
    tauto

theorem Cleared.further (first : Cleared f g one) (next : Cleared g h two) :
    Cleared f h (one ++ two) := by
  refine ⟨next.journal.trans first.journal, next.size.trans first.size, fun m => ?_⟩
  rw [next.node m, first.parent m, first.children m, first.node m, Node.relink_relink]
  congr 1
  · by_cases early : m ∈ one <;> by_cases late : m ∈ two <;> simp [early, late]
  · cases f.children m with
    | none => rfl
    | some list =>
      rw [Option.map_some, Option.map_some, Option.map_some, ← List.diff_append]
      exact congrArg some ((first.entriesOf_append two m).symm.diff_left list)

-- Whatever goes, a list keeps the entries of all other nodes.
theorem Cleared.stays (cleared : Cleared f g gone) (outside : c ∉ gone) (listed : c ∈ f.kids m) :
    c ∈ g.kids m := by
  rw [cleared.kids]
  exact List.mem_diff_of_mem listed fun leaves => outside (mem_entriesOf.mp leaves).1

theorem Cleared.removable (cleared : Cleared f g gone) (removable : Removable f c) :
    Removable g c := by
  obtain ⟨known, returned⟩ := removable
  refine ⟨(cleared.known c).trans known, fun q linked => ?_⟩
  rw [cleared.parent] at linked
  split at linked
  · cases linked
  · exact cleared.stays ‹c ∉ gone› (returned q linked)

-- A link that is not returned is not returned later either, and the reason stays the same.
theorem Cleared.stray (cleared : Cleared f g gone) (outside : c ∉ gone) (stray : Stray f c fault) :
    Stray g c fault := by
  obtain ⟨q, linked, refused⟩ := stray
  have unlisted := unlisted_of_refused refused
  have still : c ∉ g.kids q := by
    rw [cleared.kids]
    exact fun listed => unlisted ((List.diff_sublist _ _).subset listed)
  refine ⟨q, by rw [cleared.parent, if_neg outside, linked], ?_⟩
  have owns : (g.children q).isSome = (f.children q).isSome := by
    rw [cleared.children, Option.isSome_map]
  rw [placeIn_unlisted still, owns, ← placeIn_unlisted unlisted, refused]

-- Nothing has changed in any node exactly if none of those that went had a parent.
theorem Cleared.untouched_iff (cleared : Cleared f g gone) :
    g.nodes = f.nodes ↔ ∀ c ∈ gone, f.parent c = none := by
  constructor
  · intro same c leaves
    have parted := cleared.parent c
    rwa [if_pos leaves, Forest.parent, node_of_nodes same] at parted
  · intro free
    have kept (m : NodeId) : f.entriesOf gone m = [] := by
      refine List.eq_nil_iff_forall_not_mem.mpr fun c leaves => ?_
      obtain ⟨among, linked⟩ := mem_entriesOf.mp leaves
      cases (free c among).symm.trans linked
    refine nodes_ext cleared.size fun m => (cleared.node m).trans (relink_kept ?_ (kept m))
    split
    · exact (free m ‹_›).symm
    · rfl

theorem Linked.removable (linked : Linked f) (known : f.known c = true) : Removable f c :=
  ⟨known, fun q upward => (linked.listed q c).mpr upward⟩

end Forest

namespace Edit
open Forest

variable {f g : Forest} {c n : NodeId} {front back list gone : List NodeId} {fault : TreeFault}
  {failure : Failure}

theorem detach_cleared (removable : Removable f c) :
    ∃ g, detach c f = .ok () g ∧ Cleared f g [c] := by
  obtain ⟨known, returned⟩ := removable
  cases linked : f.parent c with
  | none =>
    have stays (m : NodeId) : f.entriesOf [c] m = [] := by simp [entriesOf, linked]
    refine ⟨f, detach_free known linked, rfl, rfl, fun m => (relink_kept ?_ (stays m)).symm⟩
    split
    · exact List.mem_singleton.mp ‹_› ▸ linked.symm
    · rfl
  | some q =>
    obtain ⟨list, owns, placed, shorter⟩ := placeIn_listed (returned q linked)
    have inside : f.known q = true := known_of_children owns
    have still : (f.setChildren q (some (list.erase c))).known c = true := by
      simpa [Forest.known] using known
    have ran := detach_placed linked placed
    rw [shorter] at ran
    refine ⟨_, ran, rfl, by simp, fun m => ?_⟩
    rw [node_setParent still, node_setChildren inside, parent_setChildren inside,
      children_setChildren inside, Node.relink_relink]
    congr 1
    · simp
    · by_cases here : m = q
      · simp [here, owns, entriesOf, linked]
      · have stays : f.entriesOf [c] m = [] := by simp [entriesOf, linked, Ne.symm here]
        rw [if_neg here, stays]
        cases f.children m <;> rfl

theorem detach_stray (stray : Stray f c fault) : detach c f = .error (.inconsistent fault c) f := by
  obtain ⟨q, linked, refused⟩ := stray
  exact detach_refused linked refused

-- The nodes of a list go one after the other. That one has gone makes it no harder for the next.
theorem forM_detach_cleared (removable : ∀ c ∈ gone, Removable f c) :
    ∃ g, gone.forM detach f = .ok () g ∧ Cleared f g gone := by
  induction gone generalizing f with
  | nil => exact ⟨f, rfl, .refl f⟩
  | cons c gone ih =>
    obtain ⟨g, went, first⟩ := detach_cleared (removable c List.mem_cons_self)
    obtain ⟨h, ran, rest⟩ := ih fun b later =>
      first.removable (removable b (List.mem_cons_of_mem c later))
    refine ⟨h, ?_, first.further rest⟩
    change (detach c >>= fun _ => gone.forM detach) f = _
    rw [bind_run, went]
    exact ran

-- The first one that cannot go ends it, and those in front of it have gone.
theorem forM_detach_stopped (removable : ∀ b ∈ front, Removable f b)
    (stuck : ∀ g, Cleared f g front → detach c g = .error failure g) (back : List NodeId) :
    ∃ g, (front ++ c :: back).forM detach f = .error failure g ∧ Cleared f g front := by
  obtain ⟨g, ran, cleared⟩ := forM_detach_cleared removable
  refine ⟨g, ?_, cleared⟩
  have parted : (front ++ c :: back).forM detach =
      (front.forM detach >>= fun _ => detach c >>= fun _ => back.forM detach : Edit Unit) :=
    List.forM_append
  rw [parted, bind_run, ran]
  dsimp only
  rw [bind_run, stuck g cleared]

theorem forM_detach_stray (removable : ∀ b ∈ front, Removable f b) (stray : Stray f c fault)
    (back : List NodeId) :
    ∃ g, (front ++ c :: back).forM detach f = .error (.inconsistent fault c) g ∧
      Cleared f g front := by
  have outside : c ∉ front := fun member => stray.not_removable (removable c member)
  exact forM_detach_stopped removable (fun g cleared => detach_stray (cleared.stray outside stray)) back

theorem forM_detach_inconsistent
    (ran : list.forM detach f = .error (.inconsistent fault c) g) :
    ∃ front back, list = front ++ c :: back ∧ (∀ b ∈ front, Removable f b) ∧ Stray f c fault ∧
      Cleared f g front := by
  classical
  cases found : list.find? fun c => ¬ Removable f c with
  | none =>
    have all : ∀ c ∈ list, Removable f c := by simpa using found
    obtain ⟨h, went, _⟩ := forM_detach_cleared all
    cases ran.symm.trans went
  | some d =>
    obtain ⟨stuck, front, back, rfl, removable⟩ := List.find?_eq_some_iff_append.mp found
    have removable : ∀ b ∈ front, Removable f b := by simpa using removable
    by_cases known : f.known d = true
    · obtain ⟨fault, stray⟩ := stray_of_not_removable known (by simpa using stuck)
      obtain ⟨h, stopped, cleared⟩ := forM_detach_stray removable stray back
      cases ran.symm.trans stopped
      exact ⟨front, back, rfl, removable, stray, cleared⟩
    · have refused (g : Forest) (cleared : Cleared f g front) : detach d g = .error .noNode g :=
        detach_unknown ((cleared.known d).trans (Bool.eq_false_iff.mpr known))
      obtain ⟨h, stopped, _⟩ := forM_detach_stopped removable refused back
      cases ran.symm.trans stopped

end Edit

end HtmlTree

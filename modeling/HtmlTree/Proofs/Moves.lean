import HtmlTree.Proofs.Insertion
import HtmlTree.Proofs.Ownership
import Mathlib.Data.List.TakeWhile

namespace HtmlTree

theorem List.idxOf?_append_cons {r : NodeId} {front : List NodeId} (fresh : r ∉ front)
    (back : List NodeId) : (front ++ r :: back).idxOf? r = some front.length := by
  induction front with
  | nil => simp [List.idxOf?_cons]
  | cons c front ih =>
    have other : c ≠ r := fun same => fresh (by simp [same])
    have later : r ∉ front := fun member => fresh (List.mem_cons_of_mem _ member)
    simp [List.idxOf?_cons, other, ih later]

namespace Forest

variable {f g : Forest} {b c m n p q : NodeId} {gone : List NodeId}

-- What goes into a parent when a node is handed over: a fragment stands for its children.
def handed (f : Forest) : Option NodeId → List NodeId
  | none => []
  | some n => if (f.node n).isFragment then f.kids n else [n]

theorem mem_handed {new : Option NodeId} : b ∈ f.handed new ↔ ∃ n ∈ new,
    (f.node n).isFragment = true ∧ b ∈ f.kids n ∨ (f.node n).isFragment = false ∧ b = n := by
  cases new with
  | none => simp [handed]
  | some n => cases fragment : (f.node n).isFragment <;> simp [handed, fragment]

theorem Owned.children_filter (owned : Owned f) (others : ∀ c ∈ gone, f.parent c ≠ some m) :
    (f.children m).map (·.filter (· ∉ gone)) = f.children m := by
  cases owns : f.children m with
  | none => rfl
  | some list =>
    refine congrArg some (List.filter_eq_self.mpr ?_)
    intro c member
    have linked : f.parent c = some m := owned.link owns member
    simpa using fun leaves => others c leaves linked

theorem Owned.handed_nodup (owned : Owned f) (new : Option NodeId) : (f.handed new).Nodup := by
  cases new with
  | none => simp [handed]
  | some n => cases fragment : (f.node n).isFragment <;> simp [handed, fragment, owned.once n]

theorem Owned.handed_known (owned : Owned f) {new : Option NodeId}
    (known : ∀ n ∈ new, f.known n = true) : ∀ b ∈ f.handed new, f.known b = true := by
  intro b member
  obtain ⟨n, given, ⟨_, listed⟩ | ⟨_, rfl⟩⟩ := mem_handed.mp member
  · exact owned.known_child listed
  · exact known b given

theorem Owned.handed_plain (owned : Owned f) {new : Option NodeId} :
    ∀ b ∈ f.handed new, (f.node b).isFragment = false := by
  intro b member
  obtain ⟨n, _, ⟨_, listed⟩ | ⟨plain, rfl⟩⟩ := mem_handed.mp member
  · exact owned.plain ((owned.listed n b).mp listed)
  · exact plain

-- If a child of a fragment were above a node, so would the fragment be.
theorem Owned.handed_admitted (owned : Owned f) {new : Option NodeId}
    (clear : ∀ n ∈ new, ¬ Above f n p) : Admitted f p (f.handed new) := by
  refine ⟨owned.handed_nodup new, ?_, owned.handed_plain⟩
  intro b member above
  obtain ⟨n, given, ⟨_, listed⟩ | ⟨_, rfl⟩⟩ := mem_handed.mp member
  · have upward : Above f n b := .up ((owned.listed n b).mp listed) .self
    exact clear n given (upward.trans above)
  · exact clear b given above

end Forest

namespace Edit
open Forest

variable {f g : Forest} {n p q : NodeId}

theorem placeIn_owned (owned : Owned f) (linked : f.parent n = some q) :
    ∃ list place, f.children q = some list ∧ f.placeIn q n = .ok (list, place) ∧
      list.idxOf? n = some place := by
  obtain ⟨list, owns, member⟩ := owned.children_of_parent linked
  obtain ⟨place, found⟩ := Option.isSome_iff_exists.mp (List.isSome_idxOf?.mpr member)
  exact ⟨list, place, owns, by simp [placeIn, owns, found], found⟩

-- Taking a node out touches the list of its parent and its own link, and nothing else.
theorem detach_owned (owned : Owned f) (linked : f.parent n = some q) :
    ∃ g, detach n f = .ok () g ∧ Relinked f g q 0 [] [n] := by
  obtain ⟨list, place, owns, placed, found⟩ := placeIn_owned owned linked
  have known : f.known n = true := known_of_parent linked
  have inside : f.known q = true := known_of_children owns
  have shorter : list.eraseIdx place = list.filter (· ∉ [n]) := by
    have nodup : list.Nodup := owned.nodup owns
    have erased : list.erase n = list.eraseIdx place := by
      rw [List.erase_eq_eraseIdx, found]
    rw [← erased, nodup.erase_eq_filter]
    exact List.filter_congr fun c _ => by by_cases same : c = n <;> simp [same]
  refine ⟨(f.setChildren q (some (list.eraseIdx place))).setParent n none, ?_, ?_, ?_⟩
  · exact detach_placed linked placed
  · simp
  · intro m
    have still : (f.setChildren q (some (list.eraseIdx place))).known n = true := by
      simpa [Forest.known] using known
    have others (other : m ≠ q) : ∀ c ∈ [n], f.parent c ≠ some m := by
      intro c member
      cases List.mem_singleton.mp member
      simpa [linked] using Ne.symm other
    rw [node_setParent still, node_setChildren inside, Node.relink_relink,
      parent_setChildren inside, children_setChildren inside]
    congr 1
    · simp
    · by_cases here : m = q
      · subst here
        simp [kids, owns, shorter]
      · rw [if_neg here, if_neg here, owned.children_filter (others here)]

def Splits (f : Forest) (n : NodeId) : Prop :=
  (f.node n).isFragment = true → (f.node n).kind ≠ .text ∧ (f.children n).isSome = true

-- What is handed over is in no list any more. The links of the nodes themselves are still to be
-- set, so nothing is said about them.
structure Freed (f g : Forest) (block : List NodeId) : Prop where
  size : g.size = f.size
  node : ∀ m, ∃ link, (m ∉ block → link = f.parent m) ∧
    g.node m = (f.node m).relink link ((f.children m).map (·.filter (· ∉ block)))

namespace Freed

variable {block : List NodeId} {m : NodeId} (freed : Freed f g block)
include freed

theorem known (m : NodeId) : g.known m = f.known m := by
  rw [Forest.known, freed.size, Forest.known]

theorem parent (outside : m ∉ block) : g.parent m = f.parent m := by
  obtain ⟨link, unmoved, read⟩ := freed.node m
  rw [Forest.parent, read, Node.relink_parent, unmoved outside]

theorem children (m : NodeId) : g.children m = (f.children m).map (·.filter (· ∉ block)) := by
  obtain ⟨link, _, read⟩ := freed.node m
  rw [Forest.children, read, Node.relink_children]

end Freed

-- Nodes without a parent are in no list, so nothing has to be done to free them.
theorem freed_loose (owned : Owned f) {block : List NodeId} (loose : ∀ n ∈ block, f.parent n = none) :
    Freed f f block := by
  refine ⟨rfl, fun m => ⟨f.parent m, fun _ => rfl, ?_⟩⟩
  rw [owned.children_filter fun c member => by simp [loose c member]]
  rfl

section
variable (owned : Owned f)
include owned

theorem takeChildren_freed {list : List NodeId} (branch : (f.node n).kind ≠ .text)
    (owns : f.children n = some list) :
    ∃ g, takeChildren n f = .ok (some list) g ∧ Freed f g list := by
  obtain ⟨g, ran, nodes⟩ := takeChildren_run branch
  refine ⟨g, by rw [ran, owns], by simp [size, nodes, setChildren, update], fun m => ?_⟩
  refine ⟨f.parent m, fun _ => rfl, ?_⟩
  rw [node_of_nodes nodes, node_setChildren (known_of_children owns)]
  congr 1
  by_cases here : m = n
  · subst here
    simp [owns]
  · rw [if_neg here, owned.children_filter]
    intro c member
    have linked := owned.link owns member
    simpa [linked] using Ne.symm here

theorem detach_freed (linked : f.parent n = some q) : ∃ g, detach n f = .ok () g ∧ Freed f g [n] := by
  obtain ⟨g, ran, relinked⟩ := detach_owned owned linked
  obtain ⟨list, owns, _⟩ := owned.children_of_parent linked
  refine ⟨g, ran, relinked.size, fun m => ?_⟩
  refine ⟨if m ∈ [n] then none else f.parent m, fun other => if_neg other, ?_⟩
  rw [relinked.node m]
  by_cases same : m = q
  · subst same
    simp [kids, owns]
  · simp [same]

theorem release_owned (clear : ¬ Above f n p) (splits : Splits f n) :
    ∃ g, release p n f = .ok (some (f.handed (some n))) g ∧ Freed f g (f.handed (some n)) := by
  have checked : n ∉ f.ancestors p := fun above =>
    clear ((mem_ancestors (owned.rooted p)).mp above)
  cases fragment : (f.node n).isFragment with
  | true =>
    obtain ⟨branch, full⟩ := splits fragment
    obtain ⟨list, owns⟩ := Option.isSome_iff_exists.mp full
    have block : f.handed (some n) = list := by simp [handed, fragment, kids, owns]
    rw [block, release_fragment checked fragment]
    exact takeChildren_freed owned branch owns
  | false =>
    have block : f.handed (some n) = [n] := by simp [handed, fragment]
    rw [block]
    cases linked : f.parent n with
    | none =>
      exact ⟨f, release_free checked fragment linked, freed_loose owned (by simpa using linked)⟩
    | some q =>
      let noted := f.note (.detaching (f.summary n) (f.summary q))
      obtain ⟨g, ran, freed⟩ := detach_freed (owned.same (.of_nodes rfl) : Owned noted) linked
      exact ⟨g, by rw [release_linked checked fragment linked, ran], freed.size, freed.node⟩

end

-- Of the children of the parent, only a node that is handed over by itself is taken away.
theorem mem_handed_sibling (owned : Owned f) {new : Option NodeId}
    (clear : ∀ n ∈ new, ¬ Above f n p) {c : NodeId} (member : c ∈ f.kids p) :
    c ∈ f.handed new ↔ new = some c := by
  have linked := (owned.listed p c).mp member
  rw [mem_handed]
  constructor
  · rintro ⟨n, given, ⟨_, listed⟩ | ⟨_, rfl⟩⟩
    · have here : n = p := owned.apart listed member
      exact absurd (here ▸ .self) (clear n given)
    · exact given
  · exact fun given => ⟨c, given, .inr ⟨owned.plain linked, rfl⟩⟩

theorem childAt_known {list : List NodeId} (known : ∀ c ∈ list, f.known c = true) (i : Nat) :
    childAt f list i = list[i]? := by
  cases found : list[i]? with
  | none => simp [childAt, found]
  | some c => simp [childAt, found, known c (List.mem_of_getElem? found)]

theorem childAt_owned (owned : Owned f) {list : List NodeId} (owns : f.children p = some list)
    (i : Nat) : childAt f list i = list[i]? := by
  refine childAt_known (fun c member => ?_) i
  have listed : c ∈ f.kids p := (mem_kids owns).mpr member
  exact owned.known_child listed

-- The remembered neighbour is the first child from the index on that stays.
theorem neighbour_owned (owned : Owned f) {list : List NodeId} (owns : f.children p = some list)
    {new : Option NodeId} (clear : ∀ n ∈ new, ¬ Above f n p) (i : Nat) :
    neighbour f list i new = ((list.drop i).filter (· ∉ f.handed new)).head? := by
  have inside (c : NodeId) (member : c ∈ list) : c ∈ f.kids p := (mem_kids owns).mpr member
  have nodup : (list.drop i).Nodup := by
    have whole : list.Nodup := owned.nodup owns
    exact whole.sublist (List.drop_sublist i list)
  have stays (c : NodeId) (member : c ∈ list.drop i) : c ∈ f.handed new ↔ new = some c :=
    mem_handed_sibling owned clear (inside c (List.mem_of_mem_drop member))
  have first : list[i]? = (list.drop i).head? := List.head?_drop.symm
  have second : list[i + 1]? = (list.drop i).tail.head? := by
    rw [List.tail_drop, List.head?_drop]
  rw [neighbour, childAt_owned owned owns, childAt_owned owned owns, first, second]
  cases rest : list.drop i with
  | nil => rfl
  | cons c later =>
    rw [rest] at stays nodup
    have fresh : c ∉ later := (List.nodup_cons.mp nodup).1
    by_cases given : new = some c
    · have others : later.filter (· ∉ f.handed new) = later := by
        refine List.filter_eq_self.mpr fun d member => ?_
        have differs : d ≠ c := fun same => fresh (same ▸ member)
        have kept := stays d (List.mem_cons_of_mem _ member)
        rw [given, Option.some.injEq, ← given] at kept
        simpa [kept] using Ne.symm differs
      have leaves : c ∈ f.handed new := (stays c (by simp)).mpr given
      rw [List.filter_cons_of_neg (by simpa using leaves), others]
      simp [given]
    · have kept : c ∉ f.handed new := fun leaves => given ((stays c (by simp)).mp leaves)
      simp [given, kept]

theorem splice_run {front back : List NodeId} (owns : g.children p = some (front ++ back))
    (nodup : (front ++ back).Nodup) (block : List NodeId) (width : Nat) :
    splice p back.head? (some block) width g =
      .ok block (g.setChildren p (some (front ++ block ++ back.drop width))) := by
  cases back with
  | nil =>
    have beyond : front.drop (front.length + width) = [] := List.drop_eq_nil_of_le (by omega)
    rw [List.append_nil] at owns
    simp [splice, owned, bind_run, map_run, owns, beyond]
  | cons r back =>
    have fresh : r ∉ front := fun member =>
      (List.nodup_append.mp nodup).2.2 r member r (by simp) rfl
    have found := List.idxOf?_append_cons fresh back
    have beyond : front.drop (front.length + width) = [] := List.drop_eq_nil_of_le (by omega)
    simp [splice, owned, bind_run, map_run, owns, found, List.drop_append, beyond]

theorem splice_missing {front back : List NodeId} (owns : g.children p = some (front ++ back))
    (width : Nat) : splice p back.head? none width g = .error .missingPart g := by
  cases back with
  | nil => simp [splice, bind_run, owned_run owns]
  | cons r back =>
    have member : r ∈ front ++ r :: back := by simp
    obtain ⟨place, found⟩ := Option.isSome_iff_exists.mp (List.isSome_idxOf?.mpr member)
    simp [splice, bind_run, owned_run owns, found]

theorem adopt_run {block : List NodeId} (known : ∀ b ∈ block, g.known b = true) :
    adopt p block g = .ok () (g.linkAll block (some p)) := by
  have whole : block.takeWhile g.known = block := List.takeWhile_eq_self_iff.mpr known
  have all : block.all g.known = true := List.all_eq_true.mpr known
  simp only [adopt, bind_run, get_run, modify_run, whole, all]
  rfl

theorem freeing_owned (owned : Owned f) {new : Option NodeId} (clear : ∀ n ∈ new, ¬ Above f n p)
    (splits : ∀ n ∈ new, Splits f n) :
    ∃ g, freeing p new f = .ok (some (f.handed new)) g ∧ Freed f g (f.handed new) := by
  cases new with
  | some n => exact release_owned owned (clear n rfl) (splits n rfl)
  | none => exact ⟨f, rfl, freed_loose owned nofun⟩

def displaced (list : List NodeId) (i : Nat) (replacing : Bool) : Option NodeId :=
  if replacing then list[i]? else none

theorem mem_of_displaced {list : List NodeId} {i : Nat} {replacing : Bool} {c : NodeId}
    (gives : c ∈ displaced list i replacing) : c ∈ list := by
  cases replacing with
  | false => simp [displaced] at gives
  | true => exact List.mem_of_getElem? (by simpa [displaced] using gives)

-- A child that is displaced is not of the block, and in no list but that of the parent.
theorem displaced_stays (owned : Owned f) {list : List NodeId} {i : Nat} {new : Option NodeId}
    {replacing : Bool} (owns : f.children p = some list) (clear : ∀ n ∈ new, ¬ Above f n p)
    (other : replacing = true → new ≠ list[i]?) :
    ∀ old ∈ displaced list i replacing, old ∉ f.handed new := by
  intro old gives joins
  have member : old ∈ f.kids p := (mem_kids owns).mpr (mem_of_displaced gives)
  have itself : new = some old := (mem_handed_sibling owned clear member).mp joins
  cases replacing with
  | false => simp [displaced] at gives
  | true => exact other rfl (itself.trans gives.symm)

theorem displaced_linked (owned : Owned f) {list : List NodeId} {i : Nat} {replacing : Bool}
    (owns : f.children p = some list) :
    ∀ old ∈ displaced list i replacing, f.parent old = some p := by
  intro old gives
  exact owned.link owns (mem_of_displaced gives)

-- Leaving out the displaced child means dropping the first of those from the index on.
theorem filter_displaced {list block : List NodeId} (nodup : list.Nodup) {i : Nat}
    {replacing : Bool} (fits : replacing = true → i < list.length)
    (apart : ∀ old ∈ displaced list i replacing, old ∉ block) :
    (list.take i).filter (· ∉ block ++ (displaced list i replacing).toList) =
        (list.take i).filter (· ∉ block) ∧
      (list.drop i).filter (· ∉ block ++ (displaced list i replacing).toList) =
        ((list.drop i).filter (· ∉ block)).drop (if replacing then 1 else 0) := by
  cases replacing with
  | false => simp [displaced]
  | true =>
    have short := fits rfl
    have gives : displaced list i true = some list[i] := by simp [displaced, short]
    have stays := apart list[i] gives
    have split : list = list.take i ++ list[i] :: list.drop (i + 1) := by
      rw [← List.drop_eq_getElem_cons short, List.take_append_drop]
    have parted := nodup
    rw [split, List.nodup_append, List.nodup_cons] at parted
    obtain ⟨_, ⟨absent, _⟩, before⟩ := parted
    rw [gives, List.drop_eq_getElem_cons short]
    constructor
    · refine List.filter_congr fun c member => ?_
      have differs : c ≠ list[i] := before c member list[i] List.mem_cons_self
      simp [differs]
    · have later : (list.drop (i + 1)).filter (· ∉ block ++ (some list[i]).toList) =
          (list.drop (i + 1)).filter (· ∉ block) := by
        refine List.filter_congr fun c member => ?_
        have differs : c ≠ list[i] := fun same => absent (same ▸ member)
        simp [differs]
      rw [List.filter_cons_of_neg (by simp), List.filter_cons_of_pos (by simpa using stays), later]
      rfl

-- The list with the block at the index, and without the child that it displaces.
def blockPlaced (list block : List NodeId) (i : Nat) (replacing : Bool) : List NodeId :=
  (list.take i).filter (· ∉ block) ++ block ++
    ((list.drop i).filter (· ∉ block)).drop (if replacing then 1 else 0)

-- The links as they stand once the block is in the list and its nodes, and the displaced child,
-- are linked accordingly.
def resettled (g : Forest) (p : NodeId) (list block : List NodeId) (i : Nat) (replacing : Bool) :
    Forest :=
  ((g.setChildren p (some (blockPlaced list block i replacing))).linkAll block (some p)).linkAll
    (displaced list i replacing).toList none

section
variable {list block : List NodeId} {i : Nat} {replacing : Bool}

theorem resettled_node (gives : ∀ old ∈ displaced list i replacing, g.known old = true)
    (known : ∀ b ∈ block, g.known b = true) (inside : g.known p = true) (m : NodeId) :
    (resettled g p list block i replacing).node m = (g.node m).relink
      (if m ∈ (displaced list i replacing).toList then none
        else if m ∈ block then some p else g.parent m)
      (if m = p then some (blockPlaced list block i replacing) else g.children m) := by
  have still : ∀ b ∈ block,
      (g.setChildren p (some (blockPlaced list block i replacing))).known b = true := by
    intro b member
    simpa [Forest.known] using known b member
  have goes : ∀ old ∈ (displaced list i replacing).toList,
      ((g.setChildren p (some (blockPlaced list block i replacing))).linkAll block
        (some p)).known old = true := by
    intro old member
    simpa [Forest.known] using gives old (by simpa using member)
  rw [resettled, node_linkAll _ none goes, node_linkAll _ _ still, node_setChildren inside,
    parent_linkAll _ _ still, children_linkAll _ _ still, parent_setChildren inside,
    children_setChildren inside, Node.relink_relink, Node.relink_relink]

theorem settled (owned : Owned f) (owns : f.children p = some list)
    (fits : replacing = true → i < list.length)
    (apart : ∀ old ∈ displaced list i replacing, old ∉ block)
    (known : ∀ b ∈ block, f.known b = true) (freed : Freed f g block) :
    Relinked f (resettled g p list block i replacing) p i block
      (block ++ (displaced list i replacing).toList) := by
  have whole : list.Nodup := owned.nodup owns
  have linkedHere (old : NodeId) (gives : old ∈ displaced list i replacing) :
      f.parent old = some p := displaced_linked owned owns old gives
  obtain ⟨front, back⟩ := filter_displaced whole fits apart
  refine ⟨by simp [resettled, freed.size], fun m => ?_⟩
  obtain ⟨link, _, read⟩ := freed.node m
  rw [resettled_node (fun old gives => (freed.known old).trans (known_of_parent (linkedHere old gives)))
    (fun b member => (freed.known b).trans (known b member))
    ((freed.known p).trans (known_of_children owns)), read, Node.relink_relink, freed.children]
  congr 1
  · -- The displaced child is not of the block, so the order of the two tests does not matter.
    by_cases joins : m ∈ block
    · have stays : m ∉ (displaced list i replacing).toList := fun gives =>
        apart m (by simpa using gives) joins
      rw [if_neg stays, if_pos joins, if_pos joins]
    · by_cases gives : m ∈ (displaced list i replacing).toList <;>
        simp [joins, gives, freed.parent joins]
  · by_cases here : m = p
    · subst here
      have lists : f.kids m = list := kids_eq owns
      rw [if_pos rfl, if_pos rfl, lists, front, back, blockPlaced]
    · rw [if_neg here, if_neg here]
      cases lists : f.children m with
      | none => rfl
      | some others =>
        refine congrArg some (List.filter_congr fun c member => ?_)
        have elsewhere := owned.link lists member
        have stays : c ∉ displaced list i replacing := by
          intro gives
          rw [linkedHere c gives] at elsewhere
          exact here (Option.some.inj elsewhere).symm
        simp_all

end

theorem removedBy_owned (owned : Owned f) {list : List NodeId} (owns : f.children p = some list)
    (index : Int) (replacing : Bool) :
    removedBy f list index replacing = displaced list index.toNat replacing := by
  rw [removedBy, childAt_owned owned owns, displaced]

-- What would be put in place of itself is a child of the parent.
theorem itself_listed (owned : Owned f) {list : List NodeId} (owns : f.children p = some list)
    {index : Int} {new : Option NodeId} {replacing : Bool}
    (itself : replacing = true ∧ new = removedBy f list index replacing) :
    ∀ n ∈ new, n ∈ f.kids p := by
  intro n given
  have found : n ∈ displaced list index.toNat replacing := by
    rw [← removedBy_owned owned owns, ← itself.2]
    exact given
  exact (mem_kids owns).mpr (mem_of_displaced found)

-- An insertion that nothing speaks against: the block stands at the index, and every other link
-- is as it was.
theorem insertNode_moved (owned : Owned f) {list : List NodeId} (owns : f.children p = some list)
    {index : Int} {new : Option NodeId} {replacing : Bool}
    (inside : InRange list index replacing)
    (other : ¬ (replacing = true ∧ new = removedBy f list index replacing))
    (known : ∀ n ∈ new, f.known n = true) (clear : ∀ n ∈ new, ¬ Above f n p)
    (splits : ∀ n ∈ new, Splits f n) :
    ∃ g, insertNode p index new replacing f = .ok (displaced list index.toNat replacing) g ∧
      Relinked f g p index.toNat (f.handed new)
        (f.handed new ++ (displaced list index.toNat replacing).toList) := by
  obtain ⟨g, ran, freed⟩ := freeing_owned owned clear splits
  have removed := removedBy_owned owned owns index replacing
  have whole : list.Nodup := owned.nodup owns
  have short : replacing = true → index.toNat < list.length := by
    rintro rfl
    obtain ⟨low, high⟩ := inside
    simp only [if_true] at high
    omega
  have apart : ∀ old ∈ displaced list index.toNat replacing, old ∉ f.handed new := by
    refine displaced_stays owned owns clear ?_
    rintro rfl same
    exact other ⟨rfl, same.trans removed.symm⟩
  have given := owned.handed_known known
  refine ⟨_, ?_, settled owned owns short apart given freed⟩
  have left : g.children p = some ((list.take index.toNat).filter (· ∉ f.handed new) ++
      (list.drop index.toNat).filter (· ∉ f.handed new)) := by
    rw [freed.children, owns, ← List.filter_append, List.take_append_drop]
    rfl
  have spliced := splice_run left (by
    rw [← List.filter_append, List.take_append_drop]
    exact whole.filter _) (f.handed new) (if replacing then 1 else 0)
  have blockKnown : ∀ b ∈ f.handed new, (g.setChildren p (some (blockPlaced list (f.handed new)
      index.toNat replacing))).known b = true := by
    intro b member
    simpa [Forest.known, freed.size] using given b member
  rw [insertNode_begun owns inside other, bind_run, ran, removed, neighbour_owned owned owns clear]
  simp only [settling, bind_run, spliced]
  rw [← blockPlaced, adopt_run blockKnown, resettled]
  cases displaced list index.toNat replacing <;> rfl

-- A fragment that cannot give its children away: at most it is left with an empty list.
theorem insertNode_hollow (owned : Owned f) {list : List NodeId} (owns : f.children p = some list)
    {index : Int} {replacing : Bool} (inside : InRange list index replacing)
    (other : ¬ (replacing = true ∧ some n = removedBy f list index replacing))
    (clear : ¬ Above f n p) (hollow : ¬ Splits f n) :
    ∃ failure g, insertNode p index (some n) replacing f = .error failure g ∧
      (g = f ∨ f.children n = none ∧ g.nodes = (f.setChildren n (some [])).nodes) := by
  have checked : n ∉ f.ancestors p := fun above =>
    clear ((mem_ancestors (owned.rooted p)).mp above)
  obtain ⟨fragment, lacks⟩ := Classical.not_imp.mp hollow
  rw [insertNode_begun owns inside other, bind_run, freeing, release_fragment checked fragment]
  by_cases leaf : (f.node n).kind = .text
  · rw [takeChildren_text leaf]
    exact ⟨_, f, rfl, .inl rfl⟩
  · have missing : f.children n = none := by
      refine Option.not_isSome_iff_eq_none.mp fun full => lacks ⟨leaf, full⟩
    obtain ⟨g, ran, nodes⟩ := takeChildren_run leaf
    have apart : p ≠ n := fun same => clear (same ▸ .self)
    have here : g.children p = some (list.take index.toNat ++ list.drop index.toNat) := by
      have kept : (f.setChildren n (some [])).node p = f.node p := node_update_other _ _ _ _ apart
      rw [List.take_append_drop, Forest.children, node_of_nodes nodes, kept]
      exact owns
    have empty : f.handed (some n) = [] := by simp [handed, fragment, kids, missing]
    have next : neighbour f list index.toNat (some n) = (list.drop index.toNat).head? := by
      rw [neighbour_owned owned owns (by simpa using clear), empty]
      simp
    refine ⟨.missingPart, g, ?_, .inr ⟨missing, nodes⟩⟩
    rw [ran, missing, next]
    simp only [settling, bind_run, splice_missing here]

-- All that an insertion can come to: it is refused, it finds what it would put there, or it moves
-- what is handed over.
theorem insertNode_cases (owned : Owned f) (p : NodeId) (index : Int) (new : Option NodeId)
    (replacing : Bool) (known : ∀ n ∈ new, f.known n = true) :
    (∃ failure g, insertNode p index new replacing f = .error failure g ∧ SameLinks f g) ∨
    (∃ found, insertNode p index new replacing f = .ok found f ∧ ∀ n ∈ new, n ∈ f.kids p) ∨
    ∃ list g, f.children p = some list ∧ (∀ n ∈ new, ¬ Above f n p) ∧
      insertNode p index new replacing f = .ok (displaced list index.toNat replacing) g ∧
      Relinked f g p index.toNat (f.handed new)
        (f.handed new ++ (displaced list index.toNat replacing).toList) := by
  cases owns : f.children p with
  | none => exact .inl ⟨_, f, insertNode_barren owns, .of_nodes rfl⟩
  | some list =>
    by_cases inside : InRange list index replacing
    swap
    · exact .inl ⟨_, f, insertNode_outside owns inside, .of_nodes rfl⟩
    by_cases other : replacing = true ∧ new = removedBy f list index replacing
    · exact .inr (.inl ⟨_, insertNode_itself owns inside other, itself_listed owned owns other⟩)
    by_cases clear : ∀ n ∈ new, ¬ Above f n p
    · by_cases splits : ∀ n ∈ new, Splits f n
      · obtain ⟨g, ran, relinked⟩ := insertNode_moved owned owns inside other known clear splits
        exact .inr (.inr ⟨list, g, rfl, clear, ran, relinked⟩)
      · obtain ⟨n, rfl, hollow⟩ : ∃ n, new = some n ∧ ¬ Splits f n := by simpa using splits
        obtain ⟨failure, g, ran, left⟩ :=
          insertNode_hollow owned owns inside other (clear n rfl) hollow
        refine .inl ⟨failure, g, ran, ?_⟩
        rcases left with rfl | ⟨missing, nodes⟩
        · exact .of_nodes rfl
        · exact .emptied missing nodes
    · obtain ⟨n, rfl, above⟩ : ∃ n, new = some n ∧ Above f n p := by simpa using clear
      have circular : n ∈ f.ancestors p := (mem_ancestors (owned.rooted p)).mpr above
      refine .inl ⟨.hierarchy .insertIntoDescendant n, f, ?_, .of_nodes rfl⟩
      rw [insertNode_begun owns inside other, bind_run, freeing, release_circular circular]

end Edit
end HtmlTree

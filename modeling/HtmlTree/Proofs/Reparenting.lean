import HtmlTree.Proofs.Growth
import HtmlTree.Proofs.Placement

namespace HtmlTree

namespace Forest

variable {f g h : Forest} {a c m n p : NodeId} {block front back list old one two : List NodeId}

-- What becomes of the links when a block of nodes goes to the end of a list, wherever the nodes come
-- from, and be it from this list.
structure Lined (f g : Forest) (p : NodeId) (block : List NodeId) : Prop where
  size : g.size = f.size
  node : ∀ m, g.node m = (f.node m).relink (if m ∈ block then some p else f.parent m)
    (if m = p then some ((f.kids p).filter (· ∉ block) ++ block)
    else (f.children m).map (·.filter (· ∉ block)))

theorem Lined.parent (lined : Lined f g p block) (m : NodeId) :
    g.parent m = if m ∈ block then some p else f.parent m := by
  rw [Forest.parent, lined.node m, Node.relink_parent]

theorem Lined.children (lined : Lined f g p block) (m : NodeId) :
    g.children m = if m = p then some ((f.kids p).filter (· ∉ block) ++ block)
      else (f.children m).map (·.filter (· ∉ block)) := by
  rw [Forest.children, lined.node m, Node.relink_children]

theorem Lined.children_here (lined : Lined f g p block) :
    g.children p = some ((f.kids p).filter (· ∉ block) ++ block) := by
  rw [lined.children, if_pos rfl]

theorem Lined.kids_here (lined : Lined f g p block) :
    g.kids p = (f.kids p).filter (· ∉ block) ++ block := by
  rw [kids, lined.children_here, Option.getD_some]

theorem Lined.none (owned : Owned f) (owns : f.children p = some list) : Lined f f p [] := by
  refine ⟨rfl, fun m => ?_⟩
  have all : f.kids p = list := by rw [kids, owns, Option.getD_some]
  by_cases here : m = p
  · subst here
    simp [all, ← owns]
    rfl
  · rw [if_neg here, owned.children_filter (by simp)]
    rfl

-- What comes behind a block that came before makes one block with it.
theorem Lined.further (first : Lined f g p one) (next : Lined g h p two)
    (apart : ∀ c ∈ two, c ∉ one) : Lined f h p (one ++ two) := by
  refine ⟨next.size.trans first.size, fun m => ?_⟩
  have twice (list : List NodeId) : (list.filter (· ∉ one)).filter (· ∉ two) =
      list.filter (· ∉ one ++ two) := by
    rw [List.filter_filter]
    exact List.filter_congr fun c _ => by simp [Bool.and_comm]
  have stays : one.filter (· ∉ two) = one :=
    List.filter_eq_self.mpr fun c early => decide_eq_true fun late => apart c late early
  rw [next.node m, first.parent m, first.children m, first.node m, Node.relink_relink, first.kids_here,
    List.filter_append, twice, stays, List.append_assoc]
  congr 1
  · by_cases early : m ∈ one <;> by_cases late : m ∈ two <;> simp [early, late]
  · by_cases here : m = p
    · rw [if_pos here, if_pos here]
    · rw [if_neg here, if_neg here, if_neg here]
      cases f.children m with
      | none => rfl
      | some list => exact congrArg some (twice list)

-- The way up from a node that nothing of the block is above is as it was.
theorem Lined.above_iff (lined : Lined f g p block) (clear : ∀ b ∈ block, ¬ Above f b n) :
    Above g a n ↔ Above f a n := by
  have same {m : NodeId} (clear : ∀ b ∈ block, ¬ Above f b m) : g.parent m = f.parent m := by
    rw [lined.parent, if_neg fun joins => clear m joins .self]
  constructor
  · intro above
    induction above with
    | self => exact .self
    | @up n q upward _ ih =>
      rw [same clear] at upward
      exact .up upward (ih fun b joins above => clear b joins (.up upward above))
  · intro above
    induction above with
    | self => exact .self
    | @up n q upward _ ih =>
      have further := ih fun b joins above => clear b joins (.up upward above)
      exact .up ((same clear).trans upward) further

-- Children of one node, none of which is above the place where they are to go.
structure Movable (f : Forest) (a p : NodeId) (list : List NodeId) : Prop where
  distinct : list.Nodup
  below : ∀ c ∈ list, f.parent c = some a
  clear : ∀ c ∈ list, ¬ Above f c p

end Forest

namespace Edit
open Forest

variable {f g : Forest} {a c p : NodeId} {list old : List NodeId}

theorem append_lined (owned : Owned f) (owns : f.children p = some old) (linked : f.parent c = some a)
    (clear : ¬ Above f c p) :
    ∃ g, append p (some c) f = .ok () g ∧ Owned g ∧ Lined f g p [c] := by
  have plain := owned.plain linked
  have alone : f.handed (some c) = [c] := by simp [handed, plain]
  have whole : f.kids p = old := by rw [kids, owns, Option.getD_some]
  have inside : InRange old old.length false := ⟨Int.natCast_nonneg _, Int.le_refl _⟩
  have known : ∀ n ∈ some c, f.known n = true := by
    rintro n ⟨⟩
    exact known_of_parent linked
  have away : ∀ n ∈ some c, ¬ Above f n p := by
    rintro n ⟨⟩
    exact clear
  have splits : ∀ n ∈ some c, Splits f n := by
    rintro n ⟨⟩ fragment
    cases plain.symm.trans fragment
  obtain ⟨g, ran, relinked⟩ := insertNode_moved owned owns inside (by simp) known away splits
  have admitted : Admitted f p [c] := alone ▸ owned.handed_admitted away
  rw [alone, Int.toNat_natCast] at relinked
  refine ⟨g, ?_, owned.relinked relinked (List.subset_append_left _ _) admitted, relinked.size,
    fun m => ?_⟩
  · rw [Move.append_plan, Plan.atEnd, owns]
    dsimp only
    rw [Plan.run, discard_run, ran]
  · rw [relinked.node m, whole, List.take_length, List.drop_length]
    congr 1
    · by_cases joins : m ∈ [c] <;> simp [joins, displaced]
    · simp [displaced]

theorem append_circular (owned : Owned f) (owns : f.children p = some old) (above : Above f c p) :
    append p (some c) f = .error (.hierarchy .insertIntoDescendant c) f := by
  have inside : InRange old old.length false := ⟨Int.natCast_nonneg _, Int.le_refl _⟩
  have circular : c ∈ f.ancestors p := (mem_ancestors (owned.rooted p)).mpr above
  rw [Move.append_plan, Plan.atEnd, owns]
  dsimp only
  rw [Plan.run, discard_run, insertNode_begun owns inside (by simp), bind_run, freeing,
    release_circular circular]

-- One after the other the nodes go to the end of the list.
theorem forM_append_lined (owned : Owned f) (owns : f.children p = some old)
    (movable : Movable f a p list) :
    ∃ g, list.forM (fun c => append p (some c)) f = .ok () g ∧ Owned g ∧ Lined f g p list := by
  induction list generalizing f old with
  | nil => exact ⟨f, rfl, owned, .none owned owns⟩
  | cons c list ih =>
    obtain ⟨distinct, below, clear⟩ := movable
    obtain ⟨fresh, distinct⟩ := List.nodup_cons.mp distinct
    have away := clear c List.mem_cons_self
    obtain ⟨g, ran, still, first⟩ := append_lined owned owns (below c List.mem_cons_self) away
    have others : ∀ b ∈ list, b ∉ [c] := fun b member same =>
      fresh (List.mem_singleton.mp same ▸ member)
    have rest : Movable g a p list := by
      refine ⟨distinct, fun b member => ?_, fun b member above => ?_⟩
      · rw [first.parent, if_neg (others b member)]
        exact below b (List.mem_cons_of_mem c member)
      · rw [first.above_iff (by simpa using away)] at above
        exact clear b (List.mem_cons_of_mem c member) above
    obtain ⟨h, later, last, next⟩ := ih still first.children_here rest
    refine ⟨h, ?_, last, first.further next others⟩
    rw [List.forM, bind_run, ran]
    exact later

-- The first one that is above the place ends it, and those in front of it have gone.
theorem forM_append_stopped (owned : Owned f) (owns : f.children p = some old)
    (movable : Movable f a p list) (above : Above f c p) (back : List NodeId) :
    ∃ g, (list ++ c :: back).forM (fun c => append p (some c)) f =
      .error (.hierarchy .insertIntoDescendant c) g ∧ Lined f g p list := by
  obtain ⟨g, ran, still, lined⟩ := forM_append_lined owned owns movable
  refine ⟨g, ?_, lined⟩
  have stuck := append_circular still lined.children_here ((lined.above_iff movable.clear).mpr above)
  have parted : (list ++ c :: back).forM (fun c => append p (some c)) =
      (list.forM (fun c => append p (some c)) >>= fun _ =>
        append p (some c) >>= fun _ => back.forM fun c => append p (some c) : Edit Unit) :=
    List.forM_append
  rw [parted, bind_run, ran]
  dsimp only
  rw [bind_run, stuck]

end Edit

namespace Forest
open Edit

variable {f g : Forest} {a c p : NodeId} {back front list old : List NodeId}

-- All that happens when the first children of one node go over to another one.
structure Reparented (f g : Forest) (a p : NodeId) (front back old : List NodeId) : Prop where
  size : g.size = f.size
  came : g.children p = some (old ++ front)
  left : g.children a = some back
  joined : ∀ c ∈ front, g.parent c = some p
  -- nothing else has changed
  parents : ∀ m, m ∉ front → g.parent m = f.parent m
  lists : ∀ m, m ≠ a → m ≠ p → g.children m = f.children m
  rest : ∀ m, g.node m = (f.node m).relink (g.parent m) (g.children m)

theorem Lined.reparented (lined : Lined f g p front) (owned : Owned f) (other : a ≠ p)
    (gives : f.children a = some (front ++ back)) (takes : f.children p = some old) :
    Reparented f g a p front back old := by
  have listed : f.kids a = front ++ back := by rw [kids, gives, Option.getD_some]
  have here : f.kids p = old := by rw [kids, takes, Option.getD_some]
  have below : ∀ c ∈ front, f.parent c = some a := fun c member =>
    (owned.listed a c).mp (listed ▸ List.mem_append_left back member)
  have kept (m : NodeId) (apart : m ≠ a) :
      (f.children m).map (·.filter (· ∉ front)) = f.children m := by
    refine owned.children_filter fun c member upward => apart ?_
    exact Option.some.inj (upward.symm.trans (below c member))
  refine ⟨lined.size, ?came, ?left, fun c member => ?joined, fun m outside => ?parents,
    fun m apart beside => ?lists, fun m => ?rest⟩
  case came =>
    have stays := kept p other.symm
    rw [takes, Option.map_some, Option.some.injEq] at stays
    rw [lined.children_here, here, stays]
  case left =>
    have once := List.nodup_append.mp (listed ▸ owned.once a)
    have gone : front.filter (· ∉ front) = [] :=
      List.filter_eq_nil_iff.mpr fun c member => by simpa using member
    have stays : back.filter (· ∉ front) = back :=
      List.filter_eq_self.mpr fun c member => decide_eq_true fun again => once.2.2 c again c member rfl
    rw [lined.children, if_neg other, gives, Option.map_some, List.filter_append, gone, stays,
      List.nil_append]
  case joined => rw [lined.parent, if_pos member]
  case parents => rw [lined.parent, if_neg outside]
  case lists => rw [lined.children, if_neg beside, kept m apart]
  case rest => rw [Forest.parent, Forest.children, lined.node m, Node.relink_parent, Node.relink_children]

-- The children of a node that go to the end of their own list come to stand as they stood.
theorem Lined.unmoved (lined : Lined f g p list) (owned : Owned f) (owns : f.children p = some list) :
    g.nodes = f.nodes := by
  have whole : f.kids p = list := by rw [kids, owns, Option.getD_some]
  have gone : list.filter (· ∉ list) = [] :=
    List.filter_eq_nil_iff.mpr fun c member => by simpa using member
  refine nodes_ext lined.size fun m => ?_
  have link : (if m ∈ list then some p else f.parent m) = f.parent m := by
    split
    · exact ((owned.listed p m).mp (whole ▸ ‹m ∈ list›)).symm
    · rfl
  have lists : (if m = p then some ((f.kids p).filter (· ∉ list) ++ list)
      else (f.children m).map (·.filter (· ∉ list))) = f.children m := by
    split
    · rw [whole, gone, List.nil_append, ‹m = p›, owns]
    · refine owned.children_filter fun c member upward => ‹¬ m = p› ?_
      exact Option.some.inj (upward.symm.trans ((owned.listed p c).mp (whole ▸ member)))
  rw [lined.node m, link, lists]
  rfl

-- A list falls apart in front of the first of its nodes that is the target or above it.
theorem split_above (f : Forest) (p : NodeId) (list : List NodeId) :
    ∃ front back, list = front ++ back ∧ (∀ c ∈ front, c ∉ f.ancestors p) ∧
      ∀ c ∈ back.head?, c ∈ f.ancestors p := by
  refine ⟨list.takeWhile (· ∉ f.ancestors p), list.dropWhile (· ∉ f.ancestors p),
    List.takeWhile_append_dropWhile.symm, fun c member => ?_, fun c first => ?_⟩
  · simpa using List.mem_takeWhile_imp member
  · have stops := List.head?_dropWhile_not (fun c => decide (c ∉ f.ancestors p)) list
    rw [Option.mem_def.mp first] at stops
    simpa using stops

theorem Owned.reparents_all {b : Builder} (owned : Owned b.forest) {source target : Site}
    (gives : b.forest.children (b.container source) = some list) :
    Builder.reparentChildren source target b =
      Builder.onForest (list.forM fun c => append (b.container target) (some c)) b := by
  have read : (get : Build Builder) b = .ok b b := rfl
  rw [Builder.reparentChildren, EStateM.bind_ok read, gives]
  refine Builder.forM_onForest (fun n member => ?_) b
  rw [if_pos (owned.known_child (n := b.container source) ?_)]
  rwa [kids, gives, Option.getD_some]

-- To reparent the children of one site to another moves them up to the first one that is the target
-- or above it, and fails there. Between sites with one container it changes nothing.
theorem Owned.reparents {b : Builder} (owned : Owned b.forest) {source target : Site}
    (gives : b.forest.children (b.container source) = some list)
    (takes : b.forest.children (b.container target) = some old) :
    ((∃ failure after, Builder.reparentChildren source target b = .error failure after) ↔
      ∃ c ∈ list, c ∈ b.forest.ancestors (b.container target)) ∧
    ∃ front back g, list = front ++ back ∧
      (∀ c ∈ front, c ∉ b.forest.ancestors (b.container target)) ∧
      (∀ c ∈ back.head?, c ∈ b.forest.ancestors (b.container target)) ∧
      (back = [] → Builder.reparentChildren source target b = .ok () { b with forest := g }) ∧
      (∀ c ∈ back.head?, Builder.reparentChildren source target b =
        .error (.hierarchy .insertIntoDescendant c) { b with forest := g }) ∧
      (b.container source ≠ b.container target →
        Reparented b.forest g (b.container source) (b.container target) front back old) ∧
      (b.container source = b.container target → g.nodes = b.forest.nodes) := by
  have listed : b.forest.kids (b.container source) = list := by rw [kids, gives, Option.getD_some]
  have linked : ∀ c ∈ list, b.forest.parent c = some (b.container source) := fun c member =>
    (owned.listed _ c).mp (listed ▸ member)
  have above {c : NodeId} := mem_ancestors (a := c) (owned.rooted (b.container target))
  obtain ⟨front, back, rfl, clear, stuck⟩ := b.forest.split_above (b.container target) list
  have movable : Movable b.forest (b.container source) (b.container target) front :=
    ⟨((List.nodup_append.mp (listed ▸ owned.once (b.container source))).1),
      fun c member => linked c (List.mem_append_left back member),
      fun c member => mt above.mpr (clear c member)⟩
  have ran : Builder.reparentChildren source target b = _ := owned.reparents_all gives
  cases back with
  | nil =>
    rw [List.append_nil] at ran gives
    obtain ⟨g, went, _, lined⟩ := forM_append_lined owned takes movable
    rw [Builder.onForest, went] at ran
    refine ⟨⟨?raised, ?above⟩, front, [], g, rfl, clear, stuck, fun _ => ran, ?stopped,
      fun other => ?apart, fun same => ?alone⟩
    case raised =>
      rintro ⟨failure, after, failed⟩
      cases ran.symm.trans failed
    case above =>
      rintro ⟨c, member, inside⟩
      exact absurd inside (clear c (List.append_nil front ▸ member))
    case stopped =>
      intro c stands
      cases stands
    case apart => exact lined.reparented owned other (by simpa using gives) takes
    case alone => exact lined.unmoved owned (same ▸ gives)
  | cons c back =>
    have circular := stuck c rfl
    obtain ⟨g, went, lined⟩ := forM_append_stopped owned takes movable (above.mp circular) back
    rw [Builder.onForest, went] at ran
    refine ⟨⟨fun _ => ⟨c, by simp, circular⟩, fun _ => ⟨_, _, ran⟩⟩,
      front, c :: back, g, rfl, clear, stuck, ?whole, ?stopped, fun other => ?apart,
      fun same => ?alone⟩
    case whole =>
      intro none
      cases none
    case stopped =>
      rintro _ ⟨⟩
      exact ran
    case apart => exact lined.reparented owned other gives takes
    case alone =>
      -- No node is above itself as its own child.
      have upward := linked c (by simp)
      rw [same] at upward
      exact absurd (above.mp circular) ((owned.rooted c).no_return upward)

-- A list whose second item holds the target. The first item goes over, the second one cannot.
theorem Owned.reparents_midway :
    let f := Forest.empty.through [.element (some "ul") (some "html"),
      .element (some "li") (some "html"), .element (some "li") (some "html"),
      .element (some "li") (some "html"), .element (some "ol") (some "html"), .text (some "a"),
      .move (.append 0 (some 1)), .move (.append 0 (some 2)), .move (.append 0 (some 3)),
      .move (.append 2 (some 4)), .move (.append 4 (some 5))]
    let source : Site := ⟨0, "ul", none⟩
    let target : Site := ⟨4, "ol", none⟩
    let b : Builder := ⟨f, [target, source], source⟩
    f.children 0 = some [1, 2, 3] ∧ f.children 4 = some [5] ∧ f.ancestors 4 = [4, 2, 0] ∧
      ∃ g, Builder.reparentChildren source target b =
          .error (.hierarchy .insertIntoDescendant 2) { b with forest := g } ∧
        g.children 0 = some [2, 3] ∧ g.children 4 = some [5, 1] ∧ g.parent 1 = some 4 ∧
        g.parent 3 = some 0 := by
  intro f source target b
  have owned : Owned b.forest := (Reached.empty.through (by decide)).sound.owned
  have gives : b.forest.children (b.container source) = some [1, 2, 3] := by decide
  have takes : b.forest.children (b.container target) = some [5] := by decide
  have ancestors : b.forest.ancestors (b.container target) = [4, 2, 0] := by decide
  have apart : b.container source ≠ b.container target := by decide
  obtain ⟨_, front, back, g, split, clear, stuck, _, ran, moved, _⟩ :=
    Owned.reparents owned gives takes
  rw [ancestors] at clear stuck
  obtain ⟨rfl, rfl⟩ : front = [1] ∧ back = [2, 3] := by
    rcases front with _ | ⟨first, _ | ⟨second, front⟩⟩
    · rw [List.nil_append] at split
      exact absurd (stuck 1 (split ▸ rfl)) (by decide)
    · obtain ⟨rfl, rest⟩ := List.cons.inj split
      exact ⟨rfl, rest.symm⟩
    · obtain ⟨_, rest⟩ := List.cons.inj split
      obtain ⟨rfl, _⟩ := List.cons.inj rest
      exact absurd (by decide) (clear 2 (by simp))
  have reparented := moved apart
  refine ⟨by decide, by decide, by decide, g, ran 2 rfl, reparented.left, reparented.came, ?_, ?_⟩
  · exact reparented.joined 1 (by decide)
  · exact reparented.parents 3 (by decide)

end Forest
end HtmlTree

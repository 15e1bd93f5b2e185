import HtmlTree.Proofs.Runs

namespace HtmlTree

namespace Forest
open Edit Walk Relation

variable {f g : Forest} {b c m n p x : NodeId} {front back run : List NodeId}
  {runs : List (List NodeId)}

-- Links agree, and every node has its name and the parts that go with the way it was made.
structure Orderly (f : Forest) : Prop where
  linked : Linked f
  shaped : f.Shaped
  named : ∀ n, (f.node n).isNamed = true

-- A forest that calls have made is orderly, unless one of them made a node without a name.
theorem orderly_through {calls : List Call} (handed : Handed .empty calls)
    (named : (Forest.empty.through calls).nodes.toList.all Node.isNamed = true) :
    Orderly (Forest.empty.through calls) := by
  exact ⟨(Reached.empty.through handed).sound.owned.linked,
    shaped_growing.through empty_shaped fun _ _ _ _ => trivial,
    node_all (List.all_eq_true.mp named) rfl⟩

theorem Joined.orderly (joined : Joined f g runs) (orderly : Orderly f) : Orderly g := by
  refine ⟨joined.linked orderly.linked, fun n => (orderly.shaped n).lasts ?_, fun n => ?_⟩
  · refine ⟨?kind, joined.name n, ?content, fun listed => ?listed⟩
    all_goals rw [joined.node n]
    case listed => rwa [Option.isSome_map]
  · rw [Node.isNamed, joined.name]
    exact orderly.named n

-- Documents, fragments and elements have lists of children, texts have none.
theorem Orderly.container (orderly : Orderly f) (container : (f.node n).isContainer = true) :
    ∃ list, f.children n = some list := by
  have named : (f.node n).name ≠ Node.textName ∧ (f.node n).name ≠ Node.commentName ∧
      (f.node n).name ≠ Node.doctypeName := by
    refine ⟨?_, ?_, ?_⟩ <;>
    · intro name
      simp only [Node.isContainer, Node.isElement, Node.isDocument, Node.isFragment, name]
        at container
      exact absurd container (by decide)
  obtain ⟨text, comment, doctype⟩ := named
  refine Option.isSome_iff_exists.mp ((orderly.shaped n).branch ?_ comment doctype)
  intro leaf
  refine text ?_
  rw [Node.name, (orderly.shaped n).leaf leaf, Option.getD_some]

-- Parents lead upward in one line only.
theorem Above.comparable (one : Above f b n) (other : Above f c n) : Above f b c ∨ Above f c b := by
  induction one with
  | self => exact .inr other
  | @up n p link rest ih =>
    cases other with
    | self => exact .inl (.up link rest)
    | up link' rest' =>
      cases link.symm.trans link'
      exact ih rest'

-- So nothing is below two children of one node.
theorem Linked.apart_below (linked : Linked f) (left : b ∈ f.kids p) (right : c ∈ f.kids p)
    (one : Above f b m) (other : Above f c m) : b = c := by
  have upward {b c : NodeId} (left : b ∈ f.kids p) (right : c ∈ f.kids p) (above : Above f b c) :
      b = c := by
    cases above with
    | self => rfl
    | up link rest =>
      cases link.symm.trans ((linked.listed p c).mp right)
      exact absurd rest ((linked.rooted b).no_return ((linked.listed p b).mp left))
  rcases one.comparable other with above | above
  · exact upward left right above
  · exact (upward right left above).symm

theorem Linked.apart_parts (linked : Linked f) (lists : f.kids p = front ++ back) (left : b ∈ front)
    (right : c ∈ back) (above : Above f b x) : ¬ Above f c x := by
  intro other
  have once := linked.once p
  rw [lists] at once
  have first : b ∈ f.kids p := by simp [lists, left]
  have second : c ∈ f.kids p := by simp [lists, right]
  obtain rfl := linked.apart_below first second above other
  exact (List.nodup_append.mp once).2.2 b left b right rfl

-- The containers that come to be normalized with a node: the node itself, and what is listed in one
-- of them. Nothing is gone into but containers, and no content is.
inductive Swept (f : Forest) (n : NodeId) : NodeId → Prop where
  | self (container : (f.node n).isContainer = true) : Swept f n n
  | child {m c : NodeId} (above : Swept f n m) (listed : c ∈ f.kids m)
    (container : (f.node c).isContainer = true) : Swept f n c

theorem Swept.container (swept : Swept f n m) : (f.node n).isContainer = true := by
  induction swept with
  | self container => exact container
  | child _ _ _ ih => exact ih

theorem Swept.container_self (swept : Swept f n m) : (f.node m).isContainer = true := by
  cases swept with
  | self container => exact container
  | child _ _ container => exact container

theorem Swept.above (linked : Linked f) (swept : Swept f n m) : Above f n m := by
  induction swept with
  | self => exact .self
  | child _ listed _ ih => exact .up ((linked.listed _ _).mp listed) ih

theorem Swept.under (container : (f.node n).isContainer = true) (listed : c ∈ f.kids n)
    (swept : Swept f c m) : Swept f n m := by
  induction swept with
  | self inner => exact .child (.self container) listed inner
  | child _ below inner ih => exact .child ih below inner

theorem Swept.split (swept : Swept f n m) : m = n ∨ ∃ c ∈ f.kids n, Swept f c m := by
  induction swept with
  | self => exact .inl rfl
  | child _ listed container ih =>
    rcases ih with rfl | ⟨c, first, further⟩
    · exact .inr ⟨_, listed, .self container⟩
    · exact .inr ⟨c, first, .child further listed container⟩

theorem Swept.mono (swept : Swept g n m)
    (names : ∀ m, (g.node m).isContainer = (f.node m).isContainer)
    (within : ∀ m, g.kids m ⊆ f.kids m) : Swept f n m := by
  induction swept with
  | self container => exact .self (names n ▸ container)
  | child _ listed container ih => exact .child ih (within _ listed) (names _ ▸ container)

theorem Swept.congr (names : ∀ m, (g.node m).isContainer = (f.node m).isContainer)
    (same : ∀ m, Swept f n m → g.kids m = f.kids m) : Swept g n m ↔ Swept f n m := by
  constructor
  · intro swept
    induction swept with
    | self container => exact .self (names n ▸ container)
    | child _ listed container ih => exact .child ih (same _ ih ▸ listed) (names _ ▸ container)
  · intro swept
    induction swept with
    | self container => exact .self ((names n).trans container)
    | child above listed container ih =>
      exact .child ih ((same _ above).symm ▸ listed) ((names _).trans container)

-- A run of texts in one of these containers.
def RunBelow (f : Forest) (n : NodeId) (run : List NodeId) : Prop :=
  ∃ m, Swept f n m ∧ run ∈ f.textRuns (f.kids m)

theorem runBelow_iff (container : (f.node n).isContainer = true) : f.RunBelow n run ↔
    run ∈ f.textRuns (f.kids n) ∨ ∃ c ∈ f.kids n, f.RunBelow c run := by
  constructor
  · rintro ⟨m, swept, among⟩
    rcases swept.split with rfl | ⟨c, listed, further⟩
    · exact .inl among
    · exact .inr ⟨c, listed, m, further, among⟩
  · rintro (among | ⟨c, listed, m, swept, among⟩)
    · exact ⟨n, .self container, among⟩
    · exact ⟨m, swept.under container listed, among⟩

theorem RunBelow.stands (below : f.RunBelow n run) : ∃ m, run ∈ f.textRuns (f.kids m) :=
  below.imp fun _ => And.right

theorem RunBelow.container (below : f.RunBelow n run) : (f.node n).isContainer = true := by
  obtain ⟨m, swept, _⟩ := below
  exact swept.container

theorem isContainer_text (text : (f.node n).isText = true) : (f.node n).isContainer = false := by
  rw [Node.isContainer, Node.isElement, Node.isDocument, Node.isFragment, eq_of_beq text]
  decide

theorem RunBelow.listed (linked : Linked f) (below : f.RunBelow n run) (member : x ∈ run) :
    ∃ m, x ∈ f.kids m ∧ Above f n m := by
  obtain ⟨m, swept, among⟩ := below
  exact ⟨m, textRuns_subset among member, swept.above linked⟩

theorem RunBelow.above (linked : Linked f) (below : f.RunBelow n run) (member : x ∈ run) :
    Above f n x := by
  obtain ⟨m, inside, above⟩ := below.listed linked member
  exact .up ((linked.listed m x).mp inside) above

-- What stands in a run below a child does not stand beside the child.
theorem RunBelow.beneath (linked : Linked f) (below : f.RunBelow c run) (listed : c ∈ f.kids p)
    (member : x ∈ run) : x ∉ f.kids p := by
  intro beside
  obtain ⟨m, inside, above⟩ := below.listed linked member
  obtain rfl := linked.sole_lister inside beside
  exact (linked.rooted c).no_return ((linked.listed _ c).mp listed) above

theorem RunBelow.congr (joined : Joined f g runs)
    (same : ∀ m, Swept f n m → g.kids m = f.kids m) : g.RunBelow n run ↔ f.RunBelow n run := by
  have texts (list : List NodeId) : g.textRuns list = f.textRuns list :=
    textRuns_congr joined.isText list
  refine exists_congr fun m => ?_
  rw [Swept.congr joined.isContainer same, texts]
  refine and_congr_right fun swept => ?_
  rw [same m swept]

-- To merge runs in one part of a list, or below it, leaves the other part and its trees as they are.
section
variable (linked : Linked f) (lists : f.kids p = front ++ back)
  (within : ∀ r ∈ runs, ∀ x ∈ r, ∃ b ∈ back, Above f b x)
include linked lists within

theorem RunBelow.congr_front (joined : Joined f g runs) (member : c ∈ front) :
    g.RunBelow c run ↔ f.RunBelow c run := by
  refine RunBelow.congr joined fun m swept => joined.kids_apart fun x listed leaves => ?_
  obtain ⟨r, among, inside, _⟩ := mem_leaving.mp leaves
  obtain ⟨b, behind, above⟩ := within r among x inside
  have below : Above f c x := .up ((linked.listed m x).mp listed) (swept.above linked)
  exact linked.apart_parts lists member behind below above

theorem front_runs (joined : Joined f g runs) (run : List NodeId) :
    run ∈ g.textRuns front ∨ (∃ c ∈ front, g.RunBelow c run) ↔
      run ∈ f.textRuns front ∨ ∃ c ∈ front, f.RunBelow c run := by
  rw [textRuns_congr joined.isText]
  refine or_congr_right (exists_congr fun c => and_congr_right fun member => ?_)
  exact RunBelow.congr_front linked lists within joined member

theorem front_disjoint (stands : run ∈ f.textRuns front ∨ ∃ c ∈ front, f.RunBelow c run) :
    ∀ other ∈ runs, run.Disjoint other := by
  intro other before x member also
  obtain ⟨b, behind, above⟩ := within other before x also
  rcases stands with beside | ⟨c, stands, below⟩
  · exact linked.apart_parts lists (textRuns_subset beside member) behind .self above
  · exact linked.apart_parts lists stands behind (below.above linked member) above

end

theorem Linked.sole_run (linked : Linked f) {run other : List NodeId}
    (left : run ∈ f.textRuns (f.kids m)) (right : other ∈ f.textRuns (f.kids n)) (one : x ∈ run)
    (both : x ∈ other) : run = other := by
  obtain rfl := linked.sole_lister (textRuns_subset left one) (textRuns_subset right both)
  exact textRuns_sole (linked.once m) left right one both

-- What is merged at once are runs of texts, each of them in the list of some node.
section
variable (standing : ∀ run ∈ runs, ∃ m, run ∈ f.textRuns (f.kids m))
include standing

theorem leaving_isText (leaves : c ∈ f.leaving runs) : (f.node c).isText = true := by
  obtain ⟨run, among, inside, _⟩ := mem_leaving.mp leaves
  obtain ⟨m, stands⟩ := standing run among
  exact textRuns_texts_of_mem stands c inside

theorem Linked.sole_among (linked : Linked f) (stands : run ∈ f.textRuns (f.kids m)) :
    ∀ other ∈ runs, ∀ x ∈ run, x ∈ other → other = run := by
  intro other among x one both
  obtain ⟨p, elsewhere⟩ := standing other among
  exact linked.sole_run elsewhere stands both one

theorem Linked.filter_among (linked : Linked f) (stands : run ∈ f.textRuns (f.kids m))
    (member : run ∈ runs) : run.filter (· ∉ f.leaving runs) = (runKeeper f run).toList :=
  filter_leaving member (textRuns_nodup (linked.once m) stands)
    (linked.sole_among standing stands)

end

end Forest

namespace Edit
open Forest Walk

variable {f g : Forest} {c m n p : NodeId} {list front run back : List NodeId} {depth : Nat}

theorem runAt_eq (owns : f.children p = some (front ++ run ++ back)) :
    runAt f p front.length run.length = run := by
  have lists : f.kids p = front ++ (run ++ back) := by simp [kids_eq owns]
  rw [runAt, lists, List.drop_left, List.take_left]

theorem size_unrun (f : Forest) (p : NodeId) (start count : Nat) :
    (unrun f p start count).size = f.size := by
  simp only [unrun, size_setChildren, size_linkAll]
  rw [Forest.size, runNoted_nodes, Forest.size]

-- The links come first, the data of the text that stays is not there yet.
theorem unrun_node (linked : Linked f) (owns : f.children p = some (front ++ run ++ back))
    (m : NodeId) : (unrun f p front.length run.length).node m = (f.node m).relink
      (if m ∈ f.leaving [run] then none else f.parent m)
      ((f.children m).map (·.filter (· ∉ f.leaving [run]))) := by
  have lists : f.kids p = front ++ run ++ back := kids_eq owns
  have gone : f.leaving [run] = run.filter (runKeeper f run != some ·) := by simp [leaving]
  have before : (f.kids p).take front.length = front := by
    rw [lists, List.append_assoc, List.take_left]
  have behind : (f.kids p).drop (front.length + run.length) = back := by
    rw [lists, ← List.length_append, List.drop_left]
  have noted := runNoted_nodes (f := f) (p := p) run
  have reads (m : NodeId) : (runNoted f p run).node m = f.node m := node_of_nodes noted
  have knows (m : NodeId) : (runNoted f p run).known m = f.known m := by
    rw [Forest.known, Forest.size, noted, Forest.known, Forest.size]
  have among : ∀ c ∈ f.leaving [run], c ∈ f.kids p := by
    intro c member
    rw [gone] at member
    simp [lists, List.mem_of_mem_filter member]
  have leave : ∀ c ∈ f.leaving [run], (runNoted f p run).known c = true := fun c member =>
    (knows c).trans (linked.known_child (among c member))
  have still : ((runNoted f p run).linkAll (f.leaving [run]) none).known p = true := by
    rw [Forest.known, size_linkAll]
    exact (knows p).trans (known_of_children owns)
  have parents : (runNoted f p run).parent m = f.parent m := by rw [Forest.parent, reads]; rfl
  have children : (runNoted f p run).children m = f.children m := by
    rw [Forest.children, reads]; rfl
  simp only [unrun, runAt_eq owns, before, behind, ← gone]
  rw [node_setChildren still, parent_linkAll _ _ leave, children_linkAll _ _ leave,
    node_linkAll _ _ leave, reads, Node.relink_relink, parents, children]
  congr 1
  by_cases here : m = p
  · subst here
    have once := linked.once m
    rw [lists] at once
    rw [if_pos rfl, owns, Option.map_some, gone, filter_run once runKeeper_head]
  · rw [if_neg here]
    cases own : f.children m with
    | none => rfl
    | some list =>
      refine congrArg some (List.filter_eq_self.mpr fun c member => ?_).symm
      have listed : c ∈ f.kids m := (mem_kids own).mpr member
      simpa using fun leaves => here (linked.sole_lister listed (among c leaves))

theorem collapse_joined (linked : Linked f) (owns : f.children p = some (front ++ run ++ back)) :
    ∃ g, collapse p front.length run.length f = .ok () g ∧ Joined f g [run] := by
  have links := unrun_node linked owns
  have size := size_unrun f p front.length run.length
  have datas (m : NodeId) : (unrun f p front.length run.length).data m = f.data m := by
    rw [Forest.data, links]
    rfl
  rw [collapse_run, runAt_eq owns]
  cases stays : runKeeper f run with
  | none =>
    refine ⟨unrun f p front.length run.length, rfl, size, fun m => ?_, ?_, fun m _ => datas m⟩
    · rw [links, datas]
      rfl
    · intro other among k keeps
      cases List.mem_singleton.mp among
      cases stays.symm.trans keeps
  | some k =>
    have among : k ∈ f.kids p := by simp [kids, owns, runKeeper_mem stays]
    have known : (unrun f p front.length run.length).known k = true := by
      rw [Forest.known, size]
      exact linked.known_child among
    have reads (m : NodeId) : ((unrun f p front.length run.length).setData k
        (some (runText f run))).data m = if m = k then some (runText f run) else f.data m := by
      rw [Forest.data, Forest.setData, node_update known]
      split
      · rfl
      · exact datas m
    refine ⟨(unrun f p front.length run.length).setData k (some (runText f run)), rfl,
      by rw [Forest.setData, size_update, size], fun m => ?_, ?_, fun m other => ?_⟩
    · rw [reads, Forest.setData, node_update known, links]
      split <;> rfl
    · intro other among l keeps
      cases List.mem_singleton.mp among
      cases stays.symm.trans keeps
      rw [reads, if_pos rfl]
    · have apart : m ≠ k := fun same =>
        other run (List.mem_singleton.mpr rfl) (same ▸ stays)
      rw [reads, if_neg apart]

-- What is done to a node merges the runs of texts in it and below it and does nothing else, as long
-- as every way down from the node is shorter than this.
def Tidies (depth : Nat) (visit : NodeId → Edit Unit) : Prop :=
  ∀ f n, Orderly f → f.known n = true → (∃ d < depth, Shallow f.kids d n) →
    ∃ g runs, visit n f = .ok () g ∧ Joined f g runs ∧ ∀ run, run ∈ runs ↔ f.RunBelow n run

theorem collapse_behind (linked : Linked f) (owns : f.children p = some (front ++ run ++ back))
    (texts : ∀ c ∈ run, (f.node c).isText = true) :
    ∃ g, (if 0 < run.length then collapse p front.length run.length else pure ()) f = .ok () g ∧
      Joined f g (f.textRuns run) := by
  cases run with
  | nil => exact ⟨f, rfl, joined_nil f⟩
  | cons n run =>
    rw [textRuns_texts texts (List.cons_ne_nil n run)]
    exact collapse_joined linked owns

-- A child that is no text: what is in it and below it is merged, then the run behind it. None of
-- this reaches the children in front of it, or anything below them.
theorem visit_joined {visit : NodeId → Edit Unit} (tidies : Tidies depth visit) (orderly : Orderly f)
    (owns : f.children p = some (front ++ [n] ++ run ++ back))
    (texts : ∀ c ∈ run, (f.node c).isText = true) (low : ∃ d < depth, Shallow f.kids d n) :
    ∃ g h runs, visit n f = .ok () g ∧
      (if 0 < run.length then collapse p (front.length + 1) run.length else pure ()) g = .ok () h ∧
      Joined f h runs ∧ (∀ r, r ∈ runs ↔ f.RunBelow n r ∨ r ∈ f.textRuns run) ∧
      (∀ r ∈ runs, ∀ x ∈ r, ∃ b ∈ n :: (run ++ back), Above f b x) ∧
      ∃ rest, h.children p = some (front ++ rest) := by
  have linked := orderly.linked
  have lists : f.kids p = front ++ [n] ++ run ++ back := kids_eq owns
  have listed : n ∈ f.kids p := by simp [lists]
  obtain ⟨g, below, visited, inner, exactly⟩ := tidies f n orderly (linked.known_child listed) low
  have beside {r : List NodeId} (among : r ∈ below) : ∀ x ∈ r, x ∉ f.kids p := fun x member =>
    ((exactly r).mp among).beneath linked listed member
  have still : g.children p = some ((front ++ [n]) ++ run ++ back) := by
    rw [← owns]
    refine inner.children_apart fun c member leaves => ?_
    obtain ⟨r, among, inside, _⟩ := mem_leaving.mp leaves
    exact beside among c inside member
  obtain ⟨h, collapsed, outer⟩ := collapse_behind (inner.linked linked) still
    fun c member => (inner.isText c).trans (texts c member)
  rw [textRuns_congr inner.isText] at outer
  rw [List.length_append, List.length_singleton] at collapsed
  have behind {r : List NodeId} (among : r ∈ f.textRuns run) : ∀ x ∈ r, x ∈ run :=
    textRuns_subset among
  have both := inner.trans outer fun r among other before x member also =>
    beside before x also (by simp [lists, behind among x member])
  refine ⟨g, h, _, visited, collapsed, both, fun r => ?_, fun r among x member => ?_, ?_⟩
  · rw [List.mem_append, exactly]
  · rcases List.mem_append.mp among with before | later
    · exact ⟨n, List.mem_cons_self, ((exactly r).mp before).above linked member⟩
    · exact ⟨x, by simp [behind later x member], .self⟩
  · refine ⟨([n] ++ run ++ back).filter (· ∉ f.leaving (below ++ f.textRuns run)), ?_⟩
    have once := linked.once p
    simp only [lists, List.append_assoc] at once
    have apart := (List.nodup_append.mp once).2.2
    rw [both.children, owns, Option.map_some]
    simp only [List.append_assoc, List.filter_append front]
    refine congrArg (fun first => some (first ++ _)) (List.filter_eq_self.mpr fun c member => ?_)
    refine decide_eq_true fun leaves => ?_
    obtain ⟨r, among, inside, _⟩ := mem_leaving.mp leaves
    rcases List.mem_append.mp among with before | later
    · exact beside before c inside (by simp [lists, member])
    · exact apart c member c (by simp [behind later c inside]) rfl

-- Behind the children still to come stands a run of texts, and behind that what is done with.
theorem sweep_joined {visit : NodeId → Edit Unit} (tidies : Tidies depth visit) (list : List NodeId)
    (orderly : Orderly f) (owns : f.children p = some (list.reverse ++ run ++ back))
    (texts : ∀ c ∈ run, (f.node c).isText = true)
    (low : ∀ c ∈ list, ∃ d < depth, Shallow f.kids d c) :
    ∃ g runs, sweep visit p list run.length f = .ok () g ∧ Joined f g runs ∧
      ∀ r, r ∈ runs ↔ r ∈ f.textRuns (list.reverse ++ run) ∨ ∃ c ∈ list, f.RunBelow c r := by
  induction list generalizing f run back with
  | nil =>
    obtain ⟨g, ran, joined⟩ := collapse_behind orderly.linked owns texts
    exact ⟨g, _, ran, joined, by simp⟩
  | cons n earlier ih =>
    have linked := orderly.linked
    have lists : f.kids p = earlier.reverse ++ n :: (run ++ back) := by simp [kids_eq owns]
    have listed : n ∈ f.kids p := by simp [lists]
    have known := linked.known_child listed
    have later : ∀ c ∈ earlier, ∃ d < depth, Shallow f.kids d c := fun c member =>
      low c (List.mem_cons_of_mem n member)
    have split : (n :: earlier).reverse ++ run = earlier.reverse ++ n :: run := by simp
    rw [split]
    cases text : (f.node n).isText with
    | true =>
      have longer : f.children p = some (earlier.reverse ++ (n :: run) ++ back) := by simp [owns]
      obtain ⟨g, runs, ran, joined, exactly⟩ :=
        ih orderly longer (List.forall_mem_cons.mpr ⟨text, texts⟩) later
      refine ⟨g, runs, ?_, joined, fun r => ?_⟩
      · simpa [sweep, bind_run, known, text] using ran
      · have leaf : ¬ f.RunBelow n r := fun below => by
          have container := below.container
          simp [isContainer_text text] at container
        simp [exactly, leaf]
    | false =>
      have whole : f.children p = some (earlier.reverse ++ [n] ++ run ++ back) := by simp [owns]
      obtain ⟨g, h, runs, visited, collapsed, first, exactly, within, rest, left⟩ :=
        visit_joined tidies orderly whole texts (low n List.mem_cons_self)
      rw [List.length_reverse] at collapsed
      have front : h.children p = some (earlier.reverse ++ [] ++ rest) := by simp [left]
      have shorter (m : NodeId) : h.kids m ⊆ f.kids m := by
        rw [first.kids]
        exact List.filter_subset_self _
      have low' : ∀ c ∈ earlier, ∃ d < depth, Shallow h.kids d c := by
        intro c member
        obtain ⟨d, less, shallow⟩ := later c member
        exact ⟨d, less, shallow.within shorter⟩
      obtain ⟨k, more, swept, next, further⟩ :=
        ih (first.orderly orderly) front (List.forall_mem_nil _) low'
      have exactly' (r : List NodeId) : r ∈ more ↔
          r ∈ f.textRuns earlier.reverse ∨ ∃ c ∈ earlier.reverse, f.RunBelow c r := by
        rw [← front_runs linked lists within first, further, List.append_nil]
        simp only [List.mem_reverse]
      refine ⟨k, runs ++ more, ?ran, first.trans next fun r among => ?apart, fun r => ?exactly⟩
      case ran =>
        by_cases some : 0 < run.length
        · rw [if_pos some] at collapsed
          simpa [sweep, bind_run, known, text, visited, some, collapsed] using swept
        · rw [if_neg some] at collapsed
          cases collapsed
          simpa [sweep, bind_run, known, text, visited, some] using swept
      case apart => exact front_disjoint linked lists within ((exactly' r).mp among)
      case exactly =>
        rw [List.mem_append, exactly, exactly', textRuns_plain text, List.mem_append]
        simp only [List.mem_reverse, List.mem_cons, exists_eq_or_imp]
        tauto

theorem normalizeWithin_tidies (depth : Nat) : Tidies depth (normalizeWithin depth) := by
  induction depth with
  | zero =>
    rintro f n _ _ ⟨d, less, _⟩
    exact absurd less (Nat.not_lt_zero d)
  | succ depth ih =>
    rintro f n orderly known ⟨d, less, shallow⟩
    have named := orderly.named n
    cases container : (f.node n).isContainer with
    | false =>
      refine ⟨f, [], ?_, joined_nil f, fun run => ?_⟩
      · simp [normalizeWithin, bind_run, named, container]
      · refine iff_of_false List.not_mem_nil fun below => ?_
        cases container.symm.trans below.container
    | true =>
      obtain ⟨list, owns⟩ := orderly.container container
      have lists : f.kids n = list := kids_eq owns
      have low : ∀ c ∈ list.reverse, ∃ e < depth, Shallow f.kids e c := by
        intro c member
        have listed : c ∈ f.kids n := by simpa [lists] using member
        cases d with
        | zero =>
          rw [show f.kids n = [] from shallow] at listed
          cases listed
        | succ d => exact ⟨d, Nat.lt_of_succ_lt_succ less, shallow c listed⟩
      have whole : f.children n = some (list.reverse.reverse ++ [] ++ []) := by simp [owns]
      obtain ⟨g, runs, swept, joined, exactly⟩ :=
        sweep_joined ih list.reverse orderly whole (List.forall_mem_nil _) low
      refine ⟨g, runs, ?_, joined, fun run => ?_⟩
      · have own : (f.node n).children = some list := owns
        simpa [normalizeWithin, bind_run, named, container, own] using swept
      · simp [exactly, runBelow_iff container, lists]

-- The way down from a node is never so long that the bound on the depth would cut it off.
theorem normalize_joined (orderly : Orderly f) (known : f.known n = true) :
    ∃ g runs, normalize n f = .ok () g ∧ Joined f g runs ∧ ∀ run, run ∈ runs ↔ f.RunBelow n run :=
  normalizeWithin_tidies f.reach f n orderly known
    ⟨f.size, Nat.lt_succ_self f.size, orderly.linked.shallow n⟩

end Edit

end HtmlTree

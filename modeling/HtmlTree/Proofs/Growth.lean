import HtmlTree.Proofs.Frames
import HtmlTree.Proofs.Upkeep

namespace EStateM

variable {ε σ α β : Type} {e : EStateM ε σ α} {s t : σ} {value : α}

theorem bind_ok (ran : e s = .ok value t) (next : α → EStateM ε σ β) : (e >>= next) s = next value t := by
  simp [bind, EStateM.bind, ran]

theorem map_ok (ran : e s = .ok value t) (change : α → β) : (change <$> e) s = .ok (change value) t := by
  simp [Functor.map, EStateM.map, ran]

end EStateM

namespace HtmlTree

namespace Forest

variable {f g : Forest} {base : Nat}

-- From some node on, links upwards lead to earlier nodes that were made since.
def Descends (f : Forest) (base : Nat) : Prop :=
  ∀ m p : Nat, base ≤ m → f.parent m = some p → base ≤ p ∧ p < m

theorem Descends.ancestors (descends : Descends f base) {n : Nat} (inside : base ≤ n) :
    ∀ m ∈ f.ancestors n, (m : Nat) ≤ n := by
  have climbed (limit : Nat) {n : Nat} (inside : base ≤ n) :
      ∀ m ∈ Walk.chain f.parent limit n, (m : Nat) ≤ n := by
    induction limit generalizing n with
    | zero => nofun
    | succ limit ih =>
      intro m member
      rcases List.mem_cons.mp member with rfl | above
      · exact Nat.le_refl _
      · cases up : f.parent n with
        | none => simp [up] at above
        | some p =>
          rw [up] at above
          obtain ⟨within, less⟩ := descends n p inside up
          exact Nat.le_trans (ih within m above) (Nat.le_of_lt less)
  exact climbed f.reach inside

-- A node has been put at the end of another, and nothing else has changed.
structure Added (f g : Forest) (h n : Nat) (list : List Nat) : Prop where
  size : g.size = f.size
  holder : g.node h = { f.node h with children := some (list ++ [n]) }
  new : g.node n = { f.node n with parent := some h }
  old : ∀ m : Nat, m ≠ h → m ≠ n → g.node m = f.node m

end Forest

namespace Edit

open Forest

variable {f g : Forest} {h n : Nat} {list : List NodeId}

theorem splice_end (owns : f.children h = some list) (block : List NodeId) :
    splice h none (some block) 0 f = .ok block (f.setChildren h (some (list ++ block))) := by
  simp [splice, owned, bind_run, map_run, owns]

-- A node that has been freed goes to the end of the children that are left.
theorem append_freed (owns : f.children h = some list) (freed : release h n f = .ok (some [n]) g)
    {left : List NodeId} (owns' : g.children h = some left) (known : g.known n = true) :
    append h (some n) f =
      .ok () ((g.setChildren h (some (left ++ [n]))).setParent n (some h)) := by
  have inside : InRange list list.length false := ⟨Int.natCast_nonneg _, Int.le_refl _⟩
  have last : neighbour f list list.length (some n) = none := by simp [neighbour, childAt]
  have listed : ∀ m ∈ [n], (g.setChildren h (some (left ++ [n]))).known m = true := by
    intro m member
    rw [List.mem_singleton.mp member, known_iff, size_setChildren]
    exact known_iff.mp known
  have begun : insertNode h list.length (some n) false f = _ :=
    insertNode_begun owns inside (by simp)
  have ran : insertNode h list.length (some n) false f =
      .ok none ((g.setChildren h (some (left ++ [n]))).setParent n (some h)) := by
    rw [begun]
    simp [bind_run, map_run, freeing, freed, settling, last, splice_end owns', adopt_run listed,
      removedBy, linkAll]
  simp [append, bind_run, owned_run owns, discard_run, ran]

theorem append_new (owns : f.children h = some list) (clear : n ∉ f.ancestors h)
    (plain : (f.node n).isFragment = false) (free : f.parent n = none) (known : f.known n = true)
    (other : n ≠ h) (housed : f.known h = true) :
    ∃ g, append h (some n) f = .ok () g ∧ Added f g h n list := by
  have listed : (f.setChildren h (some (list ++ [n]))).known n = true := by
    rw [known_iff, size_setChildren]
    exact known_iff.mp known
  refine ⟨_, append_freed owns (release_free clear plain free) owns known, ?_, ?_, ?_, ?_⟩
  · rw [size_setParent, size_setChildren]
  · rw [node_setParent listed, node_setChildren housed, children_setChildren housed, if_neg other.symm,
      parent_setChildren housed]
    simp [Node.relink]
    rfl
  · rw [node_setParent listed, node_setChildren housed, children_setChildren housed, if_pos rfl,
      if_neg other]
    simp [Node.relink]
    rfl
  · intro m away apart
    rw [node_setParent listed, node_setChildren housed, children_setChildren housed, if_neg apart,
      if_neg away, parent_setChildren housed]
    simp [Node.relink]
    rfl

end Edit

namespace Forest

open HtmlTree.Frame

variable {f g : Forest} {base hi lo n : Nat} {frame : Frame} {outer : List Frame} {list : List NodeId}

theorem Added.descends (added : Added f g h n list) (descends : Descends f base) (inside : base ≤ h)
    (later : h < n) : Descends g base := by
  intro m p above up
  by_cases here : m = n
  · subst here
    rw [parent, added.new] at up
    cases up
    exact ⟨inside, later⟩
  · refine descends m p above ?_
    by_cases there : m = h
    · subst there
      rw [parent, added.holder] at up
      exact up
    · rw [parent, added.old m there here] at up
      exact up

-- What is put at the end of the current element from beyond the stretch of what stands.
theorem Standing.added (standing : Standing f lo [] (frame :: outer))
    (added : Added f g frame.holder n list) (owns : f.children frame.holder = some list)
    (beyond : lo ≤ n) : Standing g lo [n] (frame :: outer) := by
  obtain ⟨⟨ids, stands⟩, up, above⟩ := standing
  have below := stands.below
  have low := frame.holder_le
  have all : list = ids := by
    have same := owns.symm.trans stands.children
    rw [List.append_nil] at same
    exact Option.some.inj same
  subst all
  have same : ∀ m : Nat, m < lo → m ≠ frame.holder → g.node m = f.node m := fun m less other =>
    added.old m other (Nat.ne_of_lt (Nat.lt_of_lt_of_le less beyond))
  have loose : (g.node frame.node).relink none none = (f.node frame.node).relink none none := by
    by_cases template : frame.node = frame.holder
    · rw [template, added.holder]
      rfl
    · rw [same _ below template]
  refine ⟨⟨list, ?_⟩, ?_, above.congr fun m less => same m (by omega) (Nat.ne_of_lt less)⟩
  · obtain ⟨named, tag, html, attrs, content, apart, children, row, linked⟩ := stands
    refine ⟨(congrArg Node.name? loose).trans named, tag, (congrArg Node.ns loose).trans html,
      (congrArg Node.attrs loose).trans attrs, (congrArg Node.content loose).trans content, ?_, ?_, ?_,
      ?_⟩
    · intro template
      obtain ⟨less, hollow⟩ := apart template
      rw [Forest.children, same _ below (Nat.ne_of_gt less)]
      exact ⟨less, hollow⟩
    · rw [Forest.children, added.holder]
    · refine row.congr fun m inside less => ?_
      rw [same m less (by omega)]
    · intro id member
      have inside := row.within id member
      rw [parent, same id inside.2 (by omega)]
      exact linked id member
  · intro next first
    rw [← up next first, parent, parent]
    by_cases template : frame.node = frame.holder
    · rw [template, added.holder]
    · rw [same _ below template]

end Forest

namespace Forest

variable {f g : Forest} {base : Nat} {frame : Frame}

-- An open element that has been made, with nothing in it, and is not linked to anything yet.
structure Raised (f g : Forest) (frame : Frame) : Prop where
  empty : frame.kids = []
  size : g.size = frame.node + 1
  first : frame.holder = f.size
  old : ∀ m : Nat, m < f.size → g.node m = f.node m
  stands : frame.Stands g (frame.node + 1) [] []
  free : ∀ m : Nat, f.size ≤ m → g.parent m = none

theorem Raised.descends (raised : Raised f g frame) (descends : Descends f base) : Descends g base := by
  intro m p above up
  by_cases old : m < f.size
  · refine descends m p above ?_
    rw [parent, raised.old m old] at up
    exact up
  · rw [raised.free m (Nat.le_of_not_lt old)] at up
    cases up

theorem parent_unknown {m : Nat} (beyond : f.size ≤ m) : f.parent m = none := by
  have unknown : f.known m = false := decide_eq_false (Nat.not_lt.mpr beyond)
  rw [parent, node_unknown unknown]
  rfl

end Forest

namespace Builder

open Forest

variable {α : Type} {b : Builder} {f g : Forest}

theorem onForest_ok {e : Edit α} {value : α} (ran : e b.forest = .ok value g) :
    onForest e b = .ok value { b with forest := g } := by
  simp [onForest, ran]

theorem makeElement_raised (f : Forest) {name : String} (tag : Node.isTagName name = true) :
    ∃ g n, Edit.makeElement (some name) (some "html") f = .ok n g ∧
      Raised f g ⟨n, name, .empty, []⟩ := by
  by_cases template : name = "template"
  · subst template
    let fragment := (f.alloc .newFragment).2
    let new := Node.newTemplate (some "template") none (some "html") (some f.size)
    have size : fragment.size = f.size + 1 := size_alloc _ _
    refine ⟨(fragment.alloc new).2, f.size + 1, ?_, ?_⟩
    · simp [Edit.makeElement, Edit.makeTemplate, Edit.bind_run, Edit.make, fragment, new]
    have here : (fragment.alloc new).2.node (f.size + 1) = new := by rw [node_alloc, size, if_pos rfl]
    have before : (fragment.alloc new).2.node f.size = .newFragment := by
      rw [node_alloc, size, if_neg (Nat.ne_of_lt (Nat.lt_succ_self _)), node_alloc, if_pos rfl]
    have old (m : Nat) (below : m < f.size) : (fragment.alloc new).2.node m = f.node m := by
      rw [node_alloc, size, if_neg (Nat.ne_of_lt (Nat.lt_succ_of_lt below)), node_alloc,
        if_neg (Nat.ne_of_lt below)]
    refine ⟨rfl, by rw [size_alloc, size], rfl, old, ?_, ?_⟩
    · exact ⟨congrArg Node.name? here, tag, congrArg Node.ns here, congrArg Node.attrs here,
        congrArg Node.content here, fun _ => ⟨Nat.lt_succ_self _, congrArg Node.children here⟩,
        congrArg Node.children before, .nil (Nat.le_refl _), nofun⟩
    · intro m beyond
      rcases Nat.lt_trichotomy m (f.size + 1) with low | rfl | high
      · obtain rfl : m = f.size := Nat.le_antisymm (Nat.le_of_lt_succ low) beyond
        exact congrArg Node.parent before
      · exact congrArg Node.parent here
      · exact parent_unknown (by rw [size_alloc, size]; exact high)
  · let new := Node.newElement (some name) none (some "html")
    refine ⟨(f.alloc new).2, f.size, ?_, ?_⟩
    · simp [Edit.makeElement, template, Edit.make, new]
    have here : (f.alloc new).2.node f.size = new := node_alloc_new _ _
    have plain : (Frame.mk f.size name .empty []).isTemplate = false := by
      simp [Frame.isTemplate, template]
    have holder : (Frame.mk f.size name .empty []).holder = f.size := by simp [Frame.holder, plain]
    refine ⟨rfl, size_alloc _ _, holder, fun m below => node_alloc_old _ _ m below, ?_, ?_⟩
    · refine ⟨congrArg Node.name? here, tag, congrArg Node.ns here, congrArg Node.attrs here, ?_, ?_, ?_,
        .nil (Nat.le_refl _), nofun⟩
      · rw [plain]
        exact congrArg Node.content here
      · intro other
        rw [plain] at other
        cases other
      · rw [holder]
        exact congrArg Node.children here
    · intro m beyond
      rcases Nat.eq_or_lt_of_le beyond with rfl | high
      · exact congrArg Node.parent here
      · exact parent_unknown (by rw [size_alloc]; exact high)

theorem element_run (b : Builder) {name : String} (tag : Node.isTagName name = true) :
    ∃ b' n, (BuildStep.element name (some Namespace.html)).run b =
      .ok (some ⟨n, name, some Namespace.html⟩) b' ∧ Raised b.forest b'.forest ⟨n, name, .empty, []⟩ := by
  obtain ⟨g, n, made, raised⟩ := makeElement_raised b.forest tag
  have registered : newElement name (some Namespace.html) b = _ :=
    EStateM.bind_ok (onForest_ok made) fun node => register node name (some Namespace.html)
  exact ⟨_, n, EStateM.map_ok registered some, raised⟩

theorem attributes_run {b : Builder} {frame : Frame} {f : Forest} (raised : Raised f b.forest frame)
    (attrs : Attributes) :
    ∃ b', (BuildStep.attributes frame.site attrs).run b = .ok none b' ∧
      Raised f b'.forest { frame with attrs := attrs } := by
  obtain ⟨empty, size, first, old, stands, free⟩ := raised
  have kept := stands.attrs
  have written : setAttributes frame.site attrs b =
      .ok () { b with forest := b.forest.setAttrs frame.node (some attrs) } := by
    have here : b.forest.attrs frame.site.node = some frame.attrs := kept
    have read : (get : Build Builder) b = .ok b b := rfl
    rw [setAttributes, EStateM.bind_ok read, here]
    rfl
  have known : frame.node < b.forest.size := by rw [size]; exact Nat.lt_succ_self _
  have here : (b.forest.setAttrs frame.node (some attrs)).node frame.node =
      (b.forest.node frame.node).retable (some attrs) none := node_update_same _ _ _ known
  have other (m : Nat) (apart : m ≠ frame.node) :
      (b.forest.setAttrs frame.node (some attrs)).node m = b.forest.node m :=
    node_update_other _ _ _ _ apart
  refine ⟨_, EStateM.bind_ok written _, empty, (size_update _ _ _).trans size, first, ?_, ?_, ?_⟩
  · intro m below
    rw [← old m below]
    exact other m (by have := frame.holder_le; omega)
  · obtain ⟨named, tag, html, _, content, apart, children, row, linked⟩ := stands
    refine ⟨(congrArg Node.name? here).trans named, tag, (congrArg Node.ns here).trans html,
      congrArg Node.attrs here, (congrArg Node.content here).trans content, ?_, ?_, ?_, nofun⟩
    · intro template
      obtain ⟨less, hollow⟩ := apart template
      exact ⟨less, (congrArg Node.children here).trans hollow⟩
    · have owned (m : Nat) : (b.forest.setAttrs frame.node (some attrs)).children m =
          b.forest.children m := by
        by_cases same : m = frame.node
        · rw [same]
          exact (congrArg Node.children here :)
        · exact congrArg Node.children (other m same)
      exact (owned frame.holder).trans children
    · rw [show ({ frame with attrs := attrs } : Frame).kids = [] from empty]
      exact .nil (Nat.le_refl _)
  · intro m beyond
    rw [← free m beyond, parent, parent]
    by_cases same : m = frame.node
    · rw [same, here]
      rfl
    · rw [other m same]

theorem container_standing {b : Builder} {frame : Frame} {outer : List Frame} {hi : Nat} {inner : List Nat}
    (standing : b.forest.Standing hi inner (frame :: outer)) : b.container frame.site = frame.holder := by
  obtain ⟨⟨ids, stands⟩, _⟩ := standing
  have content : b.forest.content frame.site.node = if frame.isTemplate then some frame.holder else none :=
    stands.content
  rw [container, content]
  cases template : frame.isTemplate with
  | true => rfl
  | false => simp [Frame.holder, template, Frame.site]

-- Puts a node that is linked to nothing at the end of the current element.
theorem append_standing {f : Forest} {frame : Frame} {outer : List Frame} {lo base n : Nat}
    (standing : f.Standing lo [] (frame :: outer)) (descends : f.Descends base)
    (inside : base ≤ frame.holder) (beyond : lo ≤ n) (known : n < f.size)
    (plain : (f.node n).isFragment = false) (free : f.parent n = none) :
    ∃ g list, Edit.append frame.holder (some n) f = .ok () g ∧
      Added f g frame.holder n list ∧ g.Standing lo [n] (frame :: outer) ∧ g.Descends base := by
  have low := frame.holder_le
  obtain ⟨⟨ids, stands⟩, _⟩ := id standing
  have below := stands.below
  have owns : f.children frame.holder = some ids := by
    rw [stands.children, List.append_nil]
  have later : frame.holder < n := by omega
  have clear : n ∉ f.ancestors frame.holder := fun member =>
    Nat.not_lt.mpr (descends.ancestors inside n member) later
  obtain ⟨g, ran, added⟩ := Edit.append_new owns clear plain free (known_iff.mpr known)
    (Nat.ne_of_gt later) (known_iff.mpr (Nat.lt_trans later known))
  exact ⟨g, ids, ran, added, standing.added added owns beyond, added.descends descends inside later⟩

-- An element that has been made is put at the end of the current element, and is the current one.
theorem enter_run {b : Builder} {f : Forest} {frame new : Frame} {outer : List Frame} {base : Nat}
    (raised : Raised f b.forest new) (standing : f.Standing f.size [] (frame :: outer))
    (descends : f.Descends base) (inside : base ≤ frame.holder) :
    ∃ b', (BuildStep.append frame.site new.site).run b = .ok none b' ∧
      b'.forest.Standing b'.forest.size [] (new :: frame :: outer) ∧ b'.forest.Descends base := by
  have standing := standing.congr raised.old
  have descends := raised.descends descends
  obtain ⟨empty, size, first, old, stands, free⟩ := raised
  have low := new.holder_le
  have plain := (Frame.unmarked_of_tag stands.named stands.tag).fragment
  obtain ⟨g, list, ran, added, stands', descends'⟩ := append_standing standing descends inside
    (n := new.node) (by omega) (by omega) plain (free _ (by omega))
  have appended : appendChild frame.site new.site b = .ok () { b with forest := g } := by
    have read : (get : Build Builder) b = .ok b b := rfl
    rw [appendChild, EStateM.bind_ok read, container_standing standing]
    exact onForest_ok ran
  obtain ⟨⟨_, current⟩, _⟩ := id standing
  have apart : frame.holder < f.size := Nat.lt_of_le_of_lt frame.holder_le current.below
  have agree : AgreeWithin b.forest g new.holder (new.node + 1) := by
    intro m above below
    by_cases same : m = new.node
    · rw [same, added.new]
      rfl
    · rw [added.old m (by omega) same]
  refine ⟨_, EStateM.bind_ok appended _, ⟨⟨[], ?_⟩, ?_, ?_⟩, descends'⟩
  · have still : new.Stands g (new.node + 1) [] [] :=
      stands.congr agree nofun
    exact still.widen (by rw [added.size, size])
  · rintro next ⟨⟩
    exact congrArg Node.parent added.new
  · rw [first]
    exact stands'

-- A node without children that has just been made is put at the end of the current element.
theorem leaf_run {f : Forest} {frame : Frame} {outer : List Frame} {base : Nat}
    (standing : f.Standing f.size [] (frame :: outer)) (descends : f.Descends base)
    (inside : base ≤ frame.holder) {new : Node} {t : Tree} (plain : new.isFragment = false)
    (free : new.parent = none)
    (reads : ∀ (g : Forest) (m : Nat), (g.node m).loose = new.loose → ∀ depth,
      g.treeWithin (depth + 1) m = t) :
    ∃ g, Edit.append frame.holder (some f.size) (f.alloc new).2 = .ok () g ∧
      g.Standing g.size [] (frame.grown t :: outer) ∧ g.Descends base := by
  have same (m : Nat) (below : m < f.size) : (f.alloc new).2.node m = f.node m :=
    node_alloc_old f new m below
  have here : (f.alloc new).2.node f.size = new := node_alloc_new f new
  have descends : (f.alloc new).2.Descends base := by
    intro m p above up
    rcases Nat.lt_trichotomy m f.size with low | rfl | high
    · refine descends m p above ?_
      rw [parent, same m low] at up
      exact up
    · rw [parent, here, free] at up
      cases up
    · rw [parent_unknown (by rw [size_alloc]; exact high)] at up
      cases up
  obtain ⟨g, list, ran, added, stands, descends⟩ := append_standing (standing.congr same) descends inside
    (Nat.le_refl _) (by rw [size_alloc]; exact Nat.lt_succ_self _) (by rw [here]; exact plain)
    ((congrArg Node.parent here).trans free)
  have high : f.size < g.size := by
    rw [added.size, size_alloc]
    exact Nat.lt_succ_self _
  have bears : g.Bears f.size g.size f.size t := by
    refine .of_reads (Nat.le_refl _) high fun h same => reads h f.size ?_
    rw [same, added.new, here]
    rfl
  exact ⟨g, ran, stands.closed bears (congrArg Node.parent added.new), descends⟩

end Builder

namespace Forest

-- Where the last child of the current element is a text, it may as well have other data.
theorem Standing.last_text {f : Forest} {frame : Frame} {outer : List Frame} {said : Option String}
    (standing : f.Standing f.size [] (frame.grown (.text said) :: outer)) :
    ∃ front n, f.children frame.holder = some (front ++ [n]) ∧ f.known n = true ∧
      (f.node n).isText = true ∧ f.data n = said ∧
      ∀ data, (f.setData n data).Standing f.size [] (frame.grown (.text data) :: outer) := by
  obtain ⟨⟨ids, current⟩, up, above⟩ := standing
  rcases current.row.last with ⟨_, empty⟩ | ⟨mid, front, n, earlier, t, rfl, kids, row, bears⟩
  · exact absurd empty (by simp [Frame.grown])
  have owns : f.children frame.holder = some (front ++ [n]) := by
    rw [← List.append_nil (front ++ [n])]
    exact current.children
  obtain ⟨rfl, same⟩ := List.append_inj' (show frame.kids ++ [_] = earlier ++ [t] from kids) rfl
  cases same
  obtain ⟨text, given⟩ := bears.text
  refine ⟨front, n, owns, known_iff.mpr bears.2.1, text, given _ rfl, fun data => ?_⟩
  have after : frame.node < n := Nat.lt_of_lt_of_le row.room bears.1
  have low := frame.holder_le
  have other (m : Nat) (apart : m ≠ n) : (f.setData n data).node m = f.node m :=
    node_update_other _ _ _ _ apart
  have kept : AgreeWithin f (f.setData n data) frame.holder mid := fun m _ below => by
    rw [other m (Nat.ne_of_lt (Nat.lt_of_lt_of_le below bears.1))]
  have bare : frame.Stands f mid front [n] :=
    { current with
      children := owns
      row := row
      linked := fun id member => current.linked id (List.mem_append_left _ member) }
  have stands : (f.setData n data).Standing mid [n] (frame :: outer) := by
    refine ⟨⟨front, bare.congr kept fun id _ => (Edit.sameLinks_setData data).parent _⟩, fun next first => ?_,
      above.congr fun m below => ?_⟩
    · rw [(Edit.sameLinks_setData data).parent]
      exact up next first
    · have less : m < frame.holder := below
      exact other m (by omega)
  refine stands.closed (bears.setData bears.2.1 data) ?_
  rw [(Edit.sameLinks_setData data).parent]
  exact current.linked n (by simp)

theorem comment_tree {g : Forest} {m : Nat} {data : Option String}
    (same : (g.node m).loose = (Node.newComment data).loose) (depth : Nat) :
    g.treeWithin (depth + 1) m = .comment data := by
  have name : (g.node m).name? = some Node.commentName := (congrArg Node.name? same :)
  have said : (g.node m).data = data := (congrArg Node.data same :)
  have text : (g.node m).isText = false := by simp [Node.isText, Node.name, name]; decide
  have comment : (g.node m).isComment = true := by simp [Node.isComment, Node.name, name]
  simp [treeWithin, text, comment, said]

theorem text_tree {g : Forest} {m : Nat} {data : Option String}
    (same : (g.node m).loose = (Node.newText data).loose) (depth : Nat) :
    g.treeWithin (depth + 1) m = .text data := by
  have name : (g.node m).name? = some Node.textName := (congrArg Node.name? same :)
  have said : (g.node m).data = data := (congrArg Node.data same :)
  have text : (g.node m).isText = true := by simp [Node.isText, Node.name, name]
  simp [treeWithin, text, said]

end Forest

namespace Builder

open Forest

theorem comment_run {b : Builder} {frame : Frame} {outer : List Frame} {base : Nat}
    (standing : b.forest.Standing b.forest.size [] (frame :: outer)) (descends : b.forest.Descends base)
    (inside : base ≤ frame.holder) (data : String) :
    ∃ site b' b'', (BuildStep.comment (some data)).run b = .ok (some site) b' ∧
      (BuildStep.append frame.site site).run b' = .ok none b'' ∧
      b''.forest.Standing b''.forest.size [] (frame.grown (.comment (some data)) :: outer) ∧
      b''.forest.Descends base := by
  let made := b.forest.alloc (.newComment (some data))
  let site : Site := ⟨b.forest.size, Node.commentName, none⟩
  let next : Builder := { b with forest := made.2, sites := site :: b.sites }
  have registered : newComment (some data) b = .ok site next := rfl
  have stays : made.2.Standing b.forest.size [] (frame :: outer) :=
    standing.congr fun m below => node_alloc_old _ _ m below
  have placed : next.container frame.site = frame.holder := container_standing (b := next) stays
  obtain ⟨g, ran, stands, descends⟩ := leaf_run standing descends inside rfl rfl
    fun h m same depth => comment_tree same depth
  have appended : appendChild frame.site site next = .ok () { next with forest := g } := by
    have read : (get : Build Builder) next = .ok next next := rfl
    rw [appendChild, EStateM.bind_ok read, placed]
    exact onForest_ok ran
  exact ⟨site, next, _, EStateM.map_ok registered some, EStateM.bind_ok appended _, stands, descends⟩

variable {b : Builder} {frame : Frame} {outer : List Frame} {base : Nat}

theorem extendText_text {f : Forest} {n : NodeId} {old data : String} (known : f.known n = true)
    (text : (f.node n).isText = true) (said : f.data n = some old) (otherwise : Edit Unit) :
    extendText n (some data) otherwise f = .ok () (f.setData n (some (old ++ data))) := by
  simp [extendText, Edit.bind_run, known, text, said]

theorem extendText_other {f : Forest} {n : NodeId} (known : f.known n = true)
    (other : (f.node n).isText = false) (data : Option String) (otherwise : Edit Unit) :
    extendText n data otherwise f = otherwise f := by
  simp [extendText, Edit.bind_run, known, other]

-- Text after something that is no text is a node of its own.
theorem text_run (standing : b.forest.Standing b.forest.size [] (frame :: outer))
    (descends : b.forest.Descends base) (inside : base ≤ frame.holder)
    (other : ∀ t ∈ frame.kids.getLast?, t.isText = false) (data : String) :
    ∃ b', (BuildStep.text frame.site data none).run b = .ok none b' ∧
      b'.forest.Standing b'.forest.size [] (frame.grown (.text (some data)) :: outer) ∧
      b'.forest.Descends base := by
  obtain ⟨g, ran, stands, descends⟩ := leaf_run standing descends inside rfl rfl
    fun h m (same : (h.node m).loose = (Node.newText (some data)).loose) depth => text_tree same depth
  have made : (Edit.make (.newText (some data)) >>= fun n => Edit.append frame.holder (some n)) b.forest =
      .ok () g := ran
  have placed := container_standing standing
  have read : (get : Build Builder) b = .ok b b := rfl
  have inserted : insertText frame.site (some data) none b = .ok () { b with forest := g } := by
    obtain ⟨⟨ids, current⟩, _⟩ := standing
    have owns := current.children
    rw [List.append_nil] at owns
    rw [insertText, EStateM.bind_ok read, placed, owns]
    rcases current.row.last with ⟨rfl, _⟩ | ⟨mid, front, n, earlier, t, rfl, kids, _, bears⟩
    · exact onForest_ok made
    · have plain : (b.forest.node n).isText = false :=
        bears.text.1.trans (other t (by simp [kids]))
      have last : ((some (front ++ [n])).getD []).getLast? = some n := by simp
      dsimp only
      rw [last]
      refine onForest_ok ?_
      rw [extendText_other (known_iff.mpr bears.2.1) plain]
      exact made
  exact ⟨_, EStateM.bind_ok inserted _, stands, descends⟩

-- Text after text goes on with it.
theorem more_run {old : String}
    (standing : b.forest.Standing b.forest.size [] (frame.grown (.text (some old)) :: outer))
    (descends : b.forest.Descends base) (data : String) :
    ∃ b', (BuildStep.text frame.site data none).run b = .ok none b' ∧
      b'.forest.Standing b'.forest.size [] (frame.grown (.text (some (old ++ data))) :: outer) ∧
      b'.forest.Descends base := by
  have placed := container_standing standing
  obtain ⟨front, n, owns, known, text, said, stands⟩ := standing.last_text
  let g := b.forest.setData n (some (old ++ data))
  have inserted : insertText frame.site (some data) none b = .ok () { b with forest := g } := by
    have read : (get : Build Builder) b = .ok b b := rfl
    have target : b.container frame.site = frame.holder := placed
    have last : ((some (front ++ [n])).getD []).getLast? = some n := by simp
    rw [insertText, EStateM.bind_ok read, target, owns]
    dsimp only
    rw [last]
    exact onForest_ok (extendText_text known text said _)
  refine ⟨_, EStateM.bind_ok inserted _, ?_, fun m p beyond link => descends m p beyond ?_⟩
  · rw [show g.size = b.forest.size from size_update _ _ _]
    exact stands _
  · exact ((Edit.sameLinks_setData _).parent m).symm.trans link

end Builder
end HtmlTree

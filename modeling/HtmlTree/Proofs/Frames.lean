import HtmlTree.Construct
import HtmlTree.Proofs.Legible

namespace HtmlTree

-- A node but for its link upwards, which the tree below it does not depend on.
def Node.loose (node : Node) : Node := { node with parent := none }

namespace Forest

variable {f g : Forest} {lo hi mid : Nat}

-- Two forests have the same nodes from one identifier up to another, links upwards left aside.
def AgreeWithin (f g : Forest) (lo hi : Nat) : Prop :=
  ∀ m : Nat, lo ≤ m → m < hi → (g.node m).loose = (f.node m).loose

-- A node bears a tree that takes up no other nodes than those of a stretch.
def Bears (f : Forest) (lo hi n : Nat) (t : Tree) : Prop :=
  lo ≤ n ∧ n < hi ∧ ∀ g, AgreeWithin f g lo hi → ∀ depth, hi - lo ≤ depth → g.treeWithin depth n = t

-- Trees side by side, each in a stretch of its own.
inductive Row (f : Forest) (lo : Nat) : Nat → List Nat → List Tree → Prop where
  | nil {hi : Nat} (room : lo ≤ hi) : Row f lo hi [] []
  | snoc {mid hi n : Nat} {ids : List Nat} {kids : List Tree} {t : Tree}
    (earlier : Row f lo mid ids kids) (last : f.Bears mid hi n t) :
    Row f lo hi (ids ++ [n]) (kids ++ [t])

theorem AgreeWithin.narrow (agree : AgreeWithin f g lo hi) {lo' hi' : Nat} (low : lo ≤ lo')
    (high : hi' ≤ hi) : AgreeWithin f g lo' hi' :=
  fun m above below => agree m (Nat.le_trans low above) (Nat.lt_of_lt_of_le below high)

theorem AgreeWithin.of_same (same : ∀ m : Nat, m < hi → g.node m = f.node m) : AgreeWithin f g lo hi :=
  fun m _ below => by rw [same m below]

theorem Bears.congr {n : Nat} {t : Tree} (bears : f.Bears lo hi n t) (agree : AgreeWithin f g lo hi) :
    g.Bears lo hi n t := by
  obtain ⟨low, high, read⟩ := bears
  exact ⟨low, high, fun h other => read h fun m above below =>
    (other m above below).trans (agree m above below)⟩

theorem Bears.widen {n : Nat} {t : Tree} (bears : f.Bears mid hi n t) (low : lo ≤ mid) {hi' : Nat}
    (high : hi ≤ hi') : f.Bears lo hi' n t := by
  obtain ⟨above, below, read⟩ := bears
  exact ⟨Nat.le_trans low above, Nat.lt_of_lt_of_le below high, fun h agree depth deep =>
    read h (agree.narrow low high) depth (by omega)⟩

variable {ids : List Nat} {kids : List Tree}

theorem Row.room (row : f.Row lo hi ids kids) : lo ≤ hi := by
  induction row with
  | nil room => exact room
  | snoc _ last ih => exact Nat.le_trans ih (Nat.le_of_lt (Nat.lt_of_le_of_lt last.1 last.2.1))

theorem Row.congr (row : f.Row lo hi ids kids) (agree : AgreeWithin f g lo hi) : g.Row lo hi ids kids := by
  induction row with
  | nil room => exact .nil room
  | snoc earlier last ih =>
    have inside := Nat.le_of_lt (Nat.lt_of_le_of_lt last.1 last.2.1)
    exact .snoc (ih (agree.narrow (Nat.le_refl _) inside)) (last.congr (agree.narrow earlier.room (Nat.le_refl _)))

theorem Row.widen (row : f.Row lo mid ids kids) (high : mid ≤ hi) : f.Row lo hi ids kids := by
  cases row with
  | nil room => exact .nil (Nat.le_trans room high)
  | snoc earlier last => exact .snoc earlier (last.widen (Nat.le_refl _) high)

theorem Row.within (row : f.Row lo hi ids kids) : ∀ id ∈ ids, lo ≤ id ∧ id < hi := by
  induction row with
  | nil => nofun
  | snoc earlier last ih =>
    intro id member
    rcases List.mem_append.mp member with before | here
    · have inside := ih id before
      exact ⟨inside.1, Nat.lt_of_lt_of_le inside.2
        (Nat.le_of_lt (Nat.lt_of_le_of_lt last.1 last.2.1))⟩
    · rw [List.mem_singleton.mp here]
      exact ⟨Nat.le_trans earlier.room last.1, last.2.1⟩

theorem Row.read (row : f.Row lo hi ids kids) {depth : Nat} (deep : hi - lo ≤ depth) :
    ids.map (f.treeWithin depth) = kids := by
  induction row with
  | nil => rfl
  | snoc earlier last ih =>
    obtain ⟨above, below, read⟩ := last
    have room := earlier.room
    rw [List.map_append, ih (by omega), List.map_singleton, read f (fun _ _ _ => rfl) depth (by omega)]

theorem Row.last (row : f.Row lo hi ids kids) : (ids = [] ∧ kids = []) ∨
    ∃ mid front n earlier t, ids = front ++ [n] ∧ kids = earlier ++ [t] ∧
      f.Row lo mid front earlier ∧ f.Bears mid hi n t := by
  cases row with
  | nil => exact .inl ⟨rfl, rfl⟩
  | snoc earlier last => exact .inr ⟨_, _, _, _, _, rfl, rfl, earlier, last⟩

-- A node is a text if its tree is, with the same data.
theorem Bears.text {n : Nat} {t : Tree} (bears : f.Bears lo hi n t) :
    (f.node n).isText = t.isText ∧ ∀ data, t = .text data → f.data n = data := by
  obtain ⟨above, below, read⟩ := bears
  have tree := read f (fun _ _ _ => rfl) (hi - lo) (Nat.le_refl _)
  obtain ⟨depth, same⟩ : ∃ depth, hi - lo = depth + 1 := ⟨hi - lo - 1, by omega⟩
  rw [same, treeWithin] at tree
  split_ifs at tree with text
  · rw [← tree, text]
    exact ⟨rfl, fun data same => Tree.text.inj same⟩
  all_goals
    rw [← tree, Bool.eq_false_iff.mpr text]
    exact ⟨rfl, fun _ same => by cases same⟩

-- A node whose tree is read off the node itself, whatever there is around it.
theorem Bears.of_reads {n : Nat} {t : Tree} (low : lo ≤ n) (high : n < hi)
    (reads : ∀ g : Forest, (g.node n).loose = (f.node n).loose →
      ∀ depth, g.treeWithin (depth + 1) n = t) : f.Bears lo hi n t := by
  refine ⟨low, high, fun g agree depth deep => ?_⟩
  obtain ⟨depth, rfl⟩ : ∃ less, depth = less + 1 := ⟨depth - 1, by omega⟩
  exact reads g (agree n low high) depth

-- A text is read with the data that it is given.
theorem Bears.setData {n : Nat} {said : Option String} (bears : f.Bears lo hi n (.text said))
    (known : n < f.size) (data : Option String) :
    (f.setData n data).Bears lo hi n (.text data) := by
  refine .of_reads bears.1 bears.2.1 fun g same depth => ?_
  rw [Forest.setData, node_update_same _ _ _ known] at same
  have name : (g.node n).name? = (f.node n).name? := (congrArg Node.name? same :)
  have text : (g.node n).isText = true := by
    rw [Node.isText, Node.name, name, ← Node.name, ← Node.isText]
    exact bears.text.1
  rw [treeWithin, if_pos text]
  exact congrArg Tree.text (congrArg Node.data same :)

theorem Bears.fragment {n : Nat} {t : Tree} (bears : f.Bears lo hi n t)
    (fragment : (f.node n).isFragment = true) : ∃ inside, t = .fragment inside := by
  obtain ⟨above, below, read⟩ := bears
  have tree := read f (fun _ _ _ => rfl) (hi - lo) (Nat.le_refl _)
  obtain ⟨depth, same⟩ : ∃ depth, hi - lo = depth + 1 := ⟨hi - lo - 1, by omega⟩
  have name : (f.node n).name = Node.fragmentName := by simpa [Node.isFragment] using fragment
  rw [same, treeWithin, Node.isText, Node.isComment, name, fragment] at tree
  exact ⟨_, tree.symm⟩

theorem Row.nodup (row : f.Row lo hi ids kids) : ids.Nodup := by
  induction row with
  | nil => exact List.nodup_nil
  | snoc earlier last ih =>
    refine List.nodup_append.mpr ⟨ih, by simp, fun id member other here => ?_⟩
    rw [List.mem_singleton.mp here]
    exact Nat.ne_of_lt (Nat.lt_of_lt_of_le (earlier.within id member).2 last.1)

theorem Row.plain (row : f.Row lo hi ids kids) (solid : ∀ t ∈ kids, ∀ inside, t ≠ .fragment inside) :
    ∀ id ∈ ids, (f.node id).isFragment = false := by
  induction row with
  | nil => nofun
  | snoc earlier last ih =>
    intro id member
    rcases List.mem_append.mp member with before | here
    · exact ih (fun t inside => solid t (List.mem_append_left _ inside)) id before
    · rw [List.mem_singleton.mp here]
      refine Bool.eq_false_iff.mpr fun fragment => ?_
      obtain ⟨inside, same⟩ := last.fragment fragment
      exact solid _ (by simp) inside same

end Forest

-- An element that is open: the node, what its start tag said, and the trees inside it so far.
structure Frame where
  node : Nat
  name : String
  attrs : Attributes
  kids : List Tree

namespace Frame

open Forest

def site (frame : Frame) : Site := ⟨frame.node, frame.name, some Namespace.html⟩

def isTemplate (frame : Frame) : Bool := frame.name == "template"

-- What the children go into: for a template its content, which is made right before it.
def holder (frame : Frame) : Nat := if frame.isTemplate then frame.node - 1 else frame.node

def tree (frame : Frame) : Tree :=
  .element frame.name (some "html") frame.attrs (if frame.isTemplate then [] else frame.kids)
    (if frame.isTemplate then some frame.kids else none)

def grown (frame : Frame) (t : Tree) : Frame := { frame with kids := frame.kids ++ [t] }

-- A frame stands in a forest if its node is as the start tag said, and bears the trees inside in
-- front of the element that is open inside it.
structure Stands (frame : Frame) (f : Forest) (hi : Nat) (ids inner : List Nat) : Prop where
  named : (f.node frame.node).name? = some frame.name
  tag : Node.isTagName frame.name = true
  html : (f.node frame.node).ns = some "html"
  attrs : f.attrs frame.node = some frame.attrs
  content : f.content frame.node = if frame.isTemplate then some frame.holder else none
  apart : frame.isTemplate = true → frame.holder < frame.node ∧ f.children frame.node = some []
  children : f.children frame.holder = some (ids ++ inner)
  row : f.Row (frame.node + 1) hi ids frame.kids
  linked : ∀ id ∈ ids, f.parent id = some frame.holder

variable {frame : Frame} {f g : Forest} {hi lo : Nat} {ids inner : List Nat}

theorem holder_le (frame : Frame) : frame.holder ≤ frame.node := by
  unfold holder
  split
  · exact Nat.sub_le _ _
  · exact Nat.le_refl _

theorem Stands.below (stands : frame.Stands f hi ids inner) : frame.node < hi := stands.row.room

theorem Stands.congr (stands : frame.Stands f hi ids inner) (agree : AgreeWithin f g frame.holder hi)
    (links : ∀ id ∈ ids, g.parent id = f.parent id) : frame.Stands g hi ids inner := by
  have low := frame.holder_le
  have here := agree frame.node low stands.below
  have above := agree frame.holder (Nat.le_refl _) (Nat.lt_of_le_of_lt low stands.below)
  obtain ⟨named, tag, html, attrs, content, apart, children, row, linked⟩ := stands
  refine ⟨(congrArg Node.name? here :).trans named, tag, (congrArg Node.ns here :).trans html,
    (congrArg Node.attrs here :).trans attrs, (congrArg Node.content here :).trans content, ?_,
    (congrArg Node.children above :).trans children,
    row.congr (agree.narrow (Nat.le_succ_of_le low) (Nat.le_refl _)), ?_⟩
  · intro template
    obtain ⟨less, hollow⟩ := apart template
    exact ⟨less, (congrArg Node.children here :).trans hollow⟩
  · intro id member
    rw [links id member, linked id member]

theorem Stands.widen (stands : frame.Stands f lo ids inner) (high : lo ≤ hi) :
    frame.Stands f hi ids inner :=
  { stands with row := stands.row.widen high }

theorem unmarked_of_tag {node : Node} {name : String} (named : node.name? = some name)
    (tag : Node.isTagName name = true) : Unmarked node := by
  have same : node.name = name := by rw [Node.name, named]; rfl
  simp only [Node.isTagName, Bool.and_eq_true, bne_iff_ne] at tag
  have unequal {marked : String} (begins : marked.toList.head? = some '#') : (node.name == marked) = false := by
    rw [same]
    refine beq_eq_false_iff_ne.mpr ?_
    rintro rfl
    exact tag.1 begins
  exact ⟨unequal rfl, unequal rfl, same ▸ tag.2, unequal rfl, unequal rfl⟩

-- An element that nothing is open inside bears its tree.
theorem Stands.bears (stands : frame.Stands f hi ids []) :
    f.Bears frame.holder hi frame.node frame.tree := by
  have low := frame.holder_le
  have high := stands.below
  obtain ⟨named, tag, html, attrs, content, apart, children, row, _⟩ := stands
  refine ⟨low, high, fun g agree depth deep => ?_⟩
  obtain ⟨depth, rfl⟩ : ∃ less, depth = less + 1 := ⟨depth - 1, by omega⟩
  have here := agree frame.node low high
  have above := agree frame.holder (Nat.le_refl _) (by omega)
  have name : (g.node frame.node).name? = some frame.name := (congrArg Node.name? here).trans named
  have ns : (g.node frame.node).ns = some "html" := (congrArg Node.ns here).trans html
  have kept : g.attrs frame.node = some frame.attrs := (congrArg Node.attrs here).trans attrs
  have inside : g.content frame.node = if frame.isTemplate then some frame.holder else none :=
    (congrArg Node.content here).trans content
  have owns : g.children frame.holder = some ids := by
    rw [← List.append_nil ids, ← children]
    exact (congrArg Node.children above :)
  have read : ids.map (g.treeWithin depth) = frame.kids :=
    (row.congr (agree.narrow (Nat.le_succ_of_le low) (Nat.le_refl _))).read (by omega)
  rw [treeWithin_element (unmarked_of_tag name tag), ns, inside, tree]
  have whole : (g.node frame.node).name = frame.name := by rw [Node.name, name]; rfl
  have table : (g.node frame.node).attrs.getD .empty = frame.attrs := by
    rw [show (g.node frame.node).attrs = some frame.attrs from kept]
    rfl
  rw [whole, table]
  cases template : frame.isTemplate with
  | true =>
    have hollow : g.children frame.node = some [] :=
      (congrArg Node.children here).trans (apart template).2
    simp [hollow, owns, read]
  | false =>
    have same : frame.holder = frame.node := by simp [holder, template]
    rw [same] at owns
    simp [owns, read]

end Frame

namespace Forest

open HtmlTree.Frame

-- The open elements, the current one first, each the last child of the next.
def Standing (f : Forest) : Nat → List Nat → List Frame → Prop
  | _, _, [] => True
  | hi, inner, frame :: outer =>
    (∃ ids, frame.Stands f hi ids inner) ∧
      (∀ next ∈ outer.head?, f.parent frame.node = some next.holder) ∧
      Standing f frame.holder [frame.node] outer

variable {f g : Forest} {hi lo : Nat} {inner : List Nat} {frame : Frame} {frames outer : List Frame}

theorem Standing.congr (standing : Standing f hi inner frames)
    (same : ∀ m : Nat, m < hi → g.node m = f.node m) : Standing g hi inner frames := by
  induction frames generalizing hi inner with
  | nil => trivial
  | cons frame outer ih =>
    obtain ⟨⟨ids, stands⟩, up, above⟩ := standing
    have less : frame.holder < hi := Nat.lt_of_le_of_lt frame.holder_le stands.below
    have links (id : Nat) (member : id ∈ ids) : g.parent id = f.parent id := by
      rw [parent, parent, same id (stands.row.within id member).2]
    refine ⟨⟨ids, stands.congr (.of_same same) links⟩, fun next first => ?_,
      ih above fun m below => same m (Nat.lt_trans below less)⟩
    rw [← up next first, parent, parent, same frame.node stands.below]

-- Something that has been put at the end of the current element, and has been read.
theorem Standing.closed {n : Nat} {t : Tree} (standing : Standing f lo [n] (frame :: outer))
    (bears : f.Bears lo hi n t) (linked : f.parent n = some frame.holder) :
    Standing f hi [] (frame.grown t :: outer) := by
  obtain ⟨⟨ids, stands⟩, up, above⟩ := standing
  refine ⟨⟨ids ++ [n], { stands with children := ?_, row := .snoc stands.row bears, linked := ?_ }⟩, up,
    above⟩
  · rw [List.append_nil]
    exact stands.children
  · intro id member
    rcases List.mem_append.mp member with before | here
    · exact stands.linked id before
    · rw [List.mem_singleton.mp here]
      exact linked

-- The end of the current element.
theorem Standing.left {current : Frame} (standing : Standing f hi [] (current :: frame :: outer)) :
    Standing f hi [] (frame.grown current.tree :: outer) :=
  have ⟨⟨_, stands⟩, up, above⟩ := standing
  above.closed stands.bears (up frame rfl)

end Forest
end HtmlTree

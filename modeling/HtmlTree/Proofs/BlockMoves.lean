import HtmlTree.Proofs.Normalizing
import HtmlTree.Proofs.Piecewise

namespace HtmlTree

namespace Walk

variable {next other : NodeId → List NodeId} {ns list : List NodeId}

theorem Unfolds.congr (unfolds : Unfolds next ns list) (same : ∀ m ∈ list, other m = next m) :
    Unfolds other ns list := by
  induction unfolds with
  | nil => exact .nil
  | @cons n ns inside later _ _ inner outer =>
    have below : Unfolds other (other n) inside := by
      rw [same n List.mem_cons_self]
      exact inner fun m member => same m (List.mem_cons_of_mem _ (List.mem_append_left _ member))
    refine .cons below (outer fun m member => ?_)
    exact same m (List.mem_cons_of_mem _ (List.mem_append_right _ member))

end Walk

namespace Forest
open Walk

variable {f g : Forest} {c m n p x root : NodeId} {left right ns list : List NodeId}

-- A node has gone, with all that is below it, between two parts of a list, from wherever it stood.
structure Transplanted (f g : Forest) (p n : NodeId) (left right : List NodeId) : Prop where
  before : Linked f
  after : Linked g
  clear : ¬ Above f n p
  whole : f.kids p = left ++ right
  here : g.kids p = left.filter (· ≠ n) ++ n :: right.filter (· ≠ n)
  others : ∀ m, m ≠ p → g.kids m = (f.kids m).filter (· ≠ n)

-- Only the node itself can come below its parent with what is below it.
theorem Linked.block_head (linked : Linked f) (listed : c ∈ f.kids m) (outside : ¬ Above f n m)
    (member : c ∈ f.depthFirst .visible n) : c = n := by
  cases linked.mem_order.mp member with
  | self => rfl
  | up upward above =>
    cases upward.symm.trans ((linked.listed m c).mp listed)
    exact absurd above outside

-- Where nothing comes in, what is left of an unfolding is the unfolding of what is left.
theorem Transplanted.unfolds (moved : Transplanted f g p n left right)
    (unfolds : Unfolds f.kids ns list) (away : p ∉ list)
    (heads : ∀ m ∈ ns, m ∈ f.depthFirst .visible n → m = n) :
    Unfolds g.kids (ns.filter (· ≠ n)) (list.filter (· ∉ f.depthFirst .visible n)) := by
  induction unfolds with
  | nil => exact .nil
  | @cons m ns inside later below rest inner outer =>
    have further := outer (fun again => away (by simp [again])) fun c member =>
      heads c (List.mem_cons_of_mem _ member)
    by_cases itself : m = n
    · have block : f.depthFirst .visible n = m :: inside := by
        rw [itself] at below ⊢
        exact (moved.before.order_unfolds n).unique (.alone below)
      have gone : (m :: inside).filter (· ∉ f.depthFirst .visible n) = [] := by
        rw [block]
        exact List.filter_eq_nil_iff.mpr fun c member stays => of_decide_eq_true stays member
      rw [List.filter_cons_of_neg (by simpa using itself), ← List.cons_append, List.filter_append,
        gone, List.nil_append]
      exact further
    · have outside : m ∉ f.depthFirst .visible n := fun member =>
        itself (heads m List.mem_cons_self member)
      have apart : m ≠ p := fun same => away (by simp [same])
      have within := inner (fun again => away (by simp [again])) fun c listed member =>
        moved.before.block_head listed (mt moved.before.mem_order.mpr outside) member
      rw [← moved.others m apart] at within
      rw [List.filter_cons_of_pos (by simpa using itself),
        List.filter_cons_of_pos (by simpa using outside), List.filter_append]
      exact .cons within further

theorem Transplanted.orders (moved : Transplanted f g p n left right) (ns : List NodeId)
    (among : ns ⊆ f.kids m) (outside : ¬ Above f n m) (away : ∀ c ∈ ns, ¬ Above f c p) :
    (ns.filter (· ≠ n)).flatMap (g.depthFirst .visible) =
      (ns.flatMap (f.depthFirst .visible)).filter (· ∉ f.depthFirst .visible n) := by
  refine (moved.after.orders_unfold _).unique (moved.unfolds (moved.before.orders_unfold ns) ?_ ?_)
  · intro member
    obtain ⟨c, first, below⟩ := List.mem_flatMap.mp member
    exact away c first (moved.before.mem_order.mp below)
  · exact fun c member => moved.before.block_head (among member) outside

-- Below the node itself nothing has changed.
theorem Transplanted.block (moved : Transplanted f g p n left right) :
    g.depthFirst .visible n = f.depthFirst .visible n := by
  have unfolds := moved.before.order_unfolds n
  refine (moved.after.order_unfolds n).unique (unfolds.congr fun m member => ?_)
  have above := moved.before.mem_order.mp member
  have apart : m ≠ p := fun same => moved.clear (same ▸ above)
  refine (moved.others m apart).trans (List.filter_eq_self.mpr fun c listed => decide_eq_true ?_)
  rintro rfl
  exact (moved.before.rooted c).no_return ((moved.before.listed m c).mp listed) above

theorem Transplanted.order_here (moved : Transplanted f g p n left right) :
    g.depthFirst .visible p =
      p :: (left.flatMap (f.depthFirst .visible)).filter (· ∉ f.depthFirst .visible n) ++
        f.depthFirst .visible n ++
        (right.flatMap (f.depthFirst .visible)).filter (· ∉ f.depthFirst .visible n) := by
  have under : ∀ c ∈ left ++ right, ¬ Above f c p := fun c member =>
    (moved.before.rooted c).no_return ((moved.before.listed p c).mp (moved.whole ▸ member))
  have first := moved.orders left (m := p) (by simp [moved.whole]) moved.clear fun c member =>
    under c (List.mem_append_left _ member)
  have second := moved.orders right (m := p) (by simp [moved.whole]) moved.clear
    fun c member => under c (List.mem_append_right _ member)
  rw [moved.after.order_eq p, moved.here, List.flatMap_append, List.flatMap_cons, first, second,
    moved.block]
  simp

-- What stands beside a node is not above anything below it.
theorem Linked.beside (linked : Linked f) (split : f.kids m = left ++ x :: right)
    (way : Above f x p) : ∀ c ∈ left ++ right, ¬ Above f c p := by
  intro c member other
  have once := linked.once m
  rw [split, List.nodup_middle, List.nodup_cons] at once
  have listed : c ∈ f.kids m := by
    rw [split, List.perm_middle.mem_iff]
    exact List.mem_cons_of_mem _ member
  have same : x = c := linked.apart_below (by simp [split]) listed way other
  exact once.1 (same ▸ member)

-- Down the way to the parent, what is beside the way loses the nodes of the block.
theorem Transplanted.order_along (moved : Transplanted f g p n left right) (above : Above f root x)
    (way : Above f x p) :
    ∃ early late, f.depthFirst .visible root = early ++ f.depthFirst .visible x ++ late ∧
      g.depthFirst .visible root = early.filter (· ∉ f.depthFirst .visible n) ++
        g.depthFirst .visible x ++ late.filter (· ∉ f.depthFirst .visible n) := by
  induction above with
  | self => exact ⟨[], [], by simp, by simp⟩
  | @up x q upward _ ih =>
    obtain ⟨early, late, order, order'⟩ := ih (.trans (.up upward .self) way)
    obtain ⟨front, back, split, _⟩ := moved.before.siblings_split upward
    have outside : ¬ Above f n q := fun up => moved.clear (up.trans (.trans (.up upward .self) way))
    have apart : q ≠ p := by
      rintro rfl
      exact (moved.before.rooted x).no_return upward way
    have stays : x ≠ n := fun same => moved.clear (same ▸ way)
    have beside := moved.before.beside split way
    have first := moved.orders front (m := q) (by simp [split]) outside fun c member =>
      beside c (List.mem_append_left _ member)
    have second := moved.orders back (m := q) (by simp [split]) outside fun c member =>
      beside c (List.mem_append_right _ member)
    refine ⟨early ++ q :: front.flatMap (f.depthFirst .visible),
      back.flatMap (f.depthFirst .visible) ++ late, ?_, ?_⟩
    · rw [order, moved.before.order_eq q, split]
      simp
    · have kept : q ∉ f.depthFirst .visible n := mt moved.before.mem_order.mp outside
      rw [order', moved.after.order_eq q, moved.others q apart, split, List.filter_append,
        List.filter_cons_of_pos (by simpa using stays), List.flatMap_append, List.flatMap_cons,
        first, second, List.filter_append, List.filter_append,
        List.filter_cons_of_pos (by simpa using kept)]
      simp

-- One list is the other with the nodes of a block taken out, wherever they stood, and put in front
-- of a node, or, where none is given, behind the last that is left of a part.
structure Shifted (order order' block part : List NodeId) (r : Option NodeId) : Prop where
  once : order'.Nodup
  split : ∃ front back, order.filter (· ∉ block) = front ++ back ∧
    order' = front ++ block ++ back ∧ (∀ c ∈ r, back.head? = some c) ∧
    (r = none → ∃ last, (part.filter (· ∉ block)).getLast? = some last ∧ front.getLast? = some last)

theorem Transplanted.shifted (moved : Transplanted f g p n left right) (above : Above f root p)
    (other : right.head? ≠ some n) :
    Shifted (f.depthFirst .visible root) (g.depthFirst .visible root) (f.depthFirst .visible n)
      (f.depthFirst .visible p) right.head? := by
  obtain ⟨early, late, order, order'⟩ := moved.order_along above .self
  have kept : p ∉ f.depthFirst .visible n := mt moved.before.mem_order.mp moved.clear
  have within : f.depthFirst .visible p = p :: left.flatMap (f.depthFirst .visible) ++
      right.flatMap (f.depthFirst .visible) := by
    rw [moved.before.order_eq p, moved.whole, List.flatMap_append, List.cons_append]
  refine ⟨moved.after.order_nodup root,
    early.filter (· ∉ f.depthFirst .visible n) ++
      p :: (left.flatMap (f.depthFirst .visible)).filter (· ∉ f.depthFirst .visible n),
    (right.flatMap (f.depthFirst .visible)).filter (· ∉ f.depthFirst .visible n) ++
      late.filter (· ∉ f.depthFirst .visible n), ?_, ?_, ?_, ?_⟩
  · rw [order, within]
    simp [kept]
  · rw [order', moved.order_here]
    simp
  · intro c first
    cases right with
    | nil => cases first
    | cons d right =>
      cases first
      have listed : c ∈ f.kids p := by simp [moved.whole]
      have stays : c ∉ f.depthFirst .visible n := by
        intro member
        exact other (congrArg some (moved.before.block_head listed moved.clear member))
      rw [List.flatMap_cons, moved.before.order_eq c, List.cons_append,
        List.filter_cons_of_pos (by simpa using stays)]
      rfl
  · intro none
    rw [List.head?_eq_none_iff] at none
    have rest : (f.depthFirst .visible p).filter (· ∉ f.depthFirst .visible n) =
        p :: (left.flatMap (f.depthFirst .visible)).filter (· ∉ f.depthFirst .visible n) := by
      rw [within, none, List.flatMap_nil, List.append_nil,
        List.filter_cons_of_pos (by simpa using kept)]
    have last := List.getLast?_eq_some_getLast (List.cons_ne_nil p
      ((left.flatMap (f.depthFirst .visible)).filter (· ∉ f.depthFirst .visible n)))
    refine ⟨_, (congrArg List.getLast? rest).trans last, ?_⟩
    rw [List.getLast?_append_of_ne_nil _ (List.cons_ne_nil _ _)]
    exact last

end Forest

namespace Edit
open Forest

variable {f : Forest} {n p : NodeId} {front back : List NodeId}

theorem insertBefore_transplanted (owned : Owned f) (owns : f.children p = some (front ++ back))
    (known : f.known n = true) (plain : (f.node n).isFragment = false) (clear : ¬ Above f n p) :
    ∃ g, insertBefore p back.head? (some n) f = .ok () g ∧ g.size = f.size ∧
      Transplanted f g p n front back := by
  have whole : f.kids p = front ++ back := kids_eq owns
  have alone : f.handed (some n) = [n] := by simp [handed, plain]
  have clear' : ∀ m ∈ some n, ¬ Above f m p := by simpa using clear
  have inside : InRange (front ++ back) front.length false := by
    simpa using inRange_between front back none
  obtain ⟨g, ran, relinked⟩ := insertNode_moved owned owns inside (by simp) (by simpa using known)
    clear' (by rintro m ⟨⟩ fragment; cases plain.symm.trans fragment)
  have after := owned.relinked relinked (List.subset_append_left _ _) (owned.handed_admitted clear')
  have linked : ∀ r ∈ back.head?, f.parent r = some p := fun r first =>
    (owned.listed p r).mp (whole ▸ List.mem_append_right _ (List.mem_of_mem_head? first))
  have listed := relinked.kids_here
  rw [Int.toNat_natCast, alone] at relinked listed
  refine ⟨g, ?_, relinked.size, owned.linked, after.linked, clear, whole, ?_, fun m apart => ?_⟩
  · rw [insertBefore_between owns (whole ▸ owned.once p) linked, discard_run, ran]
  · rw [listed, whole, List.take_left, List.drop_left]
    simp [displaced]
  · rw [relinked.kids_other apart]
    simp [displaced]

end Edit

namespace Forest
open Edit

variable {f : Forest} {n p root : NodeId} {r : Option NodeId} {list : List NodeId}

-- Whatever an insertion moves, and wherever from, in the order of the document it is one block: it
-- goes from where it was, if it was there, and stands in front of the reference, or behind all that
-- is left of the parent. The same is so from any other node above the parent.
theorem Owned.block_shifted (owned : Owned f) (owns : f.children p = some list)
    (among : ∀ c ∈ r, c ∈ list) (known : f.known n = true) (plain : (f.node n).isFragment = false)
    (other : r ≠ some n) (clear : ¬ Above f n p) (above : Above f root p) :
    ∃ g order order' block part, f.trail .visible root = ⟨order, none⟩ ∧
      f.trail .visible n = ⟨block, none⟩ ∧ f.trail .visible p = ⟨part, none⟩ ∧
      insertBefore p r (some n) f = .ok () g ∧ g.trail .visible root = ⟨order', none⟩ ∧
      g.trail .visible n = ⟨block, none⟩ ∧ Shifted order order' block part r := by
  obtain ⟨front, back, rfl, rfl⟩ := split_before among
  have linked := owned.linked
  have inside : f.known p = true := known_of_children owns
  have first : f.known root = true := linked.known_above above inside
  obtain ⟨g, ran, size, moved⟩ := insertBefore_transplanted owned owns known plain clear
  have still (m : NodeId) (given : f.known m = true) : g.known m = true := by
    simpa [Forest.known, size] using given
  refine ⟨g, _, _, _, _, linked.trail_order first, linked.trail_order known,
    linked.trail_order inside, ran, moved.after.trail_order (still root first), ?_,
    moved.shifted above other⟩
  rw [moved.after.trail_order (still n known), moved.block]

-- An item goes with its text out of one list into another one, which stands before it in the same
-- document, in front of the item there or behind it.
theorem Owned.block_shifted_list :
    let f := Forest.empty.through [.element (some "div") (some "html"),
      .element (some "ul") (some "html"), .element (some "ol") (some "html"),
      .element (some "li") (some "html"), .element (some "li") (some "html"), .text (some "a"),
      .move (.append 0 (some 1)), .move (.append 0 (some 2)), .move (.append 1 (some 3)),
      .move (.append 2 (some 4)), .move (.append 4 (some 5))]
    f.trail .visible 0 = ⟨[0, 1, 3, 2, 4, 5], none⟩ ∧
      (∃ g, insertBefore 1 (some 3) (some 4) f = .ok () g ∧
        g.trail .visible 0 = ⟨[0, 1, 4, 5, 3, 2], none⟩ ∧
        Shifted [0, 1, 3, 2, 4, 5] [0, 1, 4, 5, 3, 2] [4, 5] [1, 3] (some 3)) ∧
      ∃ g, insertBefore 1 none (some 4) f = .ok () g ∧
        g.trail .visible 0 = ⟨[0, 1, 3, 4, 5, 2], none⟩ ∧
        Shifted [0, 1, 3, 2, 4, 5] [0, 1, 3, 4, 5, 2] [4, 5] [1, 3] none := by
  intro f
  have owned : Owned f := (Reached.empty.through (by decide)).sound.owned
  have owns : f.children 1 = some [3] := by decide
  have above : Above f 0 1 := .up (p := 0) (by decide) .self
  have clear : ¬ Above f 4 1 := by
    have ancestors : f.ancestors 1 = [1, 0] := by decide
    rw [← mem_ancestors (owned.rooted 1), ancestors]
    decide
  have walked : f.trail .visible 0 = ⟨[0, 1, 3, 2, 4, 5], none⟩ := by decide
  have own : f.trail .visible 4 = ⟨[4, 5], none⟩ := by decide
  have parent : f.trail .visible 1 = ⟨[1, 3], none⟩ := by decide
  have moves (r : Option NodeId) (among : ∀ c ∈ r, c ∈ [3]) (other : r ≠ some 4) :=
    owned.block_shifted owns among (n := 4) (by decide) (by decide) other clear above
  refine ⟨walked, ?_, ?_⟩
  · obtain ⟨g, order, order', block, part, whole, first, second, ran, later, _, shifted⟩ :=
      moves (some 3) (by decide) (by decide)
    have now : g.trail .visible 0 = ⟨[0, 1, 4, 5, 3, 2], none⟩ := by
      rw [← EStateM.after_ok ran]
      decide
    cases whole.symm.trans walked
    cases first.symm.trans own
    cases second.symm.trans parent
    cases later.symm.trans now
    exact ⟨g, ran, now, shifted⟩
  · obtain ⟨g, order, order', block, part, whole, first, second, ran, later, _, shifted⟩ :=
      moves none (by decide) (by decide)
    have now : g.trail .visible 0 = ⟨[0, 1, 3, 4, 5, 2], none⟩ := by
      rw [← EStateM.after_ok ran]
      decide
    cases whole.symm.trans walked
    cases first.symm.trans own
    cases second.symm.trans parent
    cases later.symm.trans now
    exact ⟨g, ran, now, shifted⟩

end Forest
end HtmlTree

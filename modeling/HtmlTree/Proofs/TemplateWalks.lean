import HtmlTree.Proofs.Searching

namespace HtmlTree.Forest
open Walk Relation

variable {f : Forest} {c m n r t x : NodeId} {ns list : List NodeId}

-- No child of a template that has a content is visible.
def Hidden (f : Forest) : Prop := ∀ t, f.name t = "template" → f.content t ≠ none → f.kids t = []

-- Whatever holds a node from further up than a node above it holds that one too: up from a held
-- node there is no way but its chain of parents, and a content has no parent.
theorem Consistent.held_above (consistent : Consistent f) (above : Above f n x)
    (free : f.parent r = none) (held : ReflTransGen f.Holds r x) : ReflTransGen f.Holds r n := by
  induction above with
  | self => exact held
  | @up x p linked _ ih =>
    rcases ReflTransGen.cases_tail held with rfl | ⟨q, before, listed | content⟩
    · cases free.symm.trans linked
    · cases linked.symm.trans ((consistent.listed q x).mp listed)
      exact ih before
    · cases (consistent.free q x content).symm.trans linked

theorem Linked.held_below (linked : Linked f) (above : Above f n x) : ReflTransGen f.Holds n x := by
  induction above with
  | self => exact .refl
  | @up x p upward _ ih => exact ih.tail (.inl ((linked.listed p x).mpr upward))

-- So nothing in a template's content is below a node that the template is below.
theorem Consistent.content_apart (consistent : Consistent f) (untangled : f.Untangled)
    (above : Above f n t) (content : f.content t = some c) (held : ReflTransGen f.Holds c x) :
    ¬ Above f n x := by
  intro again
  have down := TransGen.tail' (consistent.held_below above) (.inr content)
  exact untangled n (down.trans_left (consistent.held_above again (consistent.free t c content) held))

-- Along the walk through contents, those nodes are met in turn that the plain walk names, and with
-- each template what is in its content, which the filter takes out as a whole.
theorem Consistent.filter_unfolds (consistent : Consistent f) (untangled : f.Untangled)
    (hidden : f.Hidden) (unfolds : Unfolds (f.below .templates) ns list)
    (above : ∀ m ∈ ns, Above f n m) :
    list.filter (n ∈ f.ancestors ·) = ns.flatMap (f.depthFirst .visible) := by
  have linked := consistent.toLinked
  induction unfolds with
  | nil => rfl
  | @cons m ns inside later below after inner outer =>
    have here : Above f n m := above m List.mem_cons_self
    have shown : decide (n ∈ f.ancestors m) = true :=
      decide_eq_true ((mem_ancestors (linked.rooted m)).mpr here)
    have beyond := outer fun c member => above c (List.mem_cons_of_mem _ member)
    have within : inside.filter (n ∈ f.ancestors ·) =
        (f.kids m).flatMap (f.depthFirst .visible) := by
      rcases below_eq f .templates m with own | ⟨c, content, named, contents⟩
      · rw [own] at inner
        exact inner fun c listed => .up ((linked.listed m c).mp listed) here
      · have held : ∀ x ∈ inside, ReflTransGen f.Holds c x := by
          rw [contents] at below
          refine below.all (fun x listed => .single (.inl listed)) fun a _ before x leads => ?_
          exact before.trans (holds_of_inside (below_subset f _ a leads)).to_reflTransGen
        rw [hidden m named (by simp [content]), List.flatMap_nil, List.filter_eq_nil_iff]
        intro x member listed
        have again : n ∈ f.ancestors x := of_decide_eq_true listed
        refine consistent.content_apart untangled here content (held x member) ?_
        exact (mem_ancestors (linked.rooted x)).mp again
    rw [List.filter_cons, if_pos shown, List.filter_append, within, beyond, List.flatMap_cons,
      linked.order_eq m, List.cons_append]

-- The walk through contents extends the plain one: what it names besides is not below the node. A search
-- finds the elements along its walk that pass, so one along the plain walk finds, in the same order, part
-- of what one through contents finds.
theorem Consistent.templates_extend (consistent : Consistent f) (untangled : f.Untangled)
    (hidden : f.Hidden) (known : f.known n = true) :
    ∃ plain whole, f.trail .visible n = ⟨plain, none⟩ ∧ f.trail .templates n = ⟨whole, none⟩ ∧
      whole.filter (n ∈ f.ancestors ·) = plain ∧
      ∀ (p : Predicate) (holds : NodeId → Bool), p.Answers f holds →
        (∀ m, (f.node m).isNamed = true) →
        ∃ found all, f.queryAll .visible p n = pure ⟨found, none⟩ ∧
          f.queryAll .templates p n = pure ⟨all, none⟩ ∧
          found = plain.filter (fun m => (f.node m).isElement && holds m) ∧
          all = whole.filter (fun m => (f.node m).isElement && holds m) ∧ found.Sublist all := by
  have linked := consistent.toLinked
  have finite : Shallow (f.below .templates) f.size n :=
    (untangled.shallow n).within (below_subset f .templates)
  have unfolds := finite.unfolds
  have inside := linked.unfolds_known known unfolds
  have walk := linked.trail_unfolds known unfolds
  have first : ∀ m ∈ [n], Above f n m := fun m member => List.mem_singleton.mp member ▸ .self
  have kept := consistent.filter_unfolds untangled hidden unfolds first
  rw [List.flatMap_singleton] at kept
  refine ⟨_, _, linked.trail_order known, walk, kept, fun p holds answers named => ?_⟩
  have elements := answers.onElements named
  refine ⟨_, _, linked.walkAll_pure known elements, walkAll_trail walk inside elements, rfl, rfl, ?_⟩
  rw [← kept]
  exact List.filter_sublist.filter _

-- A template in a paragraph, with an element in its content.
theorem Consistent.templates_extend_paragraph :
    let f := Forest.empty.through [.element (some "b") (some "html"),
      .element (some "template") (some "html"), .element (some "p") (some "html"),
      .move (.append 1 (some 0)), .move (.append 3 (some 2))]
    let p : Predicate := .not .fragment
    f.Consistent ∧ f.Untangled ∧ f.Hidden ∧ f.trail .templates 3 = ⟨[3, 2, 0], none⟩ ∧
      f.trail .visible 3 = ⟨[3, 2], none⟩ ∧ f.queryAll .visible p 3 = pure ⟨[3, 2], none⟩ ∧
      f.queryAll .templates p 3 = pure ⟨[3, 2, 0], none⟩ := by
  intro f p
  have orderly : Orderly f := orderly_through (by decide) (by decide)
  have consistent : f.Consistent := (Reached.empty.through (by decide)).sound.consistent
  have untangled : f.Untangled := untangled_of_earlier (by decide)
  have hidden : f.Hidden := by
    intro t named
    have known : f.known t = true := by
      by_contra unknown
      rw [name, node_unknown (Bool.eq_false_iff.mpr unknown)] at named
      exact absurd named (by decide)
    have all : ∀ t < f.size, f.content t ≠ none → f.kids t = [] := by decide
    exact all t (known_iff.mp known)
  have answers : p.Answers f (fun n => !(f.node n).isFragment) := by
    intro n known
    simp [p, Predicate.check, Predicate.test, known]
  obtain ⟨plain, whole, visible, templates, kept, queries⟩ :=
    Consistent.templates_extend consistent untangled hidden (n := 3) (by decide)
  have walked : f.trail .templates 3 = ⟨[3, 2, 0], none⟩ := by decide
  cases templates.symm.trans walked
  obtain rfl : plain = [3, 2] := kept.symm.trans (by decide)
  obtain ⟨found, all, few, many, these, those, _⟩ := queries p _ answers orderly.named
  obtain rfl : found = [3, 2] := these.trans (by decide)
  obtain rfl : all = [3, 2, 0] := those.trans (by decide)
  exact ⟨consistent, untangled, hidden, walked, visible, few, many⟩

end HtmlTree.Forest

import HtmlTree.Proofs.Normalizing
import HtmlTree.Proofs.Piecewise

namespace HtmlTree

namespace Forest
open Walk

variable {f g h : Forest} {m n p : NodeId} {front back list own : List NodeId}
  {links links' : NodeId → Option NodeId}

theorem forest_ext (journal : g.journal = f.journal) (size : g.size = f.size)
    (same : ∀ m, g.node m = f.node m) : g = f := by
  have nodes := nodes_ext size same
  cases f
  cases g
  cases journal
  cases nodes
  rfl

theorem chain_kept (same : ∀ a, Above f a n → g.parent a = f.parent a) (fuel : Nat) :
    chain g.parent fuel n = chain f.parent fuel n := by
  induction fuel generalizing n with
  | zero => rfl
  | succ fuel ih =>
    rw [chain, chain, same n .self]
    cases upward : f.parent n with
    | none => rfl
    | some p =>
      have rest := ih fun a above => same a (above.trans (.up upward .self))
      dsimp only
      rw [rest]

-- Nothing has changed above a node if no link of a node above it has.
theorem ancestors_kept (size : g.size = f.size)
    (same : ∀ a, Above f a n → g.parent a = f.parent a) : g.ancestors n = f.ancestors n := by
  rw [ancestors, ancestors, ancestorsWithin, ancestorsWithin, reach, reach, size,
    chain_kept same]

-- One list is another one now, and nodes are linked in another way. All else has stayed, and
-- nothing has been written into the journal.
structure Relisted (f g : Forest) (p : NodeId) (list : List NodeId)
    (links : NodeId → Option NodeId) : Prop where
  journal : g.journal = f.journal
  size : g.size = f.size
  node : ∀ m, g.node m = (f.node m).relink (links m) (if m = p then some list else f.children m)

theorem Relisted.parent (relisted : Relisted f g p list links) (m : NodeId) :
    g.parent m = links m := by
  rw [Forest.parent, relisted.node m, Node.relink_parent]

theorem Relisted.children (relisted : Relisted f g p list links) (m : NodeId) :
    g.children m = if m = p then some list else f.children m := by
  rw [Forest.children, relisted.node m, Node.relink_children]

theorem Relisted.known (relisted : Relisted f g p list links) (m : NodeId) :
    g.known m = f.known m := by
  rw [Forest.known, Forest.known, relisted.size]

theorem Relisted.isFragment (relisted : Relisted f g p list links) (m : NodeId) :
    (g.node m).isFragment = (f.node m).isFragment := by
  rw [relisted.node m]
  rfl

-- Where the links above the list have stayed, what was not above it is not above it now.
theorem Relisted.checked (relisted : Relisted f g p list links) (linked : Linked f)
    (away : ¬ Above f n p) (same : ∀ a, Above f a p → links a = f.parent a) :
    n ∉ g.ancestors p := by
  have kept : g.ancestors p = f.ancestors p :=
    ancestors_kept relisted.size fun a above => (relisted.parent a).trans (same a above)
  rwa [kept, mem_ancestors (linked.rooted p)]

-- With the list and the links of before, all is as before.
theorem Relisted.undone (relisted : Relisted f g p list links) (again : Relisted g h p own links')
    (owns : f.children p = some own) (linked : ∀ m, links' m = f.parent m) : h = f := by
  refine forest_ext (again.journal.trans relisted.journal) (again.size.trans relisted.size)
    fun m => ?_
  have listed : (if m = p then some own else g.children m) = f.children m := by
    by_cases here : m = p
    · rw [if_pos here, here, owns]
    · rw [if_neg here, relisted.children, if_neg here]
  rw [again.node m, relisted.node m, Node.relink_relink, linked m, listed]
  rfl

-- The links when one node has lost its own.
def vacating (f : Forest) (n m : NodeId) : Option NodeId :=
  if m = n then none else f.parent m

-- The links when a node has come under another, and what it came in place of has none.
def seating (f : Forest) (p n : NodeId) (gives : Option NodeId) (m : NodeId) : Option NodeId :=
  if gives = some m then none else if m = n then some p else f.parent m

theorem Relisted.vacating_seating (vacated : Relisted f g p list (f.vacating n))
    (linked : f.parent n = some p) (m : NodeId) : g.seating p n none m = f.parent m := by
  rw [seating, if_neg nofun, vacated.parent, vacating]
  by_cases itself : m = n
  · rw [if_pos itself, itself, linked]
  · rw [if_neg itself, if_neg itself]

theorem Relisted.seating_seating (seated : Relisted f g p list (f.seating p m (some n)))
    (linked : f.parent n = some p) (free : f.parent m = none) (c : NodeId) :
    g.seating p n (some m) c = f.parent c := by
  rw [seating, seated.parent, seating]
  by_cases came : m = c
  · rw [if_pos (congrArg some came), ← came, free]
  · rw [if_neg (by simpa using came)]
    by_cases back : c = n
    · rw [if_pos back, back, linked]
    · rw [if_neg back, if_neg (by simpa using Ne.symm back), if_neg (Ne.symm came)]

-- A node without a parent that may come into the list of another.
structure Joinable (f : Forest) (p n : NodeId) (list : List NodeId) : Prop where
  owns : f.children p = some list
  once : (n :: list).Nodup
  lists : ∀ c ∈ list, f.parent c = some p
  known : f.known n = true
  plain : (f.node n).isFragment = false
  free : f.parent n = none
  checked : n ∉ f.ancestors p

theorem Linked.joinable (linked : Linked f) (owns : f.children p = some list)
    (known : f.known n = true) (plain : (f.node n).isFragment = false) (free : f.parent n = none)
    (clear : ¬ Above f n p) : Joinable f p n list := by
  have whole : f.kids p = list := by rw [kids, owns, Option.getD_some]
  have lists : ∀ c ∈ list, f.parent c = some p := fun c member =>
    (linked.listed p c).mp (whole ▸ member)
  refine ⟨owns, List.nodup_cons.mpr ⟨fun member => ?_, whole ▸ linked.once p⟩, lists, known, plain,
    free, mt (mem_ancestors (linked.rooted p)).mp clear⟩
  cases free.symm.trans (lists n member)

-- A node that has just gone may come back.
theorem Relisted.joinable_gone (vacated : Relisted f g p (front ++ back) (f.vacating n))
    (linked : Linked f) (upward : f.parent n = some p)
    (owns : f.children p = some (front ++ n :: back)) (plain : (f.node n).isFragment = false) :
    Joinable g p n (front ++ back) := by
  have whole : f.kids p = front ++ n :: back := by rw [kids, owns, Option.getD_some]
  have once : (n :: (front ++ back)).Nodup := List.nodup_middle.mp (whole ▸ linked.once p)
  have away : ¬ Above f n p := (linked.rooted n).no_return upward
  refine ⟨?owns, once, fun c member => ?lists, ?known, ?plain, ?free, ?checked⟩
  case owns => rw [vacated.children, if_pos rfl]
  case lists =>
    have other : c ≠ n := fun same => (List.nodup_cons.mp once).1 (same ▸ member)
    rw [vacated.parent, vacating, if_neg other]
    refine (linked.listed p c).mp (whole ▸ ?_)
    exact List.perm_middle.mem_iff.mpr (List.mem_cons_of_mem _ member)
  case known => rw [vacated.known, known_of_parent upward]
  case plain => rw [vacated.isFragment, plain]
  case free => rw [vacated.parent, vacating, if_pos rfl]
  case checked =>
    apply vacated.checked linked away
    intro a above
    rw [vacating, if_neg]
    exact fun same => away (same ▸ above)

-- So may one that another has come in place of, in place of this one.
theorem Relisted.joinable_replaced
    (seated : Relisted f g p (front ++ m :: back) (f.seating p m (some n))) (linked : Linked f)
    (joins : Joinable f p m (front ++ n :: back)) (plain : (f.node n).isFragment = false)
    (clear : ¬ Above f m p) : Joinable g p n (front ++ m :: back) := by
  have upward : f.parent n = some p := joins.lists n (by simp)
  have away : ¬ Above f n p := (linked.rooted n).no_return upward
  have swapped : (n :: (front ++ m :: back)).Perm (m :: (front ++ n :: back)) := by
    refine (List.perm_middle.cons n).trans (.trans (.swap m n _) ?_)
    exact List.perm_middle.symm.cons m
  have once : (n :: (front ++ m :: back)).Nodup := swapped.nodup_iff.mpr joins.once
  refine ⟨?owns, once, fun c member => ?lists, ?known, ?plain, ?free, ?checked⟩
  case owns => rw [seated.children, if_pos rfl]
  case lists =>
    have other : n ≠ c := fun same => (List.nodup_cons.mp once).1 (same ▸ member)
    rw [seated.parent, seating, if_neg (by simpa using other)]
    by_cases came : c = m
    · rw [if_pos came]
    · rw [if_neg came]
      have among := swapped.mem_iff.mp (List.mem_cons_of_mem n member)
      exact joins.lists c (List.mem_of_ne_of_mem came among)
  case known => rw [seated.known, known_of_parent upward]
  case plain => rw [seated.isFragment, plain]
  case free => rw [seated.parent, seating, if_pos rfl]
  case checked =>
    apply seated.checked linked away
    intro a above
    rw [seating, if_neg, if_neg]
    · exact fun same => clear (same ▸ above)
    · exact fun same => away (Option.some.inj same ▸ above)

end Forest

namespace Edit
open Forest

variable {f : Forest} {n p old : NodeId} {front back : List NodeId}

theorem detach_vacated (linked : f.parent n = some p)
    (owns : f.children p = some (front ++ n :: back)) (once : (front ++ n :: back).Nodup) :
    ∃ g, detach n f = .ok () g ∧ Relisted f g p (front ++ back) (f.vacating n) := by
  have placed := placeIn_split owns once
  have inside : f.known p = true := known_of_children owns
  have shorter : (front ++ n :: back).eraseIdx front.length = front ++ back := by
    rw [List.eraseIdx_append_of_length_le le_rfl, Nat.sub_self, List.eraseIdx_cons_zero]
  refine ⟨_, detach_placed linked placed, rfl, by simp, fun m => ?_⟩
  have still : (f.setChildren p (some ((front ++ n :: back).eraseIdx front.length))).known n =
      true := by
    simpa [Forest.known] using known_of_parent linked
  rw [node_setParent still, node_setChildren inside, Node.relink_relink, parent_setChildren inside,
    children_setChildren inside, shorter]
  rfl

-- What remains to be done once a node has been freed: it comes into the list, and links change.
theorem settling_seated (gives : Option NodeId)
    (owns : f.children p = some (front ++ (gives.toList ++ back)))
    (once : (front ++ (gives.toList ++ back)).Nodup) (known : f.known n = true)
    (listed : ∀ c ∈ gives, f.known c = true) :
    ∃ g, settling p (gives.toList ++ back).head? gives (if gives.isSome = true then 1 else 0)
        (some [n]) f = .ok gives g ∧ Relisted f g p (front ++ n :: back) (f.seating p n gives) := by
  have inside : f.known p = true := known_of_children owns
  have remains : (gives.toList ++ back).drop (if gives.isSome = true then 1 else 0) = back := by
    cases gives <;> rfl
  have spliced := splice_run owns once [n] (if gives.isSome = true then 1 else 0)
  rw [remains, List.append_assoc, List.singleton_append] at spliced
  let joined := f.setChildren p (some (front ++ n :: back))
  have still (c : NodeId) (given : f.known c = true) : joined.known c = true := by
    simpa [joined, Forest.known] using given
  have adopted : adopt p [n] joined = .ok () (joined.linkAll [n] (some p)) :=
    adopt_run (by simpa using still n known)
  have linked (m : NodeId) : (joined.linkAll [n] (some p)).node m = (f.node m).relink
      (if m = n then some p else f.parent m)
      (if m = p then some (front ++ n :: back) else f.children m) := by
    rw [node_linkAll [n] (some p) (by simpa using still n known), node_setChildren inside,
      parent_setChildren inside, children_setChildren inside, Node.relink_relink]
    simp only [List.mem_singleton]
  cases gives with
  | none =>
    refine ⟨joined.linkAll [n] (some p), ?_, rfl, by simp [joined], fun m => ?_⟩
    · simp only [settling, bind_run, spliced]
      rw [adopted]
      rfl
    · rw [linked, seating, if_neg (Option.some_ne_none m).symm]
  | some old =>
    refine ⟨(joined.linkAll [n] (some p)).setParent old none, ?_, rfl, by simp [joined],
      fun m => ?_⟩
    · simp only [settling, bind_run, spliced]
      rw [adopted]
      rfl
    · have there : (joined.linkAll [n] (some p)).known old = true := by
        simpa [joined, Forest.known] using listed old rfl
      rw [node_setParent there, Forest.parent, Forest.children, linked, Node.relink_parent,
        Node.relink_children, Node.relink_relink, seating]
      simp only [Option.some.injEq, eq_comm]

-- A node without a parent comes between two parts of a list. There is no list that it would leave.
theorem insertNode_seated (gives : Option NodeId)
    (joins : Joinable f p n (front ++ gives.toList ++ back)) :
    ∃ g, insertNode p front.length (some n) gives.isSome f = .ok gives g ∧
      Relisted f g p (front ++ n :: back) (f.seating p n gives) := by
  obtain ⟨fresh, once⟩ := List.nodup_cons.mp joins.once
  have listed : ∀ c ∈ front ++ gives.toList ++ back, f.known c = true := fun c member =>
    known_of_parent (joins.lists c member)
  have whole : front ++ gives.toList ++ back = front ++ (gives.toList ++ back) := by simp
  have first : childAt f (front ++ gives.toList ++ back) front.length =
      (gives.toList ++ back).head? := by
    rw [childAt_known listed, whole, List.getElem?_append_right le_rfl, Nat.sub_self,
      List.head?_eq_getElem?]
  have next : neighbour f (front ++ gives.toList ++ back) front.length (some n) =
      (gives.toList ++ back).head? := by
    rw [neighbour, first]
    cases stands : (gives.toList ++ back).head? with
    | none => rfl
    | some c =>
      have member : c ∈ front ++ gives.toList ++ back :=
        whole ▸ List.mem_append_right _ (List.mem_of_mem_head? stands)
      have other : ¬ some n = some c := fun same => fresh (Option.some.inj same ▸ member)
      dsimp only
      rw [if_neg other]
  have shown : removedBy f (front ++ gives.toList ++ back) front.length gives.isSome = gives := by
    cases gives with
    | none => rfl
    | some old =>
      rw [removedBy, if_pos Option.isSome_some, Int.toNat_natCast, first]
      rfl
  have other : ¬ (gives.isSome = true ∧
      some n = removedBy f (front ++ gives.toList ++ back) front.length gives.isSome) := by
    rintro ⟨_, same⟩
    rw [shown] at same
    exact fresh (by simp [← same])
  have begun := insertNode_begun joins.owns (inRange_between front back gives) other
  rw [Int.toNat_natCast, next, shown, bind_run, freeing,
    release_free joins.checked joins.plain joins.free] at begun
  obtain ⟨g, ran, seated⟩ := settling_seated gives (whole ▸ joins.owns) (whole ▸ once) joins.known
    fun c stands => listed c (by simp [Option.mem_def.mp stands])
  exact ⟨g, begun.trans ran, seated⟩

theorem insertBefore_seated (joins : Joinable f p n (front ++ back)) :
    ∃ g, insertBefore p back.head? (some n) f = .ok () g ∧
      Relisted f g p (front ++ n :: back) (f.seating p n none) := by
  obtain ⟨g, ran, seated⟩ := insertNode_seated none (by simpa using joins)
  have ran : insertNode p front.length (some n) false f = .ok none g := ran
  have beside : ∀ r ∈ back.head?, f.parent r = some p := fun r first =>
    joins.lists r (List.mem_append_right _ (List.mem_of_mem_head? first))
  refine ⟨g, ?_, seated⟩
  rw [insertBefore_between joins.owns (List.nodup_cons.mp joins.once).2 beside, discard_run, ran]

theorem replace_seated (joins : Joinable f p n (front ++ old :: back)) :
    ∃ g, replace old (some n) f = .ok old g ∧
      Relisted f g p (front ++ n :: back) (f.seating p n (some old)) := by
  obtain ⟨g, ran, seated⟩ := insertNode_seated (some old) (by simpa using joins)
  have ran : insertNode p front.length (some n) true f = .ok (some old) g := ran
  have here : f.parent old = some p := joins.lists old (by simp)
  refine ⟨g, ?_, seated⟩
  rw [replace_between joins.owns (List.nodup_cons.mp joins.once).2 here, ran]

end Edit

namespace Forest
open Edit

variable {f : Forest} {n p old new : NodeId} {front back : List NodeId}

theorem Linked.detach_undone (linked : Linked f) (upward : f.parent n = some p)
    (plain : (f.node n).isFragment = false) (owns : f.children p = some (front ++ n :: back))
    (once : (front ++ n :: back).Nodup) :
    (do detach n
        insertBefore p back.head? (some n) : Edit Unit) f = .ok () f := by
  obtain ⟨g, gone, vacated⟩ := detach_vacated upward owns once
  obtain ⟨h, came, seated⟩ := insertBefore_seated (vacated.joinable_gone linked upward owns plain)
  rw [bind_run, gone]
  dsimp only
  rw [came, vacated.undone seated owns (vacated.vacating_seating upward)]

theorem Linked.replace_undone (linked : Linked f) (upward : f.parent old = some p)
    (plain : (f.node old).isFragment = false) (known : f.known new = true)
    (free : f.parent new = none) (bare : (f.node new).isFragment = false)
    (clear : ¬ Above f new old) :
    (do let gone ← replace old (some new)
        let again ← replace new (some old)
        pure (gone, again) : Edit (NodeId × NodeId)) f = .ok (old, new) f := by
  obtain ⟨front, back, owns, _⟩ := linked.split_at upward
  have under : ¬ Above f new p := fun above => clear (.up upward above)
  have joins := linked.joinable owns known bare free under
  obtain ⟨g, came, seated⟩ := replace_seated joins
  obtain ⟨h, back_again, again⟩ :=
    replace_seated (seated.joinable_replaced linked joins plain under)
  rw [bind_run, came]
  dsimp only
  rw [bind_run, back_again, seated.undone again owns (seated.seating_seating upward free)]
  rfl

-- What has been taken out comes back by an insertion in front of the node that followed it, and
-- what has been replaced by a replacement the other way round. Nothing tells afterwards that
-- anything has been done: the notes are the same too.
theorem Linked.edits_undone (linked : Linked f) :
    (∀ n p, f.parent n = some p → (f.node n).isFragment = false →
      ∃ front back, f.children p = some (front ++ n :: back) ∧
        (do detach n
            insertBefore p back.head? (some n) : Edit Unit) f = .ok () f) ∧
    ∀ old new, f.parent old ≠ none → (f.node old).isFragment = false → f.known new = true →
      f.parent new = none → (f.node new).isFragment = false → ¬ Above f new old →
        (do let gone ← replace old (some new)
            let again ← replace new (some old)
            pure (gone, again) : Edit (NodeId × NodeId)) f = .ok (old, new) f := by
  constructor
  · intro n p upward plain
    obtain ⟨front, back, owns, once⟩ := linked.split_at upward
    exact ⟨front, back, owns, linked.detach_undone upward plain owns once⟩
  · intro old new placed plain known free bare clear
    obtain ⟨p, upward⟩ := Option.ne_none_iff_exists'.mp placed
    exact linked.replace_undone upward plain known free bare clear

-- The second of three items goes and comes back, and a text takes the place of the first one.
theorem Linked.edits_undone_list :
    let f := Forest.empty.through [.element (some "ul") (some "html"),
      .element (some "li") (some "html"), .element (some "li") (some "html"),
      .element (some "li") (some "html"), .text (some "a"), .move (.append 0 (some 1)),
      .move (.append 0 (some 2)), .move (.append 0 (some 3))]
    Linked f ∧ f.children 0 = some [1, 2, 3] ∧
      (do detach 2
          insertBefore 0 (some 3) (some 2) : Edit Unit) f = .ok () f ∧
      (do let gone ← replace 1 (some 4)
          let again ← replace 4 (some 1)
          pure (gone, again) : Edit (NodeId × NodeId)) f = .ok (1, 4) f := by
  intro f
  have linked : Linked f := (Reached.empty.through (by decide)).sound.owned.linked
  have owns : f.children 0 = some [1, 2, 3] := by decide
  obtain ⟨removed, replaced⟩ := linked.edits_undone
  have clear : ¬ Above f 4 1 := by
    have ancestors : f.ancestors 1 = [1, 0] := by decide
    rw [← mem_ancestors (linked.rooted 1), ancestors]
    decide
  refine ⟨linked, owns, ?_, replaced 1 4 (by decide) (by decide) (by decide) (by decide) (by decide)
    clear⟩
  obtain ⟨front, back, split, undone⟩ := removed 2 0 (by decide) (by decide)
  have parts : [1] ++ 2 :: [3] = front ++ 2 :: back := Option.some.inj (owns.symm.trans split)
  obtain ⟨rfl, _, rfl⟩ := (List.append_cons_inj_of_notMem (by decide) (by decide)).mp parts
  exact undone

end Forest
end HtmlTree

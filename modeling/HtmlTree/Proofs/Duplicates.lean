import HtmlTree.Proofs.Copies

namespace HtmlTree.Forest
open Relation Markup

variable {f g : Forest} {copy : NodeId → NodeId} {k m n x y : NodeId}

-- What a node holds is there a second time, in new nodes. Whatever a node has, its copy has too, and
-- links lead to copies instead. Only the link from the first node to its parent is left out. Copies
-- have a table of attributes in common if their originals have, and no copy has one in common with a
-- node that was there before.
structure Duplicate (f g : Forest) (n : NodeId) (copy : NodeId → NodeId) : Prop where
  old : ∀ m, f.known m = true → g.node m = f.node m
  bijection : Set.BijOn copy {m | ReflTransGen f.Holds n m} {m | f.size ≤ m ∧ m < g.size}
  fields : ∀ m, ReflTransGen f.Holds n m → g.node (copy m) = { f.node m with
    table := (g.node (copy m)).table
    parent := if m = n then none else (f.parent m).map copy
    children := (f.children m).map (·.map copy)
    content := (f.content m).map copy }
  tables : ∀ k m, ReflTransGen f.Holds n k → ReflTransGen f.Holds n m →
    (g.SharesTable (copy k) (copy m) ↔ f.SharesTable k m)
  apart : ∀ k m, f.known k = true → ReflTransGen f.Holds n m → ¬ g.SharesTable k (copy m)

theorem rename_inj {sources : List NodeId} {base : Nat} (nodup : sources.Nodup) (left : k ∈ sources)
    (right : m ∈ sources) (same : rename sources base k = rename sources base m) : k = m := by
  obtain ⟨i, short, rfl⟩ := List.getElem_of_mem left
  obtain ⟨j, shorter, rfl⟩ := List.getElem_of_mem right
  rw [rename_at nodup (List.getElem?_eq_getElem short),
    rename_at nodup (List.getElem?_eq_getElem shorter)] at same
  cases Nat.add_left_cancel same
  rfl

theorem table_cloneTree_copy (copied : m ∈ f.copied n) :
    ((f.cloneTree n).2.node (rename (f.copied n) f.size m)).table =
      (f.node m).table.map (f.nextTable + ·) := by
  rw [node_cloneTree_copy copied]
  rfl

theorem cloneTree_tables (left : k ∈ f.copied n) (right : m ∈ f.copied n) :
    (f.cloneTree n).2.SharesTable (rename (f.copied n) f.size k) (rename (f.copied n) f.size m) ↔
      f.SharesTable k m := by
  have further : Function.Injective (f.nextTable + ·) := fun _ _ => Nat.add_left_cancel
  have same : rename (f.copied n) f.size m = rename (f.copied n) f.size k ↔ m = k :=
    ⟨rename_inj (copied_searched f n).nodup right left, congrArg _⟩
  simp only [SharesTable, table_cloneTree_copy left, table_cloneTree_copy right, same,
    (Option.map_injective further).eq_iff, ne_eq, Option.map_eq_none_iff]

theorem Consistent.clone_duplicate (consistent : Consistent f) (n : NodeId) :
    Duplicate f (f.cloneTree n).2 n (rename (f.copied n) f.size) where
  old _ known := node_cloneTree_old known
  bijection := by
    refine ⟨fun m held => rename_copied (consistent.mem_copied.mpr held), ?_, ?_⟩
    · intro k left m right same
      exact rename_inj (copied_searched f n).nodup (consistent.mem_copied.mpr left)
        (consistent.mem_copied.mpr right) same
    · rintro m ⟨new, below⟩
      obtain ⟨k, copied, same⟩ := copy_of_new new below
      exact ⟨k, consistent.mem_copied.mp copied, same⟩
  fields m held := by
    rw [node_cloneTree_copy (consistent.mem_copied.mpr held)]
    by_cases first : m = n <;> simp [renamed, Node.relink, first] <;> rfl
  tables _ _ left right :=
    cloneTree_tables (consistent.mem_copied.mpr left) (consistent.mem_copied.mpr right)
  apart _ _ known held := cloneTree_apart known (rename_copied (consistent.mem_copied.mpr held)).1

namespace Duplicate

theorem parent (duplicate : Duplicate f g n copy) (held : ReflTransGen f.Holds n m) :
    g.parent (copy m) = if m = n then none else (f.parent m).map copy := by
  rw [Forest.parent, duplicate.fields m held]

theorem kids (duplicate : Duplicate f g n copy) (held : ReflTransGen f.Holds n m) :
    g.kids (copy m) = (f.kids m).map copy := by
  rw [Forest.kids, children, duplicate.fields m held, Forest.kids]
  cases f.children m <;> rfl

theorem content (duplicate : Duplicate f g n copy) (held : ReflTransGen f.Holds n m) :
    g.content (copy m) = (f.content m).map copy := by
  rw [Forest.content, duplicate.fields m held]

theorem old_links (duplicate : Duplicate f g n copy) (known : f.known m = true) :
    g.parent m = f.parent m ∧ g.kids m = f.kids m ∧ g.content m = f.content m := by
  simp only [Forest.parent, Forest.kids, children, Forest.content, duplicate.old m known, and_self]

theorem fresh (duplicate : Duplicate f g n copy) (held : ReflTransGen f.Holds n m) :
    f.known (copy m) = false :=
  decide_eq_false (Nat.not_lt.mpr (duplicate.bijection.mapsTo held).1)

theorem known_copy (duplicate : Duplicate f g n copy) (held : ReflTransGen f.Holds n m) :
    g.known (copy m) = true := known_iff.mpr (duplicate.bijection.mapsTo held).2

theorem known_old (duplicate : Duplicate f g n copy) (known : f.known m = true) :
    g.known m = true := by
  have grown := duplicate.bijection.mapsTo (ReflTransGen.refl : ReflTransGen f.Holds n n)
  exact known_iff.mpr ((known_iff.mp known).trans_le (grown.1.trans grown.2.le))

theorem place (duplicate : Duplicate f g n copy) (known : g.known x = true) :
    f.known x = true ∨ ∃ m, ReflTransGen f.Holds n m ∧ copy m = x := by
  by_cases old : f.known x = true
  · exact .inl old
  · refine .inr (duplicate.bijection.surjOn ⟨Nat.le_of_not_lt ?_, known_iff.mp known⟩)
    exact fun below => old (known_iff.mpr below)

-- Every link is an old one, or one between copies.
theorem content_cases (duplicate : Duplicate f g n copy) (holds : g.content x = some y) :
    f.content x = some y ∨
      ∃ m c, ReflTransGen f.Holds n m ∧ f.content m = some c ∧ copy m = x ∧ copy c = y := by
  rcases duplicate.place (known_of_content holds) with old | ⟨m, held, rfl⟩
  · exact .inl ((duplicate.old_links old).2.2 ▸ holds)
  · rw [duplicate.content held] at holds
    obtain ⟨c, own, same⟩ := Option.map_eq_some_iff.mp holds
    exact .inr ⟨m, c, held, own, rfl, same⟩

theorem kids_cases (duplicate : Duplicate f g n copy) (listed : y ∈ g.kids x) :
    y ∈ f.kids x ∨
      ∃ m c, ReflTransGen f.Holds n m ∧ c ∈ f.kids m ∧ copy m = x ∧ copy c = y := by
  rcases duplicate.place (known_of_kids listed) with old | ⟨m, held, rfl⟩
  · exact .inl ((duplicate.old_links old).2.1 ▸ listed)
  · rw [duplicate.kids held] at listed
    obtain ⟨c, own, same⟩ := List.mem_map.mp listed
    exact .inr ⟨m, c, held, own, rfl, same⟩

theorem holds_cases (duplicate : Duplicate f g n copy) (holds : g.Holds x y) :
    f.Holds x y ∨
      ∃ m c, ReflTransGen f.Holds n m ∧ f.Holds m c ∧ copy m = x ∧ copy c = y := by
  rcases holds with listed | content
  · rcases duplicate.kids_cases listed with own | ⟨m, c, held, own, ends⟩
    · exact .inl (.inl own)
    · exact .inr ⟨m, c, held, .inl own, ends⟩
  · rcases duplicate.content_cases content with own | ⟨m, c, held, own, ends⟩
    · exact .inl (.inr own)
    · exact .inr ⟨m, c, held, .inr own, ends⟩

-- The copies hold one another as what they are copies of does, so a round of the copies would be one
-- of the originals.
theorem way (duplicate : Duplicate f g n copy) (consistent : Consistent f)
    (way : TransGen g.Holds x y) : (f.known y = true ∧ TransGen f.Holds x y) ∨
      ∃ m c, ReflTransGen f.Holds n m ∧ TransGen f.Holds m c ∧ copy m = x ∧ copy c = y := by
  induction way with
  | single holds =>
    rcases duplicate.holds_cases holds with own | ⟨m, c, held, own, ends⟩
    · exact .inl ⟨consistent.known_held own, .single own⟩
    · exact .inr ⟨m, c, held, .single own, ends⟩
  | tail _ holds ih =>
    rcases ih with ⟨known, before⟩ | ⟨m, c, held, before, start, rfl⟩
    · rcases duplicate.holds_cases holds with own | ⟨d, _, below, _, rfl, _⟩
      · exact .inl ⟨consistent.known_held own, before.tail own⟩
      · cases known.symm.trans (duplicate.fresh below)
    · have inside := held.trans before.to_reflTransGen
      rcases duplicate.holds_cases holds with own | ⟨d, e, below, own, same, last⟩
      · cases (known_of_holds own).symm.trans (duplicate.fresh inside)
      · cases duplicate.bijection.injOn below inside same
        exact .inr ⟨m, e, held, before.tail own, start, last⟩

theorem untangled (duplicate : Duplicate f g n copy) (consistent : Consistent f)
    (untangled : f.Untangled) : g.Untangled := by
  intro x round
  rcases duplicate.way consistent round with ⟨_, old⟩ | ⟨m, c, held, path, start, last⟩
  · exact untangled x old
  · have inside := held.trans path.to_reflTransGen
    cases duplicate.bijection.injOn held inside (start.trans last.symm)
    exact untangled m path

-- The first node is in no list of what it holds: it would be below itself.
theorem listed (duplicate : Duplicate f g n copy) (consistent : Consistent f)
    (untangled : f.Untangled) (x y : NodeId) : y ∈ g.kids x ↔ g.parent y = some x := by
  constructor
  · intro listed
    rcases duplicate.kids_cases listed with own | ⟨m, c, held, own, rfl, rfl⟩
    · rw [(duplicate.old_links (consistent.known_child own)).1]
      exact (consistent.listed x y).mp own
    · have other : c ≠ n := by
        rintro rfl
        exact untangled c (TransGen.tail' held (.inl own))
      rw [duplicate.parent (held.tail (.inl own)), if_neg other, (consistent.listed m c).mp own]
      rfl
  · intro linked
    rcases duplicate.place (known_of_parent linked) with old | ⟨c, held, rfl⟩
    · rw [(duplicate.old_links old).1] at linked
      have own := (consistent.listed x y).mpr linked
      rwa [(duplicate.old_links (known_of_kids own)).2.1]
    · rw [duplicate.parent held] at linked
      split at linked
      · cases linked
      · rename_i other
        obtain ⟨p, own, rfl⟩ := Option.map_eq_some_iff.mp linked
        rw [duplicate.kids (consistent.parent_held held other own)]
        exact List.mem_map_of_mem ((consistent.listed p c).mpr own)

theorem once (duplicate : Duplicate f g n copy) (consistent : Consistent f) (x : NodeId) :
    (g.kids x).Nodup := by
  by_cases known : g.known x = true
  swap
  · have none : g.kids x = [] := List.eq_nil_iff_forall_not_mem.mpr fun c listed =>
      known (known_of_kids listed)
    exact none ▸ List.nodup_nil
  rcases duplicate.place known with old | ⟨m, held, rfl⟩
  · rw [(duplicate.old_links old).2.1]
    exact consistent.once x
  · rw [duplicate.kids held]
    refine List.Nodup.map_on (fun a left b right same => ?_) (consistent.once m)
    exact duplicate.bijection.injOn (held.tail (.inl left)) (held.tail (.inl right)) same

-- The chain of parents above a copy ends where the copied part does.
theorem rooted (duplicate : Duplicate f g n copy) (consistent : Consistent f) (x : NodeId) :
    g.Rooted x := by
  have old {m : NodeId} (rooted : f.Rooted m) (known : f.known m = true) : g.Rooted m := by
    induction rooted with
    | root free => exact .root ((duplicate.old_links known).1 ▸ free)
    | @child m p linked _ ih =>
      refine .child ((duplicate.old_links known).1 ▸ linked) (ih ?_)
      exact known_of_kids ((consistent.listed p m).mpr linked)
  have new {m : NodeId} (rooted : f.Rooted m) (held : ReflTransGen f.Holds n m) :
      g.Rooted (copy m) := by
    induction rooted with
    | root free => exact .root (by rw [duplicate.parent held, free, Option.map_none, ite_self])
    | @child m p linked _ ih =>
      by_cases first : m = n
      · exact .root (by rw [duplicate.parent held, if_pos first])
      · have upward : g.parent (copy m) = some (copy p) := by
          rw [duplicate.parent held, if_neg first, linked]
          rfl
        exact .child upward (ih (consistent.parent_held held first linked))
  cases linked : g.parent x with
  | none => exact .root linked
  | some p =>
    rcases duplicate.place (known_of_parent linked) with known | ⟨m, held, rfl⟩
    · exact old (consistent.rooted x) known
    · exact new (consistent.rooted m) held

theorem consistent (duplicate : Duplicate f g n copy) (consistent : Consistent f)
    (untangled : f.Untangled) : Consistent g where
  listed := duplicate.listed consistent untangled
  once := duplicate.once consistent
  rooted := duplicate.rooted consistent
  free x y holds := by
    rcases duplicate.content_cases holds with own | ⟨m, c, held, own, _, rfl⟩
    · rw [(duplicate.old_links (consistent.stored x y own)).1]
      exact consistent.free x y own
    · rw [duplicate.parent (held.tail (.inr own)), consistent.free m c own, Option.map_none,
        ite_self]
  single x z y left right := by
    rcases duplicate.content_cases left with one | ⟨m, c, held, one, rfl, rfl⟩ <;>
      rcases duplicate.content_cases right with two | ⟨k, d, again, two, rfl, same⟩
    · exact consistent.single x z y one two
    · have known := consistent.stored x y one
      cases known.symm.trans (same ▸ duplicate.fresh (again.tail (.inr two)))
    · have known := consistent.stored z (copy c) two
      cases known.symm.trans (duplicate.fresh (held.tail (.inr one)))
    · cases duplicate.bijection.injOn (again.tail (.inr two)) (held.tail (.inr one)) same
      rw [consistent.single m k c one two]
  stored x y holds := by
    rcases duplicate.content_cases holds with own | ⟨m, c, held, own, _, rfl⟩
    · exact duplicate.known_old (consistent.stored x y own)
    · exact duplicate.known_copy (held.tail (.inr own))

theorem twins (duplicate : Duplicate f g n copy) (consistent : Consistent f)
    (known : f.known n = true) : Twins f g copy (ReflTransGen f.Holds n) where
  onward m held c member := held.trans (holds_of_inside member).to_reflTransGen
  twin m held := by
    have here : f.known m = true := by
      rcases ReflTransGen.cases_tail held with rfl | ⟨q, _, last⟩
      · exact known
      · exact consistent.known_held last
    have fields := duplicate.fields m held
    refine ⟨(duplicate.known_copy held).trans here.symm, by rw [fields], by rw [fields],
      by rw [fields], by rw [fields], duplicate.kids held, ?_, fun c member => ?_⟩
    · cases own : f.content m with
      | none =>
        have none : g.content (copy m) = none := by rw [duplicate.content held, own, Option.map_none]
        simp only [writtenChildren, none, own]
        exact duplicate.kids held
      | some c =>
        have some : g.content (copy m) = some (copy c) := by
          rw [duplicate.content held, own, Option.map_some]
        simp only [writtenChildren, some, own]
        exact duplicate.kids (held.tail (.inr own))
    · have below := holds_of_inside (written_subset f m member)
      rw [duplicate.fields c (held.trans below.to_reflTransGen)]
      rfl

theorem outerMarkupRead (duplicate : Duplicate f g n copy) (consistent : Consistent f)
    (untangled : f.Untangled) (known : f.known n = true) (layout : Layout) (level : Int) :
    g.outerMarkupRead layout level (copy n) = f.outerMarkupRead layout level n := by
  have grown := duplicate.bijection.mapsTo (ReflTransGen.refl : ReflTransGen f.Holds n n)
  exact (duplicate.twins consistent known).outerMarkupRead (untangled.shallow n) .refl
    (grown.1.trans grown.2.le) layout level

end Duplicate

-- A copy is new and complete, and nothing else changes: whatever a node holds, however deep in its
-- templates, is there once more with all its links, and is written as before.
theorem Consistent.clone_isomorphic (consistent : Consistent f) (untangled : f.Untangled)
    (known : f.known n = true) :
    ∃ copy g, Edit.clone n f = .ok (copy n) g ∧ Duplicate f g n copy ∧
      (∀ m, ReflTransGen g.Holds (copy n) m ↔ f.size ≤ m ∧ m < g.size) ∧
      g.parent (copy n) = none ∧ Consistent g ∧ g.Untangled ∧
      ∀ layout level, g.outerMarkupRead layout level (copy n) =
        f.outerMarkupRead layout level n := by
  have duplicate := consistent.clone_duplicate n
  refine ⟨_, (f.cloneTree n).2, rfl, duplicate, consistent.cloneTree_held_iff n, ?_,
    duplicate.consistent consistent untangled, duplicate.untangled consistent untangled,
    duplicate.outerMarkupRead consistent untangled known⟩
  rw [duplicate.parent .refl, if_pos rfl]

-- A template with a text in it is copied out of a paragraph.
theorem Consistent.clone_isomorphic_template :
    let f := Forest.empty.through [.text (some "a"), .element (some "template") (some "html"),
      .element (some "p") (some "html"), .move (.append 1 (some 0)), .move (.append 3 (some 2))]
    f.Consistent ∧ f.Untangled ∧ f.parent 2 = some 3 ∧
      ∃ k g, Edit.clone 2 f = .ok k g ∧ g.node 2 = f.node 2 ∧ g.parent k = none ∧
        (∃ c, g.content k = some c ∧ f.size ≤ c) ∧
        g.outerMarkupRead .flat 0 k = .ok "<template>a</template>" := by
  intro f
  have consistent : f.Consistent := (Reached.empty.through (by decide)).sound.consistent
  have untangled : f.Untangled := untangled_of_earlier (by decide)
  obtain ⟨copy, g, ran, duplicate, _, free, _, _, written⟩ :=
    Consistent.clone_isomorphic consistent untangled (n := 2) (by decide)
  have content : f.content 2 = some 1 := by decide
  have fragment : g.content (copy 2) = some (copy 1) := by
    rw [duplicate.content .refl, content]
    rfl
  have new := duplicate.bijection.mapsTo (ReflTransGen.single (.inr content))
  have before : f.outerMarkupRead .flat 0 2 = .ok "<template>a</template>" := by decide
  exact ⟨consistent, untangled, by decide, copy 2, g, ran, duplicate.old 2 (by decide), free,
    ⟨copy 1, fragment, new.1⟩, (written .flat 0).trans before⟩

end HtmlTree.Forest

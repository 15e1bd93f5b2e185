import HtmlTree.Proofs.Footprint

namespace HtmlTree

namespace Forest

-- Every template has its content, and beside it a list of children of its own.
def Furnished (f : Forest) : Prop :=
  ∀ n, (f.node n).kind = .template → (f.content n).isSome = true ∧ (f.children n).isSome = true

theorem Furnished.retabled {f g : Forest} (furnished : Furnished f) (retabled : Retabled f g) :
    Furnished g := by
  intro n
  obtain ⟨attrs, table, same⟩ := retabled.node n
  rw [content, children, same]
  exact furnished n

theorem furnished_confined : Confined (fun _ => True) Furnished where
  closed _ _ _ := trivial
  same {f g} furnished nodes n template := by
    have reads : g.node n = f.node n := node_of_nodes nodes
    rw [reads] at template
    rw [content, children, reads]
    exact furnished n template
  write {f n change} furnished _ tabled _ m := by
    by_cases known : f.known n = true
    · rw [content, children, node_update known]
      split
      · intro template
        have kept := (tabled (f.node m)).toLasts
        obtain ⟨full, listed⟩ := furnished m (kept.kind ▸ template)
        exact ⟨kept.content ▸ full, kept.listed listed⟩
      · exact furnished m
    · rw [update_unknown (Bool.eq_false_iff.mpr known)]
      exact furnished m
  entered furnished _ attrs := furnished.retabled (writeAttrs_retabled attrs)

-- Links agree, and what a template holds is in its content and nowhere else.
structure Tidy (f : Forest) : Prop where
  sound : Sound f
  furnished : Furnished f
  hollow : ∀ n c, f.content n = some c → f.content c = none
  hidden : ∀ n c, f.content n = some c → f.kids n = []

variable {f g h : Forest} {m n p : NodeId}

theorem empty_tidy : Tidy empty := by
  have bare (n : NodeId) : empty.node n = Node.newText none := by simp [node, empty]
  refine ⟨⟨empty_owned, empty_housed⟩, ?_, ?_, ?_⟩
  · intro n template
    rw [bare] at template
    cases template
  · intro n c holds
    rw [content, bare] at holds
    cases holds
  · intro n c holds
    rw [content, bare] at holds
    cases holds

theorem Tidy.alloc (tidy : Tidy f) {new : Node} (fresh : Fresh f new)
    (furnished : new.kind = .template → new.content.isSome = true ∧ new.children.isSome = true)
    (hollow : ∀ c ∈ new.content, f.content c = none) : Tidy (f.alloc new).2 := by
  refine ⟨tidy.sound.alloc fresh, ?_, ?_, ?_⟩
  · intro n
    rw [content, children, node_alloc]
    split
    · exact furnished
    · exact tidy.furnished n
  · intro n c holds
    have before : f.known c = true ∧ f.content c = none := by
      rw [content_alloc] at holds
      split at holds
      · exact ⟨(fresh.content c holds).1, hollow c holds⟩
      · exact ⟨(tidy.sound.housed.known n c holds).1, tidy.hollow n c holds⟩
    rw [content_alloc, if_neg (Nat.ne_of_lt (known_iff.mp before.1))]
    exact before.2
  · intro n c holds
    rw [fresh.kids]
    by_cases here : n = f.size
    · simp [kids, children, here, node_size, Node.newText]
    · rw [content_alloc, if_neg here] at holds
      exact tidy.hidden n c holds

-- No node was made, and every template has the content that it had.
structure Rearranged (f g : Forest) : Prop where
  tidy : Tidy g
  size : g.size = f.size
  content : ∀ n, g.content n = f.content n

-- Nodes may have been made, but what was there is no content of theirs.
structure Extended (f g : Forest) : Prop where
  tidy : Tidy g
  size : f.size ≤ g.size
  content : ∀ n c, g.content n = some c → f.content n = some c ∨ f.size ≤ c

theorem Rearranged.refl (tidy : Tidy f) : Rearranged f f := ⟨tidy, rfl, fun _ => rfl⟩

theorem Rearranged.trans (first : Rearranged f g) (next : Rearranged g h) : Rearranged f h :=
  ⟨next.tidy, next.size.trans first.size, fun n => (next.content n).trans (first.content n)⟩

theorem Rearranged.extended (rearranged : Rearranged f g) : Extended f g :=
  ⟨rearranged.tidy, Nat.le_of_eq rearranged.size.symm,
    fun n _ holds => .inl ((rearranged.content n).symm.trans holds)⟩

theorem Extended.trans (first : Extended f g) (next : Extended g h) : Extended f h := by
  refine ⟨next.tidy, Nat.le_trans first.size next.size, ?_⟩
  intro n c holds
  rcases next.content n c holds with before | new
  · exact first.content n c before
  · exact .inr (Nat.le_trans first.size new)

theorem Tidy.same (tidy : Tidy f) (same : SameLinks f g) (furnished : Furnished g) :
    Rearranged f g := by
  refine ⟨⟨tidy.sound.same same, furnished, ?_, ?_⟩, same.size, same.content⟩
  · intro n c holds
    rw [same.content] at holds ⊢
    exact tidy.hollow n c holds
  · intro n c holds
    rw [same.content] at holds
    rw [same.kids]
    exact tidy.hidden n c holds

theorem Tidy.relinked (tidy : Tidy f) {place : Nat} {block gone : List NodeId}
    (relinked : Relinked f g p place block gone) (sound : Sound g) (furnished : Furnished g)
    (apart : block = [] ∨ f.content p = none) : Rearranged f g := by
  refine ⟨⟨sound, furnished, ?_, ?_⟩, relinked.size, fun _ => relinked.content⟩
  · intro n c holds
    rw [relinked.content] at holds ⊢
    exact tidy.hollow n c holds
  · intro n c holds
    rw [relinked.content] at holds
    have before := tidy.hidden n c holds
    by_cases here : n = p
    · subst here
      rcases apart with rfl | hollow
      · simp [relinked.kids_here, before]
      · cases hollow.symm.trans holds
    · simp [relinked.kids_other here, before]

theorem Tidy.setData (tidy : Tidy f) (data : Option String) : Rearranged f (f.setData n data) :=
  tidy.same (Edit.sameLinks_setData data) (furnished_confined.setData tidy.furnished trivial data)

theorem Tidy.retabled (tidy : Tidy f) (retabled : Retabled f g) : Rearranged f g :=
  tidy.same retabled.sameLinks (tidy.furnished.retabled retabled)

end Forest

open Forest EStateM

variable {f : Forest} {p : NodeId} {new : Option NodeId}

-- Only what goes into a template itself would show there.
theorem Plan.run_rearranged (tidy : Tidy f) (known : ∀ n ∈ new, f.known n = true) (plan : Plan)
    (apart : ∀ p index replacing, plan = .insert p index replacing → f.content p = none) :
    Rearranged f ((plan.run new).after f) := by
  have sound := (Plan.run_settled tidy.sound known plan).sound
  have furnished : Furnished ((plan.run new).after f) :=
    Plan.run_confined furnished_confined (fun _ _ => trivial) (fun _ _ => trivial) f tidy.furnished
  cases plan with
  | refuse failure => exact .refl tidy
  | detach n =>
    rw [Plan.run] at sound furnished ⊢
    cases linked : f.parent n with
    | none =>
      cases inside : f.known n with
      | false =>
        rw [after_error (Edit.detach_unknown inside)]
        exact .refl tidy
      | true =>
        rw [after_ok (Edit.detach_free inside linked)]
        exact .refl tidy
    | some q =>
      obtain ⟨g, ran, relinked⟩ := Edit.detach_owned tidy.sound.owned linked
      rw [after_ok ran] at sound furnished ⊢
      exact tidy.relinked relinked sound furnished (.inl rfl)
  | insert p index replacing =>
    rw [Plan.run, after_discard] at sound furnished ⊢
    rcases Edit.insertNode_cases tidy.sound.owned p index new replacing known with
      ⟨failure, g, ran, same⟩ | ⟨found, ran, _⟩ | ⟨list, g, owns, clear, ran, relinked⟩
    · rw [after_error ran] at furnished ⊢
      exact tidy.same same furnished
    · rw [after_ok ran]
      exact .refl tidy
    · rw [after_ok ran] at sound furnished ⊢
      exact tidy.relinked relinked sound furnished (.inr (apart p index replacing rfl))

-- Moves that put something into one parent only.
def Move.Into (p : NodeId) (move : Move) : Prop :=
  ∀ f q index replacing, move.plan f = .insert q index replacing → q = p

theorem Move.append_into (p : NodeId) (new : Option NodeId) : (Move.append p new).Into p := by
  intro f q index replacing planned
  exact Plan.atEnd_target (f := f) (by rw [← Move.plan, planned]; rfl)

theorem Move.before_into (p : NodeId) (reference new : Option NodeId) :
    (Move.before p reference new).Into p := by
  intro f q index replacing planned
  exact Plan.inFront_target (f := f) (by rw [← Move.plan, planned]; rfl)

theorem Move.run_rearranged (tidy : Tidy f) (move : Move)
    (known : ∀ n ∈ move.given, f.known n = true) (into : move.Into p) (apart : f.content p = none) :
    Rearranged f (move.run.after f) := by
  rw [move.after_plan f]
  refine Plan.run_rearranged tidy known (move.plan f) ?_
  intro q index replacing planned
  rw [into f q index replacing planned]
  exact apart

namespace Edit

-- A node is made that nothing has for its content.
def Makes (e : Edit NodeId) : Prop :=
  ∀ f, Tidy f → ∃ n g, e f = .ok n g ∧ Extended f g ∧ f.size ≤ n ∧ g.known n = true ∧
    ∀ m, g.content m ≠ some n

theorem make_makes {new : Node} (bare : new.Bare) (plain : new.kind ≠ .template) :
    Makes (make new) := by
  intro f tidy
  have made := tidy.alloc (fresh_of_bare bare) (fun template => absurd template plain)
    (by simp [bare.hollow])
  have content (m c : NodeId) (holds : (f.alloc new).2.content m = some c) :
      f.content m = some c := by
    rw [content_alloc] at holds
    split at holds
    · rw [bare.hollow] at holds
      cases holds
    · exact holds
  refine ⟨f.size, (f.alloc new).2, rfl, ⟨made, ?_, fun m c holds => .inl (content m c holds)⟩,
    Nat.le_refl _, known_alloc_new f new, ?_⟩
  · rw [size_alloc]
    exact Nat.le_succ _
  · intro m holds
    have known := (tidy.sound.housed.known m f.size (content m f.size holds)).1
    exact Nat.lt_irrefl _ (known_iff.mp known)

theorem newPlain_makes (name : String) (data : Option String) :
    Makes (make (.newPlain name none data none)) := by
  refine make_makes (Node.newPlain_bare name none data none) ?_
  unfold Node.newPlain
  split
  · simp
  · split <;> simp

-- The content comes first and is of no use to anyone else.
theorem makeTemplate_makes (name : Option String) (attrs : Option Attributes) :
    Makes (makeTemplate name attrs (some "html")) := by
  intro f tidy
  obtain ⟨c, g, made, extended, new, known, unused⟩ :=
    newPlain_makes Node.fragmentName none f tidy
  cases made
  have reads := node_alloc_new f .newFragment
  have bare : Node.newFragment.Bare := Node.newPlain_bare _ _ _ _
  have fresh : Fresh (f.alloc .newFragment).2
      (.newTemplate name attrs (some "html") (some f.size)) := by
    refine ⟨rfl, rfl, ?_⟩
    intro c holder
    cases Option.mem_some.mp holder
    refine ⟨known, ?_, unused⟩
    rw [reads]
    exact Node.newFragment_isFragment
  have content (m c : NodeId) (holds : ((f.alloc .newFragment).2.alloc
      (.newTemplate name attrs (some "html") (some f.size))).2.content m = some c) :
      f.content m = some c ∨ c = f.size := by
    rw [content_alloc] at holds
    split at holds
    · exact .inr (Option.some.inj holds).symm
    · rw [content_alloc, bare.hollow] at holds
      split at holds
      · cases holds
      · exact .inl holds
  have hollow : (f.alloc .newFragment).2.content f.size = none := by
    rw [Forest.content, reads, bare.hollow]
  have later : f.size < (f.alloc .newFragment).2.size := by
    rw [size_alloc]
    exact Nat.lt_succ_self _
  refine ⟨_, _, rfl, ⟨extended.tidy.alloc fresh (fun _ => ⟨rfl, rfl⟩) ?_, ?_, ?_⟩, ?_,
    known_alloc_new _ _, ?_⟩
  · intro c holder
    cases Option.mem_some.mp holder
    exact hollow
  · rw [size_alloc]
    exact Nat.le_succ_of_le (Nat.le_of_lt later)
  · intro m c holds
    rcases content m c holds with before | rfl
    · exact .inl before
    · exact .inr (Nat.le_refl _)
  · exact Nat.le_of_lt later
  · intro m holds
    rcases content m _ holds with before | same
    · have below := known_iff.mp (tidy.sound.housed.known m _ before).1
      exact Nat.lt_asymm below later
    · exact Nat.ne_of_gt later same

theorem makeElement_makes (name ns : Option String) : Makes (makeElement name ns) := by
  unfold makeElement
  split
  · rename_i template
    obtain rfl : ns = some "html" := by simpa using And.right (by simpa using template)
    exact makeTemplate_makes name none
  · exact make_makes ⟨rfl, rfl, rfl⟩ (by simp [Node.newElement])

end Edit

-- The sites that a step works on.
def BuildStep.named : BuildStep → List Site
  | .clone site | .attributes site _ | .addAttributes site _ | .gather site => [site]
  | .append parent child | .remove parent child => [parent, child]
  | .before parent child reference => [parent, child, reference]
  | .text site _ reference => site :: reference.toList
  | .reparent source target => [source, target]
  | _ => []

-- Builders that steps lead to, succeeding or failing, with all the sites made so far. A step may
-- name any of them, also those from before the builder was begun anew.
inductive Served (origin : Forest) : List Site → Builder → Prop where
  | fresh : Served origin (Builder.fresh origin).sites (Builder.fresh origin)
  | reset {made : List Site} {b : Builder} : Served origin made b →
    Served origin ((Builder.fresh b.forest).sites ++ made) (Builder.fresh b.forest)
  | step {made : List Site} {b : Builder} (step : BuildStep) (known : ∀ s ∈ step.named, s ∈ made) :
    Served origin made b → Served origin ((step.after b).sites ++ made) (step.after b)

namespace Builder

-- A site stands for a node that nothing has for its content.
def Placed (f : Forest) (s : Site) : Prop := f.known s.node = true ∧ ∀ n, f.content n ≠ some s.node

-- No two sites of a builder stand for the same node. Others may, once it was begun anew.
structure Kept (made : List Site) (b : Builder) : Prop where
  tidy : Tidy b.forest
  placed : ∀ s ∈ b.sites ++ made, Placed b.forest s
  distinct : (b.sites.map Site.node).Nodup

variable {b c : Builder} {made : List Site} {α : Type}

theorem Placed.extended {g : Forest} {s : Site} (placed : Placed f s) (extended : Extended f g) :
    Placed g s := by
  obtain ⟨known, own⟩ := placed
  have below := known_iff.mp known
  refine ⟨known_iff.mpr (Nat.lt_of_lt_of_le below extended.size), ?_⟩
  intro n holds
  rcases extended.content n s.node holds with before | new
  · exact own n before
  · exact Nat.not_lt.mpr new below

theorem Kept.extended (kept : Kept made b) (extended : Extended b.forest c.forest)
    (sites : c.sites = b.sites) : Kept made c := by
  refine ⟨extended.tidy, ?_, ?_⟩
  · intro s member
    rw [sites] at member
    exact (kept.placed s member).extended extended
  · rw [sites]
    exact kept.distinct

theorem onForest_sites (e : Edit α) (b : Builder) : ((onForest e).after b).sites = b.sites := by
  cases ran : e b.forest <;> simp [after, onForest, ran]

theorem Kept.onForest (kept : Kept made b) {e : Edit α}
    (extended : Extended b.forest (e.after b.forest)) : Kept made ((onForest e).after b) :=
  kept.extended (onForest_after e b ▸ extended) (onForest_sites e b)

-- Whatever is put into a site goes where nothing has to stay hidden.
theorem container_hollow (tidy : Tidy b.forest) (s : Site) :
    b.forest.content (b.container s) = none := by
  cases holds : b.forest.content s.node with
  | none => simp [container, holds]
  | some c => simpa [container, holds] using tidy.hollow s.node c holds

theorem newSite_kept {e : Edit NodeId} (makes : Edit.Makes e) (name : String)
    (uri : Option String) : Keeps (Kept made) (do register (← onForest e) name uri) := by
  intro b kept
  obtain ⟨n, g, ran, extended, new, known, own⟩ := makes b.forest kept.tidy
  have built : (do register (← Builder.onForest e) name uri : Build Site).after b =
      ⟨g, ⟨n, name, uri⟩ :: b.sites, b.document⟩ := by
    rw [after_bind]
    simp [Builder.onForest, ran, register, after]
  rw [built]
  refine ⟨extended.tidy, ?_, ?_⟩
  · intro s member
    rcases List.mem_cons.mp member with rfl | before
    · exact ⟨known, own⟩
    · exact (kept.placed s before).extended extended
  · refine List.nodup_cons.mpr ⟨?_, kept.distinct⟩
    intro taken
    obtain ⟨s, member, same⟩ := List.mem_map.mp taken
    have below := known_iff.mp (kept.placed s (List.mem_append_left _ member)).1
    rw [same] at below
    exact Nat.not_lt.mpr new below

theorem newFragment_kept : Keeps (Kept made) newFragment :=
  newSite_kept (Edit.newPlain_makes Node.fragmentName none) Node.fragmentName none

theorem newElement_kept (name : String) (uri : Option String) :
    Keeps (Kept made) (newElement name uri) :=
  newSite_kept (Edit.makeElement_makes _ _) name uri

theorem setAttributes_kept (s : Site) (attrs : Attributes) :
    Keeps (Kept made) (setAttributes s attrs) := by
  refine Keeps.bind Keeps.read fun b => ?_
  split
  · exact Keeps.pure ()
  · exact fun c kept => kept.onForest (kept.tidy.retabled (setAttrs_retabled _)).extended

theorem addAttributes_kept (s : Site) (attrs : Attributes) :
    Keeps (Kept made) (addAttributes s attrs) := by
  refine Keeps.bind Keeps.read fun b => ?_
  split
  · exact Keeps.pure ()
  · exact fun c kept => kept.onForest (kept.tidy.retabled (writeAttrs_retabled _)).extended

theorem clone_kept (s : Site) : Keeps (Kept made) (clone s) := by
  refine Keeps.bind Keeps.read fun b => ?_
  refine Keeps.bind (newElement_kept s.name s.uri) fun copy => ?_
  exact Keeps.bind (setAttributes_kept copy _) fun _ => Keeps.pure copy

theorem Kept.move (kept : Kept made b) (move : Move) {p : NodeId}
    (known : ∀ n ∈ move.given, b.forest.known n = true) (into : move.Into p)
    (apart : b.forest.content p = none) : Kept made ((Builder.onForest move.run).after b) :=
  kept.onForest (move.run_rearranged kept.tidy known into apart).extended

theorem appendChild_kept (kept : Kept made b) {parent child : Site} (known : child ∈ made) :
    Kept made ((appendChild parent child).after b) := by
  rw [appendChild, after_read]
  refine kept.move (.append _ (some child.node)) ?_ (Move.append_into _ _)
    (container_hollow kept.tidy parent)
  rintro n ⟨⟩
  exact (kept.placed child (List.mem_append_right _ known)).1

theorem insertBefore_kept (kept : Kept made b) {parent child reference : Site}
    (known : child ∈ made) : Kept made ((insertBefore parent child reference).after b) := by
  rw [insertBefore, after_read]
  refine kept.move (.before _ (some reference.node) (some child.node)) ?_ (Move.before_into _ _ _)
    (container_hollow kept.tidy parent)
  rintro n ⟨⟩
  exact (kept.placed child (List.mem_append_right _ known)).1

theorem newText_extended (tidy : Tidy f) (apart : f.content p = none) (data : Option String)
    (move : NodeId → Move) (hands : ∀ n, (move n).given = some n) (into : ∀ n, (move n).Into p) :
    Extended f ((do (move (← Edit.make (.newText data))).run : Edit Unit).after f) := by
  have bare : (Node.newText data).Bare := ⟨rfl, rfl, rfl⟩
  obtain ⟨n, g, made, extended, _, known, _⟩ :=
    Edit.make_makes bare (by simp [Node.newText]) f tidy
  cases made
  rw [after_bind]
  have hollow : (f.alloc (.newText data)).2.content p = none := by
    rw [content_alloc, apart]
    split <;> rfl
  refine extended.trans (Move.run_rearranged extended.tidy (move f.size) ?_ (into _) hollow).extended
  intro m given
  rw [hands] at given
  cases given
  exact known

theorem extendText_extended (tidy : Tidy f) {n : NodeId} {data : Option String}
    {otherwise : Edit Unit} (other : Extended f (otherwise.after f)) :
    Extended f ((extendText n data otherwise).after f) := by
  have idle : Extended f f := (Rearranged.refl tidy).extended
  rw [extendText, after_read]
  dsimp only
  split
  · exact Keeps.refuse f idle
  · split
    · split
      · exact (tidy.setData _).extended
      · exact idle
    · exact other

theorem insertText_kept (s : Site) (data : Option String) (before : Option Site) :
    Keeps (Kept made) (insertText s data before) := by
  refine Keeps.get fun b kept => ?_
  have tidy := kept.tidy
  have apart := container_hollow tidy s
  have atEnd := newText_extended tidy apart data (fun n => .append _ (some n)) (fun _ => rfl)
    fun n => Move.append_into _ _
  have inFront (r : NodeId) := newText_extended tidy apart data
    (fun n => .before _ (some r) (some n)) (fun _ => rfl) fun n => Move.before_into _ _ _
  dsimp only
  split
  · split
    · exact kept.onForest (extendText_extended tidy atEnd)
    · exact kept.onForest atEnd
  · exact kept
  · split
    · exact kept
    · exact kept.onForest (inFront _)
    · split
      · exact kept.onForest (extendText_extended tidy (inFront _))
      · exact kept.onForest (inFront _)

theorem removeChild_kept (parent child : Site) : Keeps (Kept made) (removeChild parent child) := by
  refine Keeps.bind Keeps.read fun b => ?_
  split
  · intro c kept
    have taken : Rearranged c.forest (((Plan.detach child.node).run none).after c.forest) :=
      Plan.run_rearranged kept.tidy (by simp) (.detach child.node) nofun
    exact kept.onForest taken.extended
  · exact Keeps.pure ()

-- The children move one after the other, and no content changes its place meanwhile.
theorem reparentChildren_kept (source target : Site) :
    Keeps (Kept made) (reparentChildren source target) := by
  refine Keeps.get fun b kept => ?_
  have apart := container_hollow kept.tidy target
  have moved (children : List NodeId) :
      Keeps (fun c => Rearranged b.forest c.forest ∧ c.sites = b.sites) (children.forM fun n =>
        onForest (Edit.append (b.container target) (if b.forest.known n then some n else none))) := by
    refine Keeps.forM fun n _ c ⟨rearranged, sites⟩ => ⟨?_, ?_⟩
    · have known : ∀ m ∈ (if b.forest.known n then some n else none),
          c.forest.known m = true := by
        intro m given
        split at given
        · cases given
          simpa [Forest.known, rearranged.size] using ‹b.forest.known n = true›
        · cases given
      rw [onForest_after]
      refine rearranged.trans (Move.run_rearranged rearranged.tidy (.append _ _) known
        (Move.append_into _ _) ?_)
      rw [rearranged.content]
      exact apart
    · rw [onForest_sites]
      exact sites
  split
  · exact kept
  · rename_i children _
    obtain ⟨rearranged, sites⟩ := moved children b ⟨.refl kept.tidy, rfl⟩
    exact kept.extended rearranged.extended sites

theorem gatherFragment_kept (source : Site) : Keeps (Kept made) (gatherFragment source) := by
  refine Keeps.bind newFragment_kept fun fragment => ?_
  exact Keeps.bind (reparentChildren_kept source fragment) fun _ => Keeps.pure fragment

theorem Kept.fresh {f : Forest} (tidy : Tidy f) (placed : ∀ s ∈ made, Placed f s) :
    Kept made (Builder.fresh f) := by
  obtain ⟨n, g, ran, extended, _, known, own⟩ :=
    Edit.newPlain_makes Node.documentName none f tidy
  cases ran
  refine ⟨extended.tidy, ?_, by simp [Builder.fresh]⟩
  intro s member
  rcases List.mem_cons.mp member with rfl | before
  · exact ⟨known, own⟩
  · exact (placed s before).extended extended

theorem Kept.more (kept : Kept made b) : Kept (b.sites ++ made) b := by
  refine ⟨kept.tidy, ?_, kept.distinct⟩
  intro s member
  refine kept.placed s ?_
  rcases List.mem_append.mp member with site | among
  · exact List.mem_append_left _ site
  · exact among

end Builder

theorem BuildStep.run_kept {b : Builder} {made : List Site} (kept : Builder.Kept made b)
    (step : BuildStep) (known : ∀ s ∈ step.named, s ∈ made) :
    Builder.Kept made (step.run.after b) := by
  cases step with
  | document =>
    exact (Builder.newSite_kept (Edit.newPlain_makes _ none) _ none).map _ b kept
  | doctype name =>
    exact (Builder.newSite_kept (Edit.newPlain_makes _ name) _ none).map _ b kept
  | comment data =>
    exact (Builder.newSite_kept (Edit.newPlain_makes _ data) _ none).map _ b kept
  | fragment => exact Builder.newFragment_kept.map _ b kept
  | element name uri => exact (Builder.newElement_kept name uri).map _ b kept
  | clone site => exact (Builder.clone_kept site).map _ b kept
  | attributes site attrs =>
    rw [run, after_then]
    exact Builder.setAttributes_kept site attrs b kept
  | addAttributes site attrs =>
    rw [run, after_then]
    exact Builder.addAttributes_kept site attrs b kept
  | append parent child =>
    rw [run, after_then]
    exact Builder.appendChild_kept kept (known child (by simp [named]))
  | before parent child reference =>
    rw [run, after_then]
    exact Builder.insertBefore_kept kept (known child (by simp [named]))
  | text site data reference =>
    rw [run, after_then]
    exact Builder.insertText_kept site data reference b kept
  | remove parent child =>
    rw [run, after_then]
    exact Builder.removeChild_kept parent child b kept
  | reparent source target =>
    rw [run, after_then]
    exact Builder.reparentChildren_kept source target b kept
  | gather source => exact (Builder.gatherFragment_kept source).map _ b kept

theorem Served.kept {origin : Forest} {made : List Site} {b : Builder} (tidy : Tidy origin)
    (served : Served origin made b) : Builder.Kept made b := by
  induction served with
  | fresh =>
    have begun : Builder.Kept [] (Builder.fresh origin) := .fresh tidy (by simp)
    simpa using begun.more
  | reset _ ih =>
    refine Builder.Kept.more (.fresh ih.tidy fun s member => ?_)
    exact ih.placed s (List.mem_append_right _ member)
  | step step known _ ih =>
    refine Builder.Kept.more ?_
    rw [step.after_eq]
    exact step.run_kept ih known

namespace Builder

variable {b : Builder} {made : List Site} {s t : Site}

theorem Kept.site_unique (kept : Kept made b) (left : s ∈ b.sites) (right : t ∈ b.sites)
    (same : s.node = t.node) : s = t :=
  List.inj_on_of_nodup_map kept.distinct left right same

-- The container of a site leads back to it, by way of the node or of its content.
theorem Kept.siteOf_container (kept : Kept made b) (member : s ∈ b.sites) :
    b.siteOf? (b.container s) = some s := by
  have own (t : Site) (among : t ∈ b.sites) (n : NodeId) : b.forest.content n ≠ some t.node :=
    (kept.placed t (List.mem_append_left _ among)).2 n
  have leads : s.node = b.container s ∨ b.forest.content s.node = some (b.container s) := by
    cases holds : b.forest.content s.node <;> simp [container, holds]
  have back (t : Site) (among : t ∈ b.sites) (leads : t.node = b.container s ∨
      b.forest.content t.node = some (b.container s)) : t.node = s.node := by
    cases holds : b.forest.content s.node with
    | none =>
      rw [container, holds, Option.getD_none] at leads
      exact leads.resolve_right (own s member t.node)
    | some c =>
      rw [container, holds, Option.getD_some] at leads
      rcases leads with rfl | content
      · exact absurd holds (own t among s.node)
      · exact kept.tidy.sound.housed.single t.node s.node c content holds
  cases found : b.siteOf? (b.container s) with
  | none =>
    have missed := List.find?_eq_none.mp found s member
    simp only [Bool.or_eq_true, beq_iff_eq] at missed
    exact absurd leads missed
  | some t =>
    have among : t ∈ b.sites := List.mem_of_find?_eq_some found
    have here := List.find?_some found
    simp only [Bool.or_eq_true, beq_iff_eq] at here
    rw [kept.site_unique among member (back t among here)]

-- A site that has a child itself has no content beside it.
theorem Kept.container_of_site (kept : Kept made b) {n p : NodeId}
    (linked : b.forest.parent n = some p) (found : b.siteOf? p = some s) : b.container s = p := by
  have leads := List.find?_some found
  simp only [Bool.or_eq_true, beq_iff_eq] at leads
  rcases leads with rfl | content
  · cases holds : b.forest.content s.node with
    | none => simp [container, holds]
    | some c =>
      have listed := (kept.tidy.sound.owned.listed s.node n).mpr linked
      rw [kept.tidy.hidden s.node c holds] at listed
      cases listed
  · simp [container, content]

end Builder

-- Whatever a builder has been asked to do since it was begun, one of its sites is the parent of
-- another exactly if the node is among the children of its container, and the list of a template
-- itself is empty: its content has it all.
theorem Served.mirrored {origin : Forest} {made : List Site} {b : Builder} (tidy : Tidy origin)
    (served : Served origin made b) :
    (∀ s ∈ b.sites, ∀ t ∈ b.sites,
      b.parentOf? s = some t ↔ s.node ∈ b.forest.kids (b.container t)) ∧
    ∀ n, (b.forest.node n).kind = .template → b.forest.children n = some [] ∧
      ∃ c, b.forest.content n = some c ∧ (b.forest.node c).isFragment = true ∧
        ∀ t : Site, t.node = n → b.container t = c := by
  have kept := served.kept tidy
  have sound := kept.tidy.sound
  refine ⟨?_, ?_⟩
  · intro s _ t among
    rw [sound.owned.listed, Builder.parentOf?]
    constructor
    · intro found
      obtain ⟨p, linked, site⟩ := Option.bind_eq_some_iff.mp found
      rw [linked, kept.container_of_site linked site]
    · intro linked
      rw [linked]
      exact kept.siteOf_container among
  · intro n template
    obtain ⟨full, listed⟩ := kept.tidy.furnished n template
    obtain ⟨c, holds⟩ := Option.isSome_iff_exists.mp full
    obtain ⟨list, owns⟩ := Option.isSome_iff_exists.mp listed
    have empty : list = [] := (kids_eq owns).symm.trans (kept.tidy.hidden n c holds)
    refine ⟨by rw [owns, empty], c, holds, (sound.housed.known n c holds).2, ?_⟩
    rintro t rfl
    simp [Builder.container, holds]

-- A paragraph is put into a template, which still is empty to the eye.
theorem Served.mirrored_template :
    let template : Site := ⟨2, "template", none⟩
    let paragraph : Site := ⟨3, "p", none⟩
    let b := (BuildStep.append template paragraph).after ((BuildStep.element "p" none).after
      ((BuildStep.element "template" none).after (Builder.fresh .empty)))
    b.parentOf? paragraph = some template ∧ b.forest.children 2 = some [] := by
  intro template paragraph b
  have served := Served.step (.append template paragraph) (by decide)
    (.step (.element "p" none) nofun (.step (.element "template" none) nofun
      (.fresh : Served .empty _ _)))
  obtain ⟨mirrored, hidden⟩ := Served.mirrored empty_tidy served
  exact ⟨(mirrored paragraph (by decide) template (by decide)).mpr (by decide),
    (hidden 2 (by decide)).1⟩

end HtmlTree

import HtmlTree.Edit.Clone
import HtmlTree.Edit.Normalize
import HtmlTree.Proofs.Moves
import HtmlTree.Proofs.Tables

namespace HtmlTree

structure Node.Bare (new : Node) : Prop where
  free : new.parent = none
  childless : new.children.getD [] = []
  hollow : new.content = none

theorem Node.newPlain_name (name : String) (attrs : Option Attributes) (data ns : Option String) :
    (newPlain name attrs data ns).name? = some name := by
  unfold newPlain
  split
  · rfl
  · split <;> rfl

theorem Node.newPlain_bare (name : String) (attrs : Option Attributes) (data ns : Option String) :
    (newPlain name attrs data ns).Bare := by
  unfold newPlain
  split
  · exact ⟨rfl, rfl, rfl⟩
  · split <;> exact ⟨rfl, rfl, rfl⟩

theorem Node.newFragment_isFragment : newFragment.isFragment = true := by
  simp [isFragment, Node.name, newFragment, newPlain_name]

namespace Forest

theorem fresh_of_bare {f : Forest} {new : Node} (bare : new.Bare) : Fresh f new :=
  ⟨bare.free, bare.childless, by simp [bare.hollow]⟩

-- What holds on while nodes change in other things than links, are made, leave their parents, or
-- are put under a parent as long as there is nothing below them.
structure Stable (holds : Forest → Prop) : Prop where
  sound : ∀ {f}, holds f → Sound f
  same : ∀ {f g}, holds f → SameLinks f g → holds g
  made : ∀ {f new}, holds f → Fresh f new → holds (f.alloc new).2
  left : ∀ {f g p place gone}, holds f → Relinked f g p place [] gone → holds g
  joined : ∀ {f g n p place}, holds f → Relinked f g p place [n] [n] → Admitted f p [n] →
    f.kids n = [] → f.content n = none → holds g

theorem sound_stable : Stable Sound where
  sound := id
  same := Sound.same
  made sound fresh := sound.alloc fresh
  left sound relinked := sound.relinked relinked (by simp) admitted_nil
  joined sound relinked admitted _ _ := sound.relinked relinked (by simp) admitted

end Forest

namespace Edit
open Forest EStateM

variable {α : Type} {holds : Forest → Prop} {f g : Forest} {n p : NodeId}

theorem make_keeps (stable : Stable holds) {new : Node} (bare : new.Bare) :
    Keeps holds (make new) :=
  fun _ held => stable.made held (fresh_of_bare bare)

-- The content is made first, so that no template can have it yet.
theorem makeTemplate_keeps (stable : Stable holds) (name : Option String)
    (attrs : Option Attributes) (ns : Option String) :
    Keeps holds (makeTemplate name attrs ns) := by
  unfold makeTemplate
  split
  · intro f held
    have first := make_keeps stable (Node.newPlain_bare _ _ _ _ : Node.newFragment.Bare) f held
    refine stable.made first ⟨rfl, rfl, ?_⟩
    intro c holder
    cases Option.mem_some.mp holder
    refine ⟨known_alloc_new f _, ?_, ?_⟩
    · rw [alloc_id, node_alloc_new]
      exact Node.newFragment_isFragment
    · intro m holds
      rw [content_alloc] at holds
      split at holds
      · cases holds
      · have known := ((stable.sound held).housed.known m f.size holds).1
        exact Nat.lt_irrefl _ (known_iff.mp known)
  · exact make_keeps stable ⟨rfl, rfl, rfl⟩

theorem makeElement_keeps (stable : Stable holds) (name ns : Option String) :
    Keeps holds (makeElement name ns) := by
  unfold makeElement
  split
  · exact makeTemplate_keeps stable name none ns
  · exact make_keeps stable ⟨rfl, rfl, rfl⟩

theorem entriesIn_keeps (table : Table) : Keeps holds (entriesIn table) := by
  cases table with
  | own entries => exact Keeps.pure entries
  | of owner =>
    refine Keeps.bind Keeps.read fun f => ?_
    dsimp only
    split
    · exact Keeps.refuse
    · exact Keeps.pure _

theorem makeWith_keeps (stable : Stable holds) (table : Table)
    {create : Option Attributes → Edit NodeId} (made : ∀ attrs, Keeps holds (create attrs)) :
    Keeps holds (makeWith table create) := by
  refine Keeps.bind (entriesIn_keeps table) fun attrs => Keeps.bind (made attrs) fun n => ?_
  cases table with
  | own entries => exact Keeps.pure n
  | of owner =>
    refine Keeps.bind (Keeps.modify fun f held => ?_) fun _ => Keeps.pure n
    exact stable.same held shareAttrs_retabled.sameLinks

theorem shallowClone_keeps (stable : Stable holds) : Keeps holds (shallowClone n) := by
  refine Keeps.get fun f held => ?_
  dsimp only
  split
  · exact make_keeps stable ⟨rfl, rfl, rfl⟩ f held
  · split
    · exact make_keeps stable (Node.newPlain_bare _ _ _ _) f held
    · exact held
  · exact make_keeps stable ⟨rfl, rfl, rfl⟩ f held
  · exact makeTemplate_keeps stable _ _ _ f held

theorem detach_keeps (stable : Stable holds) : Keeps holds (detach n) := by
  intro f held
  cases linked : f.parent n with
  | none =>
    cases known : f.known n with
    | false => rwa [after_error (detach_unknown known)]
    | true => rwa [after_ok (detach_free known linked)]
  | some q =>
    obtain ⟨g, ran, relinked⟩ := detach_owned (stable.sound held).owned linked
    rw [after_ok ran]
    exact stable.left held relinked

theorem unlinked (owned : Owned f) {list gone : List NodeId} (owns : f.children p = some list)
    (within : gone ⊆ list) :
    Relinked f ((f.linkAll gone none).setChildren p (some (list.filter (· ∉ gone)))) p 0 []
      gone := by
  have linked (c : NodeId) (leaves : c ∈ gone) : f.parent c = some p :=
    owned.link owns (within leaves)
  have known : ∀ c ∈ gone, f.known c = true := fun c leaves => known_of_parent (linked c leaves)
  have inside : (f.linkAll gone none).known p = true := by
    simpa [Forest.known] using known_of_children owns
  refine ⟨by simp, ?_⟩
  intro m
  rw [node_setChildren inside, node_linkAll _ _ known, parent_linkAll _ _ known,
    children_linkAll _ _ known, Node.relink_relink]
  congr 1
  by_cases here : m = p
  · subst here
    simp [kids, owns]
  · rw [if_neg here, if_neg here, owned.children_filter]
    intro c leaves
    rw [linked c leaves]
    simpa using Ne.symm here

theorem sameLinks_setData (data : Option String) : SameLinks f (f.setData n data) :=
  .update fun _ => ⟨rfl, rfl, rfl, rfl⟩

theorem setAttribute_keeps (stable : Stable holds) (name : String) (value : Option String) :
    Keeps holds (setAttribute n name value) := by
  refine Keeps.bind Keeps.read fun f => ?_
  split
  · exact Keeps.modify fun _ held => stable.same held (writeAttrs_retabled _).sameLinks
  · exact Keeps.throw _

theorem removeAttribute_keeps (stable : Stable holds) (name : String) :
    Keeps holds (removeAttribute n name) := by
  refine Keeps.bind Keeps.read fun f => ?_
  split
  · exact Keeps.modify fun _ held => stable.same held (writeAttrs_retabled _).sameLinks
  · exact Keeps.pure ()

-- A node that is above another one has a child on the way.
theorem barren_not_above (owned : Owned f) (barren : f.kids n = []) (other : n ≠ p) :
    ¬ Above f n p := by
  intro above
  induction above with
  | self => exact other rfl
  | @up c q linked _ ih =>
    by_cases here : n = q
    · subst here
      have member := (owned.listed n c).mpr linked
      simp [barren] at member
    · exact ih here

-- A node with nothing below it can be put at the end of any other node.
theorem append_leaf (stable : Stable holds) (held : holds f) (known : f.known n = true)
    (plain : (f.node n).isFragment = false) (leaf : f.children n = none)
    (hollow : f.content n = none) : holds ((append p (some n)).after f) := by
  have owned := (stable.sound held).owned
  cases owns : f.children p with
  | none =>
    have refused : append p (some n) f = .error (.hierarchy .nodeCannotHaveChildren p) f := by
      simp [append, bind_run, owned_barren owns]
    rwa [after_error refused]
  | some list =>
    have other : n ≠ p := by
      rintro rfl
      simp [leaf] at owns
    have barren : f.kids n = [] := by simp [kids, leaf]
    have block : f.handed (some n) = [n] := by simp [handed, plain]
    have inside : InRange list list.length false := ⟨Int.natCast_nonneg _, Int.le_refl _⟩
    have given : ∀ m ∈ some n, m = n := fun m same => (Option.some.inj same).symm
    have clear : ∀ m ∈ some n, ¬ Above f m p := fun m same =>
      given m same ▸ barren_not_above owned barren other
    obtain ⟨g, ran, relinked⟩ := insertNode_moved owned owns inside (by simp)
      (fun m same => given m same ▸ known) clear
      (fun m same fragment => by simp [given m same, plain] at fragment)
    have joined : append p (some n) f = .ok () g := by
      simp [append, bind_run, owned_run owns, discard_run, ran]
    rw [block] at relinked
    rw [after_ok joined]
    exact stable.joined held relinked (block ▸ owned.handed_admitted clear) barren hollow

theorem append_newText (stable : Stable holds) (held : holds f) (data : Option String) :
    holds ((append p (some f.size)).after (f.alloc (.newText data)).2) := by
  have read := node_alloc_new f (.newText data)
  refine append_leaf stable (stable.made held (fresh_of_bare ⟨rfl, rfl, rfl⟩))
    (known_alloc_new f _) ?_ ?_ ?_
  · rw [read]
    rfl
  · rw [children, read]
    rfl
  · rw [content, read]
    rfl

theorem setTextContent_keeps (stable : Stable holds) (value : Option String) :
    Keeps holds (setTextContent n value) := by
  refine Keeps.bind Keeps.read fun f => ?_
  split
  · exact Keeps.modify fun _ held => stable.same held (sameLinks_setData _)
  · split
    · exact Keeps.throw _
    · refine Keeps.bind (Keeps.forM fun _ _ => detach_keeps stable) fun _ g held => ?_
      exact append_newText stable held value

end Edit
end HtmlTree

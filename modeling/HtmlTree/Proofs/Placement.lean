import HtmlTree.Proofs.Histories

namespace HtmlTree

namespace Forest

variable {f g : Forest} {b m n p q : NodeId} {list : List NodeId} {i : Nat} {new : Option NodeId}
  {replacing : Bool}

-- The list of the parent afterwards, read off the one before: the index counts the children as they
-- stood, whether or not what is handed over is one of them.
def placed (f : Forest) (list : List NodeId) (i : Nat) (new : Option NodeId) (replacing : Bool) :
    List NodeId :=
  (list.take i).filter (some · ≠ new) ++ f.handed new ++
    (list.drop (if replacing then i + 1 else i)).filter (some · ≠ new)

-- All that an insertion into a parent with this list does to the nodes.
structure Inserted (f g : Forest) (p : NodeId) (list : List NodeId) (i : Nat)
    (new : Option NodeId) (replacing : Bool) : Prop where
  size : g.size = f.size
  here : g.children p = some (f.placed list i new replacing)
  joined : ∀ b ∈ f.handed new, g.parent b = some p
  -- a fragment has given all its children away
  given : ∀ n ∈ new, (f.node n).isFragment = true → g.children n = some []
  -- any other node is gone from the list that it was in
  left : ∀ n ∈ new, (f.node n).isFragment = false → ∀ q, q ≠ p → f.parent n = some q →
    ∃ front back, f.children q = some (front ++ n :: back) ∧ g.children q = some (front ++ back)
  replaced : replacing = true → ∀ old ∈ list[i]?, g.parent old = none
  -- nothing else has changed
  parents : ∀ m, m ∉ f.handed new → (replacing = true → list[i]? ≠ some m) →
    g.parent m = f.parent m
  lists : ∀ m, m ≠ p → (∀ n ∈ new, (f.node n).isFragment = true → m ≠ n) →
    (∀ n ∈ new, (f.node n).isFragment = false → f.parent n ≠ some m) → g.children m = f.children m
  rest : ∀ m, g.node m = (f.node m).relink (g.parent m) (g.children m)

-- Of the children of the parent, only a node that was handed over by itself is of the block.
theorem Owned.filter_handed (owned : Owned f) (clear : ∀ n ∈ new, ¬ Above f n p)
    {part : List NodeId} (among : ∀ c ∈ part, c ∈ f.kids p) :
    part.filter (· ∉ f.handed new) = part.filter (some · ≠ new) := by
  refine List.filter_congr fun c member => ?_
  simp [Edit.mem_handed_sibling owned clear (among c member), eq_comm]

theorem Owned.placed_eq (owned : Owned f) (owns : f.children p = some list)
    (clear : ∀ n ∈ new, ¬ Above f n p) (fits : replacing = true → i < list.length)
    (other : replacing = true → new ≠ list[i]?) :
    (list.take i).filter (· ∉ f.handed new ++ (Edit.displaced list i replacing).toList) ++
        f.handed new ++
        (list.drop i).filter (· ∉ f.handed new ++ (Edit.displaced list i replacing).toList) =
      f.placed list i new replacing := by
  have inside (c : NodeId) (member : c ∈ list) : c ∈ f.kids p := (mem_kids owns).mpr member
  have nodup : list.Nodup := owned.nodup owns
  obtain ⟨front, back⟩ :=
    Edit.filter_displaced nodup fits (Edit.displaced_stays owned owns clear other)
  rw [front, back, owned.filter_handed clear fun c member => inside c (List.mem_of_mem_take member),
    owned.filter_handed clear fun c member => inside c (List.mem_of_mem_drop member), placed]
  congr 1
  cases replacing with
  | false => rfl
  | true =>
    have short := fits rfl
    have differs : some list[i] ≠ new := by
      have apart := other rfl
      rw [List.getElem?_eq_getElem short] at apart
      exact apart.symm
    rw [List.drop_eq_getElem_cons short, List.filter_cons_of_pos (by simpa using differs)]
    rfl

theorem filter_without {front back : List NodeId} (gone : List NodeId)
    (once : (front ++ n :: back).Nodup) (others : ∀ c ∈ gone, c ∉ front ++ n :: back) :
    (front ++ n :: back).filter (· ∉ [n] ++ gone) = front ++ back := by
  have stays (c : NodeId) (among : c ∈ front ++ n :: back) (apart : c ≠ n) : c ∉ [n] ++ gone := by
    simpa [apart] using fun leaves => others c leaves among
  rw [List.nodup_append, List.nodup_cons] at once
  obtain ⟨_, ⟨fresh, _⟩, before⟩ := once
  have left : front.filter (· ∉ [n] ++ gone) = front := by
    refine List.filter_eq_self.mpr fun c among => decide_eq_true ?_
    exact stays c (List.mem_append_left _ among) (before c among n List.mem_cons_self)
  have right : back.filter (· ∉ [n] ++ gone) = back := by
    refine List.filter_eq_self.mpr fun c among => decide_eq_true ?_
    refine stays c (List.mem_append_right _ (List.mem_cons_of_mem _ among)) ?_
    exact fun same => fresh (same ▸ among)
  rw [List.filter_append, List.filter_cons_of_neg (by simp), left, right]

section
variable (owned : Owned f) (owns : f.children p = some list)
  (relinked : Relinked f g p i (f.handed new)
    (f.handed new ++ (Edit.displaced list i replacing).toList))
include relinked

theorem Relinked.elsewhere (apart : m ≠ p) : g.children m = (f.children m).map
    (·.filter (· ∉ f.handed new ++ (Edit.displaced list i replacing).toList)) := by
  rw [Forest.children, relinked.node m, Node.relink_children, if_neg apart]

-- A fragment loses just what is handed over for it.
theorem Relinked.fragment_given (given : new = some n) (fragment : (f.node n).isFragment = true)
    (full : (f.children n).isSome = true) (apart : n ≠ p) : g.children n = some [] := by
  obtain ⟨own, lists⟩ := Option.isSome_iff_exists.mp full
  have block : f.handed new = own := by simp [given, Forest.handed, fragment, kids, lists]
  rw [relinked.elsewhere apart, lists, block]
  refine congrArg some (List.filter_eq_nil_iff.mpr fun c member => ?_)
  simp [member]

include owned owns

theorem Owned.list_left (given : new = some n) (plain : (f.node n).isFragment = false)
    (apart : q ≠ p) (linked : f.parent n = some q) :
    ∃ front back, f.children q = some (front ++ n :: back) ∧ g.children q = some (front ++ back) := by
  obtain ⟨own, lists, member⟩ := owned.children_of_parent linked
  obtain ⟨front, back, rfl⟩ := List.append_of_mem member
  have once : (front ++ n :: back).Nodup := owned.nodup lists
  have block : f.handed new = [n] := by simp [given, Forest.handed, plain]
  have others : ∀ c ∈ (Edit.displaced list i replacing).toList, c ∉ front ++ n :: back := by
    intro c gives among
    have below := owned.link lists among
    rw [Edit.displaced_linked owned owns c (by simpa using gives)] at below
    exact apart (Option.some.inj below).symm
  refine ⟨front, back, lists, ?_⟩
  rw [relinked.elsewhere apart, lists, block, Option.map_some, filter_without _ once others]

theorem Owned.list_kept (apart : m ≠ p)
    (others : ∀ n ∈ new, (f.node n).isFragment = true → m ≠ n)
    (out : ∀ n ∈ new, (f.node n).isFragment = false → f.parent n ≠ some m) :
    g.children m = f.children m := by
  rw [relinked.elsewhere apart, owned.children_filter]
  intro c member
  rcases List.mem_append.mp member with joins | gives
  · obtain ⟨n, handed, ⟨fragment, listed⟩ | ⟨plain, rfl⟩⟩ := mem_handed.mp joins
    · rw [(owned.listed n c).mp listed]
      exact fun same => others n handed fragment (Option.some.inj same).symm
    · exact out c handed plain
  · rw [Edit.displaced_linked owned owns c (by simpa using gives)]
    exact fun same => apart (Option.some.inj same).symm

theorem Owned.inserted (clear : ∀ n ∈ new, ¬ Above f n p) (splits : ∀ n ∈ new, Edit.Splits f n)
    (fits : replacing = true → i < list.length) (other : replacing = true → new ≠ list[i]?) :
    Inserted f g p list i new replacing := by
  have stays := Edit.displaced_stays owned owns clear other
  refine ⟨relinked.size, ?here, fun b joins => ?joined, fun n handed fragment => ?given,
    fun n handed plain q apart linked => owned.list_left owns relinked handed plain apart linked,
    ?replaced, fun m outside remains => ?parents,
    fun m apart others out => owned.list_kept owns relinked apart others out, fun m => ?rest⟩
  case here =>
    have whole : f.kids p = list := kids_eq owns
    rw [Forest.children, relinked.node p, Node.relink_children, if_pos rfl, whole,
      owned.placed_eq owns clear fits other]
  case joined => rw [relinked.parent, if_pos joins]
  case given =>
    obtain ⟨_, full⟩ := splits n handed fragment
    exact relinked.fragment_given handed fragment full fun same => clear n handed (same ▸ .self)
  case replaced =>
    rintro rfl old gives
    have shown : Edit.displaced list i true = some old := gives
    rw [relinked.parent, if_neg (stays old shown), if_pos (by simp [shown])]
  case parents =>
    have kept : m ∉ (Edit.displaced list i replacing).toList := by
      cases replacing with
      | false => simp [Edit.displaced]
      | true => simpa [Edit.displaced] using remains rfl
    rw [relinked.parent, if_neg outside, if_neg (by simp [outside, kept])]
  case rest =>
    rw [Forest.parent, Forest.children, relinked.node m, Node.relink_parent, Node.relink_children]

end

-- An insertion that nothing speaks against, wherever what is handed over comes from: from another
-- parent, from before or behind the index among the children of this one, from within the child
-- that it replaces, from nowhere, or as a fragment that brings its children.
theorem Owned.insertNode_exact (owned : Owned f) (owns : f.children p = some list)
    (inside : Edit.InRange list i replacing) (known : ∀ n ∈ new, f.known n = true)
    (clear : ∀ n ∈ new, ¬ Above f n p) (splits : ∀ n ∈ new, Edit.Splits f n)
    (other : replacing = true → new ≠ list[i]?) :
    ∃ g, Edit.insertNode p i new replacing f = .ok (if replacing then list[i]? else none) g ∧
      Inserted f g p list i new replacing := by
  have fits : replacing = true → i < list.length := by
    rintro rfl
    have high := inside.2
    simp only [if_true] at high
    omega
  have differs : ¬ (replacing = true ∧ new = Edit.removedBy f list i replacing) := by
    rintro ⟨rfl, same⟩
    rw [Edit.removedBy_owned owned owns, Int.toNat_natCast] at same
    exact other rfl same
  obtain ⟨g, ran, relinked⟩ :=
    Edit.insertNode_moved owned owns inside differs known clear splits
  rw [Int.toNat_natCast] at ran relinked
  exact ⟨g, ran, owned.inserted owns relinked clear splits fits other⟩

-- The first of three items takes the place of the last one, whose index is still that of before.
theorem Owned.insertNode_exact_list :
    let f := Forest.empty.through [.element (some "ul") (some "html"),
      .element (some "li") (some "html"), .element (some "li") (some "html"),
      .element (some "li") (some "html"), .move (.append 0 (some 1)), .move (.append 0 (some 2)),
      .move (.append 0 (some 3))]
    f.children 0 = some [1, 2, 3] ∧ ∃ g, Edit.insertNode 0 2 (some 1) true f = .ok (some 3) g ∧
      g.children 0 = some [2, 1] ∧ g.parent 1 = some 0 ∧ g.parent 3 = none ∧
      g.parent 2 = f.parent 2 := by
  intro f
  have owned : Owned f := (Reached.empty.through (by decide)).sound.owned
  have owns : f.children 0 = some [1, 2, 3] := by decide
  have top : f.parent 0 = none := by decide
  have inside : Edit.InRange [1, 2, 3] ((2 : Nat) : Int) true := by
    constructor <;> decide
  have clear : ∀ n ∈ some 1, ¬ Above f n 0 := by
    intro n given above
    cases given
    cases above with
    | up upward _ => cases top.symm.trans upward
  have splits : ∀ n ∈ some 1, Edit.Splits f n := by
    intro n given fragment
    cases given
    have plain : (f.node 1).isFragment = false := by decide
    cases plain.symm.trans fragment
  obtain ⟨g, ran, inserted⟩ :=
    owned.insertNode_exact owns inside (by decide) clear splits (by decide)
  have list : f.placed [1, 2, 3] 2 (some 1) true = [2, 1] := by decide
  refine ⟨owns, g, ran, by rw [inserted.here, list], inserted.joined 1 (by decide),
    inserted.replaced rfl 3 (by decide), inserted.parents 2 (by decide) (by decide)⟩

end Forest

end HtmlTree

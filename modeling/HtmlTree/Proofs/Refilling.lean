import HtmlTree.Proofs.BlockMoves
import HtmlTree.Proofs.Clearing
import HtmlTree.Proofs.Renderings

namespace HtmlTree

namespace Walk

theorem chain_origin {up : NodeId → Option NodeId} {a n : NodeId} {fuel : Nat}
    (member : a ∈ chain up fuel n) : a = n ∨ ∃ c, up c = some a := by
  induction fuel generalizing n with
  | zero => cases member
  | succ fuel ih =>
    rw [chain, List.mem_cons] at member
    rcases member with rfl | member
    · exact .inl rfl
    · cases upward : up n with
      | none => simp [upward] at member
      | some p =>
        rw [upward] at member
        rcases ih member with rfl | further
        · exact .inr ⟨n, upward⟩
        · exact .inr further

end Walk

namespace Forest
open Walk Edit Markup Relation

variable {f g : Forest} {c m n : NodeId} {front list : List NodeId} {fault : TreeFault}
  {value : Option String} {layout : Layout}

-- A node whose text is its own data. All other nodes keep theirs in what is below them.
def Spoken (f : Forest) (n : NodeId) : Prop :=
  (f.node n).isText = true ∨ (f.node n).isComment = true

instance (f : Forest) (n : NodeId) : Decidable (f.Spoken n) :=
  inferInstanceAs (Decidable (_ ∨ _))

theorem not_spoken (silent : ¬ f.Spoken n) :
    ((f.node n).isText || (f.node n).isComment) = false := by
  simpa [Spoken] using silent

theorem Spoken.texts (spoken : f.Spoken n) (known : f.known n = true) :
    f.textContentRead n = .ok (f.node n).ownText ∧ f.directTextRead n = .ok (f.node n).ownText := by
  have own : ((f.node n).isText || (f.node n).isComment) = true := Bool.or_eq_true_iff.mpr spoken
  constructor
  · simp only [textContentRead, textContent, readOff, own, if_true, List.all_cons, List.all_nil, known,
      Bool.and_self]
  · simp only [directTextRead, directText, readOff, own, if_true, List.all_cons, List.all_nil, known,
      Bool.and_self]

theorem setTextContent_spoken (spoken : f.Spoken n) (value : Option String) :
    setTextContent n value f = .ok () (f.setData n value) := by
  have own : ((f.node n).isText || (f.node n).isComment) = true := Bool.or_eq_true_iff.mpr spoken
  simp only [setTextContent, bind_run, get_run, own, if_true, modify_run]

theorem setTextContent_childless (silent : ¬ f.Spoken n) (none : f.children n = none)
    (value : Option String) : setTextContent n value f = .error .missingPart f := by
  simp only [setTextContent, bind_run, get_run, not_spoken silent, Bool.false_eq_true, if_false,
    none, throw_run]

theorem setTextContent_children (silent : ¬ f.Spoken n) (owns : f.children n = some list)
    (value : Option String) : setTextContent n value f = match list.forM detach f with
      | .ok _ g => append n (some g.size) (g.alloc (.newText value)).2
      | .error failure g => .error failure g := by
  simp only [setTextContent, bind_run, get_run, not_spoken silent, Bool.false_eq_true, if_false,
    owns]
  cases list.forM detach f <;> rfl

-- A new text is handed over free, so its arrival does not fail for links that disagree.
theorem append_new_failed {g k : Forest} {failure : Failure}
    (ran : append n (some g.size) (g.alloc (.newText value)).2 = .error failure k) (fault : TreeFault)
    (c : NodeId) : failure ≠ .inconsistent fault c := by
  have new : (g.alloc (.newText value)).2.node g.size = Node.newText value := node_alloc_new g _
  have plain : ((g.alloc (.newText value)).2.node g.size).isFragment = false := by rw [new]; rfl
  have free : (g.alloc (.newText value)).2.parent g.size = none := by rw [Forest.parent, new]; rfl
  generalize (g.alloc (.newText value)).2 = h at ran plain free
  rw [Move.append_plan, Plan.atEnd] at ran
  cases owns : h.children n with
  | none =>
    rw [owns] at ran
    cases ran
    intro same
    cases same
  | some list =>
    rw [owns] at ran
    dsimp only at ran
    have inside : InRange list list.length false := ⟨Int.natCast_nonneg _, Int.le_refl _⟩
    rw [Plan.run, discard_run, insertNode_begun owns inside (by simp), bind_run, freeing] at ran
    by_cases circular : g.size ∈ h.ancestors n
    · rw [release_circular circular] at ran
      cases ran
      intro same
      cases same
    · rw [release_free circular plain free] at ran
      dsimp only at ran
      cases settled : settling n (neighbour h list (list.length : Int).toNat (some g.size))
          (removedBy h list list.length false) (if false = true then 1 else 0) (some [g.size]) h with
      | ok value k =>
        rw [settled] at ran
        cases ran
      | error reason k =>
        rw [settled] at ran
        cases ran
        rintro rfl
        cases settling_failed owns settled

-- What has happened when the children of a node have begun to go and one of them cannot.
structure Torn (f g : Forest) (n : NodeId) (front : List NodeId) (c : NodeId)
    (fault : TreeFault) : Prop where
  silent : ¬ f.Spoken n
  listed : ∃ back, f.children n = some (front ++ c :: back)
  removable : ∀ b ∈ front, Removable f b
  stray : Stray f c fault
  cleared : Cleared f g front

-- To replace the children of a node by a text fails for links that disagree exactly if one of the
-- children has a parent that does not list it. By then all children in front of it have left their
-- parents, so every node is as it was only if none of those had a parent.
theorem refilling_torn :
    (setTextContent n value f = .error (.inconsistent fault c) g ↔
      ∃ front, Torn f g n front c fault) ∧
    ∀ front, Torn f g n front c fault → (g.nodes = f.nodes ↔ ∀ b ∈ front, f.parent b = none) := by
  refine ⟨⟨fun ran => ?_, ?_⟩, fun front torn => torn.cleared.untouched_iff⟩
  · by_cases spoken : f.Spoken n
    · rw [setTextContent_spoken spoken] at ran
      cases ran
    · cases owns : f.children n with
      | none =>
        rw [setTextContent_childless spoken owns] at ran
        cases ran
      | some list =>
        rw [setTextContent_children spoken owns] at ran
        cases went : list.forM detach f with
        | ok value h =>
          rw [went] at ran
          exact absurd rfl (append_new_failed ran fault c)
        | error failure h =>
          rw [went] at ran
          cases ran
          obtain ⟨front, back, rfl, removable, stray, cleared⟩ := forM_detach_inconsistent went
          exact ⟨front, spoken, ⟨back, owns⟩, removable, stray, cleared⟩
  · rintro ⟨front, silent, ⟨back, owns⟩, removable, stray, cleared⟩
    obtain ⟨h, stopped, same⟩ := forM_detach_stray removable stray back
    rw [setTextContent_children silent owns, stopped, same.unique cleared]

-- A comment among the children of a paragraph has been linked to a division that does not list it.
-- The item in front of it belongs nowhere, so nothing has happened when the comment is refused.
theorem refilling_torn_free :
    let f : Forest := ⟨#[{ Node.newElement (some "p") none (some "html") with children := some [1, 2] },
      .newElement (some "b") none (some "html"), { Node.newComment none with parent := some 3 },
      .newElement (some "div") none (some "html")], #[]⟩
    Torn f f 0 [1] 2 .parentMissingChild ∧
      setTextContent 0 (some "a") f = .error (.inconsistent .parentMissingChild 2) f := by
  intro f
  have torn : Torn f f 0 [1] 2 .parentMissingChild := by
    refine ⟨by decide, ⟨[], rfl⟩, fun b member => ?_, ⟨3, rfl, rfl⟩, rfl, rfl, fun m => ?_⟩
    · cases List.mem_singleton.mp member
      exact ⟨rfl, fun q linked => by cases linked⟩
    · refine (relink_kept ?_ ?_).symm
      · by_cases here : m = 1
        · subst here
          rfl
        · simp [here]
      · rfl
  exact ⟨torn, refilling_torn.1.mpr ⟨[1], torn⟩⟩

-- With the item in its place, it has left the paragraph by the time the comment is refused.
theorem refilling_halfway :
    let f := (Forest.empty.through [.element (some "p") (some "html"),
      .element (some "b") (some "html"), .comment none, .element (some "div") (some "html"),
      .move (.append 0 (some 1)), .move (.append 0 (some 2))]).setParent 2 (some 3)
    (∀ m, f.Rooted m) ∧ f.children 0 = some [1, 2] ∧ f.parent 1 = some 0 ∧
      ∃ g, setTextContent 0 (some "a") f = .error (.inconsistent .parentMissingChild 2) g ∧
        g.children 0 = some [2] ∧ g.parent 1 = none := by
  intro f
  have rooted (m : NodeId) : f.Rooted m := by
    match m with
    | 0 => exact .root rfl
    | 1 => exact .child (p := 0) rfl (.root rfl)
    | 2 => exact .child (p := 3) rfl (.root rfl)
    | 3 => exact .root rfl
    | m + 4 =>
      have unknown : f.known (m + 4) = false := decide_eq_false (Nat.not_lt.mpr (Nat.le_add_left 4 m))
      exact .root (by rw [Forest.parent, node_unknown unknown]; rfl)
  exact ⟨rooted, rfl, rfl, _, rfl, rfl, rfl⟩

-- What a forest is once one text has come in place of all children of a node.
structure Refilled (f g : Forest) (n : NodeId) (value : Option String) : Prop where
  journal : g.journal = f.journal
  size : g.size = f.size + 1
  new : g.node f.size = { Node.newText value with parent := some n }
  here : g.node n = { f.node n with children := some [f.size] }
  gone : ∀ c ∈ f.kids n, g.node c = { f.node c with parent := none }
  others : ∀ m, m ≠ f.size → m ≠ n → m ∉ f.kids n → g.node m = f.node m

-- Where links agree, all children of a node may go, and only their links and the list are changed.
theorem Linked.cleared (linked : Linked f) (cleared : Cleared f g (f.kids n)) (m : NodeId) :
    g.node m = (f.node m).relink (if m ∈ f.kids n then none else f.parent m)
      (if m = n then (f.children n).map fun _ => [] else f.children m) := by
  rw [cleared.node m]
  congr 1
  by_cases here : m = n
  · subst here
    have all : f.entriesOf (f.kids m) m = f.kids m := by
      rw [entriesOf, (linked.once m).dedup]
      exact List.filter_eq_self.mpr fun c listed => decide_eq_true ((linked.listed m c).mp listed)
    have nothing : (f.kids m).diff (f.kids m) = [] := by
      rw [(linked.once m).sdiff_eq_filter]
      exact List.filter_eq_nil_iff.mpr fun c listed => by simpa using listed
    rw [if_pos rfl, all]
    cases owns : f.children m with
    | none => rfl
    | some list =>
      rw [kids, owns, Option.getD_some] at nothing
      simp [kids, owns, nothing]
  · have kept : f.entriesOf (f.kids n) m = [] := by
      refine List.filter_eq_nil_iff.mpr fun c listed => ?_
      have upward := (linked.listed n c).mp (List.mem_dedup.mp listed)
      simpa [upward] using Ne.symm here
    rw [if_neg here, kept]
    cases f.children m <;> simp

-- A node that has just been made is above no other one, as no link leads to it.
theorem new_apart (unclaimed : ∀ c, f.parent c ≠ some f.size) {new : Node}
    (free : new.parent = none) (known : f.known n = true) :
    f.size ∉ (f.alloc new).2.ancestors n := by
  intro member
  rcases chain_origin member with same | ⟨c, upward⟩
  · exact Nat.lt_irrefl _ (known_iff.mp (same ▸ known))
  · rw [Forest.parent, node_alloc] at upward
    split at upward
    · cases free.symm.trans upward
    · exact unclaimed c upward

theorem Linked.unclaimed (linked : Linked f) (c : NodeId) : f.parent c ≠ some f.size := by
  intro upward
  exact Nat.lt_irrefl _ (known_iff.mp (known_of_kids ((linked.listed f.size c).mpr upward)))

theorem seating_none (p n m : NodeId) :
    f.seating p n none m = if m = n then some p else f.parent m :=
  if_neg (Option.some_ne_none m).symm

-- A text that has just been made may come into any list.
theorem joinable_new (owns : f.children n = some list) (once : list.Nodup)
    (lists : ∀ c ∈ list, f.parent c = some n) (unclaimed : ∀ c, f.parent c ≠ some f.size)
    (value : Option String) : Joinable (f.alloc (.newText value)).2 n f.size list := by
  have known : f.known n = true := known_of_children owns
  have new : (f.alloc (.newText value)).2.node f.size = Node.newText value := node_alloc_new f _
  have old (m : NodeId) (known : f.known m = true) : m ≠ f.size := Nat.ne_of_lt (known_iff.mp known)
  have listed (c : NodeId) (member : c ∈ list) : c ≠ f.size :=
    old c (known_of_parent (lists c member))
  refine ⟨?owns, ?once, fun c member => ?lists, known_alloc_new f _, ?plain, ?free,
    new_apart unclaimed rfl known⟩
  case owns =>
    rw [children, node_alloc, if_neg (old n known)]
    exact owns
  case once => exact List.nodup_cons.mpr ⟨fun member => listed f.size member rfl, once⟩
  case lists =>
    rw [parent, node_alloc, if_neg (listed c member)]
    exact lists c member
  case plain => rw [new]; rfl
  case free => rw [Forest.parent, new]; rfl

-- It comes into an empty list as its only node.
theorem append_new (owns : f.children n = some []) (unclaimed : ∀ c, f.parent c ≠ some f.size)
    (value : Option String) :
    ∃ g, append n (some f.size) (f.alloc (.newText value)).2 = .ok () g ∧
      Relisted (f.alloc (.newText value)).2 g n [f.size]
        ((f.alloc (.newText value)).2.seating n f.size none) := by
  have joins : Joinable (f.alloc (.newText value)).2 n f.size
      ([] ++ (none : Option NodeId).toList ++ []) :=
    joinable_new owns List.nodup_nil (fun c member => by cases member) unclaimed value
  obtain ⟨g, ran, seated⟩ := insertNode_seated none joins
  refine ⟨g, ?_, seated⟩
  have ran : insertNode n ([] : List NodeId).length (some f.size) false
    (f.alloc (.newText value)).2 = .ok none g := ran
  have still : (f.alloc (.newText value)).2.children n = some [] := joins.owns
  rw [Move.append_plan, Plan.atEnd, still]
  dsimp only
  rw [Plan.run, discard_run, ran]

theorem Linked.refilled (linked : Linked f) (silent : ¬ f.Spoken n) (owns : f.children n = some list)
    (value : Option String) :
    ∃ g, setTextContent n value f = .ok () g ∧ Refilled f g n value := by
  have whole : f.kids n = list := by rw [kids, owns, Option.getD_some]
  have removable : ∀ c ∈ list, Removable f c := fun c member =>
    linked.removable (linked.known_child (whole ▸ member))
  obtain ⟨g, went, cleared⟩ := forM_detach_cleared removable
  rw [← whole] at cleared
  have node := linked.cleared cleared
  have empty : g.children n = some [] := by
    rw [children, node, Node.relink_children, if_pos rfl, owns, Option.map_some]
  have unclaimed (c : NodeId) : g.parent c ≠ some g.size := by
    rw [cleared.parent, cleared.size]
    split
    · exact (Option.some_ne_none _).symm
    · exact linked.unclaimed c
  obtain ⟨h, came, seated⟩ := append_new empty unclaimed value
  have known : f.known n = true := known_of_children owns
  have old : n ≠ f.size := Nat.ne_of_lt (known_iff.mp known)
  have itself : n ∉ f.kids n := fun listed =>
    (linked.rooted n).no_return ((linked.listed n n).mp listed) .self
  -- What each node is in the end, other than the new text.
  have settled (m : NodeId) (other : m ≠ f.size) : h.node m = (f.node m).relink
      (if m ∈ f.kids n then none else f.parent m) (if m = n then some [f.size] else f.children m) := by
    have same : (g.alloc (.newText value)).2.node m = g.node m := by
      rw [node_alloc, cleared.size, if_neg other]
    rw [seated.node, seating_none, cleared.size, if_neg other, parent, children, same, node,
      Node.relink_relink, Node.relink_parent, Node.relink_children]
    congr 1
    split <;> rfl
  refine ⟨h, ?_, ?_, ?_, ?_, ?_, ?_, ?_⟩
  · rw [setTextContent_children silent owns, went]
    exact came
  · rw [seated.journal]
    exact cleared.journal
  · rw [seated.size, size_alloc, cleared.size]
  · have apart : g.size ≠ n := cleared.size ▸ old.symm
    rw [← cleared.size, seated.node, seating_none, if_pos rfl, if_neg apart, children, node_alloc_new]
    rfl
  · rw [settled n old, if_neg itself, if_pos rfl]
    rfl
  · intro c listed
    have other : c ≠ f.size := Nat.ne_of_lt (known_iff.mp (linked.known_child listed))
    rw [settled c other, if_pos listed, if_neg fun same : c = n => itself (same ▸ listed)]
    rfl
  · intro m other apart unlisted
    rw [settled m other, if_neg unlisted, if_neg apart]
    rfl

-- What was below a child is below it still, and has stayed as it was.
theorem Refilled.below (refilled : Refilled f g n value) (linked : Linked f) (listed : c ∈ f.kids n) :
    g.depthFirst .visible c = f.depthFirst .visible c ∧
      ∀ m ∈ f.depthFirst .visible c, m ≠ c → g.node m = f.node m := by
  have away : ¬ Above f c n := (linked.rooted c).no_return ((linked.listed n c).mp listed)
  have same (m : NodeId) (below : m ∈ f.depthFirst .visible c) (other : m ≠ c) :
      g.node m = f.node m := by
    have above := linked.mem_order.mp below
    have known := linked.order_known (linked.known_child listed) m below
    refine refilled.others m (Nat.ne_of_lt (known_iff.mp known)) (fun same => ?_) fun beside => ?_
    · exact away (same ▸ above)
    · cases above with
      | self => exact other rfl
      | up upward rest =>
        cases upward.symm.trans ((linked.listed n m).mp beside)
        exact away rest
  refine ⟨depthFirst_eq ((linked.order_unfolds c).congr fun m below => ?_), same⟩
  change g.kids m = f.kids m
  by_cases here : m = c
  · rw [here, kids, children, refilled.gone c listed]
    rfl
  · rw [kids, children, same m below here]
    rfl

variable {text : String}

theorem Refilled.kids_here (refilled : Refilled f g n value) : g.kids n = [f.size] := by
  rw [kids, children, refilled.here, Option.getD_some]

theorem Refilled.kids_new (refilled : Refilled f g n value) : g.kids f.size = [] := by
  rw [kids, children, refilled.new]
  rfl

theorem Refilled.order (refilled : Refilled f g n value) :
    g.depthFirst .visible n = [n, f.size] := by
  have inner : Unfolds (g.below .visible) (g.below .visible f.size) [] := by
    rw [show g.below .visible f.size = [] from refilled.kids_new]
    exact .nil
  refine depthFirst_eq (.alone ?_)
  rw [show g.below .visible n = [f.size] from refilled.kids_here]
  exact .alone inner

theorem Refilled.texts (refilled : Refilled f g n (some text)) (silent : ¬ f.Spoken n) :
    g.textContentRead n = .ok text ∧ g.directTextRead n = .ok text := by
  have still : (g.node n).isText = false ∧ (g.node n).isComment = false := by
    rw [refilled.here]
    exact Bool.or_eq_false_iff.mp (not_spoken silent)
  have written : (g.node f.size).isText = true := by rw [refilled.new]; rfl
  have own : (g.node f.size).ownText = text := by rw [refilled.new]; rfl
  have listed : (g.node n).children.getD [] = [f.size] := refilled.kids_here
  have known : g.known n = true := known_of_kids (refilled.kids_here ▸ List.mem_singleton_self _)
  have made : g.known f.size = true := by simp [Forest.known, refilled.size]
  constructor
  · simp [textContentRead, readOff, textContent, refilled.order, still, written, own, known, made,
      String.join_cons]
  · simp [directTextRead, readOff, directText, listed, still, written, own, known, made,
      String.join_cons]

theorem Refilled.inside_here (refilled : Refilled f g n value) (hollow : f.content n = none) :
    g.inside n = [f.size] := by
  rw [inside, refilled.kids_here, content, refilled.here, show (f.node n).content = none from hollow]
  rfl

theorem Refilled.inside_new (refilled : Refilled f g n value) : g.inside f.size = [] := by
  rw [inside, refilled.kids_new, content, refilled.new]
  rfl

-- Nothing but the node and the new text is met on the way down.
theorem Refilled.present (refilled : Refilled f g n value) (named : (f.node n).isNamed = true)
    (hollow : f.content n = none) : g.Present n := by
  intro m way
  have met : m = n ∨ m = f.size := by
    induction way with
    | refl => exact .inl rfl
    | @tail a c _ leads ih =>
      have member : c ∈ g.inside a := leads
      rcases ih with rfl | rfl
      · rw [refilled.inside_here hollow] at member
        exact .inr (List.mem_singleton.mp member)
      · rw [refilled.inside_new] at member
        cases member
  rcases met with rfl | rfl
  · refine ⟨known_of_kids (refilled.kids_here ▸ List.mem_singleton_self _), ?_⟩
    rw [refilled.here]
    exact named
  · refine ⟨by simp [Forest.known, refilled.size], ?_⟩
    rw [refilled.new]
    rfl

theorem Refilled.outerMarkupRead (refilled : Refilled f g n (some text))
    (tag : (f.node n).isElement = true) (named : (f.node n).isNamed = true)
    (wide : (f.node n).name ∉ voidNames) (hollow : f.content n = none)
    (single : layout.pretty = false) (level : Int) :
    g.outerMarkupRead layout level n = .ok (startTag (f.node n).name
        ((f.node n).attrs.getD .empty) ++
      (if isRawText (f.node n) then text else Text.escapeText text) ++ endTag (f.node n).name) := by
  have finite : Shallow g.inside 1 n := by
    intro c listed
    rw [refilled.inside_here hollow] at listed
    rw [List.mem_singleton.mp listed]
    exact refilled.inside_new
  have children : g.writtenChildren n = [f.size] := by
    have content : g.content n = none := by rw [Forest.content, refilled.here]; exact hollow
    rw [writtenChildren, content]
    exact refilled.kids_here
  have written (raw : Bool) : g.markup .flat 0 raw f.size =
      if raw then text else Text.escapeText text := by
    have plain : (Node.newText (some text)).isText = true := rfl
    rw [markup, reach, markupWithin, refilled.new]
    exact textMarkup_flat raw text
  have same : (g.node n).name = (f.node n).name ∧ (g.node n).attrs = (f.node n).attrs ∧
      isRawText (g.node n) = isRawText (f.node n) := by
    rw [refilled.here]
    exact ⟨rfl, rfl, rfl⟩
  have tagged : (g.node n).isElement = true := by rw [refilled.here]; exact tag
  rw [(refilled.present named hollow).outerMarkupRead single,
    outerMarkup_element (within_size finite) single level tagged, innerMarkup, children, same.1,
    same.2.1, same.2.2]
  simp [wide, written, String.join_cons, String.append_assoc]

-- A text that is set is the text that is read. A text or a comment changes in its data alone. Any
-- other node has one new text for its only child, and is written as this text between its tags if
-- it has an end tag; its former children have no parent any more, all below them has stayed, and so
-- has every other node.
theorem Linked.text_replaced (linked : Linked f) (known : f.known n = true)
    (holder : f.Spoken n ∨ (f.children n).isSome = true) (text : String) :
    ∃ g, setTextContent n (some text) f = .ok () g ∧
      g.textContentRead n = .ok text ∧ g.directTextRead n = .ok text ∧
      (f.Spoken n → g = f.setData n (some text)) ∧
      (¬ f.Spoken n → Refilled f g n (some text) ∧
        (∀ c ∈ f.kids n, g.depthFirst .visible c = f.depthFirst .visible c ∧
          ∀ m ∈ f.depthFirst .visible c, m ≠ c → g.node m = f.node m) ∧
        ((f.node n).isElement = true → (f.node n).isNamed = true → (f.node n).name ∉ voidNames →
          f.content n = none → ∀ layout level, layout.pretty = false →
            g.outerMarkupRead layout level n = .ok (startTag (f.node n).name
                ((f.node n).attrs.getD .empty) ++
              (if isRawText (f.node n) then text else Text.escapeText text) ++
              endTag (f.node n).name))) := by
  by_cases spoken : f.Spoken n
  · have node : (f.setData n (some text)).node n = { f.node n with data := some text } := by
      rw [setData, node_update known, if_pos rfl]
    have still : (f.setData n (some text)).Spoken n := by
      rw [Spoken, node]
      exact spoken
    have there : (f.setData n (some text)).known n = true := by
      rw [Forest.known, setData, size_update]
      exact known
    obtain ⟨content, direct⟩ := still.texts there
    have own : ((f.setData n (some text)).node n).ownText = text := by rw [node]; rfl
    rw [own] at content direct
    exact ⟨_, setTextContent_spoken spoken _, content, direct, fun _ => rfl, absurd spoken⟩
  · obtain ⟨list, owns⟩ := Option.isSome_iff_exists.mp (holder.resolve_left spoken)
    obtain ⟨g, ran, refilled⟩ := linked.refilled spoken owns (some text)
    obtain ⟨content, direct⟩ := refilled.texts spoken
    exact ⟨g, ran, content, direct, fun given => absurd given spoken, fun _ => ⟨refilled,
      fun c listed => refilled.below linked listed,
      fun tag named wide hollow _ level single =>
        refilled.outerMarkupRead tag named wide hollow single level⟩⟩

-- A paragraph with an element, which has a text in it, and a comment.
theorem Linked.text_replaced_paragraph :
    let f := Forest.empty.through [.element (some "p") (some "html"),
      .element (some "b") (some "html"), .text (some "x"), .comment (some "y"),
      .setAttribute 0 "id" none, .move (.append 1 (some 2)), .move (.append 0 (some 1)),
      .move (.append 0 (some 3))]
    Linked f ∧ f.known 0 = true ∧ f.children 0 = some [1, 3] ∧
      ∃ g, setTextContent 0 (some "a<b") f = .ok () g ∧ g.textContentRead 0 = .ok "a<b" ∧
        g.directTextRead 0 = .ok "a<b" ∧ g.children 0 = some [4] ∧ g.parent 1 = none ∧
        g.depthFirst .visible 1 = [1, 2] ∧
        g.outerMarkupRead .flat 0 0 = .ok "<p id>a&lt;b</p>" := by
  intro f
  have linked : Linked f := (Reached.empty.through (by decide)).sound.owned.linked
  have owns : f.children 0 = some [1, 3] := by decide
  obtain ⟨g, ran, content, direct, _, container⟩ :=
    linked.text_replaced (n := 0) (by decide) (.inr (by rw [owns]; rfl)) "a<b"
  obtain ⟨refilled, below, markup⟩ := container (by decide)
  have first : 1 ∈ f.kids 0 := by rw [kids, owns]; decide
  refine ⟨linked, by decide, owns, g, ran, content, direct, ?_, ?_, ?_, ?_⟩
  · rw [children, refilled.here]
    decide
  · rw [parent, refilled.gone 1 first]
  · rw [(below 1 first).1]
    decide
  · exact markup (by decide) (by decide) (by decide) (by decide) .flat 0 rfl

end Forest

end HtmlTree

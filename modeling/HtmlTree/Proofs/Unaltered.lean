import HtmlTree.Proofs.Renderings

namespace HtmlTree.Forest
open Edit EStateM Walk Relation Markup

variable {f g : Forest} {c m n x : NodeId} {list : List NodeId} {depth : Nat} {layout : Layout}

-- To merge texts brings no child to a node that it did not have.
theorem Merged.kids_subset (merged : Merged f g) (before : Linked f) (after : Linked g)
    (n : NodeId) : g.kids n ⊆ f.kids n := by
  intro c listed
  exact (before.listed n c).mpr (merged.parent c n ((after.listed n c).mp listed))

theorem Merged.untangled (merged : Merged f g) (before : Linked f) (after : Linked g)
    (untangled : f.Untangled) : g.Untangled := by
  refine fun n round => untangled n (TransGen.mono (fun a c held => ?_) n n round)
  rcases held with listed | content
  · exact .inl (merged.kids_subset before after a listed)
  · exact .inr (merged.content a ▸ content)

theorem Merged.innerMarkup (merged : Merged f g) (plain : f.plain n = true) :
    g.innerMarkup n = f.innerMarkup n := by
  have raw : isRawText (g.node n) = isRawText (f.node n) := by
    rw [merged.plain_node plain]
    rfl
  have deep (raw : Bool) : g.markup .flat 0 raw = g.markupWithin f.reach .flat 0 raw := by
    rw [← merged.reach]
    rfl
  rw [Forest.innerMarkup, Forest.innerMarkup, raw, deep]
  exact join_congr (isRawText (f.node n)) (merged.written n) fun m raw =>
    merged.markupWithin f.reach m raw

-- What the texts of a list say.
theorem toList_join_texts (f : Forest) (list : List NodeId) :
    (String.join ((list.filter fun c => (f.node c).isText).map fun c => (f.node c).ownText)).toList =
      (f.spelled list).filterMap Sum.getRight? := by
  induction list with
  | nil => rfl
  | cons c list ih =>
    have split : f.spelled (c :: list) = f.spelled [c] ++ f.spelled list := spelled_append f [c] list
    rw [split, List.filterMap_append, ← ih]
    cases text : (f.node c).isText <;>
      simp [text, spelled, String.join_cons, Function.comp_def, Sum.getRight?]

theorem Merged.plain_own (merged : Merged f g) (plain : f.plain n = true) :
    (g.node n).isText = (f.node n).isText ∧ (g.node n).isComment = (f.node n).isComment ∧
      (g.node n).ownText = (f.node n).ownText := by
  rw [merged.plain_node plain]
  exact ⟨rfl, rfl, rfl⟩

theorem Merged.directText (merged : Merged f g) (plain : f.plain n = true) :
    g.directText n = f.directText n := by
  have texts : String.join (((g.kids n).filter fun c => (g.node c).isText).map
      fun c => (g.node c).ownText) = String.join (((f.kids n).filter fun c => (f.node c).isText).map
      fun c => (f.node c).ownText) := by
    refine String.toList_injective ?_
    rw [toList_join_texts, toList_join_texts, merged.lists]
  obtain ⟨text, comment, own⟩ := merged.plain_own plain
  simp only [kids, children] at texts
  simp only [Forest.directText, text, comment, own, texts]

theorem Linked.directTextRead (linked : Linked f) (known : f.known n = true) :
    f.directTextRead n = .ok (f.directText n) := by
  have inside : (n :: if (f.node n).isText || (f.node n).isComment then []
      else (f.node n).children.getD []).all f.known = true := by
    refine List.all_eq_true.mpr fun c member => ?_
    rcases List.mem_cons.mp member with rfl | member
    · exact known
    · split at member
      · cases member
      · exact linked.known_child member
  rw [Forest.directTextRead, readOff, if_pos inside]

theorem Linked.textContentRead (linked : Linked f) (known : f.known n = true) :
    f.textContentRead n = .ok (f.textContent n) := by
  have inside : (if (f.node n).isText || (f.node n).isComment then [n]
      else f.depthFirst .visible n).all f.known = true := by
    refine List.all_eq_true.mpr fun c member => ?_
    split at member
    · exact List.mem_singleton.mp member ▸ known
    · exact linked.order_known known c member
  rw [Forest.textContentRead, readOff, if_pos inside]

-- All that the texts below a node say, itself included.
def said (f : Forest) (n : NodeId) : List Char :=
  ((f.depthFirst .visible n).filter fun c => (f.node c).isText).flatMap
    fun c => (f.node c).ownText.toList

theorem toList_join_said (f : Forest) (n : NodeId) :
    (String.join (((f.depthFirst .visible n).filter fun c => (f.node c).isText).map
      fun c => (f.node c).ownText)).toList = f.said n := by
  rw [String.toList_join, List.flatMap_map]
  rfl

theorem Linked.said_eq (linked : Linked f) (n : NodeId) :
    f.said n = (if (f.node n).isText then (f.node n).ownText.toList else []) ++
      (f.kids n).flatMap f.said := by
  have inner : ((f.kids n).flatMap (f.depthFirst .visible)).filter (fun c => (f.node c).isText) =
      (f.kids n).flatMap fun c => (f.depthFirst .visible c).filter fun c => (f.node c).isText :=
    List.filter_flatMap
  rw [said, linked.order_eq n, List.filter_cons, inner]
  split
  · rw [List.flatMap_cons, List.flatMap_assoc]
    rfl
  · rw [List.flatMap_assoc]
    rfl

-- Texts that have no children say what they hold, so a list of children is read piece by piece.
theorem Linked.said_spelled (linked : Linked f)
    (bare : ∀ c ∈ list, (f.node c).isText = true → f.kids c = []) :
    list.flatMap f.said = (f.spelled list).flatMap (Sum.elim f.said fun c => [c]) := by
  rw [spelled, List.flatMap_assoc]
  refine List.flatMap_congr fun c member => ?_
  split
  · rename_i text
    rw [linked.said_eq, if_pos text, bare c member text]
    simp [List.flatMap_map]
  · simp

theorem Merged.said_children (merged : Merged f g) (before : Linked f) (after : Linked g)
    (plain : f.plain n = true) (bare : ∀ c ∈ f.kids n, (f.node c).isText = true → f.kids c = [])
    (each : ∀ c ∈ f.kids n, f.plain c = true → g.said c = f.said c) : g.said n = f.said n := by
  have text : (f.node n).isText = false := by simpa [Forest.plain] using plain
  have still_bare : ∀ c ∈ g.kids n, (g.node c).isText = true → g.kids c = [] := by
    intro c listed text
    have none := bare c (merged.kids_subset before after n listed) (merged.isText c ▸ text)
    exact List.subset_nil.mp (none ▸ merged.kids_subset before after c)
  rw [after.said_eq, before.said_eq, merged.isText, text, after.said_spelled still_bare,
    before.said_spelled bare, merged.lists]
  refine congrArg _ (List.flatMap_congr fun piece among => ?_)
  cases piece with
  | inl c => exact each c (plain_of_spelled among).1 (plain_of_spelled among).2
  | inr letter => rfl

-- The way down is as long as it was, and nothing that is passed on it says anything new.
theorem Merged.said (merged : Merged f g) (before : Linked f) (after : Linked g)
    (plain : f.plain n = true)
    (bare : ∀ m, Above f n m → (f.node m).isText = true → f.kids m = []) :
    g.said n = f.said n := by
  have shallow := before.shallow n
  generalize f.size = depth at shallow
  induction depth generalizing n with
  | zero =>
    have none : f.kids n = [] := shallow
    refine merged.said_children before after plain ?_ ?_ <;> simp [none]
  | succ depth ih =>
    have link {c : NodeId} (listed : c ∈ f.kids n) : f.parent c = some n :=
      (before.listed n c).mp listed
    refine merged.said_children before after plain
      (fun c listed => bare c (.up (link listed) .self)) fun c listed plain => ?_
    exact ih plain (fun m above => bare m (.trans (.up (link listed) .self) above))
      (shallow c listed)

theorem Merged.textContent (merged : Merged f g) (before : Linked f) (after : Linked g)
    (plain : f.plain n = true)
    (bare : ∀ m, Above f n m → (f.node m).isText = true → f.kids m = []) :
    g.textContent n = f.textContent n := by
  have below : String.join (((g.depthFirst .visible n).filter fun c => (g.node c).isText).map
      fun c => (g.node c).ownText) = String.join (((f.depthFirst .visible n).filter
      fun c => (f.node c).isText).map fun c => (f.node c).ownText) := by
    refine String.toList_injective ?_
    rw [toList_join_said, toList_join_said, merged.said before after plain bare]
  obtain ⟨text, comment, own⟩ := merged.plain_own plain
  simp only [Forest.textContent, text, comment, own, below]

-- Both forests give the same if a node is read: as markup on one line, with its own tags or without
-- them, and as text. A text that goes out of a list takes its children with it, if it has any, and
-- those were heard in the text of all nodes below.
structure ReadsAlike (f g : Forest) (x : NodeId) : Prop where
  outer : ∀ layout level, layout.pretty = false → ∃ markup,
    f.outerMarkupRead layout level x = .ok markup ∧ g.outerMarkupRead layout level x = .ok markup
  inner : ∃ markup, f.innerMarkupRead x = .ok markup ∧ g.innerMarkupRead x = .ok markup
  direct : ∃ text, f.directTextRead x = .ok text ∧ g.directTextRead x = .ok text
  content : (∀ m, Above f x m → (f.node m).isText = true → f.kids m = []) →
    ∃ text, f.textContentRead x = .ok text ∧ g.textContentRead x = .ok text

theorem Merged.readsAlike (merged : Merged f g) (before : Orderly f) (after : Orderly g)
    (known : f.known x = true) (plain : f.plain x = true) : ReadsAlike f g x := by
  have still : g.known x = true := (merged.known x).trans known
  refine ⟨fun layout level single => ⟨_, (before.present known).outerMarkupRead single level, ?_⟩,
    ⟨_, (before.present known).innerMarkupRead, ?_⟩, ⟨_, before.linked.directTextRead known, ?_⟩,
    fun bare => ⟨_, before.linked.textContentRead known, ?_⟩⟩
  · rw [(after.present still).outerMarkupRead single level, merged.outerMarkup plain single]
  · rw [(after.present still).innerMarkupRead, merged.innerMarkup plain]
  · rw [after.linked.directTextRead still, merged.directText plain]
  · rw [after.linked.textContentRead still,
      merged.textContent before.linked after.linked plain bare]

-- To normalize a node, wherever it is, changes nothing in what the nodes of a forest say, other than
-- the texts themselves.
theorem Orderly.normalize_readings (orderly : Orderly f) (untangled : f.Untangled)
    (known : f.known n = true) :
    ∃ g, normalize n f = .ok () g ∧ ∀ x, f.known x = true → (f.node x).isText = false →
      Ends f x ∧ Ends g x ∧ ReadsAlike f g x := by
  obtain ⟨g, ran, after, merged⟩ := orderly.normalize_merged known
  have still := merged.untangled orderly.linked after.linked untangled
  refine ⟨g, ran, fun x known other => ⟨untangled.ends x, still.ends x, ?_⟩⟩
  exact merged.readsAlike orderly after known (by simp [plain, other])

-- A paragraph with texts to be escaped on both sides of a script, and a template with texts.
theorem Orderly.normalize_readings_mixed :
    let f := Forest.empty.through [.text (some "<"), .text (some "&"), .text none,
      .text (some "&"), .text (some "&"), .element (some "script") (some "html"),
      .text (some "a"), .text (some "b"), .element (some "template") (some "html"),
      .element (some "p") (some "html"), .move (.append 10 (some 0)), .move (.append 10 (some 1)),
      .move (.append 10 (some 2)), .move (.append 5 (some 3)), .move (.append 5 (some 4)),
      .move (.append 10 (some 5)), .move (.append 8 (some 6)), .move (.append 8 (some 7)),
      .move (.append 10 (some 9))]
    f.children 10 = some [0, 1, 2, 5, 9] ∧ f.content 9 = some 8 ∧
      ∃ g, normalize 10 f = .ok () g ∧ ReadsAlike f g 10 ∧
        g.outerMarkupRead .flat 0 10 = .ok
          "<p>&lt;&amp;<script>&&</script><template>ab</template></p>" := by
  intro f
  have orderly : Orderly f := orderly_through (by decide) (by decide)
  have untangled : f.Untangled := untangled_of_earlier (by decide)
  obtain ⟨g, ran, alike⟩ := Orderly.normalize_readings orderly untangled (n := 10) (by decide)
  obtain ⟨_, _, reads⟩ := alike 10 (by decide) (by decide)
  obtain ⟨markup, before, after⟩ := reads.outer .flat 0 rfl
  have written : f.outerMarkupRead .flat 0 10 =
      .ok "<p>&lt;&amp;<script>&&</script><template>ab</template></p>" := by decide
  cases before.symm.trans written
  exact ⟨by decide, by decide, g, ran, reads, after⟩

-- A node with the name of a text, but with a list of children, is dropped as a text without a word,
-- and the text that it holds is heard no longer.
theorem normalize_drops_holder :
    let f := Forest.empty.through [.text (some "b"), .plainNode "#text" (.own none) (some "") none,
      .element (some "p") (some "html"), .move (.append 1 (some 0)), .move (.append 2 (some 1))]
    Orderly f ∧ f.Untangled ∧ f.known 2 = true ∧ (f.node 2).isText = false ∧
      f.textContentRead 2 = .ok "b" ∧
      ∃ g, normalize 2 f = .ok () g ∧ g.textContentRead 2 = .ok "" := by
  intro f
  have orderly : Orderly f := orderly_through (by decide) (by decide)
  have untangled : f.Untangled := untangled_of_earlier (by decide)
  obtain ⟨g, ran, _⟩ := orderly.normalize_merged (n := 2) (by decide)
  refine ⟨orderly, untangled, by decide, by decide, by decide, g, ran, ?_⟩
  rw [← after_ok ran]
  decide

end HtmlTree.Forest

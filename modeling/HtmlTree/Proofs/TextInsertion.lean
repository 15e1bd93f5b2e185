import HtmlTree.Proofs.Growth
import HtmlTree.Proofs.Refilling
import HtmlTree.Proofs.Unaltered

namespace HtmlTree

namespace Forest
open Walk Edit

variable {f g : Forest} {c left m n : NodeId} {front back list rest : List NodeId}
  {old text : String}

-- What the texts of a list say, with all that is below them.
def heard (f : Forest) (list : List NodeId) : String := String.ofList (list.flatMap f.said)

theorem heard_append (f : Forest) (front back : List NodeId) :
    f.heard (front ++ back) = f.heard front ++ f.heard back := by
  rw [heard, List.flatMap_append, String.ofList_append]
  rfl

theorem Linked.textContentRead_heard (linked : Linked f) (known : f.known n = true)
    (silent : ¬ f.Spoken n) : f.textContentRead n = .ok (f.heard (f.kids n)) := by
  have plain : ((f.node n).isText || (f.node n).isComment) = false := not_spoken silent
  have other : (f.node n).isText = false := (Bool.or_eq_false_iff.mp plain).1
  rw [linked.textContentRead known]
  refine congrArg _ (String.toList_injective ?_)
  simp only [textContent, plain, Bool.false_eq_true, if_false]
  rw [toList_join_said, linked.said_eq, other, heard, String.toList_ofList]
  simp

-- What is said below a node is the same where nothing below it has got other children or is another
-- text than it was.
theorem Linked.said_congr (linked : Linked f) (kids : ∀ m, Above f n m → g.kids m = f.kids m)
    (texts : ∀ m, Above f n m → (g.node m).isText = (f.node m).isText ∧
      (g.node m).ownText = (f.node m).ownText) : g.said n = f.said n := by
  have order : g.depthFirst .visible n = f.depthFirst .visible n :=
    depthFirst_eq ((linked.order_unfolds n).congr fun m below => kids m (linked.mem_order.mp below))
  have same : ((f.depthFirst .visible n).filter fun m => (g.node m).isText) =
      (f.depthFirst .visible n).filter fun m => (f.node m).isText :=
    List.filter_congr fun m below => (texts m (linked.mem_order.mp below)).1
  rw [said, said, order, same]
  refine List.flatMap_congr fun m among => ?_
  rw [(texts m (linked.mem_order.mp (List.mem_filter.mp among).1)).2]

theorem heard_congr (same : ∀ m ∈ list, g.said m = f.said m) : g.heard list = f.heard list :=
  congrArg _ (List.flatMap_congr same)

-- Nothing but its data changes in a text that is extended.
structure TextExtended (f g : Forest) (left : NodeId) (text : String) : Prop where
  isText : (f.node left).isText = true
  data : ∃ old, f.data left = some old ∧ g = f.setData left (some (old ++ text))

-- A new text has come into a list, between two parts of it, and nothing else has changed.
structure TextAdded (f g : Forest) (c : NodeId) (front back : List NodeId) (text : String) :
    Prop where
  journal : g.journal = f.journal
  size : g.size = f.size + 1
  new : g.node f.size = { Node.newText (some text) with parent := some c }
  here : g.node c = { f.node c with children := some (front ++ f.size :: back) }
  others : ∀ m, m ≠ f.size → m ≠ c → g.node m = f.node m

theorem TextAdded.kids_here (added : TextAdded f g c front back text) :
    g.kids c = front ++ f.size :: back := by
  rw [kids, children, added.here, Option.getD_some]

theorem TextAdded.kids_new (added : TextAdded f g c front back text) : g.kids f.size = [] := by
  rw [kids, children, added.new]
  rfl

theorem TextAdded.kids_other (added : TextAdded f g c front back text) (other : m ≠ f.size)
    (apart : m ≠ c) : g.kids m = f.kids m := by
  rw [kids, children, added.others m other apart]
  rfl

theorem TextAdded.parent (added : TextAdded f g c front back text) (m : NodeId) :
    g.parent m = if m = f.size then some c else f.parent m := by
  split
  · rw [‹m = f.size›, Forest.parent, added.new]
  · by_cases here : m = c
    · rw [here, Forest.parent, added.here]
      rfl
    · rw [Forest.parent, added.others m ‹_› here]
      rfl

theorem TextAdded.texts (added : TextAdded f g c front back text) (other : m ≠ f.size) :
    (g.node m).isText = (f.node m).isText ∧ (g.node m).isComment = (f.node m).isComment ∧
      (g.node m).ownText = (f.node m).ownText := by
  by_cases here : m = c
  · rw [here, added.here]
    exact ⟨rfl, rfl, rfl⟩
  · rw [added.others m other here]
    exact ⟨rfl, rfl, rfl⟩

theorem Linked.textAdded (linked : Linked f) (owns : f.children c = some (front ++ back))
    (added : TextAdded f g c front back text) : Linked g := by
  have whole : f.kids c = front ++ back := by rw [kids, owns, Option.getD_some]
  have apart : c ≠ f.size := Nat.ne_of_lt (known_iff.mp (known_of_children owns))
  have fresh : f.size ∉ front ++ back := fun member =>
    Nat.lt_irrefl _ (known_iff.mp (linked.known_child (whole ▸ member)))
  refine ⟨fun n m => ?listed, fun n => ?once, fun n => ?rooted⟩
  case listed =>
    rw [added.parent]
    by_cases new : m = f.size
    · subst new
      rw [if_pos rfl, Option.some.injEq]
      constructor
      · intro member
        by_contra other
        by_cases itself : n = f.size
        · rw [itself, added.kids_new] at member
          cases member
        · rw [added.kids_other itself (Ne.symm other)] at member
          exact Nat.lt_irrefl _ (known_iff.mp (linked.known_child member))
      · rintro rfl
        simp [added.kids_here]
    · rw [if_neg new]
      by_cases here : n = c
      · rw [here, added.kids_here, ← linked.listed, whole]
        simp [new]
      · by_cases itself : n = f.size
        · rw [itself, added.kids_new]
          exact iff_of_false List.not_mem_nil (linked.unclaimed m)
        · rw [added.kids_other itself here]
          exact linked.listed n m
  case once =>
    by_cases here : n = c
    · rw [here, added.kids_here]
      exact List.nodup_middle.mpr (List.nodup_cons.mpr ⟨fresh, whole ▸ linked.once c⟩)
    · by_cases itself : n = f.size
      · rw [itself, added.kids_new]
        exact List.nodup_nil
      · rw [added.kids_other itself here]
        exact linked.once n
  case rooted =>
    have old (m : NodeId) (other : m ≠ f.size) (rooted : f.Rooted m) : g.Rooted m := by
      induction rooted with
      | root free => exact .root (by rw [added.parent, if_neg other, free])
      | @child m p upward _ ih =>
        refine .child (by rw [added.parent, if_neg other, upward]) (ih ?_)
        exact fun new => linked.unclaimed m (new ▸ upward)
    by_cases new : n = f.size
    · refine .child (p := c) (by rw [added.parent, if_pos new]) (old c apart (linked.rooted c))
    · exact old n new (linked.rooted n)

-- The new text is heard where it stands.
theorem TextAdded.heard_kids (added : TextAdded f g c front back text) (linked : Linked f)
    (owns : f.children c = some (front ++ back)) :
    g.heard (g.kids c) = f.heard front ++ text ++ f.heard back := by
  have whole : f.kids c = front ++ back := by rw [kids, owns, Option.getD_some]
  have after := linked.textAdded owns added
  have apart (m : NodeId) (listed : m ∈ f.kids c) (x : NodeId) (above : Above f m x) :
      x ≠ f.size ∧ x ≠ c := by
    refine ⟨fun new => ?_, fun here => ?_⟩
    · have known := linked.order_known (linked.known_child listed) x (linked.mem_order.mpr above)
      exact Nat.ne_of_lt (known_iff.mp known) new
    · exact (linked.rooted m).no_return ((linked.listed c m).mp listed) (here ▸ above)
  have same (m : NodeId) (listed : m ∈ f.kids c) : g.said m = f.said m := by
    refine linked.said_congr (fun x above => ?_) fun x above => ?_
    · exact added.kids_other (apart m listed x above).1 (apart m listed x above).2
    · obtain ⟨isText, _, own⟩ := added.texts (apart m listed x above).1
      exact ⟨isText, own⟩
  have new : g.heard [f.size] = text := by
    have isText : (g.node f.size).isText = true := by rw [added.new]; rfl
    have own : (g.node f.size).ownText = text := by rw [added.new]; rfl
    simp [heard, after.said_eq f.size, added.kids_new, isText, own]
  have first : g.heard front = f.heard front :=
    heard_congr fun m member => same m (whole ▸ List.mem_append_left back member)
  have last : g.heard back = f.heard back :=
    heard_congr fun m member => same m (whole ▸ List.mem_append_right front member)
  rw [added.kids_here, ← List.singleton_append, heard_append, heard_append, new, first, last,
    String.append_assoc]

theorem TextExtended.sameLinks (extended : TextExtended f g left text) : SameLinks f g := by
  obtain ⟨_, old, _, rfl⟩ := extended
  exact .update fun node => ⟨rfl, rfl, rfl, rfl⟩

theorem TextExtended.other (extended : TextExtended f g left text) (other : m ≠ left) :
    g.node m = f.node m := by
  obtain ⟨_, old, _, rfl⟩ := extended
  exact node_update_other f left m _ other

theorem TextExtended.isText_eq (extended : TextExtended f g left text) (m : NodeId) :
    (g.node m).isText = (f.node m).isText ∧ (g.node m).isComment = (f.node m).isComment := by
  obtain ⟨_, old, _, rfl⟩ := extended
  rw [setData]
  by_cases known : f.known left = true
  · rw [node_update known]
    split <;> exact ⟨rfl, rfl⟩
  · rw [update_unknown (Bool.eq_false_iff.mpr known)]
    exact ⟨rfl, rfl⟩

theorem TextExtended.ownText (extended : TextExtended f g left text) (known : f.known left = true) :
    (g.node left).ownText = (f.node left).ownText ++ text := by
  obtain ⟨_, old, holds, rfl⟩ := extended
  have own : (f.node left).ownText = old := by rw [Node.ownText, ← Forest.data, holds]; rfl
  rw [setData, node_update known, if_pos rfl, own]
  rfl

-- What a text is extended by is heard behind its own data, and in front of what is below it.
theorem TextExtended.heard_kids (extended : TextExtended f g left text) (linked : Linked f)
    (lists : f.kids c = rest ++ left :: back) :
    f.heard [left] = (f.node left).ownText ++ f.heard (f.kids left) ∧
      g.heard (g.kids c) = f.heard rest ++ (f.node left).ownText ++ text ++
        f.heard (f.kids left) ++ f.heard back := by
  have after := linked.same extended.sameLinks
  have listed : left ∈ f.kids c := by simp [lists]
  have once := List.nodup_append.mp (lists ▸ linked.once c)
  have same (m : NodeId) (away : ¬ Above f m left) : g.said m = f.said m := by
    refine linked.said_congr (fun x _ => extended.sameLinks.kids x) fun x above => ?_
    have other : x ≠ left := fun here => away (here ▸ above)
    rw [extended.other other]
    exact ⟨rfl, rfl⟩
  have beside (m : NodeId) (among : m ∈ f.kids c) (other : m ≠ left) : g.said m = f.said m :=
    same m fun above => other (linked.apart_below among listed above .self)
  have first : g.heard rest = f.heard rest := heard_congr fun m member =>
    beside m (by simp [lists, member]) (once.2.2 m member left List.mem_cons_self)
  have last : g.heard back = f.heard back := heard_congr fun m member =>
    beside m (by simp [lists, member]) fun here =>
      (List.nodup_cons.mp once.2.1).1 (here ▸ member)
  have below : g.heard (f.kids left) = f.heard (f.kids left) := heard_congr fun m member =>
    same m ((linked.rooted m).no_return ((linked.listed left m).mp member))
  have said (h : Forest) (linked : Linked h) (isText : (h.node left).isText = true) :
      h.heard [left] = (h.node left).ownText ++ h.heard (h.kids left) := by
    rw [heard, List.flatMap_cons, List.flatMap_nil, List.append_nil, linked.said_eq, if_pos isText,
      String.ofList_append, String.ofList_toList]
    rfl
  have here : g.heard [left] = (f.node left).ownText ++ text ++ f.heard (f.kids left) := by
    rw [said g after ((extended.isText_eq left).1.trans extended.isText),
      extended.ownText (linked.known_child listed), extended.sameLinks.kids, below]
  refine ⟨said f linked extended.isText, ?_⟩
  rw [extended.sameLinks.kids, lists, ← List.singleton_append, heard_append, heard_append, first,
    here, last]
  simp only [String.append_assoc]

-- What stands below a text at the end of a list.
def overhang (f : Forest) (front : List NodeId) : List NodeId :=
  match front.getLast? with
  | some left => if (f.node left).isText then f.kids left else []
  | none => []

-- What has happened when a text has come between two parts of a list.
structure TextInserted (f g : Forest) (c : NodeId) (front back : List NodeId) (text : String) :
    Prop where
  apart : (g.kids c).IsChain fun a b => ¬ ((g.node a).isText = true ∧ (g.node b).isText = true)
  order : (g.kids c).filter (fun m => !(g.node m).isText) =
    (f.kids c).filter fun m => !(f.node m).isText
  -- nothing else has changed
  change : (∃ left ∈ front.getLast?, TextExtended f g left text) ∨
    (∀ left ∈ front.getLast?, (f.node left).isText = false) ∧ TextAdded f g c front back text
  silent : ¬ f.Spoken c → ∃ ahead, f.heard front = ahead ++ f.heard (f.overhang front) ∧
    g.textContentRead c = .ok (ahead ++ text ++ f.heard (f.overhang front) ++ f.heard back)
  spoken : f.Spoken c → g.textContentRead c = f.textContentRead c

-- An identifier that is not given out yet reads as a text already.
theorem TextAdded.isText (added : TextAdded f g c front back text) (m : NodeId) :
    (g.node m).isText = (f.node m).isText := by
  by_cases new : m = f.size
  · rw [new, added.new, node_unknown (by simp [Forest.known])]
    rfl
  · exact (added.texts new).1

theorem TextAdded.inserted (added : TextAdded f g c front back text) (linked : Linked f)
    (owns : f.children c = some (front ++ back))
    (apart : (front ++ back).IsChain
      fun a b => ¬ ((f.node a).isText = true ∧ (f.node b).isText = true))
    (before : ∀ left ∈ front.getLast?, (f.node left).isText = false)
    (behind : ∀ right ∈ back.head?, (f.node right).isText = false) :
    TextInserted f g c front back text := by
  have whole : f.kids c = front ++ back := by rw [kids, owns, Option.getD_some]
  have after := linked.textAdded owns added
  have known : f.known c = true := known_of_children owns
  have still : g.known c = true := by
    have low := known_iff.mp known
    exact known_iff.mpr (added.size ▸ Nat.lt_succ_of_lt low)
  obtain ⟨isText, isComment, own⟩ := added.texts (Nat.ne_of_lt (known_iff.mp known))
  have same : g.Spoken c ↔ f.Spoken c := by rw [Spoken, Spoken, isText, isComment]
  have new : (f.node f.size).isText = true := by rw [node_unknown (by simp [Forest.known])]; rfl
  refine ⟨?apart, ?order, .inr ⟨before, added⟩, fun silent => ?silent, fun spoken => ?spoken⟩
  case apart =>
    obtain ⟨first, last, _⟩ := List.isChain_append.mp apart
    simp only [added.isText, added.kids_here]
    refine List.isChain_append.mpr ⟨first, List.isChain_cons.mpr ⟨?_, last⟩, ?_⟩
    · rintro right stands ⟨_, text⟩
      cases (behind right stands).symm.trans text
    · rintro left stands _ _ ⟨text, _⟩
      cases (before left stands).symm.trans text
  case order =>
    simp only [added.isText, added.kids_here, whole]
    rw [List.filter_append, List.filter_append, List.filter_cons_of_neg (by simp [new])]
  case silent =>
    have bare : f.overhang front = [] := by
      unfold overhang
      split
      · rw [before _ ‹_›]
        rfl
      · rfl
    refine ⟨f.heard front, by rw [bare]; exact String.append_empty.symm, ?_⟩
    rw [after.textContentRead_heard still (mt same.mp silent), added.heard_kids linked owns, bare]
    congr 2
    exact String.append_empty.symm
  case spoken => rw [((same.mpr spoken).texts still).1, (spoken.texts known).1, own]

theorem TextExtended.inserted (extended : TextExtended f g left text) (linked : Linked f)
    (owns : f.children c = some (rest ++ [left] ++ back))
    (apart : (rest ++ [left] ++ back).IsChain
      fun a b => ¬ ((f.node a).isText = true ∧ (f.node b).isText = true)) :
    TextInserted f g c (rest ++ [left]) back text := by
  have whole : f.kids c = rest ++ left :: back := by simp [kids_eq owns]
  have after := linked.same extended.sameLinks
  have known : f.known c = true := known_of_children owns
  have still : g.known c = true := by
    rw [Forest.known, extended.sameLinks.size]
    exact known
  have itself : c ≠ left := by
    rintro rfl
    have upward := (linked.listed c c).mp (by simp [whole])
    exact (linked.rooted c).no_return upward .self
  have same : g.Spoken c ↔ f.Spoken c := by
    rw [Spoken, Spoken, (extended.isText_eq c).1, (extended.isText_eq c).2]
  have last : (rest ++ [left]).getLast? = some left := List.getLast?_concat
  refine ⟨?apart, ?order, .inl ⟨left, last, extended⟩, fun silent => ?silent, fun spoken => ?spoken⟩
  case apart =>
    simp only [(extended.isText_eq _).1, extended.sameLinks.kids, whole]
    simpa using apart
  case order => simp only [(extended.isText_eq _).1, extended.sameLinks.kids]
  case silent =>
    have below : f.overhang (rest ++ [left]) = f.kids left := by
      rw [overhang, last]
      exact if_pos extended.isText
    obtain ⟨alone, heard⟩ := extended.heard_kids linked whole
    refine ⟨f.heard rest ++ (f.node left).ownText, ?_, ?_⟩
    · rw [heard_append, alone, below, String.append_assoc]
    · rw [after.textContentRead_heard still (mt same.mp silent), heard, below]
  case spoken =>
    rw [((same.mpr spoken).texts still).1, (spoken.texts known).1, extended.other itself]

-- The text that is made comes into the list at once.
theorem Linked.adds (linked : Linked f) (owns : f.children c = some (front ++ back))
    (text : String) :
    ∃ g, insertBefore c back.head? (some f.size) (f.alloc (.newText (some text))).2 = .ok () g ∧
      TextAdded f g c front back text := by
  have whole : f.kids c = front ++ back := by rw [kids, owns, Option.getD_some]
  have apart : c ≠ f.size := Nat.ne_of_lt (known_iff.mp (known_of_children owns))
  have joins := joinable_new owns (whole ▸ linked.once c)
    (fun m member => (linked.listed c m).mp (whole ▸ member)) linked.unclaimed (some text)
  obtain ⟨g, ran, seated⟩ := insertBefore_seated joins
  have node (m : NodeId) (other : m ≠ f.size) : g.node m = (f.node m).relink (f.parent m)
      (if m = c then some (front ++ f.size :: back) else f.children m) := by
    have same : (f.alloc (.newText (some text))).2.node m = f.node m := by
      rw [node_alloc, if_neg other]
    rw [seated.node, seating_none, if_neg other, parent, children, same]
    rfl
  refine ⟨g, ran, seated.journal, ?size, ?made, ?here, fun m other beside => ?others⟩
  case size => rw [seated.size, size_alloc]
  case made =>
    rw [seated.node, seating_none, if_pos rfl, if_neg apart.symm, children, node_alloc_new]
    rfl
  case here =>
    rw [node c apart, if_pos rfl]
    rfl
  case others =>
    rw [node m other, if_neg beside]
    rfl

end Forest

namespace Builder
open Forest Edit

variable {b : Builder} {front back : List NodeId} {s : Site} {before : Option Site}

-- Whether a text is to go to the end or before a child, all depends on what stands in front.
theorem insertText_between (owns : b.forest.children (b.container s) = some (front ++ back))
    (once : (front ++ back).Nodup) (place : back.head? = before.map Site.node)
    (data : Option String) :
    let new : Edit Unit := do
      Edit.insertBefore (b.container s) back.head? (some (← make (.newText data)))
    insertText s data before b = onForest (match front.getLast? with
      | some left => extendText left data new
      | none => new) b := by
  intro new
  have read : (get : Build Builder) b = .ok b b := rfl
  rw [insertText, EStateM.bind_ok read, owns]
  cases before with
  | none =>
    obtain rfl := List.head?_eq_none_iff.mp place
    dsimp only
    rw [List.append_nil, Option.getD_some]
    cases front.getLast? <;> rfl
  | some reference =>
    obtain ⟨further, rfl⟩ := List.head?_eq_some_iff.mp place
    have fresh : reference.node ∉ front := fun member =>
      (List.nodup_append.mp once).2.2 _ member _ List.mem_cons_self rfl
    dsimp only
    rw [List.idxOf?_append_cons fresh]
    rcases List.eq_nil_or_concat' front with rfl | ⟨rest, left, rfl⟩
    · rfl
    · have length : (rest ++ [left]).length = rest.length + 1 := List.length_append
      have beside : (rest ++ [left] ++ reference.node :: further)[rest.length]? = some left := by simp
      rw [length]
      dsimp only
      rw [beside, List.getLast?_concat]
      rfl

end Builder

namespace Forest
open Edit

variable {list : List NodeId}

-- Text is put into a list in which no two texts stand side by side, and none do afterwards. It goes
-- on with the text in front of it, if there is one, or else comes as a node.
theorem Linked.inserts_text {b : Builder} (linked : Linked b.forest)
    (written : ∀ n, b.forest.known n = true → (b.forest.node n).isText = true →
      (b.forest.data n).isSome = true)
    {s : Site} (owns : b.forest.children (b.container s) = some list)
    (apart : list.IsChain fun a c =>
      ¬ ((b.forest.node a).isText = true ∧ (b.forest.node c).isText = true))
    {before : Option Site} (beside : ∀ r ∈ before, r.node ∈ list)
    (plain : ∀ r ∈ before, (b.forest.node r.node).isText = false) (text : String) :
    ∃ front back g, list = front ++ back ∧ back.head? = before.map Site.node ∧
      Builder.insertText s (some text) before b = .ok () { b with forest := g } ∧
      TextInserted b.forest g (b.container s) front back text := by
  have among : ∀ c ∈ before.map Site.node, c ∈ list := by
    intro c given
    obtain ⟨r, stands, rfl⟩ := Option.map_eq_some_iff.mp given
    exact beside r stands
  obtain ⟨front, back, rfl, place⟩ := split_before among
  have whole : b.forest.kids (b.container s) = front ++ back := by
    rw [kids, owns, Option.getD_some]
  have ran := Builder.insertText_between owns (whole ▸ linked.once _) place (some text)
  have behind : ∀ right ∈ back.head?, (b.forest.node right).isText = false := by
    intro right stands
    rw [place] at stands
    obtain ⟨r, given, rfl⟩ := Option.map_eq_some_iff.mp stands
    exact plain r given
  obtain ⟨added, came, adds⟩ := linked.adds owns text
  rcases List.eq_nil_or_concat' front with rfl | ⟨rest, left, rfl⟩
  · refine ⟨[], back, added, rfl, place, ran.trans (Builder.onForest_ok came), ?_⟩
    exact adds.inserted linked owns apart (fun left stands => by cases stands) behind
  · have known : b.forest.known left = true :=
      linked.known_child (n := b.container s) (by simp [whole])
    dsimp only at ran
    rw [List.getLast?_concat] at ran
    cases isText : (b.forest.node left).isText with
    | true =>
      obtain ⟨old, holds⟩ := Option.isSome_iff_exists.mp (written left known isText)
      refine ⟨rest ++ [left], back, _, rfl, place, ran.trans (Builder.onForest_ok
        (Builder.extendText_text known isText holds _)), ?_⟩
      exact (TextExtended.mk isText ⟨old, holds, rfl⟩).inserted linked owns apart
    | false =>
      refine ⟨rest ++ [left], back, added, rfl, place, ran.trans (Builder.onForest_ok
        ((Builder.extendText_other known isText _ _).trans came)), ?_⟩
      refine adds.inserted linked owns apart (fun last stands => ?_) behind
      rw [List.getLast?_concat, Option.mem_some_iff] at stands
      exact stands ▸ isText

-- In a template, text that is put before an item goes on with the text in front of the item.
theorem Linked.inserts_text_template :
    let f := Forest.empty.through [.element (some "b") (some "html"), .text (some "x"),
      .text (some "a"), .element (some "i") (some "html"), .text (some "y"),
      .element (some "template") (some "html"), .move (.append 0 (some 1)),
      .move (.append 5 (some 0)), .move (.append 5 (some 2)), .move (.append 5 (some 3)),
      .move (.append 3 (some 4))]
    let site : Site := ⟨6, "template", none⟩
    let item : Site := ⟨3, "i", none⟩
    let b : Builder := ⟨f, [item, site], site⟩
    f.content 6 = some 5 ∧ f.children 5 = some [0, 2, 3] ∧
      ∃ g, Builder.insertText site (some "d") (some item) b = .ok () { b with forest := g } ∧
        TextInserted f g 5 [0, 2] [3] "d" ∧ g.textContentRead 5 = .ok "xady" := by
  intro f site item b
  have linked : Linked b.forest := (Reached.empty.through (by decide)).sound.owned.linked
  have written : ∀ n < b.forest.size, (b.forest.node n).isText = true →
      (b.forest.data n).isSome = true := by decide
  have owns : b.forest.children (b.container site) = some [0, 2, 3] := by decide
  have beside : ∀ r ∈ some item, r.node ∈ [0, 2, 3] := by decide
  obtain ⟨front, back, g, split, place, ran, inserted⟩ := Linked.inserts_text linked
    (fun n known => written n (known_iff.mp known)) owns (by decide) beside (by decide) "d"
  obtain ⟨further, rfl⟩ := List.head?_eq_some_iff.mp place
  obtain ⟨rfl, rfl⟩ : front = [0, 2] ∧ further = [] := by
    have split : [0, 2] ++ 3 :: [] = front ++ 3 :: further := split
    obtain ⟨same, _, rest⟩ :=
      (List.append_cons_inj_of_notMem (by decide) List.not_mem_nil).mp split
    exact ⟨same.symm, rest.symm⟩
  obtain ⟨ahead, whole, read⟩ := inserted.silent (by decide)
  have said : b.forest.heard [0, 2] = "xa" ∧ b.forest.heard [3] = "y" ∧
      b.forest.heard (b.forest.overhang [0, 2]) = "" := by decide
  refine ⟨by decide, by decide, g, ran, inserted, ?_⟩
  rw [said.1, said.2.2, String.append_empty] at whole
  rw [← whole, said.2.1, said.2.2] at read
  exact read

-- A node with the name of a text may have a text below it, and then what it is extended by comes in
-- between the two. What is put below a comment is not heard at all.
theorem inserts_text_unheard :
    let f := Forest.empty.through [.text (some "b"), .plainNode "#text" (.own none) (some "a") none,
      .element (some "p") (some "html"), .element (some "#comment") (some "html"),
      .move (.append 1 (some 0)), .move (.append 2 (some 1))]
    let paragraph : Site := ⟨2, "p", none⟩
    let comment : Site := ⟨3, "#comment", none⟩
    let b : Builder := ⟨f, [comment, paragraph], paragraph⟩
    Linked f ∧ (∀ n, f.known n = true → (f.node n).isText = true → (f.data n).isSome = true) ∧
      (f.children 2 = some [1] ∧ f.heard [1] = "ab" ∧
        ∃ g, Builder.insertText paragraph (some "d") none b = .ok () { b with forest := g } ∧
          g.textContentRead 2 = .ok "adb" ∧ g.textContentRead 2 ≠ .ok (f.heard [1] ++ "d")) ∧
      f.children 3 = some [] ∧
        ∃ g, Builder.insertText comment (some "d") none b = .ok () { b with forest := g } ∧
          g.children 3 = some [4] ∧ g.textContentRead 3 ≠ .ok (f.heard [] ++ "d") := by
  intro f paragraph comment b
  have linked : Linked f := (Reached.empty.through (by decide)).sound.owned.linked
  have written : ∀ n < f.size, (f.node n).isText = true → (f.data n).isSome = true := by decide
  refine ⟨linked, fun n known => written n (known_iff.mp known),
    ⟨by decide, by decide, _, rfl, by decide, by decide⟩, by decide, _, rfl, by decide, by decide⟩

end Forest
end HtmlTree

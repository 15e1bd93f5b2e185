import HtmlTree.Render
import HtmlTree.Proofs.Enclosure

namespace HtmlTree

namespace Walk
open Relation

variable {f : Forest} {next other : NodeId → List NodeId} {c n : NodeId} {depth : Nat}

-- No way down from a node is longer than this many steps.
def Shallow (next : NodeId → List NodeId) : Nat → NodeId → Prop
  | 0, n => next n = []
  | depth + 1, n => ∀ c ∈ next n, Shallow next depth c

-- From a child there is less of a way to go.
theorem Shallow.child (shallow : Shallow next depth n) (leads : c ∈ next n) :
    ∃ less, depth = less + 1 ∧ Shallow next less c := by
  cases depth with
  | zero =>
    rw [show next n = [] from shallow] at leads
    cases leads
  | succ depth => exact ⟨depth, rfl, shallow c leads⟩

theorem Shallow.deeper (shallow : Shallow next depth n) : Shallow next (depth + 1) n := by
  induction depth generalizing n with
  | zero =>
    intro c member
    obtain ⟨_, none, _⟩ := shallow.child member
    cases none
  | succ depth ih =>
    intro c member
    exact ih (shallow c member)

theorem Shallow.more (shallow : Shallow next depth n) (extra : Nat) :
    Shallow next (depth + extra) n := by
  induction extra with
  | zero => exact shallow
  | succ extra ih => exact ih.deeper

theorem Shallow.within (shallow : Shallow next depth n) (within : ∀ m, other m ⊆ next m) :
    Shallow other depth n := by
  induction depth generalizing n with
  | zero =>
    have nothing : next n = [] := shallow
    exact List.subset_nil.mp (nothing ▸ within n)
  | succ depth ih =>
    intro c member
    exact ih (shallow c (within n member))

theorem preorder_deeper (shallow : Shallow next depth n) :
    preorder next (depth + 1) n = preorder next depth n := by
  induction depth generalizing n with
  | zero => simp [preorder, show next n = [] from shallow]
  | succ depth ih =>
    rw [preorder, preorder]
    refine congrArg (n :: ·) ?_
    exact List.flatMap_congr fun c member => ih (shallow c member)

-- The walk with a stack names what the recursive walk names, as far as its steps go.
theorem forward_eq_take (limit : Nat) (stack : List NodeId)
    (shallow : ∀ n ∈ stack, Shallow next depth n) :
    forward next limit stack = (stack.flatMap (preorder next depth)).take limit := by
  induction limit generalizing stack with
  | zero => rw [forward, List.take_zero]
  | succ limit ih =>
    cases stack with
    | nil => rw [forward, List.flatMap_nil, List.take_nil]
    | cons n stack =>
      have here : Shallow next (depth + 1) n := (shallow n List.mem_cons_self).deeper
      have pending : ∀ c ∈ next n ++ stack, Shallow next depth c := by
        intro c member
        rcases List.mem_append.mp member with inside | later
        · exact here c inside
        · exact shallow c (List.mem_cons_of_mem _ later)
      rw [forward, ih _ pending, List.flatMap_cons,
        ← preorder_deeper (shallow n List.mem_cons_self), preorder, List.flatMap_append,
        List.cons_append, List.take_succ_cons]

def Goes (next : NodeId → List NodeId) (n c : NodeId) : Prop := c ∈ next n

-- Nodes that were passed on the way down to a node, each of them once.
structure Passed (f : Forest) (next : NodeId → List NodeId) (n : NodeId) (passed : List NodeId) :
    Prop where
  nodup : passed.Nodup
  known : ∀ a ∈ passed, f.known a = true
  above : ∀ a ∈ passed, TransGen (Goes next) a n

theorem Passed.further {passed : List NodeId} (way : Passed f next n passed)
    (knows : ∀ m, ∀ c ∈ next m, f.known m = true) (once : ¬ TransGen (Goes next) n n)
    (leads : c ∈ next n) : Passed f next c (n :: passed) := by
  refine ⟨List.nodup_cons.mpr ⟨fun again => once (way.above n again), way.nodup⟩, ?_, ?_⟩
  · intro a member
    rcases List.mem_cons.mp member with rfl | before
    · exact knows a c leads
    · exact way.known a before
  · intro a member
    rcases List.mem_cons.mp member with rfl | before
    · exact .single leads
    · exact (way.above a before).tail leads

-- Only a node that there is leads on. If no way leads back to where it was, the nodes passed on it
-- are all different, so there are no more of them than nodes.
theorem shallow_of_no_return (knows : ∀ m, ∀ c ∈ next m, f.known m = true)
    (no_return : ∀ m, ReflTransGen (Goes next) n m → ¬ TransGen (Goes next) m m) :
    Shallow next f.size n := by
  have along (depth : Nat) (m : NodeId) (passed : List NodeId)
      (reached : ReflTransGen (Goes next) n m) (way : Passed f next m passed)
      (enough : f.size ≤ passed.length + depth) : Shallow next depth m := by
    induction depth generalizing m passed with
    | zero =>
      refine List.eq_nil_iff_forall_not_mem.mpr fun c leads => ?_
      have longer := way.further knows (no_return m reached) leads
      have bound := Forest.length_le_size longer.nodup longer.known
      rw [List.length_cons] at bound
      omega
    | succ depth ih =>
      intro c leads
      refine ih c _ (reached.tail leads) (way.further knows (no_return m reached) leads) ?_
      rw [List.length_cons]
      omega
  exact along f.size n [] .refl ⟨List.nodup_nil, nofun, nofun⟩ (by simp)

end Walk

namespace Forest
open Walk Relation Markup

variable {f g : Forest} {image : NodeId → NodeId} {good : NodeId → Prop} {c n : NodeId}
  {a b depth : Nat}

-- All that a walk or a rendering may go to from a node.
def inside (f : Forest) (n : NodeId) : List NodeId :=
  f.kids n ++ ((f.content n).map f.kids).getD []

theorem holds_of_inside (member : c ∈ f.inside n) : TransGen f.Holds n c := by
  rcases List.mem_append.mp member with listed | shown
  · exact .single (.inl listed)
  · cases content : f.content n with
    | none => simp [content] at shown
    | some fragment =>
      have listed : c ∈ f.kids fragment := by simpa [content] using shown
      exact .tail (.single (.inr content)) (.inl listed)

theorem inside_known (member : c ∈ f.inside n) : f.known n = true := by
  by_contra unknown
  have bare := node_unknown (Bool.eq_false_iff.mpr unknown)
  simp [inside, kids, children, content, bare, Node.newText] at member

theorem Untangled.shallow (untangled : f.Untangled) (n : NodeId) : Shallow f.inside f.size n := by
  refine shallow_of_no_return (fun _ _ => inside_known) fun m _ again => untangled m ?_
  exact TransGen.closed (fun _ _ leads => holds_of_inside leads) m m again

theorem below_subset (f : Forest) (scope : Scope) (n : NodeId) : f.below scope n ⊆ f.inside n := by
  intro c member
  refine List.mem_append.mpr ?_
  cases scope with
  | visible => exact .inl member
  | templates =>
    unfold below childrenIn at member
    cases content : f.content n with
    | none => exact .inl (by simpa [kids, content] using member)
    | some fragment =>
      by_cases named : f.name n = "template"
      · exact .inr (by simpa [kids, content, named] using member)
      · exact .inl (by simpa [kids, content, named] using member)

theorem written_subset (f : Forest) (n : NodeId) : f.writtenChildren n ⊆ f.inside n := by
  intro c member
  refine List.mem_append.mpr ?_
  unfold writtenChildren at member
  cases content : f.content n with
  | none => exact .inl (by simpa [kids, content] using member)
  | some fragment => exact .inr (by simpa [kids, content] using member)

-- What the markup of a node is put together from: a document is not written itself.
def parts (f : Forest) (n : NodeId) : List NodeId :=
  if (f.node n).isDocument then f.kids n else [n]

theorem mem_parts (member : c ∈ f.parts n) : c = n ∨ c ∈ f.inside n := by
  unfold parts at member
  split at member
  · exact .inr (List.mem_append_left _ member)
  · exact .inl (List.mem_singleton.mp member)

theorem outerMarkupRead_known (known : f.known n = true) (layout : Layout) (level : Int) :
    f.outerMarkupRead layout level n =
      (f.parts n).forM (f.surveyWithin f.reach layout level) >>= fun _ =>
        .ok (f.outerMarkup layout level n) := by
  rw [outerMarkupRead, known]
  rfl

-- A node of one forest and one of another that are written alike as long as their children are.
structure Twin (f g : Forest) (image : NodeId → NodeId) (n : NodeId) : Prop where
  known : g.known (image n) = f.known n
  name : (g.node (image n)).name? = (f.node n).name?
  ns : (g.node (image n)).ns = (f.node n).ns
  data : (g.node (image n)).data = (f.node n).data
  attrs : (g.node (image n)).attrs = (f.node n).attrs
  kids : g.kids (image n) = (f.kids n).map image
  written : g.writtenChildren (image n) = (f.writtenChildren n).map image
  text : ∀ c ∈ f.writtenChildren n, (g.node (image c)).isText = (f.node c).isText

theorem Twin.self (f : Forest) (n : NodeId) : Twin f f id n :=
  ⟨rfl, rfl, rfl, rfl, rfl, by simp, by simp, fun _ _ => rfl⟩

-- What a node is asked for when it is written, its children apart.
structure Twin.Own (old new : Node) : Prop where
  name : new.name = old.name
  isNamed : new.isNamed = old.isNamed
  isText : new.isText = old.isText
  isComment : new.isComment = old.isComment
  isFragment : new.isFragment = old.isFragment
  isRawText : isRawText new = isRawText old
  ownText : new.ownText = old.ownText

theorem Twin.own (twin : Twin f g image n) : Twin.Own (f.node n) (g.node (image n)) := by
  have name : (g.node (image n)).name = (f.node n).name := by rw [Node.name, twin.name, Node.name]
  constructor <;>
    simp [name, twin.name, twin.ns, twin.data, Node.isNamed, Node.isText, Node.isComment,
      Node.isFragment, isRawText, Node.ownText]

theorem Twin.all_text (twin : Twin f g image n) :
    (g.writtenChildren (image n)).all (fun c => (g.node c).isText) =
      (f.writtenChildren n).all fun c => (f.node c).isText := by
  rw [twin.written, List.all_map, Bool.eq_iff_iff, List.all_eq_true, List.all_eq_true]
  exact forall₂_congr fun c member => by rw [Function.comp_apply, twin.text c member]

theorem Twin.markupWithin (twin : Twin f g image n)
    (each : ∀ c ∈ f.inside n, ∀ layout level raw,
      g.markupWithin a layout level raw (image c) = f.markupWithin b layout level raw c)
    (layout : Layout) (level : Int) (raw : Bool) :
    g.markupWithin (a + 1) layout level raw (image n) =
      f.markupWithin (b + 1) layout level raw n := by
  have listed (layout : Layout) (level : Int) (raw : Bool) :
      ((g.node (image n)).children.getD []).map (g.markupWithin a layout level raw) =
        ((f.node n).children.getD []).map (f.markupWithin b layout level raw) := by
    have kids := twin.kids
    simp only [Forest.kids, children] at kids
    rw [kids, List.map_map]
    exact List.map_congr_left fun c member => each c (List.mem_append_left _ member) _ _ _
  have written (layout : Layout) (level : Int) (raw : Bool) :
      (g.writtenChildren (image n)).map (g.markupWithin a layout level raw) =
        (f.writtenChildren n).map (f.markupWithin b layout level raw) := by
    rw [twin.written, List.map_map]
    exact List.map_congr_left fun c member => each c (written_subset f n member) _ _ _
  have empty : (g.writtenChildren (image n)).isEmpty = (f.writtenChildren n).isEmpty := by
    rw [twin.written, List.isEmpty_map]
  obtain ⟨name, _, isText, isComment, isFragment, isRawText, ownText⟩ := twin.own
  simp only [Forest.markupWithin, name, isText, isComment, isFragment, isRawText, ownText,
    twin.attrs, listed, written, empty, twin.all_text]

theorem forM_image {list : List NodeId} {visit other : NodeId → Except Failure Unit}
    (each : ∀ c ∈ list, visit (image c) = other c) :
    (list.map image).forM visit = list.forM other := by
  induction list with
  | nil => rfl
  | cons c list ih =>
    have rest := ih fun m member => each m (List.mem_cons_of_mem _ member)
    simp only [List.map_cons, List.forM, each c List.mem_cons_self, rest]

theorem Twin.surveyWithin (twin : Twin f g image n)
    (each : ∀ c ∈ f.inside n, ∀ layout level,
      g.surveyWithin a layout level (image c) = f.surveyWithin b layout level c)
    (layout : Layout) (level : Int) :
    g.surveyWithin (a + 1) layout level (image n) = f.surveyWithin (b + 1) layout level n := by
  have listed (layout : Layout) (level : Int) :
      ((g.node (image n)).children.getD []).forM (g.surveyWithin a layout level) =
        ((f.node n).children.getD []).forM (f.surveyWithin b layout level) := by
    have kids := twin.kids
    simp only [Forest.kids, children] at kids
    rw [kids]
    exact forM_image fun c member => each c (List.mem_append_left _ member) _ _
  have written (layout : Layout) (level : Int) :
      (g.writtenChildren (image n)).forM (g.surveyWithin a layout level) =
        (f.writtenChildren n).forM (f.surveyWithin b layout level) := by
    rw [twin.written]
    exact forM_image fun c member => each c (written_subset f n member) _ _
  obtain ⟨name, isNamed, isText, isComment, isFragment, _, _⟩ := twin.own
  simp only [Forest.surveyWithin, twin.known, name, isNamed, isText, isComment, isFragment,
    listed, written, twin.all_text]

-- A node, and all that is met on the way down from it, has its twin.
structure Twins (f g : Forest) (image : NodeId → NodeId) (good : NodeId → Prop) : Prop where
  twin : ∀ n, good n → Twin f g image n
  onward : ∀ n, good n → ∀ c ∈ f.inside n, good c

theorem Twins.self (f : Forest) : Twins f f id fun _ => True :=
  ⟨fun n _ => .self f n, fun _ _ _ _ => trivial⟩

-- Where no way down is longer than the depth, twins are written alike, whatever depth there is
-- beyond that on either side.
theorem Twins.markupWithin (twins : Twins f g image good) (shallow : Shallow f.inside depth n)
    (here : good n) (layout : Layout) (level : Int) (raw : Bool) :
    g.markupWithin (depth + a + 1) layout level raw (image n) =
      f.markupWithin (depth + b + 1) layout level raw n := by
  induction depth generalizing n layout level raw with
  | zero =>
    refine (twins.twin n here).markupWithin (fun c member => ?_) layout level raw
    obtain ⟨_, none, _⟩ := shallow.child member
    cases none
  | succ depth ih =>
    rw [Nat.add_right_comm depth 1 a, Nat.add_right_comm depth 1 b]
    exact (twins.twin n here).markupWithin
      (fun c member => ih (shallow c member) (twins.onward n here c member)) layout level raw

theorem Twins.surveyWithin (twins : Twins f g image good) (shallow : Shallow f.inside depth n)
    (here : good n) (layout : Layout) (level : Int) :
    g.surveyWithin (depth + a + 1) layout level (image n) =
      f.surveyWithin (depth + b + 1) layout level n := by
  induction depth generalizing n layout level with
  | zero =>
    refine (twins.twin n here).surveyWithin (fun c member => ?_) layout level
    obtain ⟨_, none, _⟩ := shallow.child member
    cases none
  | succ depth ih =>
    rw [Nat.add_right_comm depth 1 a, Nat.add_right_comm depth 1 b]
    exact (twins.twin n here).surveyWithin
      (fun c member => ih (shallow c member) (twins.onward n here c member)) layout level

theorem Twins.markup (twins : Twins f g image good) (shallow : Shallow f.inside f.size n)
    (here : good n) (larger : f.size ≤ g.size) (layout : Layout) (level : Int) (raw : Bool) :
    g.markup layout level raw (image n) = f.markup layout level raw n := by
  obtain ⟨extra, grown⟩ := Nat.exists_eq_add_of_le larger
  rw [Forest.markup, Forest.markup, reach, grown]
  exact twins.markupWithin (b := 0) shallow here layout level raw

theorem Twins.survey (twins : Twins f g image good) (shallow : Shallow f.inside f.size n)
    (here : good n) (larger : f.size ≤ g.size) (layout : Layout) (level : Int) :
    g.surveyWithin g.reach layout level (image n) = f.surveyWithin f.reach layout level n := by
  obtain ⟨extra, grown⟩ := Nat.exists_eq_add_of_le larger
  rw [reach, grown]
  exact twins.surveyWithin (b := 0) shallow here layout level

-- In a forest that is no smaller, a node's twin is written as the node is, or cannot be either.
theorem Twins.outerMarkupRead (twins : Twins f g image good) (shallow : Shallow f.inside f.size n)
    (here : good n) (larger : f.size ≤ g.size) (layout : Layout) (level : Int) :
    g.outerMarkupRead layout level (image n) = f.outerMarkupRead layout level n := by
  have twin := twins.twin n here
  have below {c : NodeId} (member : c ∈ f.inside n) : Shallow f.inside f.size c ∧ good c := by
    obtain ⟨less, size, lower⟩ := shallow.child member
    exact ⟨size ▸ lower.deeper, twins.onward n here c member⟩
  have document : (g.node (image n)).isDocument = (f.node n).isDocument := by
    rw [Node.isDocument, twin.own.name, Node.isDocument]
  have parts : g.parts (image n) = (f.parts n).map image := by
    rw [Forest.parts, Forest.parts, document, twin.kids]
    split <;> rfl
  have survey : (g.parts (image n)).forM (g.surveyWithin g.reach layout level) =
      (f.parts n).forM (f.surveyWithin f.reach layout level) := by
    rw [parts]
    refine forM_image fun c member => ?_
    rcases mem_parts member with rfl | inside
    · exact twins.survey shallow here larger layout level
    · exact twins.survey (below inside).1 (below inside).2 larger layout level
  have outer : g.outerMarkup layout level (image n) = f.outerMarkup layout level n := by
    have each : ((f.kids n).map image).map (g.markup layout level false) =
        (f.kids n).map (f.markup layout level false) := by
      rw [List.map_map]
      refine List.map_congr_left fun c member => ?_
      obtain ⟨lower, well⟩ := below (List.mem_append_left _ member)
      exact twins.markup lower well larger layout level false
    rw [outerMarkup, outerMarkup, document, ← Forest.kids, ← Forest.kids, twin.kids, each,
      twins.markup shallow here larger]
  cases known : f.known n with
  | true =>
    rw [outerMarkupRead_known (twin.known.trans known), outerMarkupRead_known known, survey, outer]
  | false => rw [Forest.outerMarkupRead, Forest.outerMarkupRead, twin.known, known]; rfl

-- Walks and renderings from a node come to an end by themselves: more steps, or more depth, bring
-- nothing more.
structure Ends (f : Forest) (n : NodeId) : Prop where
  walk : ∀ limit, f.depthFirstWithin .templates limit n = (f.depthFirst .templates n).take limit
  text : ∀ limit separator strip, (f.depthFirst .templates n).length ≤ limit →
    (f.node n).kind ≠ .text → f.readableText separator strip n = separator.intercalate
      ((f.depthFirstWithin .templates limit n).filterMap fun c => segment strip (f.node c))
  markup : ∀ extra layout level raw,
    f.markupWithin (f.reach + extra) layout level raw n = f.markup layout level raw n

theorem markup_settled (shallow : Shallow f.inside f.size n) (extra : Nat) (layout : Layout)
    (level : Int) (raw : Bool) :
    f.markupWithin (f.reach + extra) layout level raw n = f.markup layout level raw n := by
  rw [markup, reach, Nat.add_right_comm]
  exact (Twins.self f).markupWithin (b := 0) shallow trivial layout level raw

theorem ends_of_shallow (shallow : Shallow f.inside f.size n) : Ends f n := by
  have narrow : Shallow (f.below .templates) f.reach n :=
    (shallow.more 1).within (below_subset f .templates)
  have stepped (limit : Nat) : f.depthFirstWithin .templates limit n =
      (preorder (f.below .templates) f.reach n).take limit := by
    have stack := forward_eq_take limit [n] fun m member => List.mem_singleton.mp member ▸ narrow
    rwa [List.flatMap_singleton] at stack
  have walked (limit : Nat) :
      f.depthFirstWithin .templates limit n = (f.depthFirst .templates n).take limit := by
    rw [depthFirst, stepped, stepped, extent_eq, List.take_length]
  refine ⟨walked, ?_, markup_settled shallow⟩
  intro limit separator strip enough branch
  rw [walked, List.take_of_length_le enough]
  simp [readableText, branch]

theorem Untangled.ends (untangled : f.Untangled) (n : NodeId) : Ends f n :=
  ends_of_shallow (untangled.shallow n)

theorem Clean.ends (clean : Clean f) (n : NodeId) : Ends f n := clean.untangled.ends n

end Forest
open Forest Relation

-- Through a whole run from the empty forest no node is met below itself, and every walk and every
-- rendering ends, exactly if no move of the run puts a node into what the node holds. The check
-- that goes with a move looks at parents alone, which lead out of no template's content.
theorem untangled_throughout_iff (calls : List Call) (handed : Handed .empty calls) :
    (∀ before later, calls = before ++ later → (Forest.empty.through before).Untangled ∧
        ∀ n, (Forest.empty.through before).Ends n) ↔
      ∀ before call later, calls = before ++ call :: later →
        ¬ call.Encloses (Forest.empty.through before) := by
  have clean : Clean .empty := ⟨⟨empty_owned, empty_housed⟩, empty_untangled⟩
  rw [← clean.through_iff handed]
  constructor
  · intro all before later split
    have reached : Reached (Forest.empty.through before) :=
      Reached.empty.through (split ▸ handed).before
    exact ⟨reached.sound, (all before later split).1⟩
  · intro all before later split
    have here := all before later split
    exact ⟨here.untangled, here.ends⟩

theorem untangled_throughout_paragraph :
    let calls : List Call := [.element (some "template") (some "html"),
      .element (some "p") (some "html"), .move (.append 0 (some 2))]
    Handed .empty calls ∧ (Forest.empty.through calls).Untangled ∧
      ∀ n, (Forest.empty.through calls).Ends n := by
  intro calls
  have handed : Handed .empty calls := by decide
  refine ⟨handed, (untangled_throughout_iff calls handed).mpr ?_ calls [] rfl⟩
  rintro before call later split ⟨move, rfl, _, p, index, replacing, planned, b, joins, way⟩
  dsimp only [calls] at split
  rcases before with _ | ⟨first, _ | ⟨second, _ | ⟨third, before⟩⟩⟩ <;> simp at split
  obtain ⟨rfl, rfl, rfl, rfl⟩ := split
  let f := Forest.empty.through [.element (some "template") (some "html"),
    .element (some "p") (some "html")]
  have block : f.handed (some 2) = [2] := by decide
  have kids : f.kids 2 = [] := by decide
  have content : f.content 2 = none := by decide
  have target : (Move.append 0 (some 2)).plan f = .insert 0 0 false := by decide
  cases target.symm.trans planned
  cases List.mem_singleton.mp (block ▸ joins)
  rcases way.cases_head with same | ⟨c, listed | held, _⟩
  · cases same
  · exact List.not_mem_nil (kids ▸ listed)
  · cases content.symm.trans held

-- A template goes into its own content: it is found below itself, and the walk from it has no end.
theorem template_in_own_content :
    let calls : List Call :=
      [.element (some "template") (some "html"), .move (.append 0 (some 1))]
    Handed .empty calls ∧ TransGen (Forest.empty.through calls).Holds 1 1 ∧
      ∀ limit, ((Forest.empty.through calls).depthFirstWithin .templates limit 1).length =
        limit := by
  intro calls
  have content : (Forest.empty.through calls).content 1 = some 0 := by decide
  have kids : (Forest.empty.through calls).kids 0 = [1] := by decide
  have below : (Forest.empty.through calls).below .templates 1 = [1] := by decide
  refine ⟨by decide, .tail (.single (.inr content)) (.inl (by rw [kids]; simp)), ?_⟩
  intro limit
  unfold depthFirstWithin
  induction limit with
  | zero => rfl
  | succ limit ih => rw [Walk.forward, below, List.append_nil, List.length_cons, ih]

end HtmlTree

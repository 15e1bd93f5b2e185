import HtmlTree.CommandLine
import HtmlTree.Proofs.Legible
import HtmlTree.Proofs.Merged
import HtmlTree.Proofs.Traversals

namespace HtmlTree

namespace Walk

variable {next : NodeId → List NodeId} {ns list : List NodeId} {keep : NodeId → Bool}

-- Nodes that nothing is below may be left out of a walk at any place.
theorem Unfolds.filter (unfolds : Unfolds next ns list)
    (bare : ∀ n, keep n = false → next n = []) :
    Unfolds (fun n => (next n).filter keep) (ns.filter keep) (list.filter keep) := by
  induction unfolds with
  | nil => exact .nil
  | @cons n ns inside later below after inner outer =>
    cases stays : keep n with
    | true =>
      rw [List.filter_cons_of_pos stays, List.filter_cons_of_pos stays, List.filter_append]
      exact .cons inner outer
    | false =>
      have nothing : inside = [] := by
        rw [bare n stays] at below
        cases below
        rfl
      rw [List.filter_cons_of_neg (by simp [stays]), List.filter_cons_of_neg (by simp [stays]),
        nothing, List.nil_append]
      exact outer

end Walk

namespace Forest
open Walk Relation

variable {f g : Forest} {scope : Scope} {a b c d m n : NodeId} {list : List NodeId}

-- A node is held once, by its parent or as the content of one template.
theorem Sound.sole_holder (sound : Sound f) (left : f.Holds a c) (right : f.Holds b c) : a = b := by
  have apart (x y : NodeId) (listed : c ∈ f.kids x) (held : f.content y = some c) : False := by
    have linked := (sound.owned.listed x c).mp listed
    rw [sound.owned.free c (sound.housed.known y c held).2] at linked
    cases linked
  rcases left with listed | held <;> rcases right with listed' | held'
  · exact sound.owned.apart listed listed'
  · exact (apart a b listed held').elim
  · exact (apart b a listed' held).elim
  · exact sound.housed.single a b c held held'

-- A round below a node that nothing holds would have to be entered from outside, but each node on it
-- is held from within it already.
theorem Sound.no_round (sound : Sound f) (unheld : ∀ m, ¬ f.Holds m d)
    (way : ReflTransGen f.Holds d n) : ¬ TransGen f.Holds n n := by
  induction way with
  | refl =>
    intro round
    obtain ⟨m, _, last⟩ := TransGen.tail'_iff.mp round
    exact unheld m last
  | @tail m n _ held ih =>
    intro round
    obtain ⟨k, before, last⟩ := TransGen.tail'_iff.mp round
    rw [sound.sole_holder last held] at before
    exact ih (.head' held before)

theorem Sound.unfolds (sound : Sound f) (unheld : ∀ m, ¬ f.Holds m d) (scope : Scope) :
    Unfolds (f.below scope) [d] (f.depthFirst scope d) := by
  have held {x y : NodeId} (leads : Goes (f.below scope) x y) : TransGen f.Holds x y :=
    holds_of_inside (below_subset f scope x leads)
  have down {m : NodeId} (way : ReflTransGen (Goes (f.below scope)) d m) :
      ReflTransGen f.Holds d m := by
    induction way with
    | refl => exact .refl
    | tail _ leads ih => exact ih.trans (held leads).to_reflTransGen
  have shallow : Shallow (f.below scope) f.size d := by
    refine shallow_of_no_return (fun _ _ => below_known) fun m way again => ?_
    exact sound.no_round unheld (down way) (TransGen.closed (fun _ _ => held) m m again)
  rw [depthFirst_eq shallow.unfolds]
  exact shallow.unfolds

def plain (f : Forest) (n : NodeId) : Bool := !(f.node n).isText

theorem filter_plain (f : Forest) (list : List NodeId) :
    list.filter f.plain = (f.spelled list).filterMap Sum.getLeft? := by
  induction list with
  | nil => rfl
  | cons n list ih =>
    have split : f.spelled (n :: list) = f.spelled [n] ++ f.spelled list := spelled_append f [n] list
    rw [split, List.filterMap_append, ← ih]
    cases text : (f.node n).isText <;>
      simp [plain, text, spelled, Function.comp_def, Sum.getLeft?]

theorem Merged.plain_eq (merged : Merged f g) : g.plain = f.plain := by
  funext n
  rw [plain, plain, merged.isText]

theorem Merged.kids_plain (merged : Merged f g) (n : NodeId) :
    (g.kids n).filter f.plain = (f.kids n).filter f.plain := by
  rw [filter_plain f (f.kids n), ← merged.lists, ← filter_plain, merged.plain_eq]

theorem Merged.content (merged : Merged f g) (n : NodeId) : g.content n = f.content n := by
  rw [Forest.content, merged.kept n, Forest.content]

theorem Merged.below_plain (merged : Merged f g) (scope : Scope) (n : NodeId) :
    (g.below scope n).filter f.plain = (f.below scope n).filter f.plain := by
  have same : g.name n = f.name n := by rw [Forest.name, Node.name, merged.name, Forest.name, Node.name]
  cases scope with
  | visible => exact merged.kids_plain n
  | templates =>
    simp only [below, childrenIn, merged.content, same]
    split
    · split
      · exact merged.kids_plain _
      · exact merged.kids_plain n
    · exact merged.kids_plain n

theorem Regular.below_text (regular : Regular f) (text : f.plain n = false) (scope : Scope) :
    f.below scope n = [] := by
  have text : (f.node n).isText = true := by simpa [plain] using text
  have nothing : f.kids n = [] := by simp [kids, regular.leaf n text]
  have other : f.name n ≠ "template" := by
    intro named
    rw [Node.isText, ← Forest.name, named] at text
    exact absurd text (by decide)
  cases scope with
  | visible => exact nothing
  | templates =>
    simp only [below, childrenIn]
    split
    · rw [if_neg (by simpa using other)]
      exact nothing
    · exact nothing

-- Both walks name the same nodes in the same order, texts apart.
theorem Merged.walk_plain (merged : Merged f g) (before : Regular f) (after : Regular g)
    {lists : List NodeId} (one : Unfolds (f.below scope) [n] list)
    (other : Unfolds (g.below scope) [n] lists) :
    lists.filter f.plain = list.filter f.plain := by
  have bare (m : NodeId) (text : f.plain m = false) : g.below scope m = [] :=
    after.below_text (merged.plain_eq ▸ text) scope
  have left := one.filter fun m text => before.below_text text scope
  have right := other.filter bare
  have same : (fun m => (g.below scope m).filter f.plain) =
      fun m => (f.below scope m).filter f.plain := funext fun m => merged.below_plain scope m
  rw [same] at right
  exact right.unique left

end Forest

namespace Forest
open Markup

variable {f g : Forest} {n : NodeId} {list lists : List NodeId} {depth : Nat} {raw : Bool}
  {layout : Layout}

-- What is written for one piece of a list of children.
def pieceMarkup (f : Forest) (depth : Nat) (raw : Bool) : NodeId ⊕ Char → List Char
  | .inl n => (f.markupWithin depth .flat 0 raw n).toList
  | .inr c => if raw then [c] else Text.escapeTextChar c

theorem markupWithin_text (text : (f.node n).isText = true) :
    (f.markupWithin (depth + 1) .flat 0 raw n).toList =
      (f.node n).ownText.toList.flatMap fun c => f.pieceMarkup (depth + 1) raw (.inr c) := by
  have written : f.markupWithin (depth + 1) .flat 0 raw n =
      textMarkup .flat 0 raw (f.node n).ownText := by simp [markupWithin, text]
  rw [written, textMarkup_flat]
  cases raw with
  | true => simp [pieceMarkup]
  | false => simp [pieceMarkup, Text.escapeText]

-- Texts are written character by character, so the markup of a list does not show where one ends.
theorem join_spelled (list : List NodeId) :
    (String.join (list.map (f.markupWithin (depth + 1) .flat 0 raw))).toList =
      (f.spelled list).flatMap (f.pieceMarkup (depth + 1) raw) := by
  rw [String.toList_join, spelled, List.flatMap_map, List.flatMap_assoc]
  refine List.flatMap_congr fun n _ => ?_
  split
  · rename_i text
    rw [markupWithin_text text, List.flatMap_map]
  · rw [List.flatMap_singleton]
    rfl

theorem plain_of_spelled (piece : .inl n ∈ f.spelled list) : n ∈ list ∧ f.plain n = true := by
  obtain ⟨m, listed, shown⟩ := List.mem_flatMap.mp piece
  cases text : (f.node m).isText with
  | true => simp [text] at shown
  | false =>
    obtain rfl : n = m := by simpa [text] using shown
    exact ⟨listed, by simp [plain, text]⟩

theorem join_congr (raw : Bool) (reads : g.spelled lists = f.spelled list)
    (each : ∀ n raw, f.plain n = true →
      g.markupWithin depth .flat 0 raw n = f.markupWithin depth .flat 0 raw n) :
    String.join (lists.map (g.markupWithin depth .flat 0 raw)) =
      String.join (list.map (f.markupWithin depth .flat 0 raw)) := by
  refine String.toList_injective ?_
  cases depth with
  | zero =>
    have silent (h : Forest) (ns : List NodeId) :
        (String.join (ns.map (h.markupWithin 0 .flat 0 raw))).toList = [] := by
      rw [String.toList_join, List.flatMap_map]
      exact List.flatMap_eq_nil_iff.mpr fun _ _ => rfl
    rw [silent, silent]
  | succ depth =>
    rw [join_spelled, join_spelled, reads]
    refine List.flatMap_congr fun piece among => ?_
    cases piece with
    | inl n => exact congrArg String.toList (each n raw (plain_of_spelled among).2)
    | inr c => rfl

theorem Merged.plain_node (merged : Merged f g) (plain : f.plain n = true) :
    g.node n = (f.node n).relink (g.parent n) (g.children n) := by
  have data : g.data n = f.data n := merged.data n (by simpa [Forest.plain] using plain)
  rw [Forest.data, Forest.data] at data
  rw [merged.kept n, data]
  rfl

theorem Merged.reach (merged : Merged f g) : g.reach = f.reach := by
  rw [Forest.reach, Forest.reach, merged.size]

theorem Merged.written (merged : Merged f g) (n : NodeId) :
    g.spelled (g.writtenChildren n) = f.spelled (f.writtenChildren n) := by
  unfold writtenChildren
  rw [merged.content]
  split
  · exact merged.lists _
  · exact merged.lists n

-- The markup of a node on one line, given that of its children and of what is written inside it.
def lineMarkup (node : Node) (raw : Bool) (listed written : Bool → String) : String :=
  if node.isText then textMarkup .flat 0 raw node.ownText
  else if node.isComment then commentMarkup node.ownText
  else if node.name = Node.doctypeName then doctypeMarkup node.ownText
  else if node.isFragment then listed false
  else startTag node.name (node.attrs.getD .empty) ++
    if voidNames.contains node.name then "" else written (isRawText node) ++ endTag node.name

theorem markupWithin_line (f : Forest) (depth : Nat) (n : NodeId) (raw : Bool) :
    f.markupWithin (depth + 1) .flat 0 raw n = lineMarkup (f.node n) raw
      (fun raw => String.join ((f.kids n).map (f.markupWithin depth .flat 0 raw)))
      (fun raw => String.join ((f.writtenChildren n).map (f.markupWithin depth .flat 0 raw))) := by
  have indent (markup : String) : Layout.flat.indent 0 ++ markup = markup := String.empty_append
  cases text : (f.node n).isText with
  | true => simp [lineMarkup, markupWithin, text]
  | false =>
    cases comment : (f.node n).isComment with
    | true => simp [lineMarkup, markupWithin, text, comment, indent]
    | false =>
      by_cases doctype : (f.node n).name = Node.doctypeName
      · simp [lineMarkup, markupWithin, text, comment, doctype, indent]
      · cases fragment : (f.node n).isFragment with
        | true =>
          refine String.toList_injective ?_
          simp only [lineMarkup, text, comment, doctype, fragment, if_true, if_false,
            Bool.false_eq_true]
          rw [String.toList_join, ← toList_join_flat]
          simp [markupWithin, text, comment, doctype, fragment, kids, children]
        | false =>
          rw [markupWithin_tagged text comment doctype fragment]
          simp [lineMarkup, text, comment, doctype, fragment]

-- On one line a node is written as before, however deep the markup goes.
theorem Merged.markupWithin (merged : Merged f g) (depth : Nat) (n : NodeId) (raw : Bool)
    (plain : f.plain n = true) :
    g.markupWithin depth .flat 0 raw n = f.markupWithin depth .flat 0 raw n := by
  induction depth generalizing n raw with
  | zero => rfl
  | succ depth ih =>
    have each (m : NodeId) (raw : Bool) := ih m raw
    have listed (raw : Bool) := join_congr raw (merged.lists n) each
    have written (raw : Bool) := join_congr raw (merged.written n) each
    rw [markupWithin_line, markupWithin_line, merged.plain_node plain]
    simp only [listed, written]
    rfl

-- Where nothing is laid out, neither the level nor the step matters.
theorem join_single (single : layout.pretty = false) (parts : List String) :
    layout.join parts = String.join parts := by
  refine String.toList_injective ?_
  rw [Layout.join, single, String.toList_join, List.flatMap_def, ← intercalate_unspaced]
  exact String.toList_intercalate

theorem markupWithin_single (single : layout.pretty = false) (level : Int) (raw : Bool) :
    f.markupWithin depth layout level raw n = f.markupWithin depth .flat 0 raw n := by
  induction depth generalizing level raw n with
  | zero => rfl
  | succ depth ih =>
    have flat : Layout.flat.pretty = false := rfl
    have each (level : Int) (raw : Bool) (ns : List NodeId) :
        ns.map (f.markupWithin depth layout level raw) =
          ns.map (f.markupWithin depth .flat 0 raw) :=
      List.map_congr_left fun m _ => ih level raw
    simp [markupWithin, textMarkup, Layout.indent, Layout.join, single, flat, each]

theorem outerMarkup_single (single : layout.pretty = false) (level : Int) (n : NodeId) :
    f.outerMarkup layout level n =
      if (f.node n).isDocument then
        String.join ((f.kids n).map (f.markupWithin f.reach .flat 0 false))
      else f.markupWithin f.reach .flat 0 false n := by
  have each : f.markup layout level false = f.markupWithin f.reach .flat 0 false :=
    funext fun m => markupWithin_single single level false
  simp [outerMarkup, each, join_single single, single, kids]

theorem Merged.outerMarkup (merged : Merged f g) (plain : f.plain n = true)
    (single : layout.pretty = false) (level : Int) :
    g.outerMarkup layout level n = f.outerMarkup layout level n := by
  have document : (g.node n).isDocument = (f.node n).isDocument := by
    rw [merged.plain_node plain]
    rfl
  have listed := join_congr false (merged.lists n) fun m raw =>
    merged.markupWithin f.reach m raw
  rw [outerMarkup_single single, outerMarkup_single single, document, merged.reach, listed,
    merged.markupWithin f.reach n false plain]

theorem plain_element (tag : (f.node n).isElement = true) : f.plain n = true := by
  refine Bool.not_eq_true' _ |>.mpr (Bool.eq_false_iff.mpr fun named => ?_)
  rw [Node.isElement, eq_of_beq named] at tag
  exact absurd tag (by decide)

end Forest

namespace Search
open Walk

variable {check other : NodeId → Check} {list : List NodeId} {failure : Option Failure}
  {trace : Trace} {n : NodeId}

theorem every_congr (same : ∀ n ∈ list, check n = other n) :
    every check failure list trace = every other failure list trace := by
  induction list generalizing trace with
  | nil => rfl
  | cons n list ih =>
    have rest (trace : Trace) : every check failure list trace = every other failure list trace :=
      ih fun m member => same m (List.mem_cons_of_mem _ member)
    simp only [every, same n List.mem_cons_self, rest]

-- What is refused without a trace may as well not be asked.
theorem every_filter {keep : NodeId → Bool}
    (refused : ∀ n ∈ list, keep n = false → ∀ trace, check n trace = .ok false trace) :
    every check failure list trace = every check failure (list.filter keep) trace := by
  induction list generalizing trace with
  | nil => rfl
  | cons n list ih =>
    have rest (trace : Trace) : every check failure list trace =
        every check failure (list.filter keep) trace :=
      ih fun m member => refused m (List.mem_cons_of_mem _ member)
    cases stays : keep n with
    | true =>
      rw [List.filter_cons_of_pos stays]
      simp only [every, rest]
    | false =>
      rw [List.filter_cons_of_neg (by simp [stays])]
      simp only [every, refused n List.mem_cons_self stays, rest]

theorem every_passed (found : n ∈ (every check failure list trace).1.items) :
    ∃ before after, check n before = .ok true after := by
  induction list generalizing trace with
  | nil => cases found
  | cons m list ih =>
    unfold every at found
    split at found
    · rename_i after passed
      rcases List.mem_cons.mp found with rfl | later
      · exact ⟨_, _, passed⟩
      · exact ih later
    · exact ih found
    · cases found

end Search

namespace Predicate

variable {f g : Forest} {n : NodeId} {part : Predicate} {parts : List Predicate} {trace after : Trace}

-- Conditions that ask a node for nothing but its name and its attributes.
def Outward : Predicate → Prop
  | .tag _ | .attr _ | .attrValue _ _ | .attrWord _ _ => True
  | _ => False

-- Nodes that look alike from outside.
structure Alike (f g : Forest) (n : NodeId) : Prop where
  known : g.known n = f.known n
  name : (g.node n).name? = (f.node n).name?
  attrs : (g.node n).attrs = (f.node n).attrs

theorem Alike.testElement (alike : Alike f g n) {property : Node → Bool}
    (outward : property (g.node n) = property (f.node n)) :
    testElement g n property = testElement f n property := by
  have named : (g.node n).isNamed = (f.node n).isNamed := by
    rw [Node.isNamed, alike.name, Node.isNamed]
  have element : (g.node n).isElement = (f.node n).isElement := by
    rw [Node.isElement, Node.name, alike.name, Node.isElement, Node.name]
  rw [Predicate.testElement, Predicate.testElement, alike.known, named, element, outward]

theorem Alike.check (alike : Alike f g n) (outward : part.Outward) :
    check g part n = check f part n := by
  have attrs : g.attrs n = f.attrs n := alike.attrs
  cases part with
  | tag name =>
    refine alike.testElement ?_
    simp only [Node.name, alike.name]
  | attr name => rw [Predicate.check, Predicate.check, attrs]
  | attrValue name value => rw [Predicate.check, Predicate.check, attrs]
  | attrWord name word => rw [Predicate.check, Predicate.check, attrs]
  | _ => exact outward.elim

theorem Alike.checkAll (alike : Alike f g n) (outward : ∀ part ∈ parts, part.Outward) :
    checkAll g parts n = checkAll f parts n := by
  induction parts with
  | nil => rfl
  | cons part parts ih =>
    have rest := ih fun other member => outward other (List.mem_cons_of_mem _ member)
    rw [Predicate.checkAll, Predicate.checkAll, alike.check (outward part List.mem_cons_self), rest]

theorem Alike.onElements (alike : Alike f g n) (outward : ∀ part ∈ parts, part.Outward) :
    Predicate.check g (onElements (.all parts)) n = Predicate.check f (onElements (.all parts)) n := by
  have element : Predicate.check g .element n = Predicate.check f .element n := by
    rw [Predicate.check, Predicate.check]
    exact alike.testElement rfl
  have all : Predicate.check g (.all parts) n = Predicate.check f (.all parts) n := by
    rw [Predicate.check, Predicate.check, alike.checkAll outward]
  simp only [Predicate.onElements, Predicate.check, Predicate.checkAll] at element all ⊢
  rw [element, all]

-- A text is refused before anything else is asked.
theorem onElements_text (known : f.known n = true) (named : (f.node n).isNamed = true)
    (text : (f.node n).isText = true) (trace : Trace) :
    check f (onElements part) n trace = .ok false trace := by
  have other : (f.node n).isElement = false := by
    rw [Node.isElement, eq_of_beq text]
    rfl
  simp [onElements, check, checkAll, testElement, known, named, other]
  rfl

theorem onElements_passed (passed : check f (onElements part) n trace = .ok true after) :
    (f.node n).isElement = true := by
  by_contra other
  have other : (f.node n).isElement = false := by simpa using other
  by_cases told : (f.known n && (f.node n).isNamed) = true
  · simp only [onElements, check, checkAll, testElement, told, other, if_true, Bool.false_and] at passed
    cases passed
  · simp only [onElements, check, checkAll, testElement, told] at passed
    cases passed

end Predicate

namespace Forest
open Walk

variable {f g : Forest} {d n : NodeId} {scope : Scope} {parts : List Predicate} {trace : Trace}

-- A document stands by itself: it has no parent, and it is no fragment that a template could hold.
structure Solitary (f : Forest) (d : NodeId) : Prop where
  known : f.known d = true
  document : (f.node d).isDocument = true
  free : f.parent d = none

theorem Solitary.unheld (alone : Solitary f d) (sound : Sound f) : ∀ m, ¬ f.Holds m d := by
  intro m held
  rcases held with listed | content
  · have linked := (sound.owned.listed m d).mp listed
    rw [alone.free] at linked
    cases linked
  · have fragment := (sound.housed.known m d content).2
    rw [Node.isFragment, eq_of_beq alone.document] at fragment
    exact absurd fragment (by decide)

theorem Solitary.trail (alone : Solitary f d) (sound : Sound f) (scope : Scope) :
    f.trail scope d = ⟨f.depthFirst scope d, none⟩ :=
  sound.owned.linked.trail_unfolds alone.known (sound.unfolds (alone.unheld sound) scope)

theorem Solitary.merged (alone : Solitary f d) (merged : Merged f g) : Solitary g d := by
  refine ⟨(merged.known d).trans alone.known, ?_, ?_⟩
  · rw [Node.isDocument, Node.name, merged.name]
    exact alone.document
  · cases linked : g.parent d with
    | none => rfl
    | some p => cases alone.free.symm.trans (merged.parent d p linked)

theorem Merged.alike (merged : Merged f g) (n : NodeId) : Predicate.Alike f g n :=
  ⟨merged.known n, merged.name n, by rw [merged.kept n]⟩

-- A search for elements by names and attributes asks texts in vain.
theorem Solitary.found (alone : Solitary f d) (regular : Regular f) (scope : Scope) :
    f.queryAll scope (.all parts) d trace =
      Search.every (Predicate.check f (Predicate.onElements (.all parts))) none
        ((f.depthFirst scope d).filter f.plain) trace := by
  have unfolds := regular.sound.unfolds (alone.unheld regular.sound) scope
  rw [queryAll, walkAll, Search.everyOnTrail, alone.trail regular.sound]
  refine Search.every_filter fun n member text => ?_
  have known := regular.sound.owned.linked.unfolds_known alone.known unfolds n member
  refine Predicate.onElements_text known (regular.named n) ?_
  simpa [plain] using text

theorem Merged.queryAll (merged : Merged f g) (before : Regular f) (after : Regular g)
    (alone : Solitary f d) (outward : ∀ part ∈ parts, part.Outward) :
    g.queryAll scope (.all parts) d trace = f.queryAll scope (.all parts) d trace := by
  have still := alone.merged merged
  rw [still.found after, alone.found before, merged.plain_eq, merged.walk_plain before after
    (before.sound.unfolds (alone.unheld before.sound) scope)
    (after.sound.unfolds (still.unheld after.sound) scope)]
  exact Search.every_congr fun n _ => (merged.alike n).onElements outward

theorem queryAll_element (found : n ∈ (f.queryAll scope (.all parts) d trace).1.items) :
    (f.node n).isElement = true := by
  obtain ⟨_, _, passed⟩ := Search.every_passed found
  exact Predicate.onElements_passed passed

end Forest

namespace CommandLine.Command
open Forest

variable {f g : Forest} {d : NodeId} {rule : Predicate}

theorem attributeRule_outward (option : String) : (attributeRule option).Outward := by
  unfold attributeRule
  split <;> trivial

theorem attributeRules_outward {options : List (Option String)} {rules : List Predicate}
    (given : options.mapM (fun option => option.map attributeRule) = some rules) :
    ∀ part ∈ rules, part.Outward := by
  induction options generalizing rules with
  | nil =>
    obtain rfl : [] = rules := by simpa using given
    simp
  | cons option options ih =>
    simp only [List.mapM_cons, Option.bind_eq_bind, Option.bind_eq_some_iff, Option.map_eq_some_iff]
      at given
    obtain ⟨_, ⟨name, _, rfl⟩, later, rest, same⟩ := given
    cases same
    intro part member
    rcases List.mem_cons.mp member with rfl | member
    · exact attributeRule_outward name
    · exact ih rest part member

theorem predicate_outward {c : Command} (given : c.predicate? = some rule) :
    ∃ parts, rule = .all parts ∧ ∀ part ∈ parts, part.Outward := by
  simp only [predicate?, Option.bind_eq_bind, Option.bind_eq_some_iff] at given
  obtain ⟨attrs, rules, same⟩ := given
  cases same
  refine ⟨_, rfl, fun part member => ?_⟩
  rcases List.mem_append.mp member with front | last
  · rcases List.mem_append.mp front with tag | word
    · split at tag
      · split at tag
        · cases tag
        · cases List.mem_singleton.mp tag
          trivial
      · cases tag
    · split at word
      · split at word
        · cases word
        · cases List.mem_singleton.mp word
          trivial
      · cases word
  · exact attributeRules_outward rules part last

-- What a report says of merged texts and what it says of them apart.
theorem report_merged (c : Command) (html : c.format = .html) (merged : Merged f g)
    (before : Regular f) (after : Regular g) (alone : Solitary f d)
    (given : c.predicate? = some rule) :
    (c.report rule d g).status = (c.report rule d f).status ∧
      (c.report rule d g).out = (c.report rule d f).out := by
  obtain ⟨parts, rfl, outward⟩ := predicate_outward given
  have found : g.queryAll c.scope (.all parts) d [] = f.queryAll c.scope (.all parts) d [] :=
    merged.queryAll before after alone outward
  have shown (ns : List NodeId)
      (among : ns ⊆ (f.queryAll c.scope (.all parts) d []).1.items) :
      ns.map (c.rendering g) = ns.map (c.rendering f) := by
    refine List.map_congr_left fun n member => ?_
    simp only [rendering, html]
    exact merged.outerMarkup (plain_element (queryAll_element (among member))) rfl 0
  unfold report
  rw [found]
  dsimp only
  split
  · exact ⟨rfl, rfl⟩
  · refine ⟨rfl, ?_⟩
    dsimp only
    split
    · rw [shown _ (List.take_subset 1 _)]
    · rw [shown _ (List.Subset.refl _)]

end CommandLine.Command

end HtmlTree

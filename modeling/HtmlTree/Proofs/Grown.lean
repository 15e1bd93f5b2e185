import HtmlTree.Proofs.Invisible

-- What holds wherever a computation succeeds. Where it fails nothing is said.
namespace EStateM

variable {ε σ α β : Type} {holds : σ → Prop} {good : α → Prop} {fine : β → Prop}

def Grants (holds : σ → Prop) (e : EStateM ε σ α) (good : α → Prop) : Prop :=
  ∀ s value t, holds s → e s = .ok value t → holds t ∧ good value

theorem Grants.pure {value : α} (fits : good value) :
    Grants holds (pure value : EStateM ε σ α) good := by
  intro s _ t held ran
  cases ran
  exact ⟨held, fits⟩

theorem Grants.throw (failure : ε) : Grants holds (throw failure : EStateM ε σ α) good :=
  fun _ _ _ _ ran => nomatch ran

theorem Grants.get : Grants holds (get : EStateM ε σ σ) holds := by
  intro s _ t held ran
  cases ran
  exact ⟨held, held⟩

theorem Grants.modify {change : σ → σ} (kept : ∀ s, holds s → holds (change s)) :
    Grants holds (modify change : EStateM ε σ PUnit) fun _ => True := by
  intro s _ t held ran
  cases ran
  exact ⟨kept s held, trivial⟩

theorem Grants.bind {e : EStateM ε σ α} {next : α → EStateM ε σ β} (first : Grants holds e good)
    (rest : ∀ value, good value → Grants holds (next value) fine) :
    Grants holds (e >>= next) fine := by
  intro s last t held ran
  cases step : e s with
  | error failure u => simp [Bind.bind, EStateM.bind, step] at ran
  | ok value u =>
    obtain ⟨still, fits⟩ := first s value u held step
    refine rest value fits u last t still ?_
    simpa [Bind.bind, EStateM.bind, step] using ran

theorem Grants.map {e : EStateM ε σ α} {change : α → β} (first : Grants holds e good)
    (carries : ∀ value, good value → fine (change value)) : Grants holds (change <$> e) fine := by
  intro s last t held ran
  cases step : e s with
  | error failure u => simp [Functor.map, EStateM.map, step] at ran
  | ok value u =>
    obtain ⟨still, fits⟩ := first s value u held step
    simp only [Functor.map, EStateM.map, step] at ran
    cases ran
    exact ⟨still, carries value fits⟩

theorem Grants.discard {e : EStateM ε σ α} (first : Grants holds e good) :
    Grants holds (discard e : EStateM ε σ PUnit) fun _ => True :=
  first.map fun _ _ => trivial

theorem Grants.forM {ns : List α} {visit : α → EStateM ε σ PUnit}
    (each : ∀ n ∈ ns, Grants holds (visit n) fun _ => True) :
    Grants holds (ns.forM visit) fun _ => True := by
  induction ns with
  | nil => exact .pure trivial
  | cons n ns ih =>
    refine (each n List.mem_cons_self).bind fun _ _ => ih fun m member => ?_
    exact each m (List.mem_cons_of_mem _ member)

end EStateM

namespace HtmlTree

namespace Forest
open Edit

variable {f g : Forest} {d m n p : NodeId} {place : Nat} {block gone list : List NodeId}
  {new : Option NodeId}

-- A regular forest in which a document stands by itself.
structure Planted (d : NodeId) (f : Forest) : Prop where
  regular : Regular f
  alone : Solitary f d

-- What a new node has to be for a forest to stay regular with it.
structure Proper (new : Node) : Prop where
  shaped : new.Shaped
  named : new.isNamed = true
  leaf : new.isText = true → new.children = none

theorem Planted.alloc (planted : Planted d f) {new : Node} (proper : Proper new)
    (sound : Sound (f.alloc new).2) : Planted d (f.alloc new).2 := by
  have inside := known_iff.mp planted.alone.known
  have same : (f.alloc new).2.node d = f.node d := node_alloc_old f new d inside
  refine ⟨⟨sound, ?_, ?_, ?_⟩, ?_, ?_, ?_⟩
  · intro n
    rw [node_alloc]
    split
    · exact proper.shaped
    · exact planted.regular.shaped n
  · intro n
    rw [node_alloc]
    split
    · exact proper.named
    · exact planted.regular.named n
  · intro n
    rw [children, node_alloc]
    split
    · exact proper.leaf
    · exact planted.regular.leaf n
  · rw [known_iff, size_alloc]
    exact Nat.lt_succ_of_lt inside
  · rw [same]
    exact planted.alone.document
  · rw [parent, same]
    exact planted.alone.free

theorem Planted.relinked (planted : Planted d f) (owns : f.children p = some list)
    (relinked : Relinked f g p place block gone) (sound : Sound g) (outside : d ∉ block) :
    Planted d g := by
  have name (m : NodeId) : (g.node m).name? = (f.node m).name? := by rw [relinked.node m]; rfl
  have kind (m : NodeId) : (g.node m).kind = (f.node m).kind := by rw [relinked.node m]; rfl
  have listed (m : NodeId) : (g.children m).isSome = (f.children m).isSome := by
    rw [children, relinked.node m, Node.relink_children]
    split
    · rename_i here
      rw [here, owns]
      rfl
    · rw [Option.isSome_map]
  refine ⟨⟨sound, ?_, ?_, ?_⟩, ?_, ?_, ?_⟩
  · intro m
    have shape := planted.regular.shaped m
    refine ⟨fun leaf => ?_, fun branch other another => ?_⟩
    · rw [name]
      exact shape.leaf (kind m ▸ leaf)
    · rw [Node.name, name, ← Node.name] at other another
      exact (listed m).trans (shape.branch (kind m ▸ branch) other another)
  · intro m
    rw [Node.isNamed, name]
    exact planted.regular.named m
  · intro m text
    rw [Node.isText, Node.name, name, ← Node.name, ← Node.isText] at text
    have bare := listed m
    rw [planted.regular.leaf m text] at bare
    exact Option.not_isSome_iff_eq_none.mp (by simp [bare])
  · rw [Forest.known, relinked.size]
    exact planted.alone.known
  · rw [Node.isDocument, Node.name, name]
    exact planted.alone.document
  · rw [relinked.parent, if_neg outside, planted.alone.free, ite_self]

-- Data and attributes may change.
theorem Planted.touched (planted : Planted d f) (size : g.size = f.size)
    (reads : ∀ m, ∃ data attrs table,
      g.node m = { f.node m with data := data, attrs := attrs, table := table }) : Planted d g := by
  have sound : Sound g := planted.regular.sound.same <| .of_nodes_alike size fun m => by
    obtain ⟨data, attrs, table, read⟩ := reads m
    rw [read]
    exact ⟨rfl, rfl, rfl, rfl⟩
  refine ⟨⟨sound, ?_, ?_, ?_⟩, ?_, ?_, ?_⟩
  · intro m
    obtain ⟨data, attrs, table, read⟩ := reads m
    rw [read]
    exact ⟨(planted.regular.shaped m).leaf, (planted.regular.shaped m).branch⟩
  · intro m
    obtain ⟨data, attrs, table, read⟩ := reads m
    rw [read]
    exact planted.regular.named m
  · intro m
    obtain ⟨data, attrs, table, read⟩ := reads m
    rw [children, read]
    exact planted.regular.leaf m
  · rw [known_iff, size]
    exact known_iff.mp planted.alone.known
  · obtain ⟨data, attrs, table, read⟩ := reads d
    rw [read]
    exact planted.alone.document
  · obtain ⟨data, attrs, table, read⟩ := reads d
    rw [parent, read]
    exact planted.alone.free

theorem Planted.setData (planted : Planted d f) (data : Option String) :
    Planted d (f.setData n data) := by
  refine planted.touched (size_update f n _) fun m => ?_
  by_cases known : f.known n = true
  · rw [Forest.setData, node_update known]
    split
    · exact ⟨_, _, _, rfl⟩
    · exact ⟨_, _, _, rfl⟩
  · rw [Forest.setData, update_unknown (Bool.eq_false_iff.mpr known)]
    exact ⟨_, _, _, rfl⟩

theorem Planted.retabled (planted : Planted d f) (retabled : Retabled f g) : Planted d g := by
  refine planted.touched retabled.size fun m => ?_
  obtain ⟨attrs, table, read⟩ := retabled.node m
  exact ⟨_, attrs, table, read⟩

-- The document is no child, so it can only be put somewhere if it is handed over itself.
theorem Planted.not_handed (planted : Planted d f) (other : ∀ n ∈ new, n ≠ d) :
    d ∉ f.handed new := by
  intro joins
  obtain ⟨n, given, ⟨_, listed⟩ | ⟨_, rfl⟩⟩ := mem_handed.mp joins
  · have linked := (planted.regular.sound.owned.listed n d).mp listed
    rw [planted.alone.free] at linked
    cases linked
  · exact other d given rfl

end Forest

namespace Edit
open Forest EStateM

variable {f g : Forest} {d n p : NodeId} {new : Option NodeId} {index : Int} {replacing : Bool}
  {value : Option NodeId}

theorem adopt_unknown (unknown : f.known n = false) : adopt p [n] f = .error .noNode f := by
  simp [adopt, bind_run, unknown]

theorem splice_block {reference : Option NodeId} {nodes block : List NodeId} {width : Nat}
    (ran : splice p reference (some block) width f = .ok nodes g) :
    nodes = block ∧ g.size = f.size := by
  cases owns : f.children p with
  | none =>
    rw [splice, bind_run, owned_barren owns] at ran
    cases ran
  | some list =>
    cases reference with
    | none =>
      simp only [splice, bind_run, owned_run owns, pure_run] at ran
      cases ran
      exact ⟨rfl, size_setChildren _⟩
    | some r =>
      cases found : list.idxOf? r with
      | none =>
        simp only [splice, bind_run, owned_run owns, found, throw_run] at ran
        cases ran
      | some i =>
        simp only [splice, bind_run, owned_run owns, found, pure_run] at ran
        cases ran
        exact ⟨rfl, size_setChildren _⟩

-- What is no node would be listed before it is found out, but then the insertion fails.
theorem settling_unknown {reference removed : Option NodeId} {width : Nat}
    (unknown : f.known n = false) :
    settling p reference removed width (some [n]) f ≠ .ok value g := by
  intro ran
  rw [settling, bind_run] at ran
  cases spliced : splice p reference (some [n]) width f with
  | error failure h =>
    rw [spliced] at ran
    cases ran
  | ok nodes h =>
    obtain ⟨rfl, size⟩ := splice_block spliced
    have still : h.known n = false := by rw [Forest.known, size]; exact unknown
    rw [spliced] at ran
    simp only [bind_run, adopt_unknown still] at ran
    cases ran

theorem insertNode_knows (ran : insertNode p index new replacing f = .ok value g) :
    ∀ n ∈ new, f.known n = true := by
  rintro n rfl
  by_contra unknown
  have unknown : f.known n = false := Bool.eq_false_iff.mpr unknown
  cases owns : f.children p with
  | none => cases ran.symm.trans (insertNode_barren owns)
  | some list =>
    by_cases inside : InRange list index replacing
    swap
    · cases ran.symm.trans (insertNode_outside owns inside)
    have other : ¬ (replacing = true ∧ some n = removedBy f list index replacing) := by
      rintro ⟨rfl, itself⟩
      have known := (Option.mem_filter_iff.mp itself.symm).2
      cases unknown.symm.trans known
    have bare := node_unknown unknown
    have plain : (f.node n).isFragment = false := by rw [bare]; rfl
    have free : f.parent n = none := by rw [Forest.parent, bare]; rfl
    rw [insertNode_begun owns inside other, bind_run, freeing] at ran
    by_cases circular : n ∈ f.ancestors p
    · rw [release_circular circular] at ran
      cases ran
    · rw [release_free circular plain free] at ran
      exact settling_unknown unknown ran

theorem insertNode_planted (planted : Planted d f) (other : ∀ n ∈ new, n ≠ d)
    (ran : insertNode p index new replacing f = .ok value g) : Planted d g := by
  have sound := planted.regular.sound
  rcases insertNode_cases sound.owned p index new replacing (insertNode_knows ran) with
    ⟨failure, h, failed, _⟩ | ⟨found, same, _⟩ | ⟨list, h, owns, clear, moved, relinked⟩
  · cases ran.symm.trans failed
  · cases ran.symm.trans same
    exact planted
  · cases ran.symm.trans moved
    refine planted.relinked owns relinked ?_ (planted.not_handed other)
    exact sound.relinked relinked (by simp) (sound.owned.handed_admitted clear)

theorem detach_planted (planted : Planted d f) (ran : detach n f = .ok () g) : Planted d g := by
  have sound := planted.regular.sound
  cases linked : f.parent n with
  | none =>
    cases known : f.known n with
    | false => cases ran.symm.trans (detach_unknown known)
    | true =>
      cases ran.symm.trans (detach_free known linked)
      exact planted
  | some q =>
    obtain ⟨h, moved, relinked⟩ := detach_owned sound.owned linked
    cases ran.symm.trans moved
    obtain ⟨list, owns, _⟩ := sound.owned.children_of_parent linked
    exact planted.relinked owns relinked (sound.relinked relinked (by simp) admitted_nil) (by simp)

theorem make_grants {new : Node} (bare : new.Bare) (proper : Proper new) :
    Grants (Planted d) (make new) (· ≠ d) := by
  intro f n g planted ran
  cases ran
  have sound := make_keeps sound_stable bare f planted.regular.sound
  exact ⟨planted.alloc proper sound, Nat.ne_of_gt (known_iff.mp planted.alone.known)⟩

theorem newPlain_proper {name : String} (data : Option String) (other : name ≠ Node.textName) :
    Proper (.newPlain name none data none) := by
  have named := Node.newPlain_name name none data none
  refine ⟨(Node.Made.plain name none data none).shaped, ?_, fun text => ?_⟩
  · rw [Node.isNamed, named]
    rfl
  · have same : name = Node.textName := by
      simpa [Node.isText, Node.name, named] using text
    exact absurd same other

theorem newPlain_grants {name : String} (data : Option String) (other : name ≠ Node.textName) :
    Grants (Planted d) (make (.newPlain name none data none)) (· ≠ d) :=
  make_grants (Node.newPlain_bare name none data none) (newPlain_proper data other)

theorem newText_grants (data : Option String) : Grants (Planted d) (make (.newText data)) (· ≠ d) :=
  make_grants ⟨rfl, rfl, rfl⟩ ⟨(Node.Made.text data).shaped, rfl, fun _ => rfl⟩

theorem makeElement_grants {name : String} (ns : Option String) (other : name ≠ Node.textName) :
    Grants (Planted d) (makeElement (some name) ns) (· ≠ d) := by
  have unlike (node : Node) (named : node.name? = some name) : node.isText = true → False := by
    intro text
    have same : name = Node.textName := by simpa [Node.isText, Node.name, named] using text
    exact other same
  unfold makeElement
  split
  · rename_i template
    obtain rfl : ns = some "html" := by simpa using And.right (by simpa using template)
    intro f n g planted ran
    cases ran
    have fragment := make_grants (d := d) (Node.newPlain_bare Node.fragmentName none none none)
      (newPlain_proper none (by decide)) f _ _ planted rfl
    have sound := makeTemplate_keeps sound_stable (some name) none (some "html") f
      planted.regular.sound
    refine ⟨fragment.1.alloc ⟨(Node.Made.template _ _ _ _).shaped, rfl, fun text => ?_⟩ sound, ?_⟩
    · exact (unlike _ rfl text).elim
    · exact Nat.ne_of_gt (known_iff.mp fragment.1.alone.known)
  · refine make_grants ⟨rfl, rfl, rfl⟩ ⟨(Node.Made.element _ _ _).shaped, rfl, fun text => ?_⟩
    exact (unlike _ rfl text).elim

theorem Plan.run_grants (other : ∀ n ∈ new, n ≠ d) (plan : Plan) :
    Grants (Planted d) (plan.run new) fun _ => True := by
  cases plan with
  | refuse failure => exact .throw failure
  | detach n => exact fun f _ g planted ran => ⟨detach_planted planted ran, trivial⟩
  | insert p index replacing =>
    have granted : Grants (Planted d) (insertNode p index new replacing) fun _ => True :=
      fun f _ g planted ran => ⟨insertNode_planted planted other ran, trivial⟩
    exact granted.discard

theorem Move.run_grants (move : Move) (other : ∀ n ∈ move.given, n ≠ d) :
    Grants (Planted d) move.run fun _ => True := by
  intro f value g planted ran
  rw [move.run_plan f] at ran
  exact Plan.run_grants other (move.plan f) f value g planted ran

theorem append_grants (p : NodeId) (other : ∀ n ∈ new, n ≠ d) :
    Grants (Planted d) (append p new) fun _ => True :=
  Move.run_grants (.append p new) other

theorem insertBefore_grants (p : NodeId) (reference : Option NodeId) (other : ∀ n ∈ new, n ≠ d) :
    Grants (Planted d) (insertBefore p reference new) fun _ => True :=
  Move.run_grants (.before p reference new) other

end Edit

-- A site that is not the document, and is not called like text.
structure Site.Fits (d : NodeId) (s : Site) : Prop where
  other : s.node ≠ d
  named : s.name ≠ Node.textName

namespace Builder
open Forest EStateM

variable {α β : Type} {d : NodeId} {b : Builder} {good : α → Prop}

-- A builder whose document stands by itself in a regular forest.
structure Grown (d : NodeId) (b : Builder) : Prop where
  document : b.document.node = d
  planted : Planted d b.forest

theorem fresh_grown : Grown 0 (.fresh .empty) := by
  have bare (n : NodeId) : Forest.empty.node n = Node.newText none := by simp [node, Forest.empty]
  have proper : Proper .newDocument := Edit.newPlain_proper none (by decide)
  have sound : Sound (Forest.empty.alloc .newDocument).2 :=
    Edit.make_keeps sound_stable (Node.newPlain_bare _ _ _ _) _ ⟨empty_owned, empty_housed⟩
  have reads (n : NodeId) : (Forest.empty.alloc .newDocument).2.node n = .newDocument ∨
      (Forest.empty.alloc .newDocument).2.node n = .newText none := by
    rw [node_alloc]
    split
    · exact .inl rfl
    · exact .inr (bare n)
  refine ⟨rfl, ⟨sound, ?_, ?_, ?_⟩, by decide, by decide, by decide⟩
  · intro n
    rcases reads n with read | read
    · exact read ▸ proper.shaped
    · exact read ▸ (Node.Made.text none).shaped
  · intro n
    rcases reads n with read | read
    · exact read ▸ proper.named
    · exact read ▸ rfl
  · intro n
    rw [children]
    rcases reads n with read | read
    · exact read ▸ proper.leaf
    · exact read ▸ fun _ => rfl

theorem onForest_grants {e : Edit α} (grants : Grants (Planted d) e good) :
    Grants (Grown d) (onForest e) good := by
  intro b value c grown ran
  cases took : e b.forest with
  | error failure g =>
    rw [onForest, took] at ran
    cases ran
  | ok made g =>
    rw [onForest, took] at ran
    cases ran
    obtain ⟨planted, fits⟩ := grants b.forest value g grown.planted took
    exact ⟨⟨grown.document, planted⟩, fits⟩

theorem register_grants {n : NodeId} {name : String} (uri : Option String) (other : n ≠ d)
    (named : name ≠ Node.textName) : Grants (Grown d) (register n name uri) (Site.Fits d) := by
  intro b site c grown ran
  cases ran
  exact ⟨⟨grown.document, grown.planted⟩, other, named⟩

theorem newSite_grants {e : Edit NodeId} {name : String} (uri : Option String)
    (grants : Grants (Planted d) e (· ≠ d)) (named : name ≠ Node.textName) :
    Grants (Grown d) (do register (← onForest e) name uri) (Site.Fits d) :=
  (onForest_grants grants).bind fun _ other => register_grants uri other named

theorem newMarked_grants {name : String} (data : Option String) (named : name ≠ Node.textName) :
    Grants (Grown d) (do register (← onForest (Edit.make (.newPlain name none data none))) name none)
      (Site.Fits d) :=
  newSite_grants none (Edit.newPlain_grants data named) named

theorem newElement_grants {name : String} (uri : Option String) (named : name ≠ Node.textName) :
    Grants (Grown d) (newElement name uri) (Site.Fits d) :=
  newSite_grants uri (Edit.makeElement_grants _ named) named

theorem setAttributes_grants (s : Site) (attrs : Attributes) :
    Grants (Grown d) (setAttributes s attrs) fun _ => True := by
  refine Grants.get.bind fun b _ => ?_
  split
  · exact .pure trivial
  · exact onForest_grants (.modify fun f planted => planted.retabled (setAttrs_retabled _))

theorem addAttributes_grants (s : Site) (attrs : Attributes) :
    Grants (Grown d) (addAttributes s attrs) fun _ => True := by
  refine Grants.get.bind fun b _ => ?_
  split
  · exact .pure trivial
  · exact onForest_grants (.modify fun f planted => planted.retabled (writeAttrs_retabled _))

theorem clone_grants {s : Site} (named : s.name ≠ Node.textName) :
    Grants (Grown d) (clone s) (Site.Fits d) := by
  refine Grants.get.bind fun b _ => ?_
  refine (newElement_grants s.uri named).bind fun copy fits => ?_
  exact (setAttributes_grants copy _).bind fun _ _ => .pure fits

theorem appendChild_grants (parent : Site) {child : Site} (other : child.node ≠ d) :
    Grants (Grown d) (appendChild parent child) fun _ => True := by
  refine Grants.get.bind fun b _ => onForest_grants (Edit.append_grants _ ?_)
  rintro n ⟨⟩
  exact other

theorem insertBefore_grants (parent reference : Site) {child : Site} (other : child.node ≠ d) :
    Grants (Grown d) (insertBefore parent child reference) fun _ => True := by
  refine Grants.get.bind fun b _ => onForest_grants (Edit.insertBefore_grants _ _ ?_)
  rintro n ⟨⟩
  exact other

theorem extendText_grants {n : NodeId} {data : Option String} {otherwise : Edit Unit}
    (grants : Grants (Planted d) otherwise fun _ => True) :
    Grants (Planted d) (extendText n data otherwise) fun _ => True := by
  have refused : Grants (Planted d) (throw .noNode : Edit PUnit) fun _ => False := .throw _
  refine Grants.get.bind fun f _ => ?_
  dsimp only
  split
  · exact refused.bind fun _ never => never.elim
  · split
    · split
      · exact .modify fun g planted => planted.setData _
      · exact .throw _
    · exact grants

theorem insertText_grants (s : Site) (data : Option String) (before : Option Site) :
    Grants (Grown d) (insertText s data before) fun _ => True := by
  have atEnd (p : NodeId) : Grants (Planted d)
      (do Edit.append p (some (← Edit.make (.newText data)))) fun _ => True :=
    (Edit.newText_grants data).bind fun n other => Edit.append_grants p (by rintro _ ⟨⟩; exact other)
  have inFront (p r : NodeId) : Grants (Planted d)
      (do Edit.insertBefore p (some r) (some (← Edit.make (.newText data)))) fun _ => True :=
    (Edit.newText_grants data).bind fun n other =>
      Edit.insertBefore_grants p (some r) (by rintro _ ⟨⟩; exact other)
  refine Grants.get.bind fun b _ => ?_
  dsimp only
  split
  · split
    · exact onForest_grants (extendText_grants (atEnd _))
    · exact onForest_grants (atEnd _)
  · exact .throw _
  · split
    · exact .throw _
    · exact onForest_grants (inFront _ _)
    · split
      · exact onForest_grants (extendText_grants (inFront _ _))
      · exact onForest_grants (inFront _ _)

theorem removeChild_grants (parent child : Site) :
    Grants (Grown d) (removeChild parent child) fun _ => True := by
  refine Grants.get.bind fun b _ => ?_
  split
  · exact onForest_grants fun f _ g planted ran => ⟨Edit.detach_planted planted ran, trivial⟩
  · exact .pure trivial

-- What is some node's child cannot be the document.
theorem reparentChildren_grants (source target : Site) :
    Grants (Grown d) (reparentChildren source target) fun _ => True := by
  refine Grants.get.bind fun b grown => ?_
  split
  · exact .throw _
  · rename_i children owns
    refine .forM fun n member => onForest_grants (Edit.append_grants _ ?_)
    intro m given
    split at given
    · cases given
      rintro rfl
      have listed : n ∈ b.forest.kids (b.container source) := by rwa [kids, owns]
      have linked := (grown.planted.regular.sound.owned.listed _ _).mp listed
      cases linked.symm.trans grown.planted.alone.free
    · cases given

theorem gatherFragment_grants (source : Site) :
    Grants (Grown d) (gatherFragment source) (Site.Fits d) := by
  refine (newMarked_grants none (by decide)).bind fun fragment fits => ?_
  exact (reparentChildren_grants source fragment).bind fun _ _ => .pure fits

end Builder

namespace BuildStep
open Builder EStateM

variable {d : NodeId}

-- No element may be called like text, and the document may be put nowhere.
def Admits (d : NodeId) : BuildStep → Prop
  | .element name _ => name ≠ Node.textName
  | .clone site => site.name ≠ Node.textName
  | .append _ child => child.node ≠ d
  | .before _ child _ => child.node ≠ d
  | _ => True

theorem run_grants {step : BuildStep} (admits : Admits d step) :
    Grants (Grown d) step.run fun site => ∀ s ∈ site, Site.Fits d s := by
  have made {e : Build Site} (grants : Grants (Grown d) e (Site.Fits d)) :
      Grants (Grown d) (some <$> e) fun site => ∀ s ∈ site, Site.Fits d s :=
    grants.map fun site fits s given => by
      cases given
      exact fits
  have done {e : Build Unit} (grants : Grants (Grown d) e fun _ => True) :
      Grants (Grown d) (do e; pure (none : Option Site)) fun site => ∀ s ∈ site, Site.Fits d s :=
    grants.bind fun _ _ => .pure fun _ given => nomatch given
  cases step with
  | document => exact made (newMarked_grants none (by decide))
  | doctype name => exact made (newMarked_grants name (by decide))
  | comment data => exact made (newMarked_grants data (by decide))
  | fragment => exact made (newMarked_grants none (by decide))
  | element name uri => exact made (newElement_grants uri admits)
  | clone site => exact made (clone_grants admits)
  | attributes site attrs => exact done (setAttributes_grants site attrs)
  | addAttributes site attrs => exact done (addAttributes_grants site attrs)
  | append parent child => exact done (appendChild_grants parent admits)
  | before parent child reference => exact done (insertBefore_grants parent reference admits)
  | text site data reference => exact done (insertText_grants site data reference)
  | remove parent child => exact done (removeChild_grants parent child)
  | reparent source target => exact done (reparentChildren_grants source target)
  | gather source => exact made (gatherFragment_grants source)

end BuildStep

namespace Builder
open Forest

variable {d : NodeId} {b : Builder}

-- Builders that steps lead to from a fresh one, as long as all of them are admitted and none fails.
-- It may be begun anew over what has been made by then.
inductive Assembled (origin : Forest) : Builder → Prop where
  | fresh : Assembled origin (.fresh origin)
  | reset {b : Builder} : Assembled origin b → Assembled origin (.fresh b.forest)
  | step {b next : Builder} {step : BuildStep} {site : Option Site}
    (admits : step.Admits b.document.node) (ran : step.run b = .ok site next) :
    Assembled origin b → Assembled origin next

-- The earlier document stays behind when there is a new one.
theorem Grown.renewed (grown : Grown d b) : Grown b.forest.size (.fresh b.forest) := by
  have proper : Proper .newDocument := Edit.newPlain_proper none (by decide)
  have sound : Sound (b.forest.alloc .newDocument).2 :=
    Edit.make_keeps sound_stable (Node.newPlain_bare _ _ _ _) _ grown.planted.regular.sound
  refine ⟨rfl, (grown.planted.alloc proper sound).regular, known_alloc_new _ _, ?_, ?_⟩
  · exact congrArg Node.isDocument (node_alloc_new b.forest .newDocument)
  · exact congrArg Node.parent (node_alloc_new b.forest .newDocument)

-- However a builder was used, its document stands by itself in the end.
theorem Assembled.grown (assembled : Assembled .empty b) : Grown b.document.node b := by
  induction assembled with
  | fresh => exact fresh_grown
  | reset _ ih => exact ih.renewed
  | @step b next step site admits ran _ ih =>
    obtain ⟨grown, _⟩ := BuildStep.run_grants admits b site next ih ran
    exact grown.document.symm ▸ grown

end Builder

end HtmlTree

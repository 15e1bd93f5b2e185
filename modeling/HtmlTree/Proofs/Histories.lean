import HtmlTree.Builder
import HtmlTree.Proofs.Requests
import Mathlib.Data.List.Nodup

namespace HtmlTree
open Forest EStateM

def BuildStep.given : BuildStep → Option NodeId
  | .append _ child | .before _ child _ => some child.node
  | _ => none

-- Forests that calls and construction steps lead to from the empty one, whether they succeed or
-- fail. The sites of a step need not have been made by earlier steps; only what is handed over
-- has to be a node.
inductive Reached : Forest → Prop where
  | empty : Reached .empty
  | call {f : Forest} (call : Call) (known : ∀ n ∈ call.given, f.known n = true) :
    Reached f → Reached (call.run.after f)
  | build {b : Builder} (step : BuildStep) (known : ∀ n ∈ step.given, b.forest.known n = true) :
    Reached b.forest → Reached (step.after b).forest

def Forest.through (f : Forest) (calls : List Call) : Forest :=
  calls.foldl (fun f call => call.run.after f) f

-- Every call is handed a node that is there by then, or nothing.
def Handed (f : Forest) : List Call → Prop
  | [] => True
  | call :: rest => (∀ n ∈ call.given, f.known n = true) ∧ Handed (call.run.after f) rest

instance Handed.decidable (f : Forest) : (calls : List Call) → Decidable (Handed f calls)
  | [] => .isTrue trivial
  | call :: rest =>
    have := Handed.decidable (call.run.after f) rest
    inferInstanceAs (Decidable (_ ∧ _))

theorem Handed.before {f : Forest} {before later : List Call} (handed : Handed f (before ++ later)) :
    Handed f before := by
  induction before generalizing f with
  | nil => trivial
  | cons call rest ih => exact ⟨handed.1, ih handed.2⟩

theorem Reached.through {f : Forest} (reached : Reached f) {calls : List Call}
    (handed : Handed f calls) : Reached (f.through calls) := by
  induction calls generalizing f with
  | nil => exact reached
  | cons call rest ih => exact ih (.call call handed.1 reached) handed.2

structure Settled (size : Nat) (f : Forest) : Prop where
  sound : Sound f
  size : f.size = size

variable {f : Forest} {new : Option NodeId}

theorem Plan.run_settled (sound : Sound f) (known : ∀ n ∈ new, f.known n = true) (plan : Plan) :
    Settled f.size ((plan.run new).after f) := by
  cases plan with
  | refuse failure => exact ⟨sound, rfl⟩
  | detach n =>
    refine ⟨Edit.detach_keeps sound_stable f sound, ?_⟩
    cases linked : f.parent n with
    | none =>
      cases inside : f.known n with
      | false => rw [Plan.run, after_error (Edit.detach_unknown inside)]
      | true => rw [Plan.run, after_ok (Edit.detach_free inside linked)]
    | some q =>
      obtain ⟨g, ran, relinked⟩ := Edit.detach_owned sound.owned linked
      rw [Plan.run, after_ok ran, relinked.size]
  | insert p index replacing =>
    rw [Plan.run, after_discard]
    rcases Edit.insertNode_cases sound.owned p index new replacing known with
      ⟨failure, g, ran, same⟩ | ⟨found, ran, _⟩ | ⟨list, g, owns, clear, ran, relinked⟩
    · rw [after_error ran]
      exact ⟨sound.same same, same.size⟩
    · rw [after_ok ran]
      exact ⟨sound, rfl⟩
    · rw [after_ok ran]
      exact ⟨sound.relinked relinked (by simp) (sound.owned.handed_admitted clear), relinked.size⟩

theorem Move.run_settled (sound : Sound f) (move : Move)
    (known : ∀ n ∈ move.given, f.known n = true) : Settled f.size (move.run.after f) := by
  rw [move.after_plan f]
  exact Plan.run_settled sound known (move.plan f)

theorem Call.run_sound (sound : Sound f) (call : Call)
    (known : ∀ n ∈ call.given, f.known n = true) : Sound (call.run.after f) := by
  refine call.run_keeps sound_stable sound ?_
  rintro m rfl
  exact (m.run_settled sound known).sound

namespace Builder

variable {holds : Forest → Prop} {α : Type}

abbrev Over (holds : Forest → Prop) (b : Builder) : Prop := holds b.forest

theorem onForest_after (e : Edit α) (b : Builder) :
    ((onForest e).after b).forest = e.after b.forest := by
  cases ran : e b.forest <;> simp [after, onForest, ran]

theorem onForest_keeps {e : Edit α} (kept : Keeps holds e) : Keeps (Over holds) (onForest e) := by
  intro b held
  rw [Over, onForest_after]
  exact kept b.forest held

-- Visits to the forest under a builder, one after the other, are one visit in which all is done.
theorem forM_onForest {visit e : NodeId → Edit Unit} {list : List NodeId}
    (same : ∀ n ∈ list, visit n = e n) (b : Builder) :
    list.forM (fun n => onForest (visit n)) b = onForest (list.forM e) b := by
  induction list generalizing b with
  | nil => rfl
  | cons n list ih =>
    have later := ih fun m member => same m (List.mem_cons_of_mem n member)
    change (onForest (visit n) >>= fun _ => list.forM fun n => onForest (visit n)) b =
      onForest (e n >>= fun _ => list.forM e) b
    rw [same n List.mem_cons_self]
    cases ran : e n b.forest with
    | error failure g => simp only [bind, EStateM.bind, onForest, ran]
    | ok value g =>
      simp only [bind, EStateM.bind, onForest, ran]
      exact later ⟨g, b.sites, b.document⟩

theorem register_keeps (n : NodeId) (name : String) (uri : Option String) :
    Keeps (Over holds) (register n name uri) := fun _ held => held

theorem newSite_keeps {e : Edit NodeId} (kept : Keeps holds e) (name : String)
    (uri : Option String) : Keeps (Over holds) (do register (← onForest e) name uri) :=
  (onForest_keeps kept).bind fun n => register_keeps n name uri

-- What holds on while a builder makes nodes, changes what they say and takes them out of where they are.
-- Where it puts nodes somewhere there is more to ask.
structure Attended (holds : Forest → Prop) : Prop where
  plain : ∀ name data, Keeps holds (Edit.make (.newPlain name none data none))
  element : ∀ name ns, Keeps holds (Edit.makeElement name ns)
  given : ∀ {f} n attrs, holds f → holds (f.setAttrs n attrs)
  entered : ∀ {f} n attrs, holds f → holds (f.writeAttrs n attrs)
  filled : ∀ {f} n data, holds f → holds (f.setData n data)
  freed : ∀ n, Keeps holds (Edit.detach n)

theorem sound_attended : Attended Sound where
  plain name data := Edit.make_keeps sound_stable (Node.newPlain_bare name none data none)
  element name ns := Edit.makeElement_keeps sound_stable name ns
  given _ _ sound := sound.same (setAttrs_retabled _).sameLinks
  entered _ _ sound := sound.same (writeAttrs_retabled _).sameLinks
  filled _ data sound := sound.same (Edit.sameLinks_setData data)
  freed _ := Edit.detach_keeps sound_stable

theorem newDocument_keeps (attended : Attended holds) : Keeps (Over holds) newDocument :=
  newSite_keeps (attended.plain Node.documentName none) Node.documentName none

theorem newDoctype_keeps (attended : Attended holds) (name : Option String) :
    Keeps (Over holds) (newDoctype name) :=
  newSite_keeps (attended.plain Node.doctypeName name) Node.doctypeName none

theorem newComment_keeps (attended : Attended holds) (data : Option String) :
    Keeps (Over holds) (newComment data) :=
  newSite_keeps (attended.plain Node.commentName data) Node.commentName none

theorem newFragment_keeps (attended : Attended holds) : Keeps (Over holds) newFragment :=
  newSite_keeps (attended.plain Node.fragmentName none) Node.fragmentName none

theorem newElement_keeps (attended : Attended holds) (name : String) (uri : Option String) :
    Keeps (Over holds) (newElement name uri) :=
  newSite_keeps (attended.element _ _) name uri

theorem setAttributes_keeps (attended : Attended holds) (s : Site) (attrs : Attributes) :
    Keeps (Over holds) (setAttributes s attrs) := by
  refine Keeps.bind Keeps.read fun b => ?_
  split
  · exact Keeps.pure ()
  · exact onForest_keeps (Keeps.modify fun f held => attended.given _ _ held)

theorem addAttributes_keeps (attended : Attended holds) (s : Site) (attrs : Attributes) :
    Keeps (Over holds) (addAttributes s attrs) := by
  refine Keeps.bind Keeps.read fun b => ?_
  split
  · exact Keeps.pure ()
  · exact onForest_keeps (Keeps.modify fun f held => attended.entered _ _ held)

theorem clone_keeps (attended : Attended holds) (s : Site) : Keeps (Over holds) (clone s) := by
  refine Keeps.bind Keeps.read fun b => ?_
  refine Keeps.bind (newElement_keeps attended s.name s.uri) fun copy => ?_
  exact Keeps.bind (setAttributes_keeps attended copy _) fun _ => Keeps.pure copy

theorem appendChild_sound {b : Builder} {parent child : Site} (sound : Sound b.forest)
    (known : b.forest.known child.node = true) :
    Over Sound ((appendChild parent child).after b) := by
  have moved := Move.run_settled sound (.append (b.container parent) (some child.node)) (by
    rintro n ⟨⟩
    exact known)
  rw [Over, appendChild, after_read, onForest_after]
  exact moved.sound

theorem insertBefore_sound {b : Builder} {parent child reference : Site} (sound : Sound b.forest)
    (known : b.forest.known child.node = true) :
    Over Sound ((insertBefore parent child reference).after b) := by
  have moved := Move.run_settled sound
    (.before (b.container parent) (some reference.node) (some child.node)) (by
      rintro n ⟨⟩
      exact known)
  rw [Over, insertBefore, after_read, onForest_after]
  exact moved.sound

theorem newText_keeps (data : Option String) (move : NodeId → Move)
    (hands : ∀ n, (move n).given = some n) :
    Keeps Sound (do (move (← Edit.make (.newText data))).run) := by
  intro f sound
  have made : Sound (f.alloc (.newText data)).2 :=
    Edit.make_keeps sound_stable ⟨rfl, rfl, rfl⟩ f sound
  have known : ∀ n ∈ (move f.size).given, (f.alloc (.newText data)).2.known n = true := by
    intro n given
    rw [hands] at given
    cases given
    exact known_alloc_new f _
  exact ((move f.size).run_settled made known).sound

theorem extendText_keeps {n : NodeId} {data : Option String} {otherwise : Edit Unit}
    (attended : Attended holds) (kept : Keeps holds otherwise) :
    Keeps holds (extendText n data otherwise) := by
  refine Keeps.bind Keeps.read fun f => ?_
  dsimp only
  split
  · exact Keeps.refuse
  · split
    · split
      · exact Keeps.modify fun g held => attended.filled n _ held
      · exact Keeps.throw _
    · exact kept

-- Text is filled into a node, or a new node is put somewhere.
theorem insertText_keeps (attended : Attended holds) (s : Site) (data : Option String)
    (before : Option Site)
    (places : ∀ move : NodeId → Move, (∀ n, (move n).given = some n) →
      Keeps holds (do (move (← Edit.make (.newText data))).run)) :
    Keeps (Over holds) (insertText s data before) := by
  refine Keeps.bind Keeps.read fun b => ?_
  have atEnd (p : NodeId) :
      Keeps holds (do Edit.append p (some (← Edit.make (.newText data)))) :=
    places (fun n => .append p (some n)) fun _ => rfl
  have inFront (p r : NodeId) :
      Keeps holds (do Edit.insertBefore p (some r) (some (← Edit.make (.newText data)))) :=
    places (fun n => .before p (some r) (some n)) fun _ => rfl
  dsimp only
  split
  · split
    · exact onForest_keeps (extendText_keeps attended (atEnd _))
    · exact onForest_keeps (atEnd _)
  · exact Keeps.throw _
  · split
    · exact Keeps.throw _
    · exact onForest_keeps (inFront _ _)
    · split
      · exact onForest_keeps (extendText_keeps attended (inFront _ _))
      · exact onForest_keeps (inFront _ _)

theorem removeChild_keeps (attended : Attended holds) (parent child : Site) :
    Keeps (Over holds) (removeChild parent child) := by
  refine Keeps.bind Keeps.read fun b => ?_
  split
  · exact onForest_keeps (attended.freed child.node)
  · exact Keeps.pure ()

-- No node comes or goes while the children move one after the other, so those that were nodes at
-- the start still are when their turn comes.
theorem reparentChildren_keeps (source target : Site) :
    Keeps (Over Sound) (reparentChildren source target) := by
  refine Keeps.get fun b sound => ?_
  have moved (children : List NodeId) : Keeps (Over (Settled b.forest.size)) (children.forM fun n =>
      onForest (Edit.append (b.container target) (if b.forest.known n then some n else none))) := by
    refine Keeps.forM fun n _ => onForest_keeps fun g settled => ?_
    have known : ∀ m ∈ (if b.forest.known n then some n else none), g.known m = true := by
      intro m given
      split at given
      · cases given
        simpa [Forest.known, settled.size] using ‹b.forest.known n = true›
      · cases given
    exact settled.size ▸ Move.run_settled settled.sound (.append _ _) known
  split
  · exact sound
  · exact (moved _ b ⟨sound, rfl⟩).sound

theorem gatherFragment_keeps (source : Site) : Keeps (Over Sound) (gatherFragment source) := by
  refine Keeps.bind (newFragment_keeps sound_attended) fun fragment => ?_
  exact Keeps.bind (reparentChildren_keeps source fragment) fun _ => Keeps.pure fragment

end Builder

theorem BuildStep.run_sound {b : Builder} (sound : Sound b.forest) (step : BuildStep)
    (known : ∀ n ∈ step.given, b.forest.known n = true) :
    Builder.Over Sound (step.run.after b) := by
  cases step with
  | document => exact (Builder.newDocument_keeps Builder.sound_attended).map _ b sound
  | doctype name => exact (Builder.newDoctype_keeps Builder.sound_attended name).map _ b sound
  | comment data => exact (Builder.newComment_keeps Builder.sound_attended data).map _ b sound
  | fragment => exact (Builder.newFragment_keeps Builder.sound_attended).map _ b sound
  | element name uri => exact (Builder.newElement_keeps Builder.sound_attended name uri).map _ b sound
  | clone site => exact (Builder.clone_keeps Builder.sound_attended site).map _ b sound
  | attributes site attrs =>
    rw [run, after_then]
    exact Builder.setAttributes_keeps Builder.sound_attended site attrs b sound
  | addAttributes site attrs =>
    rw [run, after_then]
    exact Builder.addAttributes_keeps Builder.sound_attended site attrs b sound
  | append parent child =>
    rw [run, after_then]
    exact Builder.appendChild_sound sound (known child.node rfl)
  | before parent child reference =>
    rw [run, after_then]
    exact Builder.insertBefore_sound sound (known child.node rfl)
  | text site data reference =>
    rw [run, after_then]
    exact Builder.insertText_keeps Builder.sound_attended site data reference
      (Builder.newText_keeps data) b sound
  | remove parent child =>
    rw [run, after_then]
    exact Builder.removeChild_keeps Builder.sound_attended parent child b sound
  | reparent source target =>
    rw [run, after_then]
    exact Builder.reparentChildren_keeps source target b sound
  | gather source => exact (Builder.gatherFragment_keeps source).map _ b sound

theorem BuildStep.after_eq (step : BuildStep) (b : Builder) : step.after b = step.run.after b := by
  cases ran : step.run b <;> simp [BuildStep.after, EStateM.after, ran]

theorem Reached.sound (reached : Reached f) : Sound f := by
  induction reached with
  | empty => exact ⟨empty_owned, empty_housed⟩
  | call call known _ ih => exact call.run_sound ih known
  | build step known _ ih =>
    rw [step.after_eq]
    exact step.run_sound ih known

-- Whatever has been asked of a forest so far, a node is listed by its parent once and by no other
-- node at all, the parents above it come to an end, and a fragment has none.
theorem Reached.ownership (reached : Reached f) :
    (∀ n c, (f.kids n).count c = if f.parent c = some n then 1 else 0) ∧
      (∀ n, f.Rooted n) ∧ ∀ n, (f.node n).isFragment = true → f.parent n = none := by
  have owned := reached.sound.owned
  refine ⟨?_, owned.rooted, owned.free⟩
  intro n c
  split
  · rename_i linked
    exact List.count_eq_one_of_mem (owned.once n) ((owned.listed n c).mpr linked)
  · rename_i elsewhere
    exact List.count_eq_zero.mpr fun member => elsewhere ((owned.listed n c).mp member)

-- A fragment is emptied into a list, one of its nodes replaces the other, and the list is refused
-- as a child of its own.
theorem Reached.ownership_replaced :
    let f := Forest.empty.through [.fragment, .element (some "ul") (some "html"),
      .text (some "a"), .comment (some "b"), .move (.append 0 (some 2)),
      .move (.append 0 (some 3)), .move (.append 1 (some 0)), .move (.replace 2 (some 3)),
      .move (.append 1 (some 1)), .normalize 1]
    f.parent 3 = some 1 ∧ (f.kids 1).count 3 = 1 ∧ (f.kids 0).count 3 = 0 := by
  intro f
  have reached : Reached f := Reached.empty.through (by decide)
  have placed : f.parent 3 = some 1 := by decide
  refine ⟨placed, ?_, ?_⟩
  · rw [(Reached.ownership reached).1, if_pos placed]
  · rw [(Reached.ownership reached).1, if_neg (by simp [placed])]

end HtmlTree

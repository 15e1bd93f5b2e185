import HtmlTree.Proofs.Histories

namespace EStateM

variable {ε σ α β : Type} {holds : σ → Prop} {good : α → Prop}

-- What holds on holds on, and what is given is good.
def Yields (holds : σ → Prop) (good : α → Prop) (e : EStateM ε σ α) : Prop :=
  ∀ s, holds s → match e s with
    | .ok value t => holds t ∧ good value
    | .error _ t => holds t

theorem Yields.keeps {e : EStateM ε σ α} (yields : Yields holds good e) : Keeps holds e := by
  intro s held
  have left := yields s held
  unfold after
  split
  · rename_i value t ran
    rw [ran] at left
    exact left.1
  · rename_i failure t ran
    rw [ran] at left
    exact left

theorem Yields.bind {e : EStateM ε σ α} {next : α → EStateM ε σ β} (first : Yields holds good e)
    (rest : ∀ value, good value → Keeps holds (next value)) : Keeps holds (e >>= next) := by
  intro s held
  have between := first s held
  rw [after_bind]
  cases ran : e s with
  | ok value t =>
    rw [ran] at between
    exact rest value between.2 t between.1
  | error failure t =>
    rw [ran] at between
    exact between

end EStateM

namespace HtmlTree

namespace Node

-- Where the links of a node lead.
def LeadsTo (node : Node) (m : NodeId) : Prop :=
  node.parent = some m ∨ m ∈ node.children.getD [] ∨ node.content = some m

-- What a node keeps for good of the way it was made. A list of children may change but not go.
structure Lasts (old new : Node) : Prop where
  kind : new.kind = old.kind
  name : new.name? = old.name?
  content : new.content = old.content
  listed : old.children.isSome = true → new.children.isSome = true

-- A node that is written to elsewhere than in its attributes.
structure Tabled (old new : Node) : Prop extends Lasts old new where
  attrs : new.attrs = old.attrs
  table : new.table = old.table

theorem Lasts.retable (node : Node) (attrs : Option Attributes) (table : Option Nat) :
    node.Lasts (node.retable attrs table) := ⟨rfl, rfl, rfl, id⟩

-- The nodes that there is a way to make, each with its content.
inductive Made : Option NodeId → Node → Prop where
  | text (data : Option String) : Made none (newText data)
  | plain (name : String) (attrs : Option Attributes) (data ns : Option String) :
    Made none (newPlain name attrs data ns)
  | element (name : Option String) (attrs : Option Attributes) (ns : Option String) :
    Made none (newElement name attrs ns)
  | template (name : Option String) (attrs : Option Attributes) (ns : Option String)
    (content : Option NodeId) : Made content (newTemplate name attrs ns content)

-- A new node has a table of its own.
theorem Made.unnumbered {content : Option NodeId} {new : Node} (made : Made content new) :
    new.table = none := by
  cases made with
  | text data => rfl
  | plain name attrs data ns =>
    unfold newPlain
    split
    · rfl
    · split <;> rfl
  | element name attrs ns => rfl
  | template name attrs ns content => rfl

-- A new node has no link but the one to its content.
theorem Made.leadsTo {content : Option NodeId} {new : Node} (made : Made content new) {m : NodeId}
    (leads : new.LeadsTo m) : content = some m := by
  cases made with
  | text data => simp [LeadsTo, newText] at leads
  | plain name attrs data ns =>
    obtain ⟨free, childless, hollow⟩ := newPlain_bare name attrs data ns
    simp [LeadsTo, free, childless, hollow] at leads
  | element name attrs ns => simp [LeadsTo, newElement] at leads
  | template name attrs ns content => simpa [LeadsTo, newTemplate] using leads

end Node

namespace Forest

-- What holds on as long as only nodes of an area are written to, by themselves or in a table that
-- they have, and their links lead nowhere else.
structure Confined (area : NodeId → Prop) (holds : Forest → Prop) : Prop where
  closed : ∀ {f n m}, holds f → area n → (f.node n).LeadsTo m → area m
  same : ∀ {f g : Forest}, holds f → g.nodes = f.nodes → holds g
  write : ∀ {f n} {change : Node → Node}, holds f → area n →
    (∀ node : Node, node.Tabled (change node)) → (∀ m, (change (f.node n)).LeadsTo m → area m) →
    holds (f.update n change)
  entered : ∀ {f n}, holds f → area n → ∀ attrs, holds (f.writeAttrs n attrs)

-- What holds on when nodes are made too. They belong to the area then, and may have a table in common
-- with other nodes there.
structure Growing (area : NodeId → Prop) (holds : Forest → Prop) : Prop
    extends Confined area holds where
  fresh : ∀ {f}, holds f → area f.size
  made : ∀ {f content new}, holds f → Node.Made content new → (∀ c ∈ content, area c) →
    holds (f.alloc new).2
  shared : ∀ {f n owner}, holds f → area n → area owner → holds (f.shareAttrs n owner)

variable {area : NodeId → Prop} {holds : Forest → Prop} {f : Forest} {n m p : NodeId}

theorem Confined.closed_kids (confined : Confined area holds) (held : holds f) (inside : area n)
    (listed : m ∈ f.kids n) : area m :=
  confined.closed held inside (.inr (.inl listed))

theorem Confined.closed_parent (confined : Confined area holds) (held : holds f) (inside : area n)
    (linked : f.parent n = some p) : area p :=
  confined.closed held inside (.inl linked)

theorem Confined.setParent (confined : Confined area holds) (held : holds f) (inside : area n)
    {link : Option NodeId} (within : ∀ p ∈ link, area p) : holds (f.setParent n link) := by
  refine confined.write held inside (fun node => ⟨⟨rfl, rfl, rfl, id⟩, rfl, rfl⟩) ?_
  rintro m (linked | others)
  · exact within m linked
  · exact confined.closed held inside (.inr others)

theorem Confined.setChildren (confined : Confined area holds) (held : holds f) (inside : area n)
    {list : List NodeId} (within : ∀ c ∈ list, area c) : holds (f.setChildren n (some list)) := by
  refine confined.write held inside (fun node => ⟨⟨rfl, rfl, rfl, fun _ => rfl⟩, rfl, rfl⟩) ?_
  rintro m (linked | listed | content)
  · exact confined.closed held inside (.inl linked)
  · exact within m listed
  · exact confined.closed held inside (.inr (.inr content))

theorem Confined.setData (confined : Confined area holds) (held : holds f) (inside : area n)
    (data : Option String) : holds (f.setData n data) :=
  confined.write held inside (fun _ => ⟨⟨rfl, rfl, rfl, id⟩, rfl, rfl⟩)
    fun _ leads => confined.closed held inside leads

theorem Confined.linkAll (confined : Confined area holds) (held : holds f) {ns : List NodeId}
    (inside : ∀ n ∈ ns, area n) {link : Option NodeId} (within : ∀ p ∈ link, area p) :
    holds (f.linkAll ns link) := by
  induction ns generalizing f with
  | nil => exact held
  | cons n ns ih =>
    have first := confined.setParent held (inside n List.mem_cons_self) within
    exact ih first fun m member => inside m (List.mem_cons_of_mem _ member)

end Forest

namespace Edit
open Forest EStateM

variable {area : NodeId → Prop} {holds : Forest → Prop} {f : Forest} {n p : NodeId}
  {new : Option NodeId}

theorem make_confined (growing : Growing area holds) {made : Node}
    (bare : Node.Made none made) : Yields holds area (make made) :=
  fun _ held => ⟨growing.made held bare (by simp), growing.fresh held⟩

theorem makeTemplate_confined (growing : Growing area holds) (name : Option String)
    (attrs : Option Attributes) (ns : Option String) :
    Yields holds area (makeTemplate name attrs ns) := by
  unfold makeTemplate
  split
  · intro f held
    have first : holds (f.alloc .newFragment).2 := growing.made held (.plain _ _ _ _) (by simp)
    refine ⟨growing.made first (.template _ _ _ _) ?_, growing.fresh first⟩
    intro c content
    cases Option.mem_some.mp content
    exact growing.fresh held
  · exact make_confined growing (.template _ _ _ none)

theorem makeElement_confined (growing : Growing area holds) (name ns : Option String) :
    Yields holds area (makeElement name ns) := by
  unfold makeElement
  split
  · exact makeTemplate_confined growing name none ns
  · exact make_confined growing (.element _ _ _)

-- The node whose table is to be had in common, if there is one.
def Table.owner? : Table → Option NodeId
  | .own _ => none
  | .of owner => some owner

theorem makeWith_confined (growing : Growing area holds) {table : Table}
    (inside : ∀ owner ∈ table.owner?, area owner) {create : Option Attributes → Edit NodeId}
    (made : ∀ attrs, Yields holds area (create attrs)) : Keeps holds (makeWith table create) := by
  refine Keeps.bind (entriesIn_keeps table) fun attrs => (made attrs).bind fun n new => ?_
  cases table with
  | own entries => exact Keeps.pure n
  | of owner =>
    refine Keeps.bind (Keeps.modify fun f held => ?_) fun _ => Keeps.pure n
    exact growing.shared held new (inside owner rfl)

theorem shallowClone_confined (growing : Growing area holds) : Keeps holds (shallowClone n) := by
  refine Keeps.get fun f held => ?_
  dsimp only
  split
  · exact (make_confined growing (.text _)).keeps f held
  · split
    · exact (make_confined growing (.plain _ _ _ _)).keeps f held
    · exact held
  · exact (make_confined growing (.element _ _ _)).keeps f held
  · exact (makeTemplate_confined growing _ _ _).keeps f held

-- The parent of a node of the area is in the area, and so are its siblings.
theorem detach_confined (confined : Confined area holds) (inside : area n) :
    Keeps holds (detach n) := by
  intro f held
  cases linked : f.parent n with
  | none =>
    cases known : f.known n with
    | false => rwa [after_error (detach_unknown known)]
    | true => rwa [after_ok (detach_free known linked)]
  | some q =>
    cases placed : f.placeIn q n with
    | error failure => rwa [after_error (detach_refused linked placed)]
    | ok found =>
      obtain ⟨list, place⟩ := found
      have owner : area q := confined.closed_parent held inside linked
      have owns : f.children q = some list := by
        unfold placeIn at placed
        split at placed
        · cases placed
        · split at placed
          · cases placed
            assumption
          · cases placed
      rw [after_ok (detach_placed linked placed)]
      refine confined.setParent (confined.setChildren held owner ?_) inside (by simp)
      intro c member
      exact confined.closed_kids held owner ((mem_kids owns).mpr (List.mem_of_mem_eraseIdx member))

def Within (area : NodeId → Prop) (block : Option (List NodeId)) : Prop :=
  ∀ list ∈ block, ∀ c ∈ list, area c

theorem takeChildren_confined (confined : Confined area holds) (inside : area n) :
    Yields holds (Within area) (takeChildren n) := by
  intro f held
  by_cases leaf : (f.node n).kind = .text
  · rw [takeChildren_text leaf]
    exact held
  · obtain ⟨g, taken, nodes⟩ := takeChildren_run leaf
    rw [taken]
    refine ⟨confined.same (confined.setChildren held inside (by simp)) nodes, ?_⟩
    intro list owns c member
    exact confined.closed_kids held inside (by simpa [kids, Option.mem_def.mp owns] using member)

theorem release_confined (confined : Confined area holds) (inside : area n) :
    Yields holds (Within area) (release p n) := by
  intro f held
  have alone : Within area (some [n]) := by
    intro list given c member
    cases given
    exact List.mem_singleton.mp member ▸ inside
  by_cases circular : n ∈ f.ancestors p
  · rw [release_circular circular]
    exact held
  cases fragment : (f.node n).isFragment with
  | true =>
    rw [release_fragment circular fragment]
    exact takeChildren_confined confined inside f held
  | false =>
    cases linked : f.parent n with
    | none =>
      rw [release_free circular fragment linked]
      exact ⟨held, alone⟩
    | some q =>
      have left := detach_confined confined inside
        (f.note (.detaching (f.summary n) (f.summary q))) (confined.same held rfl)
      rw [release_linked circular fragment linked]
      cases ran : detach n (f.note (.detaching (f.summary n) (f.summary q))) with
      | ok value g =>
        rw [after_ok ran] at left
        exact ⟨left, alone⟩
      | error failure g =>
        rw [after_error ran] at left
        exact left

theorem freeing_confined (confined : Confined area holds) (inside : ∀ n ∈ new, area n) :
    Yields holds (Within area) (freeing p new) := by
  cases new with
  | some n => exact release_confined confined (inside n rfl)
  | none =>
    intro f held
    refine ⟨held, ?_⟩
    intro list given
    cases given
    simp

theorem splice_confined (confined : Confined area holds) (owner : area p)
    {block : Option (List NodeId)} (within : Within area block) (reference : Option NodeId)
    (width : Nat) :
    Yields holds (fun nodes => ∀ c ∈ nodes, area c) (splice p reference block width) := by
  intro f held
  cases owns : f.children p with
  | none =>
    simp only [splice, bind_run, owned_barren owns]
    exact held
  | some list =>
    have siblings (c : NodeId) (member : c ∈ list) : area c :=
      confined.closed_kids held owner ((mem_kids owns).mpr member)
    have spliced (nodes : List NodeId) (inside : ∀ c ∈ nodes, area c) (place : Nat) :
        holds (f.setChildren p (some (list.take place ++ nodes ++ list.drop (place + width)))) := by
      refine confined.setChildren held owner ?_
      intro c member
      rcases List.mem_append.mp member with before | behind
      · rcases List.mem_append.mp before with front | joins
        · exact siblings c (List.mem_of_mem_take front)
        · exact inside c joins
      · exact siblings c (List.mem_of_mem_drop behind)
    cases reference with
    | none =>
      simp only [splice, bind_run, owned_run owns, pure_run]
      cases block with
      | none => exact held
      | some nodes => exact ⟨spliced nodes (within nodes rfl) _, within nodes rfl⟩
    | some r =>
      cases found : list.idxOf? r with
      | none =>
        simp only [splice, bind_run, owned_run owns, found, throw_run]
        exact held
      | some i =>
        simp only [splice, bind_run, owned_run owns, found, pure_run]
        cases block with
        | none => exact held
        | some nodes => exact ⟨spliced nodes (within nodes rfl) i, within nodes rfl⟩

theorem adopt_confined (confined : Confined area holds) (owner : area p) {nodes : List NodeId}
    (inside : ∀ c ∈ nodes, area c) : Keeps holds (adopt p nodes) := by
  refine Keeps.bind Keeps.read fun f => ?_
  refine Keeps.bind (Keeps.modify fun g held => ?_) fun _ => ?_
  · have within : ∀ q ∈ some p, area q := fun q same => Option.mem_some.mp same ▸ owner
    refine confined.linkAll held (fun c member => ?_) within
    exact inside c ((List.takeWhile_sublist _).mem member)
  · split
    · exact Keeps.throw _
    · exact Keeps.pure ()

theorem settling_confined (confined : Confined area holds) (owner : area p)
    {block : Option (List NodeId)} (within : Within area block) {removed : Option NodeId}
    (inside : ∀ old ∈ removed, area old) (reference : Option NodeId) (width : Nat) :
    Keeps holds (settling p reference removed width block) := by
  refine (splice_confined confined owner within reference width).bind fun nodes joined => ?_
  refine Keeps.bind (adopt_confined confined owner joined) fun _ => ?_
  cases removed with
  | none => exact Keeps.pure none
  | some old =>
    refine Keeps.bind (Keeps.modify fun f held => ?_) fun _ => Keeps.pure (some old)
    exact confined.setParent held (inside old rfl) (by simp)

theorem insertNode_confined (confined : Confined area holds) (owner : area p)
    (inside : ∀ n ∈ new, area n) (index : Int) (replacing : Bool) :
    Keeps holds (insertNode p index new replacing) := by
  intro f held
  cases owns : f.children p with
  | none => rwa [after_error (insertNode_barren owns)]
  | some list =>
    by_cases fits : InRange list index replacing
    swap
    · rwa [after_error (insertNode_outside owns fits)]
    by_cases itself : replacing = true ∧ new = removedBy f list index replacing
    · rwa [after_ok (insertNode_itself owns fits itself)]
    have removed : ∀ old ∈ removedBy f list index replacing, area old := by
      intro old gives
      have member : old ∈ list := by
        unfold removedBy childAt at gives
        split at gives
        · exact List.mem_of_getElem? (Option.mem_filter_iff.mp gives).1
        · cases gives
      exact confined.closed_kids held owner ((mem_kids owns).mpr member)
    rw [after, insertNode_begun owns fits itself, ← after]
    exact ((freeing_confined confined inside).bind fun block within =>
      settling_confined confined owner within removed _ _) f held

end Edit

namespace Plan
open Forest EStateM

variable {area : NodeId → Prop} {holds : Forest → Prop} {f : Forest} {new : Option NodeId}

-- What is written to first: the node that something goes into, or that leaves its parent.
def target? : Plan → Option NodeId
  | .refuse _ => none
  | .detach n => some n
  | .insert parent _ _ => some parent

theorem atEnd_target {p t : NodeId} (target : t ∈ (atEnd f p).target?) : t = p := by
  unfold atEnd at target
  split at target
  · cases target
  · exact (Option.some.inj target).symm

theorem atPlace_target {p c t : NodeId} {replacing : Bool}
    (target : t ∈ (atPlace f p c replacing).target?) : t = p := by
  unfold atPlace at target
  split at target
  · cases target
  · exact (Option.some.inj target).symm

theorem inFront_target {p t : NodeId} {reference : Option NodeId}
    (target : t ∈ (inFront f p reference).target?) : t = p := by
  unfold inFront at target
  split at target
  · exact atEnd_target target
  · split at target
    · cases target
    · split at target
      · exact atPlace_target target
      · cases target

theorem instead_target {old t : NodeId} (target : t ∈ (instead f old).target?) :
    f.parent old = some t := by
  unfold instead at target
  split at target
  · cases target
  · rename_i p linked
    rw [linked, atPlace_target target]

theorem ofBranch_target {n t : NodeId} {plan : Plan} (target : t ∈ (ofBranch f n plan).target?) :
    t ∈ plan.target? := by
  unfold ofBranch at target
  split at target
  · exact target
  · cases target

theorem ofChild_target {p c t : NodeId} {plan : Plan} (target : t ∈ (ofChild f p c plan).target?) :
    t ∈ plan.target? := by
  unfold ofChild at target
  split at target
  · exact target
  · cases target

theorem run_confined (confined : Confined area holds) (inside : ∀ n ∈ new, area n) {plan : Plan}
    (target : ∀ n ∈ plan.target?, area n) : Keeps holds (plan.run new) := by
  cases plan with
  | refuse failure => exact Keeps.throw failure
  | detach n => exact Edit.detach_confined confined (target n rfl)
  | insert p index replacing =>
    exact (Edit.insertNode_confined confined (target p rfl) inside index replacing).discard

end Plan

namespace Move
open Forest EStateM

-- All the nodes that a move names.
def arguments : Move → List NodeId
  | .insert parent _ new _ | .append parent new | .appendChild parent new => parent :: new.toList
  | .before parent reference new | .childBefore parent new reference =>
    parent :: (reference.toList ++ new.toList)
  | .replace old new => old :: new.toList
  | .remove n => [n]
  | .replaceChild parent new old => parent :: old :: new.toList
  | .removeChild parent child => [parent, child]

theorem given_arguments (move : Move) : ∀ n ∈ move.given, n ∈ move.arguments := by
  intro n given
  cases move <;> simp_all [arguments, Move.given]

-- A move writes first to a node that it names, or to the parent of one.
theorem plan_target (move : Move) (f : Forest) {t : NodeId} (target : t ∈ (move.plan f).target?) :
    t ∈ move.arguments ∨ ∃ n ∈ move.arguments, f.parent n = some t := by
  cases move with
  | insert parent index new replacing =>
    cases target
    exact .inl List.mem_cons_self
  | before parent reference new =>
    cases Plan.inFront_target target
    exact .inl List.mem_cons_self
  | append parent new =>
    cases Plan.atEnd_target target
    exact .inl List.mem_cons_self
  | replace old new => exact .inr ⟨old, List.mem_cons_self, Plan.instead_target target⟩
  | remove n =>
    cases target
    exact .inl List.mem_cons_self
  | appendChild parent new =>
    cases Plan.atEnd_target (Plan.ofBranch_target target)
    exact .inl List.mem_cons_self
  | childBefore parent new reference =>
    cases Plan.inFront_target (Plan.ofBranch_target target)
    exact .inl List.mem_cons_self
  | replaceChild parent new old =>
    have replaced := Plan.instead_target (Plan.ofChild_target (Plan.ofBranch_target target))
    exact .inr ⟨old, by simp [arguments], replaced⟩
  | removeChild parent child =>
    cases Plan.ofChild_target (Plan.ofBranch_target target)
    exact .inl (by simp [arguments])

variable {area : NodeId → Prop} {holds : Forest → Prop}

theorem run_confined (confined : Confined area holds) (move : Move)
    (inside : ∀ n ∈ move.arguments, area n) : Keeps holds move.run := by
  intro f held
  rw [move.after_plan f]
  refine Plan.run_confined confined (fun n given => inside n (move.given_arguments n given)) ?_
    f held
  intro t target
  rcases move.plan_target f target with named | ⟨n, named, linked⟩
  · exact inside t named
  · exact confined.closed_parent held (inside n named) linked

end Move

namespace Edit
open Forest EStateM

variable {area : NodeId → Prop} {holds : Forest → Prop} {f : Forest} {n p : NodeId}

theorem setAttribute_confined (confined : Confined area holds) (inside : area n) (name : String)
    (value : Option String) : Keeps holds (setAttribute n name value) := by
  refine Keeps.bind Keeps.read fun f => ?_
  split
  · exact Keeps.modify fun _ held => confined.entered held inside _
  · exact Keeps.throw _

theorem removeAttribute_confined (confined : Confined area holds) (inside : area n)
    (name : String) : Keeps holds (removeAttribute n name) := by
  refine Keeps.bind Keeps.read fun f => ?_
  split
  · exact Keeps.modify fun _ held => confined.entered held inside _
  · exact Keeps.pure ()

theorem setTextContent_confined (growing : Growing area holds) (inside : area n)
    (value : Option String) : Keeps holds (setTextContent n value) := by
  have confined := growing.toConfined
  refine Keeps.get fun f held => ?_
  split
  · exact confined.setData held inside value
  · split
    · exact held
    · rename_i children owns
      refine Keeps.bind (Keeps.forM fun c member => detach_confined confined ?_)
        (fun _ g still => ?_) f held
      · exact confined.closed_kids held inside ((mem_kids owns).mpr member)
      · have made := (make_confined growing (.text value)).keeps g still
        refine Move.run_confined confined (.append n (some g.size)) ?_ _ made
        intro m named
        rcases List.mem_cons.mp named with rfl | new
        · exact inside
        · exact List.mem_singleton.mp new ▸ growing.fresh still

theorem collapse_confined (confined : Confined area holds) (owner : area p) (start count : Nat) :
    Keeps holds (collapse p start count) := by
  intro f held
  have listed (c : NodeId) (member : c ∈ f.kids p) : area c :=
    confined.closed_kids held owner member
  have among (c : NodeId) (member : c ∈ runAt f p start count) : area c :=
    listed c (List.mem_of_mem_drop (List.mem_of_mem_take member))
  have keeper (c : NodeId) (stays : c ∈ runKeeper f (runAt f p start count)) : area c :=
    among c (List.mem_of_head? (runKeeper_head c stays))
  have merged : holds (unrun f p start count) := by
    have noted := confined.same held (runNoted_nodes (p := p) (runAt f p start count))
    refine confined.setChildren (confined.linkAll noted ?_ (by simp)) owner ?_
    · intro c member
      exact among c (List.mem_of_mem_filter member)
    · intro c member
      rcases List.mem_append.mp member with before | behind
      · rcases List.mem_append.mp before with front | stays
        · exact listed c (List.mem_of_mem_take front)
        · exact keeper c (by simpa using stays)
      · exact listed c (List.mem_of_mem_drop behind)
  rw [after_ok (collapse_run start count)]
  split
  · rename_i c stays
    exact confined.setData merged (keeper c stays) _
  · exact merged

theorem sweep_confined (confined : Confined area holds) (owner : area p)
    {visit : NodeId → Edit Unit} (visits : ∀ n, area n → Keeps holds (visit n))
    (list : List NodeId) (inside : ∀ c ∈ list, area c) (run : Nat) :
    Keeps holds (sweep visit p list run) := by
  induction list generalizing run with
  | nil =>
    unfold sweep
    split
    · exact collapse_confined confined owner 0 run
    · exact Keeps.pure ()
  | cons n earlier ih =>
    have rest := ih fun c member => inside c (List.mem_cons_of_mem _ member)
    unfold sweep
    refine Keeps.bind Keeps.read fun f => ?_
    dsimp only
    split
    · exact Keeps.refuse
    · refine Keeps.bind Keeps.read fun g => ?_
      split
      · exact rest (run + 1)
      · refine Keeps.bind (visits n (inside n List.mem_cons_self)) fun _ => ?_
        split
        · exact Keeps.bind (collapse_confined confined owner _ _) fun _ => rest 0
        · exact rest 0

theorem normalizeWithin_confined (confined : Confined area holds) (inside : area n)
    (depth : Nat) : Keeps holds (normalizeWithin depth n) := by
  induction depth generalizing n with
  | zero => exact Keeps.pure ()
  | succ depth ih =>
    unfold normalizeWithin
    refine Keeps.get fun f held => ?_
    dsimp only
    split
    · exact held
    · split
      · split
        · exact held
        · rename_i children owns
          refine sweep_confined confined inside (fun c within => ih within) _ ?_ 0 f held
          intro c member
          refine confined.closed_kids held inside ?_
          simpa [kids, Forest.children, owns] using List.mem_reverse.mp member
      · exact held

theorem normalize_confined (confined : Confined area holds) (inside : area n) :
    Keeps holds (normalize n) :=
  Keeps.bind Keeps.read fun f => normalizeWithin_confined confined inside f.reach

end Edit

namespace Call
open Forest EStateM Edit

-- The nodes that a call is asked to work on. One that is only copied is not worked on; one whose table
-- is handed over is, for what is done to the new node is done to it too.
def arguments : Call → List NodeId
  | .move m => m.arguments
  | .normalize n | .setTextContent n _ | .setAttribute n _ _ | .removeAttribute n _ => [n]
  | .plainNode _ table _ _ | .elementNode _ table _ | .templateNode _ table _ => table.owner?.toList
  | _ => []

variable {area : NodeId → Prop} {holds : Forest → Prop}

theorem run_confined (growing : Growing area holds) (call : Call)
    (inside : ∀ n ∈ call.arguments, area n) : Keeps holds call.run := by
  have confined := growing.toConfined
  have owner {table : Table} (among : ∀ n ∈ table.owner?.toList, area n) :
      ∀ owner ∈ table.owner?, area owner := fun n owns => among n (Option.mem_toList.mpr owns)
  cases call with
  | text data => exact (make_confined growing (.text data)).keeps.discard
  | comment data => exact (make_confined growing (.plain _ _ _ _)).keeps.discard
  | fragment => exact (make_confined growing (.plain _ _ _ _)).keeps.discard
  | document => exact (make_confined growing (.plain _ _ _ _)).keeps.discard
  | element name ns => exact (makeElement_confined growing name ns).keeps.discard
  | plainNode name table data ns =>
    exact (makeWith_confined growing (owner inside) fun attrs =>
      make_confined growing (.plain _ _ _ _)).discard
  | elementNode name table ns =>
    exact (makeWith_confined growing (owner inside) fun attrs =>
      make_confined growing (.element _ _ _)).discard
  | templateNode name table ns =>
    exact (makeWith_confined growing (owner inside) fun attrs =>
      makeTemplate_confined growing name attrs ns).discard
  | copy n => exact (shallowClone_confined growing).discard
  | move m => exact m.run_confined confined inside
  | normalize n => exact normalize_confined confined (inside n List.mem_cons_self)
  | setTextContent n value =>
    exact setTextContent_confined growing (inside n List.mem_cons_self) value
  | setAttribute n name value =>
    exact setAttribute_confined confined (inside n List.mem_cons_self) name value
  | removeAttribute n name =>
    exact removeAttribute_confined confined (inside n List.mem_cons_self) name

end Call

theorem Forest.Growing.through {area : NodeId → Prop} {holds : Forest → Prop} {f : Forest}
    (growing : Growing area holds) (held : holds f) {calls : List Call}
    (inside : ∀ call ∈ calls, ∀ n ∈ call.arguments, area n) : holds (f.through calls) := by
  induction calls generalizing f with
  | nil => exact held
  | cons call rest ih =>
    have first := call.run_confined growing (inside call List.mem_cons_self) f held
    exact ih first fun later member => inside later (List.mem_cons_of_mem _ member)

end HtmlTree

import HtmlTree.Proofs.Evaluation

namespace HtmlTree

namespace Search

variable {α : Type} {ask : α → Trace → Verdict → Prop} {list asked found : List α} {t u : Trace}
  {verdict : Verdict} {failure : Option Failure}

-- Items are asked one after the other up to the end, or up to the first one that fails. Named are
-- those that are asked, and among them those that pass.
inductive Sweeps (ask : α → Trace → Verdict → Prop) :
    List α → Trace → List α → List α → Option Failure → Trace → Prop where
  | spent {t : Trace} : Sweeps ask [] t [] [] none t
  | found {a : α} {rest asked found : List α} {t u v : Trace} {failure : Option Failure}
      (call : ask a t (.ok true u)) (later : Sweeps ask rest u asked found failure v) :
      Sweeps ask (a :: rest) t (a :: asked) (a :: found) failure v
  | passed {a : α} {rest asked found : List α} {t u v : Trace} {failure : Option Failure}
      (call : ask a t (.ok false u)) (later : Sweeps ask rest u asked found failure v) :
      Sweeps ask (a :: rest) t (a :: asked) found failure v
  | failed {a : α} {rest : List α} {t u : Trace} {failure : Failure}
      (call : ask a t (.error failure u)) : Sweeps ask (a :: rest) t [a] [] (some failure) u

theorem Sweeps.begins (sweeps : Sweeps ask list t asked found failure u) : asked <+: list := by
  induction sweeps with
  | spent => exact List.prefix_rfl
  | failed => exact List.prefix_append [_] _
  | found _ _ ih | passed _ _ ih => exact List.cons_prefix_cons.mpr ⟨rfl, ih⟩

theorem Sweeps.whole (sweeps : Sweeps ask list t asked found failure u) (ends : failure = none) :
    asked = list := by
  induction sweeps with
  | spent => rfl
  | failed => cases ends
  | found _ _ ih | passed _ _ ih => rw [ih ends]

theorem Sweeps.logged {log : Trace → List α}
    (grows : ∀ a t verdict, ask a t verdict → log verdict.trace = log t ++ [a])
    (sweeps : Sweeps ask list t asked found failure u) : log u = log t ++ asked := by
  induction sweeps with
  | spent => exact (List.append_nil _).symm
  | failed call => exact grows _ _ _ call
  | @found a _ _ _ t u _ _ call _ ih | @passed a _ _ _ t u _ _ call _ ih =>
    have here : log u = log t ++ [a] := grows a t _ call
    rw [ih, here, List.append_assoc, List.singleton_append]

-- The calls of a check on the nodes of a list.
def Gives (check : NodeId → Check) (n : NodeId) (t : Trace) (verdict : Verdict) : Prop :=
  check n t = verdict

-- What a search for one node comes to: the node that was asked last, if it has passed.
def outcome (asked : List NodeId) : Verdict → EStateM.Result Failure Trace (Option NodeId)
  | .ok true t => .ok asked.getLast? t
  | .ok false t => .ok none t
  | .error failure t => .error failure t

theorem outcome_cons {asked nodes : List NodeId} {check : NodeId → Check}
    (asks : Asks (Gives check) true nodes t asked verdict) (n : NodeId) :
    outcome (n :: asked) verdict = outcome asked verdict := by
  match verdict with
  | .ok true u =>
    obtain ⟨front, a, _, rfl, _⟩ := asks.ends
    rw [outcome, outcome, ← List.cons_append, List.getLast?_concat, List.getLast?_concat]
  | .ok false u => rfl
  | .error failure u => rfl

theorem first_asks (check : NodeId → Check) (nodes : List NodeId) (t : Trace) :
    ∃ asked verdict, Asks (Gives check) true nodes t asked verdict ∧
      first check nodes t = outcome asked verdict := by
  induction nodes generalizing t with
  | nil => exact ⟨[], _, .spent, rfl⟩
  | cons n nodes ih =>
    rw [first]
    simp only [bind, EStateM.bind]
    cases call : check n t with
    | error failure u => exact ⟨[n], _, .failed call, rfl⟩
    | ok passes u =>
      cases passes with
      | true => exact ⟨[n], _, .decided call, rfl⟩
      | false =>
        obtain ⟨asked, verdict, asks, came⟩ := ih u
        refine ⟨n :: asked, verdict, .passed call asks, ?_⟩
        rw [outcome_cons asks]
        exact came

theorem every_sweeps (check : NodeId → Check) (nodes : List NodeId) (t : Trace) :
    ∃ asked found failure u, Sweeps (Gives check) nodes t asked found failure u ∧
      every check none nodes t = (⟨found, failure⟩, u) := by
  induction nodes generalizing t with
  | nil => exact ⟨[], [], none, t, .spent, rfl⟩
  | cons n nodes ih =>
    cases call : check n t with
    | error failure u => exact ⟨[n], [], some failure, u, .failed call, by rw [every, call]⟩
    | ok passes u =>
      obtain ⟨asked, found, failure, v, sweeps, came⟩ := ih u
      cases passes with
      | true =>
        refine ⟨n :: asked, n :: found, failure, v, .found call sweeps, ?_⟩
        rw [every, call]
        dsimp only
        rw [came]
      | false =>
        refine ⟨n :: asked, found, failure, v, .passed call sweeps, ?_⟩
        rw [every, call]
        exact came

theorem firstOnTrail_whole (check : NodeId → Check) (nodes : List NodeId) :
    firstOnTrail check ⟨nodes, none⟩ = first check nodes := by
  funext t
  rw [firstOnTrail]
  simp only [bind, EStateM.bind]
  cases first check nodes t with
  | error failure u => rfl
  | ok found u => cases found <;> rfl

-- The nodes of the calls recorded under a label.
def calls (label : String) (t : Trace) : List NodeId :=
  (t.filter fun call => call.1 = label).map Prod.snd

-- What the searches of one family ask of a check whose calls are recorded: the search for the first
-- node that passes, that for all of them, and that which puts them behind others.
structure Recorded (label : String) (check : NodeId → Check) (nodes : List NodeId) (t : Trace)
    (first : Searching (Option NodeId)) (all : StateM Trace (Walk.Trail NodeId))
    (allInto : List NodeId → StateM Trace (Walk.Trail NodeId)) : Prop where
  first : ∃ asked verdict, Asks (Gives check) true nodes t asked verdict ∧
    first t = outcome asked verdict ∧ asked <+: nodes ∧
    calls label verdict.trace = calls label t ++ asked
  all : ∃ asked found failure u, Sweeps (Gives check) nodes t asked found failure u ∧
    all t = (⟨found, failure⟩, u) ∧
    (∀ earlier, allInto earlier t = (⟨earlier ++ found, failure⟩, u)) ∧
    asked <+: nodes ∧ (failure = none → asked = nodes) ∧
    calls label u = calls label t ++ asked

theorem recorded {label : String} {check : NodeId → Check}
    (grows : ∀ n t, calls label ((check n).after t) = calls label t ++ [n])
    (nodes : List NodeId) (t : Trace) :
    Recorded label check nodes t (first check nodes) (every check none nodes)
      fun earlier => everyInto check none earlier nodes := by
  have grows (n : NodeId) (t : Trace) (verdict : Verdict) (call : Gives check n t verdict) :
      calls label verdict.trace = calls label t ++ [n] := by
    rw [← grows n t, EStateM.after, show check n t = verdict from call]
    cases verdict <;> rfl
  obtain ⟨asked, verdict, asks, came⟩ := first_asks check nodes t
  obtain ⟨swept, found, failure, u, sweeps, went⟩ := every_sweeps check nodes t
  refine ⟨⟨asked, verdict, asks, came, asks.begins, asks.logged grows⟩,
    ⟨swept, found, failure, u, sweeps, went, fun earlier => ?_, sweeps.begins, sweeps.whole,
      sweeps.logged grows⟩⟩
  rw [everyInto_eq, went]

end Search

namespace Predicate
open Search

variable {f : Forest} {p : Predicate} {label : String} {n : NodeId} {nodes : List NodeId}

-- A condition that records nothing under a label itself.
def Quiet (p : Predicate) (f : Forest) (label : String) : Prop :=
  ∀ n t, calls label ((p.check f n).after t) = calls label t

theorem Quiet.probe_grows (quiet : p.Quiet f label) (n : NodeId) (t : Trace) :
    calls label (((probe label p).check f n).after t) = calls label t ++ [n] := by
  have handed : ((probe label p).check f n).after t = (p.check f n).after (t ++ [(label, n)]) := by
    rw [check]
    rfl
  rw [handed, quiet n, calls, List.filter_append, List.map_append]
  simp [calls]

theorem asPart_after (check : Check) (t : Trace) : (asPart check).after t = check.after t := by
  rw [EStateM.after, EStateM.after, asPart_run]
  cases check t with
  | ok passes u => rfl
  | error failure u => cases failure <;> rfl

theorem first_onElements (known : ∀ n ∈ nodes, f.known n = true)
    (named : ∀ n ∈ nodes, (f.node n).isNamed = true) :
    first (p.onElements.check f) nodes =
      first (fun n => asPart (p.check f n)) (nodes.filter fun n => (f.node n).isElement) := by
  induction nodes with
  | nil => rfl
  | cons n nodes ih =>
    have rest := ih (fun m member => known m (List.mem_cons_of_mem n member))
      fun m member => named m (List.mem_cons_of_mem n member)
    rw [first, onElements_check (known n List.mem_cons_self) (named n List.mem_cons_self), rest]
    cases element : (f.node n).isElement with
    | false =>
      rw [List.filter_cons_of_neg (by simp [element])]
      rfl
    | true =>
      rw [List.filter_cons_of_pos (by exact element)]
      rfl

theorem every_onElements (known : ∀ n ∈ nodes, f.known n = true)
    (named : ∀ n ∈ nodes, (f.node n).isNamed = true) (failure : Option Failure) :
    every (p.onElements.check f) failure nodes =
      every (fun n => asPart (p.check f n)) failure (nodes.filter fun n => (f.node n).isElement) := by
  induction nodes with
  | nil => rfl
  | cons n nodes ih =>
    have rest := ih (fun m member => known m (List.mem_cons_of_mem n member))
      fun m member => named m (List.mem_cons_of_mem n member)
    funext t
    rw [every, onElements_check (known n List.mem_cons_self) (named n List.mem_cons_self), rest]
    cases element : (f.node n).isElement with
    | false =>
      rw [List.filter_cons_of_neg (by simp [element])]
      rfl
    | true =>
      rw [List.filter_cons_of_pos (by exact element)]
      rfl

end Predicate

namespace Forest
open Walk Search Predicate

variable {f : Forest} {p : Predicate} {label : String} {nodes : List NodeId}

-- A family of searches with one recorded condition: those that ask all nodes, and those that ask
-- none but the elements among them.
structure InOrder (f : Forest) (label : String) (q : Predicate) (nodes : List NodeId) (t : Trace)
    (first : Searching (Option NodeId)) (all : StateM Trace (Trail NodeId))
    (allInto : List NodeId → StateM Trace (Trail NodeId))
    (query : Searching (Option NodeId)) (queryAll : StateM Trace (Trail NodeId))
    (queryAllInto : List NodeId → StateM Trace (Trail NodeId)) : Prop where
  walks : Recorded label (q.check f) nodes t first all allInto
  queries : (∀ n ∈ nodes, (f.node n).isNamed = true) →
    Recorded label (fun n => asPart (q.check f n)) (nodes.filter fun n => (f.node n).isElement) t
      query queryAll queryAllInto

theorem inOrder_along (quiet : p.Quiet f label) (known : ∀ n ∈ nodes, f.known n = true)
    (t : Trace) :
    let q : Predicate := .probe label p
    InOrder f label q nodes t
      (first (q.check f) nodes) (every (q.check f) none nodes)
      (fun earlier => everyInto (q.check f) none earlier nodes)
      (first (q.onElements.check f) nodes) (every (q.onElements.check f) none nodes)
      (fun earlier => everyInto (q.onElements.check f) none earlier nodes) := by
  intro q
  refine ⟨recorded quiet.probe_grows nodes t, fun named => ?_⟩
  have grows (n : NodeId) (t : Trace) :
      calls label ((asPart (q.check f n)).after t) = calls label t ++ [n] := by
    rw [asPart_after, quiet.probe_grows]
  have elements := recorded grows (nodes.filter fun n => (f.node n).isElement) t
  obtain ⟨one, asked, found, failure, u, sweeps, went, _, rest⟩ := elements
  rw [← first_onElements known named] at one
  rw [← every_onElements known named] at went
  refine ⟨one, asked, found, failure, u, sweeps, went, fun earlier => ?_, rest⟩
  rw [everyInto_eq, went]

-- Down any tree, by whatever accessor its children are found, a search asks one node after the other
-- in document order, each of them once and not one behind that which decides, and a search for
-- elements asks no other node. Conditions that are built up are evaluated by the rules for their
-- parts.
theorem searches_ask_in_order (f : Forest) (quiet : p.Quiet f label) (t : Trace) :
    let q : Predicate := .probe label p
    (∀ (next : NodeId → List NodeId) (x : NodeId) (nodes : List NodeId) (limit : Nat),
      Unfolds next [x] nodes → nodes.length ≤ limit → (∀ n ∈ nodes, f.known n = true) →
      forward next limit [x] = nodes ∧
      InOrder f label q nodes t
        (first (q.check f) (forward next limit [x]))
        (every (q.check f) none (forward next limit [x]))
        (fun earlier => everyInto (q.check f) none earlier (forward next limit [x]))
        (first (q.onElements.check f) (forward next limit [x]))
        (every (q.onElements.check f) none (forward next limit [x]))
        (fun earlier => everyInto (q.onElements.check f) none earlier (forward next limit [x]))) ∧
    (∀ (scope : Scope) (x : NodeId) (nodes : List NodeId),
      Unfolds (f.below scope) [x] nodes → (∀ n ∈ nodes, f.known n = true) →
      f.depthFirst scope x = nodes ∧ (Linked f → Lone f → nodes.Nodup) ∧
      InOrder f label q nodes t
        (f.walkFirst scope q x) (f.walkAll scope q x)
        (fun earlier => f.walkAllInto scope q earlier x)
        (f.query scope q x) (f.queryAll scope q x)
        (fun earlier => f.queryAllInto scope q earlier x)) ∧
    (Linked f → ∀ (built : Predicate) (n : NodeId) (t : Trace) (verdict : Verdict),
      f.known n = true → (built.check f n t = verdict ↔ Evaluates f built n t verdict)) := by
  intro q
  refine ⟨fun next x nodes limit tree enough known => ?_, fun scope x nodes tree known => ?_,
    fun linked built n t verdict known => (evaluates_iff linked built n t verdict known).symm⟩
  · have order : forward next limit [x] = nodes := by
      rw [tree.forward_eq, List.take_of_length_le enough]
    rw [order]
    exact ⟨rfl, inOrder_along quiet known t⟩
  · have order : f.depthFirst scope x = nodes := depthFirst_eq tree
    have walk : f.trail scope x = ⟨nodes, none⟩ := by rw [trail, order, downTo_known known]
    refine ⟨order, fun linked lone => linked.unfolds_nodup lone tree, ?_⟩
    simp only [query, queryAll, queryAllInto, walkFirst, walkAll, walkAllInto, everyOnTrail,
      everyOnTrailInto, walk, firstOnTrail_whole]
    exact inOrder_along quiet known t

-- A paragraph with a text, a marked word and an image is searched for the word.
theorem searches_ask_in_order_paragraph :
    let f := Forest.empty.through [.element (some "p") (some "html"), .text (some "a"),
      .element (some "b") (some "html"), .text (some "c"), .element (some "img") (some "html"),
      .move (.append 0 (some 1)), .move (.append 0 (some 2)), .move (.append 2 (some 3)),
      .move (.append 0 (some 4))]
    let word : Predicate := .tag "b"
    let q : Predicate := .probe "word" word
    word.Quiet f "word" ∧ f.depthFirst .visible 0 = [0, 1, 2, 3, 4] ∧
      InOrder f "word" q [0, 1, 2, 3, 4] [] (f.walkFirst .visible q 0) (f.walkAll .visible q 0)
        (fun earlier => f.walkAllInto .visible q earlier 0)
        (f.query .visible q 0) (f.queryAll .visible q 0)
        (fun earlier => f.queryAllInto .visible q earlier 0) ∧
      calls "word" ((f.walkFirst .visible q 0).after []) = [0, 1, 2] ∧
      calls "word" ((f.query .visible q 0).after []) = [0, 2] ∧
      calls "word" (f.walkAll .visible q 0 []).2 = [0, 1, 2, 3, 4] ∧
      calls "word" (f.queryAll .visible q 0 []).2 = [0, 2, 4] := by
  intro f word q
  have linked : Linked f := (Reached.empty.through (by decide)).sound.owned.linked
  have quiet : word.Quiet f "word" := by
    intro n t
    have same : (word.check f n).after t = t := by
      simp only [word, check, testElement]
      split <;> rfl
    rw [same]
  have order : f.depthFirst .visible 0 = [0, 1, 2, 3, 4] := by decide
  have tree : Unfolds (f.below .visible) [0] [0, 1, 2, 3, 4] := order ▸ linked.order_unfolds 0
  obtain ⟨_, searches, _⟩ := searches_ask_in_order f quiet []
  obtain ⟨_, _, asks⟩ := searches .visible 0 [0, 1, 2, 3, 4] tree (by decide)
  exact ⟨quiet, order, asks, by decide, by decide, by decide, by decide⟩

end Forest
end HtmlTree

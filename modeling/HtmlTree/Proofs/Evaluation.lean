import HtmlTree.Proofs.Kinship

namespace HtmlTree

-- What a check comes to: an answer or a failure, and the trace that it leaves.
abbrev Verdict := EStateM.Result Failure Trace Bool

def Verdict.trace : Verdict → Trace
  | .ok _ t => t
  | .error _ t => t

namespace Search

variable {α : Type} {ask : α → Trace → Verdict → Prop} {stop : Bool} {list asked : List α}
  {t u : Trace} {verdict : Verdict}

-- Items are asked one after the other, each with the trace that the one before has left, up to the
-- first one that gives the answer that decides, or that fails. Named are those that are asked.
inductive Asks (ask : α → Trace → Verdict → Prop) (stop : Bool) :
    List α → Trace → List α → Verdict → Prop where
  | spent {t : Trace} : Asks ask stop [] t [] (.ok (!stop) t)
  | decided {a : α} {rest : List α} {t u : Trace} (call : ask a t (.ok stop u)) :
      Asks ask stop (a :: rest) t [a] (.ok stop u)
  | passed {a : α} {rest asked : List α} {t u : Trace} {verdict : Verdict}
      (call : ask a t (.ok (!stop) u)) (later : Asks ask stop rest u asked verdict) :
      Asks ask stop (a :: rest) t (a :: asked) verdict
  | failed {a : α} {rest : List α} {t u : Trace} {failure : Failure}
      (call : ask a t (.error failure u)) : Asks ask stop (a :: rest) t [a] (.error failure u)

theorem Asks.begins (asks : Asks ask stop list t asked verdict) : asked <+: list := by
  induction asks with
  | spent => exact List.prefix_rfl
  | decided | failed => exact List.prefix_append [_] _
  | passed _ _ ih => exact List.cons_prefix_cons.mpr ⟨rfl, ih⟩

-- The last one that is asked is the one that decides.
theorem Asks.ends (asks : Asks ask stop list t asked (.ok stop u)) :
    ∃ front a t, asked = front ++ [a] ∧ ask a t (.ok stop u) := by
  generalize same : (EStateM.Result.ok stop u : Verdict) = verdict at asks
  induction asks with
  | spent => simp at same
  | @decided a _ t _ call =>
    cases same
    exact ⟨[], a, t, rfl, call⟩
  | @passed b _ _ _ _ _ _ _ ih =>
    obtain ⟨front, a, t, rfl, call⟩ := ih same
    exact ⟨b :: front, a, t, rfl, call⟩
  | failed => cases same

-- Where every item gives one verdict, so does the whole.
theorem Asks.unique {others : List α} {other : Verdict}
    (single : ∀ a t v w, ask a t v → ask a t w → v = w)
    (one : Asks ask stop list t asked verdict) (two : Asks ask stop list t others other) :
    asked = others ∧ verdict = other := by
  induction one generalizing others other with
  | spent =>
    cases two
    exact ⟨rfl, rfl⟩
  | decided call =>
    cases two with
    | decided again =>
      cases single _ _ _ _ call again
      exact ⟨rfl, rfl⟩
    | passed again => simpa using single _ _ _ _ call again
    | failed again => cases single _ _ _ _ call again
  | passed call _ ih =>
    cases two with
    | decided again => simpa using single _ _ _ _ call again
    | passed again later =>
      cases single _ _ _ _ call again
      obtain ⟨rfl, rfl⟩ := ih later
      exact ⟨rfl, rfl⟩
    | failed again => cases single _ _ _ _ call again
  | failed call =>
    cases two with
    | decided again => cases single _ _ _ _ call again
    | passed again => cases single _ _ _ _ call again
    | failed again =>
      cases single _ _ _ _ call again
      exact ⟨rfl, rfl⟩

theorem Asks.imp {other : α → Trace → Verdict → Prop}
    (each : ∀ a ∈ list, ∀ t verdict, ask a t verdict → other a t verdict)
    (asks : Asks ask stop list t asked verdict) : Asks other stop list t asked verdict := by
  induction asks with
  | spent => exact .spent
  | decided call => exact .decided (each _ List.mem_cons_self _ _ call)
  | passed call _ ih =>
    refine .passed (each _ List.mem_cons_self _ _ call) (ih fun a member => ?_)
    exact each a (List.mem_cons_of_mem _ member)
  | failed call => exact .failed (each _ List.mem_cons_self _ _ call)

-- A log that grows by every item that is asked has grown by all of them, in order.
theorem Asks.logged {log : Trace → List α}
    (grows : ∀ a t verdict, ask a t verdict → log verdict.trace = log t ++ [a])
    (asks : Asks ask stop list t asked verdict) : log verdict.trace = log t ++ asked := by
  induction asks with
  | spent => exact (List.append_nil _).symm
  | decided call | failed call => exact grows _ _ _ call
  | @passed a _ asked t u _ call _ ih =>
    have here : log u = log t ++ [a] := grows a t _ call
    rw [ih, here, List.append_assoc, List.singleton_append]

end Search

namespace Predicate
open Search Forest

variable {f : Forest} {p : Predicate} {label : String} {n : NodeId} {t : Trace} {verdict : Verdict}

-- What a verdict on a part counts for in the whole.
def ofPart : Verdict → Verdict
  | .error .noAncestry t => .error .noAncestryOfPart t
  | verdict => verdict

theorem asPart_run (check : Check) (t : Trace) : asPart check t = ofPart (check t) := rfl

-- The strict ancestors of a node, nearest first.
inductive Upward (f : Forest) : NodeId → List NodeId → Prop where
  | top {n : NodeId} (free : f.parent n = none) : Upward f n []
  | up {n p : NodeId} {line : List NodeId} (upward : f.parent n = some p) (rest : Upward f p line) :
      Upward f n (p :: line)

-- Whether a condition is not built up from others.
def simple : Predicate → Bool
  | .all _ | .any _ | .not _ | .parent _ | .probe _ _ => false
  | _ => true

def negated : Verdict → Verdict
  | .ok passes t => .ok (!passes) t
  | .error failure t => .error failure t

-- How a condition is evaluated at a node, through all its parts. Those of `all` are evaluated from
-- left to right up to the first that does not hold, those of `any` up to the first that does, and
-- `parent` has its part evaluated at one ancestor after the other up to the first where it holds.
inductive Evaluates (f : Forest) : Predicate → NodeId → Trace → Verdict → Prop where
  | simple {p : Predicate} {n : NodeId} {t : Trace} (plain : p.simple = true) :
      Evaluates f p n t (p.check f n t)
  | probe {p : Predicate} {label : String} {n : NodeId} {t : Trace} {verdict : Verdict}
      (part : Evaluates f p n (t ++ [(label, n)]) verdict) :
      Evaluates f (.probe label p) n t verdict
  | not {p : Predicate} {n : NodeId} {t : Trace} {verdict : Verdict}
      (part : Evaluates f p n t verdict) : Evaluates f (.not p) n t (negated verdict)
  | all {parts : List Predicate} {n : NodeId} {t : Trace} {asked : List (Predicate × NodeId)}
      {verdict : Verdict}
      (asks : Asks (fun call => Evaluates f call.1 call.2) false (parts.map fun part => (part, n)) t
        asked verdict) : Evaluates f (.all parts) n t (ofPart verdict)
  | any {parts : List Predicate} {n : NodeId} {t : Trace} {asked : List (Predicate × NodeId)}
      {verdict : Verdict}
      (asks : Asks (fun call => Evaluates f call.1 call.2) true (parts.map fun part => (part, n)) t
        asked verdict) : Evaluates f (.any parts) n t (ofPart verdict)
  | parent {p : Predicate} {n : NodeId} {line : List NodeId} {t : Trace}
      {asked : List (Predicate × NodeId)} {verdict : Verdict} (upward : Upward f n line)
      (asks : Asks (fun call => Evaluates f call.1 call.2) true (line.map fun a => (p, a)) t
        asked verdict) : Evaluates f (.parent p) n t verdict

-- The calls of conditions at nodes.
def Answered (f : Forest) (call : Predicate × NodeId) (t : Trace) (verdict : Verdict) : Prop :=
  call.1.check f call.2 t = verdict

-- Parts that are run in order until one decides: those of `all` and those of `any` alike.
theorem parts_asks {stop : Bool} (run : List Predicate → Check) (spent : run [] = pure (!stop))
    (step : ∀ part rest t, run (part :: rest) t = match ofPart (part.check f n t) with
      | .ok passes u => if passes = stop then .ok stop u else run rest u
      | .error failure u => .error failure u) (parts : List Predicate) (t : Trace) :
    ∃ asked verdict, Asks (Answered f) stop (parts.map fun part => (part, n)) t asked verdict ∧
      run parts t = ofPart verdict := by
  induction parts generalizing t with
  | nil => exact ⟨[], _, .spent, by rw [spent]; rfl⟩
  | cons part rest ih =>
    rw [step]
    cases call : part.check f n t with
    | error failure u =>
      refine ⟨[(part, n)], _, .failed call, ?_⟩
      cases failure <;> rfl
    | ok passes u =>
      by_cases decides : passes = stop
      · subst decides
        exact ⟨[(part, n)], _, .decided call, if_pos rfl⟩
      · obtain rfl := Bool.eq_not_of_ne decides
        obtain ⟨asked, verdict, asks, came⟩ := ih u
        exact ⟨(part, n) :: asked, verdict, .passed call asks, (if_neg decides).trans came⟩

theorem checkAll_asks (f : Forest) (parts : List Predicate) (n : NodeId) (t : Trace) :
    ∃ asked verdict, Asks (Answered f) false (parts.map fun part => (part, n)) t asked verdict ∧
      checkAll f parts n t = ofPart verdict := by
  refine parts_asks (fun parts => checkAll f parts n) (by simp only [checkAll]; rfl)
    (fun part rest t => ?_) parts t
  simp only [checkAll, bind, EStateM.bind, asPart_run]
  cases ofPart (part.check f n t) with
  | error failure u => rfl
  | ok passes u => cases passes <;> rfl

theorem checkAny_asks (f : Forest) (parts : List Predicate) (n : NodeId) (t : Trace) :
    ∃ asked verdict, Asks (Answered f) true (parts.map fun part => (part, n)) t asked verdict ∧
      checkAny f parts n t = ofPart verdict := by
  refine parts_asks (fun parts => checkAny f parts n) (by simp only [checkAny]; rfl)
    (fun part rest t => ?_) parts t
  simp only [checkAny, bind, EStateM.bind, asPart_run]
  cases ofPart (part.check f n t) with
  | error failure u => rfl
  | ok passes u => cases passes <;> rfl

theorem someOf_asks (f : Forest) (p : Predicate) (line : List NodeId) (t : Trace) :
    ∃ asked, Asks (Answered f) true (line.map fun a => (p, a)) t asked
      (someOf (p.check f) line t) := by
  induction line generalizing t with
  | nil => exact ⟨[], .spent⟩
  | cons a line ih =>
    rw [someOf]
    simp only [bind, EStateM.bind]
    cases call : p.check f a t with
    | error failure u => exact ⟨[(p, a)], .failed call⟩
    | ok passes u =>
      cases passes with
      | true => exact ⟨[(p, a)], .decided call⟩
      | false =>
        obtain ⟨asked, asks⟩ := ih u
        exact ⟨(p, a) :: asked, .passed call asks⟩

theorem Upward.unique {line other : List NodeId} (one : Upward f n line)
    (two : Upward f n other) : line = other := by
  induction one generalizing other with
  | top free =>
    cases two with
    | top => rfl
    | up upward => cases free.symm.trans upward
  | up upward _ ih =>
    cases two with
    | top free => cases free.symm.trans upward
    | up again rest =>
      cases upward.symm.trans again
      rw [ih rest]

theorem upward_chain (rooted : f.Rooted n) : ∃ line, Upward f n line ∧
    ∀ fuel, Walk.chain f.parent (fuel + 1) n = n :: line.take fuel := by
  induction rooted with
  | root free => exact ⟨[], .top free, fun fuel => by rw [Walk.chain, free, List.take_nil]⟩
  | @child n p upward _ ih =>
    obtain ⟨line, above, chained⟩ := ih
    refine ⟨p :: line, .up upward above, fun fuel => ?_⟩
    rw [Walk.chain, upward]
    cases fuel with
    | zero => rfl
    | succ fuel => exact congrArg (n :: ·) (chained fuel)

theorem upward_ancestors (rooted : f.Rooted n) : Upward f n (f.strictAncestors n) := by
  obtain ⟨line, upward, chained⟩ := upward_chain rooted
  obtain ⟨whole, _, _, short, cut⟩ := rooted.line
  have fits : line.length ≤ f.size := by
    have named := (cut (line.length + 1)).symm.trans (chained line.length)
    have length := congrArg List.length named
    rw [List.length_take, List.take_length, List.length_cons] at length
    unfold Forest.reach at short
    omega
  have ancestors : f.ancestors n = n :: line.take f.size := chained f.size
  rw [Forest.strictAncestors, ancestors, List.take_of_length_le fits]
  exact upward

theorem asks_answered {α : Type} {list : List α} {call : α → Predicate × NodeId}
    {asked : List (Predicate × NodeId)} {stop : Bool}
    (each : ∀ a ∈ list, ∀ t verdict, Evaluates f (call a).1 (call a).2 t verdict ↔
      (call a).1.check f (call a).2 t = verdict) :
    Asks (fun call => Evaluates f call.1 call.2) stop (list.map call) t asked verdict ↔
      Asks (Answered f) stop (list.map call) t asked verdict := by
  have same (c : Predicate × NodeId) (member : c ∈ list.map call) (t : Trace) (verdict : Verdict) :
      Evaluates f c.1 c.2 t verdict ↔ Answered f c t verdict := by
    obtain ⟨a, among, rfl⟩ := List.mem_map.mp member
    exact each a among t verdict
  exact ⟨Asks.imp fun c member t verdict => (same c member t verdict).mp,
    Asks.imp fun c member t verdict => (same c member t verdict).mpr⟩

theorem answered_unique {list asked others : List (Predicate × NodeId)} {stop : Bool}
    {other : Verdict} (one : Asks (Answered f) stop list t asked verdict)
    (two : Asks (Answered f) stop list t others other) : verdict = other :=
  (one.unique (fun _ _ _ _ call again => call.symm.trans again) two).2

variable {parts : List Predicate}

theorem evaluates_all (each : ∀ part ∈ parts, ∀ t verdict, Evaluates f part n t verdict ↔
      part.check f n t = verdict) :
    Evaluates f (.all parts) n t verdict ↔ (all parts).check f n t = verdict := by
  obtain ⟨asked, came, asks, ran⟩ := checkAll_asks f parts n t
  rw [check, ran]
  constructor
  · intro evaluates
    cases evaluates with
    | simple plain => cases plain
    | all again => rw [answered_unique asks ((asks_answered each).mp again)]
  · rintro rfl
    exact .all ((asks_answered each).mpr asks)

theorem evaluates_any (each : ∀ part ∈ parts, ∀ t verdict, Evaluates f part n t verdict ↔
      part.check f n t = verdict) :
    Evaluates f (.any parts) n t verdict ↔ (any parts).check f n t = verdict := by
  obtain ⟨asked, came, asks, ran⟩ := checkAny_asks f parts n t
  rw [check, ran]
  constructor
  · intro evaluates
    cases evaluates with
    | simple plain => cases plain
    | any again => rw [answered_unique asks ((asks_answered each).mp again)]
  · rintro rfl
    exact .any ((asks_answered each).mpr asks)

theorem evaluates_parent (rooted : f.Rooted n) (known : f.known n = true)
    (each : ∀ a ∈ f.strictAncestors n, ∀ t verdict, Evaluates f p a t verdict ↔
      p.check f a t = verdict) :
    Evaluates f (.parent p) n t verdict ↔ (parent p).check f n t = verdict := by
  have line := upward_ancestors rooted
  obtain ⟨asked, asks⟩ := someOf_asks f p (f.strictAncestors n) t
  rw [check, if_pos known]
  constructor
  · intro evaluates
    cases evaluates with
    | simple plain => cases plain
    | parent again later =>
      obtain rfl := line.unique again
      exact answered_unique asks ((asks_answered each).mp later)
  · rintro rfl
    exact .parent line ((asks_answered each).mpr asks)

theorem evaluates_not (part : ∀ verdict, Evaluates f p n t verdict ↔ p.check f n t = verdict) :
    Evaluates f (.not p) n t verdict ↔ (not p).check f n t = verdict := by
  have ran : (not p).check f n t = negated (p.check f n t) := by
    rw [check]
    simp only [bind, EStateM.bind]
    cases p.check f n t <;> rfl
  rw [ran]
  constructor
  · intro evaluates
    cases evaluates with
    | simple plain => cases plain
    | not inner => rw [(part _).mp inner]
  · rintro rfl
    exact .not ((part _).mpr rfl)

theorem evaluates_probe (part : ∀ t verdict, Evaluates f p n t verdict ↔ p.check f n t = verdict) :
    Evaluates f (.probe label p) n t verdict ↔ (probe label p).check f n t = verdict := by
  have ran : (probe label p).check f n t = p.check f n (t ++ [(label, n)]) := by
    rw [check]
    rfl
  rw [ran]
  constructor
  · intro evaluates
    cases evaluates with
    | simple plain => cases plain
    | probe inner => exact (part _ _).mp inner
  · rintro rfl
    exact .probe ((part _ _).mpr rfl)

theorem evaluates_simple (plain : p.simple = true) :
    Evaluates f p n t verdict ↔ p.check f n t = verdict := by
  constructor
  · intro evaluates
    cases evaluates with
    | simple => rfl
    | probe | not | all | any | parent => cases plain
  · rintro rfl
    exact .simple plain

mutual

-- By these rules the program evaluates every condition at every node.
theorem evaluates_iff (linked : Linked f) (p : Predicate) (n : NodeId) (t : Trace)
    (verdict : Verdict) (known : f.known n = true) :
    Evaluates f p n t verdict ↔ p.check f n t = verdict := by
  match p with
  | .all parts =>
    refine evaluates_all fun part member t verdict => ?_
    exact evaluates_parts linked parts part member n t verdict known
  | .any parts =>
    refine evaluates_any fun part member t verdict => ?_
    exact evaluates_parts linked parts part member n t verdict known
  | .not part => exact evaluates_not fun verdict => evaluates_iff linked part n t verdict known
  | .parent part =>
    refine evaluates_parent (linked.rooted n) known fun a member t verdict => ?_
    obtain ⟨_, above⟩ := (linked.rooted n).mem_strictAncestors.mp member
    exact evaluates_iff linked part a t verdict (linked.known_above above known)
  | .probe label part =>
    exact evaluates_probe fun t verdict => evaluates_iff linked part n t verdict known
  | .document | .fragment | .element | .text | .comment | .tag _ | .tagMatches _ | .attr _
  | .attrValue _ _ | .attrWord _ _ | .directText _ | .textContent _ | .given _ =>
    exact evaluates_simple rfl

theorem evaluates_parts (linked : Linked f) (parts : List Predicate) (p : Predicate)
    (member : p ∈ parts) (n : NodeId) (t : Trace) (verdict : Verdict) (known : f.known n = true) :
    Evaluates f p n t verdict ↔ p.check f n t = verdict := by
  match parts, member with
  | _ :: _, .head _ => exact evaluates_iff linked p n t verdict known
  | _ :: rest, .tail _ later => exact evaluates_parts linked rest p later n t verdict known

end

end Predicate
end HtmlTree

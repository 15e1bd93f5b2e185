import HtmlTree.Proofs.DocumentOrder
import HtmlTree.Proofs.Grounds
import Mathlib.Data.List.SplitBy

namespace HtmlTree.Forest
open Edit

variable {f g h : Forest} {c k m n x : NodeId} {front gone list other run : List NodeId}
  {runs more : List (List NodeId)}

def allText (f : Forest) (list : List NodeId) : Bool := list.all fun n => (f.node n).isText

theorem allText_iff : f.allText list = true ↔ ∀ n ∈ list, (f.node n).isText = true :=
  List.all_eq_true

-- A list of children in pieces: texts that stand side by side are one piece, as long as it can be,
-- and any other node is a piece by itself.
def pieces (f : Forest) (list : List NodeId) : List (List NodeId) :=
  list.splitBy fun a b => (f.node a).isText && (f.node b).isText

-- The runs of texts in a list, each as long as it can be.
def textRuns (f : Forest) (list : List NodeId) : List (List NodeId) :=
  (f.pieces list).filter f.allText

-- A list with its runs of texts merged: a run gives way to its first text, or to nothing if there is
-- nothing that it says, and any other node stays where it is.
def tidied (f : Forest) (list : List NodeId) : List NodeId :=
  (f.pieces list).flatMap fun piece => if f.allText piece then (runKeeper f piece).toList else piece

theorem pieces_texts (texts : ∀ c ∈ run, (f.node c).isText = true) (some : run ≠ []) :
    f.pieces run = [run] := by
  refine List.splitBy_of_isChain some (List.Pairwise.isChain ?_)
  refine List.pairwise_of_forall_mem_list fun a first b second => ?_
  simp [texts a first, texts b second]

-- Any other node parts the texts in front of it from those behind it.
theorem pieces_plain (plain : (f.node n).isText = false) (front list : List NodeId) :
    f.pieces (front ++ n :: list) = f.pieces front ++ [n] :: f.pieces list := by
  unfold pieces
  rw [List.splitBy_append_cons _ (by simp [plain]), ← List.singleton_append,
    List.splitBy_append (by simp [plain])]
  rfl

theorem textRuns_texts (texts : ∀ c ∈ run, (f.node c).isText = true) (some : run ≠ []) :
    f.textRuns run = [run] := by
  rw [textRuns, pieces_texts texts some, List.filter_cons_of_pos (allText_iff.mpr texts)]
  rfl

theorem textRuns_plain (plain : (f.node n).isText = false) (front list : List NodeId) :
    f.textRuns (front ++ n :: list) = f.textRuns front ++ f.textRuns list := by
  rw [textRuns, pieces_plain plain, List.filter_append,
    List.filter_cons_of_neg (by simp [allText, plain])]
  rfl

theorem tidied_texts (texts : ∀ c ∈ run, (f.node c).isText = true) :
    f.tidied run = (runKeeper f run).toList := by
  cases run with
  | nil => rfl
  | cons c later =>
    rw [tidied, pieces_texts texts (List.cons_ne_nil c later), List.flatMap_singleton,
      if_pos (allText_iff.mpr texts)]

theorem tidied_plain (plain : (f.node n).isText = false) (front list : List NodeId) :
    f.tidied (front ++ n :: list) = f.tidied front ++ n :: f.tidied list := by
  rw [tidied, pieces_plain plain, List.flatMap_append, List.flatMap_cons,
    if_neg (by simp [allText, plain])]
  rfl

-- A list is read from its end: behind the last node that is no text stand texts alone.
theorem runs_induction (f : Forest) {motive : List NodeId → Prop}
    (texts : ∀ run, (∀ c ∈ run, (f.node c).isText = true) → motive run)
    (plain : ∀ front n run, (f.node n).isText = false → (∀ c ∈ run, (f.node c).isText = true) →
      motive front → motive (front ++ n :: run)) (list : List NodeId) : motive list := by
  have along (list run : List NodeId) (behind : ∀ c ∈ run, (f.node c).isText = true) :
      motive (list.reverse ++ run) := by
    induction list generalizing run with
    | nil => exact texts run behind
    | cons n earlier ih =>
      rw [List.reverse_cons, List.append_assoc, List.singleton_append]
      cases text : (f.node n).isText with
      | true => exact ih (n :: run) (List.forall_mem_cons.mpr ⟨text, behind⟩)
      | false =>
        refine plain _ n run text behind ?_
        have front := ih [] nofun
        rwa [List.append_nil] at front
  have whole := along list.reverse [] nofun
  rwa [List.reverse_reverse, List.append_nil] at whole

theorem textRuns_texts_of_mem (member : run ∈ f.textRuns list) :
    ∀ c ∈ run, (f.node c).isText = true :=
  allText_iff.mp (List.mem_filter.mp member).2

theorem textRuns_subset (member : run ∈ f.textRuns list) : run ⊆ list := by
  intro c inside
  have piece := (List.mem_filter.mp member).1
  rw [← List.flatten_splitBy (fun a b => (f.node a).isText && (f.node b).isText) list]
  exact List.mem_flatten.mpr ⟨run, piece, inside⟩

theorem textRuns_nodup (once : list.Nodup) (member : run ∈ f.textRuns list) : run.Nodup := by
  rw [← List.flatten_splitBy (fun a b => (f.node a).isText && (f.node b).isText) list] at once
  exact (List.nodup_flatten.mp once).1 run (List.mem_filter.mp member).1

-- No text is in two runs.
theorem textRuns_sole (once : list.Nodup) (left : run ∈ f.textRuns list)
    (right : other ∈ f.textRuns list) (one : x ∈ run) (both : x ∈ other) : run = other := by
  by_contra differ
  rw [← List.flatten_splitBy (fun a b => (f.node a).isText && (f.node b).isText) list] at once
  have symmetric : Std.Symm (List.Disjoint : List NodeId → List NodeId → Prop) :=
    ⟨fun _ _ => List.disjoint_symm⟩
  have apart := (List.nodup_flatten.mp once).2.forall (List.mem_filter.mp left).1
    (List.mem_filter.mp right).1 differ
  exact apart one both

theorem textRuns_congr (same : ∀ n, (g.node n).isText = (f.node n).isText) (list : List NodeId) :
    g.textRuns list = f.textRuns list := by
  have each : g.allText = f.allText := by
    funext list
    simp only [allText, same]
  simp only [textRuns, pieces, same, each]

-- Whatever goes out of a list, if it leaves of each run what a merging leaves of it, the list is
-- as if its runs had been merged.
theorem filter_tidied (texts : ∀ c ∈ gone, (f.node c).isText = true)
    (each : ∀ run ∈ f.textRuns list, run.filter (· ∉ gone) = (runKeeper f run).toList) :
    list.filter (· ∉ gone) = f.tidied list := by
  induction list using f.runs_induction with
  | texts run all =>
    rw [tidied_texts all]
    by_cases some : run = []
    · subst some
      rfl
    · exact each run (by simp [textRuns_texts all some])
  | plain front n run other all ih =>
    have stays : n ∉ gone := fun leaves => by simp [texts n leaves] at other
    simp only [textRuns_plain other, List.mem_append] at each
    have left := ih fun run among => each run (.inl among)
    have right : run.filter (· ∉ gone) = (runKeeper f run).toList := by
      by_cases some : run = []
      · subst some
        rfl
      · exact each run (.inr (by simp [textRuns_texts all some]))
    rw [tidied_plain other, tidied_texts all, List.filter_append,
      List.filter_cons_of_pos (by simpa using stays), left, right]

-- The texts that go when these runs are merged.
def leaving (f : Forest) (runs : List (List NodeId)) : List NodeId :=
  runs.flatMap fun run => run.filter (runKeeper f run != some ·)

theorem mem_leaving : x ∈ f.leaving runs ↔ ∃ run ∈ runs, x ∈ run ∧ x ∉ runKeeper f run := by
  simp [leaving, Option.mem_def]

theorem leaving_append (f : Forest) (runs more : List (List NodeId)) :
    f.leaving (runs ++ more) = f.leaving runs ++ f.leaving more :=
  List.flatMap_append

-- What is left of a run when it is merged, and with it others that have nothing in common with it.
theorem filter_leaving (member : run ∈ runs) (once : run.Nodup)
    (sole : ∀ other ∈ runs, ∀ x ∈ run, x ∈ other → other = run) :
    run.filter (· ∉ f.leaving runs) = (runKeeper f run).toList := by
  have alone : run.filter (· ∉ f.leaving runs) =
      run.filter (· ∉ run.filter (runKeeper f run != some ·)) := by
    refine List.filter_congr fun x inside => ?_
    have goes : x ∈ f.leaving runs ↔ x ∈ run.filter (runKeeper f run != some ·) := by
      rw [mem_leaving, List.mem_filter]
      constructor
      · rintro ⟨other, among, also, unkept⟩
        obtain rfl := sole other among x inside also
        exact ⟨also, by simpa [Option.mem_def] using unkept⟩
      · rintro ⟨_, unkept⟩
        exact ⟨run, member, inside, by simpa [Option.mem_def] using unkept⟩
    simp only [goes]
  have whole : ([] ++ run ++ []).Nodup := by simpa using once
  have left := filter_run whole (runKeeper_head (f := f))
  rw [alone]
  simpa using left

-- All that happens when runs of texts are merged: in each run the text that stays takes on what the
-- run says, the others leave their list and keep what they say, and nothing else is different.
structure Joined (f g : Forest) (runs : List (List NodeId)) : Prop where
  size : g.size = f.size
  node : ∀ m, g.node m = { f.node m with
    data := g.data m
    parent := if m ∈ f.leaving runs then none else f.parent m
    children := (f.children m).map (·.filter (· ∉ f.leaving runs)) }
  said : ∀ run ∈ runs, ∀ k ∈ runKeeper f run, g.data k = some (runText f run)
  kept : ∀ m, (∀ run ∈ runs, m ∉ runKeeper f run) → g.data m = f.data m

theorem runKeeper_mem (stays : n ∈ runKeeper f run) : n ∈ run :=
  List.mem_of_head? (runKeeper_head n stays)

theorem joined_nil (f : Forest) : Joined f f [] := by
  refine ⟨rfl, fun m => ?_, nofun, fun _ _ => rfl⟩
  have whole : (f.children m).map (·.filter (· ∉ f.leaving [])) = f.children m := by
    cases f.children m <;> simp [leaving]
  rw [whole]
  rfl

namespace Joined

variable (joined : Joined f g runs)
include joined

theorem name (m : NodeId) : (g.node m).name? = (f.node m).name? := by
  rw [joined.node m]

theorem isText (m : NodeId) : (g.node m).isText = (f.node m).isText := by
  rw [Node.isText, Node.name, joined.name, ← Node.name, ← Node.isText]

theorem isContainer (m : NodeId) : (g.node m).isContainer = (f.node m).isContainer := by
  have name : (g.node m).name = (f.node m).name := by rw [Node.name, joined.name, Node.name]
  simp only [Node.isContainer, Node.isElement, Node.isDocument, Node.isFragment, name]

theorem known (m : NodeId) : g.known m = f.known m := by
  rw [Forest.known, joined.size, Forest.known]

theorem parent (m : NodeId) :
    g.parent m = if m ∈ f.leaving runs then none else f.parent m := by
  rw [Forest.parent, joined.node m]

theorem children (m : NodeId) :
    g.children m = (f.children m).map (·.filter (· ∉ f.leaving runs)) := by
  rw [Forest.children, joined.node m]

theorem kids (m : NodeId) : g.kids m = (f.kids m).filter (· ∉ f.leaving runs) := by
  rw [Forest.kids, joined.children m, Forest.kids]
  cases f.children m <;> rfl

theorem rest (m : NodeId) : g.node m =
    { f.node m with data := g.data m, parent := g.parent m, children := g.children m } := by
  rw [joined.parent, joined.children, joined.node m]

-- A list that none of those who go is in is as it was.
theorem children_apart (apart : ∀ c ∈ f.kids m, c ∉ f.leaving runs) :
    g.children m = f.children m := by
  rw [joined.children m]
  cases owns : f.children m with
  | none => rfl
  | some list =>
    have inside : f.kids m = list := kids_eq owns
    exact congrArg some (List.filter_eq_self.mpr fun c member =>
      decide_eq_true (apart c (inside ▸ member)))

theorem kids_apart (apart : ∀ c ∈ f.kids m, c ∉ f.leaving runs) : g.kids m = f.kids m := by
  rw [Forest.kids, joined.children_apart apart, Forest.kids]

-- Only lists are cut shorter, and with them the chains of parents.
theorem linked (linked : Linked f) : Linked g := by
  refine ⟨?_, ?_, fun n => ?_⟩
  · intro n c
    rw [joined.kids, List.mem_filter, linked.listed, joined.parent]
    by_cases goes : c ∈ f.leaving runs <;> simp [goes]
  · intro n
    rw [joined.kids]
    exact (linked.once n).filter _
  · induction linked.rooted n with
    | @root n free => exact .root (by simp [joined.parent, free])
    | @child n p upward _ ih =>
      by_cases goes : n ∈ f.leaving runs
      · exact .root (by simp [joined.parent, goes])
      · exact .child (by rw [joined.parent, if_neg goes, upward]) ih

theorem runText_apart (apart : ∀ other ∈ runs, run.Disjoint other) :
    runText g run = runText f run := by
  refine congrArg String.join (List.map_congr_left fun c member => ?_)
  have same : g.data c = f.data c :=
    joined.kept c fun other among stays => apart other among member (runKeeper_mem stays)
  rw [Node.ownText, Node.ownText]
  exact congrArg (Option.getD · "") same

theorem runKeeper_apart (apart : ∀ other ∈ runs, run.Disjoint other) :
    runKeeper g run = runKeeper f run := by
  rw [runKeeper, runKeeper, joined.runText_apart apart]

theorem trans (next : Joined g h more)
    (apart : ∀ run ∈ more, ∀ other ∈ runs, run.Disjoint other) : Joined f h (runs ++ more) := by
  have leaves : g.leaving more = f.leaving more :=
    List.flatMap_congr fun run among => by rw [joined.runKeeper_apart (apart run among)]
  have unkept {m : NodeId} {run : List NodeId} (among : run ∈ more) (later : m ∉ runKeeper f run) :
      m ∉ runKeeper g run := by rwa [joined.runKeeper_apart (apart run among)]
  have lists (m : NodeId) : (g.children m).map (·.filter (· ∉ f.leaving more)) =
      (f.children m).map (·.filter (· ∉ f.leaving (runs ++ more))) := by
    rw [joined.children, Option.map_map, leaving_append]
    refine congrArg (Option.map · (f.children m)) (funext fun list => ?_)
    simp [List.filter_filter, Bool.and_comm]
  refine ⟨next.size.trans joined.size, fun m => ?_, fun run among k stays => ?_, fun m alone => ?_⟩
  · rw [next.node m, leaves, lists, joined.parent, joined.node m, leaving_append]
    by_cases early : m ∈ f.leaving runs <;> by_cases late : m ∈ f.leaving more <;>
      simp [early, late]
  · rcases List.mem_append.mp among with early | late
    · have later : h.data k = g.data k := next.kept k fun other also again =>
        apart other also run early (runKeeper_mem again) (runKeeper_mem stays)
      rw [later, joined.said run early k stays]
    · rw [← joined.runText_apart (apart run late)]
      exact next.said run late k (by rwa [joined.runKeeper_apart (apart run late)])
  · rw [next.kept m fun run among => unkept among (alone run (List.mem_append_right _ among)),
      joined.kept m fun run among => alone run (List.mem_append_left _ among)]

end Joined

end HtmlTree.Forest

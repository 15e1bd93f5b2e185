import HtmlTree.Proofs.Normalizing

namespace HtmlTree.Forest
open Edit EStateM

variable {f g : Forest} {n : NodeId} {gone list run : List NodeId} {runs : List (List NodeId)}

-- A list of children as it reads: a text falls apart into its characters, so it does not show
-- where one text ends and the next one begins.
def spelled (f : Forest) (list : List NodeId) : List (NodeId ⊕ Char) :=
  list.flatMap fun n =>
    if (f.node n).isText then (f.node n).ownText.toList.map .inr else [.inl n]

-- One forest came of the other by merging texts: lists read as before, and but for lists, the data
-- of texts and links to parents that texts have lost, nodes are as they were.
structure Merged (f g : Forest) : Prop where
  size : g.size = f.size
  kept : ∀ n, g.node n = { f.node n with
    data := (g.node n).data, parent := (g.node n).parent, children := (g.node n).children }
  data : ∀ n, (f.node n).isText = false → g.data n = f.data n
  parent : ∀ n p, g.parent n = some p → f.parent n = some p
  listed : ∀ n, (g.children n).isSome = (f.children n).isSome
  lists : ∀ n, g.spelled (g.kids n) = f.spelled (f.kids n)

theorem Merged.name (merged : Merged f g) (n : NodeId) : (g.node n).name? = (f.node n).name? := by
  rw [merged.kept n]

theorem Merged.isText (merged : Merged f g) (n : NodeId) :
    (g.node n).isText = (f.node n).isText := by
  rw [Node.isText, Node.name, merged.name, ← Node.name, ← Node.isText]

theorem Merged.known (merged : Merged f g) (n : NodeId) : g.known n = f.known n := by
  rw [Forest.known, merged.size, Forest.known]

theorem spelled_append (f : Forest) (front back : List NodeId) :
    f.spelled (front ++ back) = f.spelled front ++ f.spelled back :=
  List.flatMap_append

theorem spelled_congr (same : ∀ n ∈ list, (g.node n).isText = (f.node n).isText ∧
    ((f.node n).isText = true → (g.node n).ownText = (f.node n).ownText)) :
    g.spelled list = f.spelled list := by
  refine List.flatMap_congr fun n member => ?_
  obtain ⟨kind, text⟩ := same n member
  rw [kind]
  split
  · rename_i texts
    rw [text texts]
  · rfl

theorem spelled_texts (f : Forest) (texts : ∀ n ∈ run, (f.node n).isText = true) :
    f.spelled run = (runText f run).toList.map .inr := by
  rw [runText, String.toList_join, List.flatMap_map, List.map_flatMap]
  refine List.flatMap_congr fun n member => ?_
  rw [if_pos (texts n member)]

-- What stays of a run of texts says what all of it said.
theorem spelled_keeper (texts : ∀ n ∈ run, (f.node n).isText = true)
    (reads : ∀ m ∈ run, (g.node m).isText = true)
    (said : ∀ k ∈ runKeeper f run, g.data k = some (runText f run)) :
    g.spelled (runKeeper f run).toList = f.spelled run := by
  rw [spelled_texts f texts]
  cases stays : runKeeper f run with
  | none =>
    have silent : runText f run = "" := by
      unfold runKeeper at stays
      split at stays
      · simpa using ‹(runText f run).isEmpty = true›
      · rw [List.head?_eq_none_iff.mp stays]
        rfl
    simp [spelled, silent]
  | some k =>
    have text := reads k (runKeeper_mem stays)
    have data : (g.node k).ownText = runText f run := by
      rw [Node.ownText, ← Forest.data, said k stays, Option.getD_some]
    simp [spelled, text, data]

-- If texts go out of a list and what is left of each run reads as the run did, so does the list.
theorem spelled_filter (isText : ∀ n, (g.node n).isText = (f.node n).isText)
    (texts : ∀ c ∈ gone, (f.node c).isText = true)
    (each : ∀ run ∈ f.textRuns list, g.spelled (run.filter (· ∉ gone)) = f.spelled run) :
    g.spelled (list.filter (· ∉ gone)) = f.spelled list := by
  have behind {run : List NodeId} (all : ∀ c ∈ run, (f.node c).isText = true)
      (each : ∀ other ∈ f.textRuns run, g.spelled (other.filter (· ∉ gone)) = f.spelled other) :
      g.spelled (run.filter (· ∉ gone)) = f.spelled run := by
    by_cases some : run = []
    · subst some
      rfl
    · exact each run (by simp [textRuns_texts all some])
  induction list using f.runs_induction with
  | texts run all => exact behind all each
  | plain front n run other all ih =>
    have stays : n ∉ gone := fun leaves => by simp [texts n leaves] at other
    simp only [textRuns_plain other, List.mem_append] at each
    have left := ih fun run among => each run (.inl among)
    have right := behind all fun run among => each run (.inr among)
    have plain : g.spelled [n] = f.spelled [n] := by simp [spelled, isText, other]
    rw [List.filter_append, List.filter_cons_of_pos (by simpa using stays), spelled_append,
      spelled_append, left, ← List.singleton_append, spelled_append, plain, right,
      ← spelled_append f [n], List.singleton_append]

theorem Joined.merged (joined : Joined f g runs) (linked : Linked f)
    (standing : ∀ run ∈ runs, ∃ m, run ∈ f.textRuns (f.kids m)) : Merged f g := by
  refine ⟨joined.size, fun m => ?kept, fun m plain => ?data, fun m p upward => ?parent,
    fun m => ?listed, fun m => ?lists⟩
  case kept => rw [joined.node m]
  case data =>
    refine joined.kept m fun run among stays => ?_
    obtain ⟨p, stands⟩ := standing run among
    cases plain.symm.trans (textRuns_texts_of_mem stands m (runKeeper_mem stays))
  case parent =>
    rw [joined.parent] at upward
    split at upward
    · cases upward
    · exact upward
  case listed => rw [joined.children, Option.isSome_map]
  case lists =>
    rw [joined.kids]
    refine spelled_filter joined.isText (fun c => leaving_isText standing) fun run stands => ?_
    have all := textRuns_texts_of_mem stands
    by_cases member : run ∈ runs
    · rw [linked.filter_among standing stands member]
      exact spelled_keeper all (fun c inside => (joined.isText c).trans (all c inside))
        (joined.said run member)
    · have apart : ∀ c ∈ run, ∀ other ∈ runs, c ∉ other := fun c one other among both =>
        member (linked.sole_among standing stands other among c one both ▸ among)
      have stay : run.filter (· ∉ f.leaving runs) = run := by
        refine List.filter_eq_self.mpr fun c inside => decide_eq_true fun leaves => ?_
        obtain ⟨other, among, both, _⟩ := mem_leaving.mp leaves
        exact apart c inside other among both
      rw [stay]
      refine spelled_congr fun c inside => ⟨joined.isText c, fun _ => ?_⟩
      have same := joined.kept c fun other among keeps =>
        apart c inside other among (runKeeper_mem keeps)
      rw [Node.ownText, Node.ownText]
      exact congrArg (Option.getD · "") same

theorem Orderly.normalize_merged (orderly : Orderly f) (known : f.known n = true) :
    ∃ g, normalize n f = .ok () g ∧ Orderly g ∧ Merged f g := by
  obtain ⟨g, runs, ran, joined, exactly⟩ := normalize_joined orderly known
  exact ⟨g, ran, joined.orderly orderly,
    joined.merged orderly.linked fun run among => ((exactly run).mp among).stands⟩

-- A forest as its own operations make it: links agree, every node has a name, what has the name of
-- a text is one, and what has children is none.
structure Regular (f : Forest) : Prop where
  sound : Sound f
  shaped : f.Shaped
  named : ∀ n, (f.node n).isNamed = true
  leaf : ∀ n, (f.node n).isText = true → f.children n = none

theorem Regular.orderly (regular : Regular f) : Orderly f :=
  ⟨regular.sound.owned.linked, regular.shaped, regular.named⟩

theorem Regular.normalize_merged (regular : Regular f) (known : f.known n = true) :
    ∃ g, normalize n f = .ok () g ∧ Regular g ∧ Merged f g := by
  obtain ⟨g, ran, orderly, merged⟩ := regular.orderly.normalize_merged known
  refine ⟨g, ran, ⟨?_, orderly.shaped, orderly.named, fun m text => ?_⟩, merged⟩
  · have kept := normalize_keeps (n := n) sound_stable f regular.sound
    rwa [after_ok ran] at kept
  · rw [merged.isText] at text
    have bare := regular.leaf m text
    have same := merged.listed m
    rw [bare] at same
    exact Option.not_isSome_iff_eq_none.mp (by simp [same])

end HtmlTree.Forest

import HtmlTree.Proofs.Normalizing

namespace HtmlTree.Forest
open Edit

variable {f g h : Forest} {c k m n x : NodeId} {list run : List NodeId}
  {runs : List (List NodeId)}

-- All that normalizing a node does to the nodes of a forest.
structure Normalized (f g : Forest) (n : NodeId) : Prop where
  size : g.size = f.size
  lists : ∀ m, Swept f n m → g.children m = some (f.tidied (f.kids m))
  -- what is no text keeps its place among the others
  order : ∀ m, (g.kids m).filter (fun c => !(f.node c).isText) =
    (f.kids m).filter (fun c => !(f.node c).isText)
  -- the text that a run gives way to holds all that the run said
  stays : ∀ m, Swept f n m → ∀ run ∈ f.textRuns (f.kids m), ∀ k ∈ runKeeper f run,
    g.parent k = some m ∧ g.data k = some (runText f run)
  -- its other texts are free, and hold what they held
  leaves : ∀ m, Swept f n m → ∀ run ∈ f.textRuns (f.kids m), ∀ c ∈ run, c ∉ runKeeper f run →
    g.parent c = none ∧ g.data c = f.data c
  -- nothing else has changed
  unlisted : ∀ x, ¬ Swept f n x → g.children x = f.children x
  others : ∀ x, (∀ m, Swept f n m → x ∈ f.kids m → (f.node x).isText = false) →
    g.parent x = f.parent x ∧ g.data x = f.data x
  rest : ∀ x, g.node x =
    { f.node x with data := g.data x, parent := g.parent x, children := g.children x }
  -- above all nothing that is not below the node, and nothing in a template that is
  outside : ∀ x, ¬ Above f n x → g.node x = f.node x
  contents : ∀ t c, f.content t = some c → f.parent c = none → ¬ Above f c n →
    ∀ x, Above f c x → g.node x = f.node x

namespace Joined

variable (joined : Joined f g runs)
include joined

theorem others_kept (standing : ∀ run ∈ runs, ∃ m, run ∈ f.textRuns (f.kids m)) (m : NodeId) :
    (g.kids m).filter (fun c => !(f.node c).isText) =
      (f.kids m).filter (fun c => !(f.node c).isText) := by
  rw [joined.kids, List.filter_filter]
  refine List.filter_congr fun c _ => ?_
  cases text : (f.node c).isText with
  | true => rfl
  | false =>
    have remains : c ∉ f.leaving runs := fun leaves => by
      simp [leaving_isText standing leaves] at text
    simp [remains]

theorem apart (alone : ∀ run ∈ runs, x ∉ run) : g.parent x = f.parent x ∧ g.data x = f.data x := by
  refine ⟨?_, joined.kept x fun run found keeps => alone run found (runKeeper_mem keeps)⟩
  rw [joined.parent, if_neg]
  intro leaves
  obtain ⟨run, found, inside, _⟩ := mem_leaving.mp leaves
  exact alone run found inside

variable (exactly : ∀ run, run ∈ runs ↔ f.RunBelow n run)
include exactly

theorem spared (plain : ∀ m, Swept f n m → x ∈ f.kids m → (f.node x).isText = false) :
    g.parent x = f.parent x ∧ g.data x = f.data x := by
  refine joined.apart fun run found inside => ?_
  obtain ⟨m, swept, stands⟩ := (exactly run).mp found
  have text := textRuns_texts_of_mem stands x inside
  cases (plain m swept (textRuns_subset stands inside)).symm.trans text

variable (orderly : Orderly f)
include orderly

theorem children_unswept (out : ¬ Swept f n x) : g.children x = f.children x := by
  refine joined.children_apart fun c listed leaves => ?_
  obtain ⟨run, found, inside, _⟩ := mem_leaving.mp leaves
  obtain ⟨m, swept, stands⟩ := (exactly run).mp found
  exact out (orderly.linked.sole_lister (textRuns_subset stands inside) listed ▸ swept)

theorem children_swept (swept : Swept f n m) : g.children m = some (f.tidied (f.kids m)) := by
  have standing (run : List NodeId) (found : run ∈ runs) := ((exactly run).mp found).stands
  obtain ⟨list, owns⟩ := orderly.container swept.container_self
  have own : f.kids m = list := kids_eq owns
  rw [joined.children, owns, own, Option.map_some]
  refine congrArg some (filter_tidied (fun c => leaving_isText standing) fun run stands => ?_)
  rw [← own] at stands
  exact orderly.linked.filter_among standing stands ((exactly run).mpr ⟨m, swept, stands⟩)

theorem keeper (swept : Swept f n m) (stands : run ∈ f.textRuns (f.kids m))
    (keeps : k ∈ runKeeper f run) : g.parent k = some m ∧ g.data k = some (runText f run) := by
  have linked := orderly.linked
  refine ⟨?_, joined.said run ((exactly run).mpr ⟨m, swept, stands⟩) k keeps⟩
  rw [joined.parent, if_neg, (linked.listed m k).mp (textRuns_subset stands (runKeeper_mem keeps))]
  intro leaves
  obtain ⟨other, found, both, unkept⟩ := mem_leaving.mp leaves
  obtain ⟨p, elsewhere⟩ := ((exactly other).mp found).stands
  exact unkept (linked.sole_run elsewhere stands both (runKeeper_mem keeps) ▸ keeps)

theorem leaver (swept : Swept f n m) (stands : run ∈ f.textRuns (f.kids m)) (inside : c ∈ run)
    (unkept : c ∉ runKeeper f run) : g.parent c = none ∧ g.data c = f.data c := by
  have goes : c ∈ f.leaving runs :=
    mem_leaving.mpr ⟨run, (exactly run).mpr ⟨m, swept, stands⟩, inside, unkept⟩
  refine ⟨by rw [joined.parent, if_pos goes], joined.kept c fun other found keeps => ?_⟩
  obtain ⟨p, elsewhere⟩ := ((exactly other).mp found).stands
  exact unkept (orderly.linked.sole_run elsewhere stands (runKeeper_mem keeps) inside ▸ keeps)

theorem outside (out : ¬ Above f n x) : g.node x = f.node x := by
  have linked := orderly.linked
  obtain ⟨parent, data⟩ := joined.spared exactly fun m swept listed =>
    absurd (.up ((linked.listed m x).mp listed) (swept.above linked)) out
  have children := joined.children_unswept exactly orderly fun swept => out (swept.above linked)
  rw [joined.rest x, children, parent, data]
  rfl

theorem normalized : Normalized f g n where
  size := joined.size
  lists _ swept := joined.children_swept exactly orderly swept
  order m := joined.others_kept (fun run found => ((exactly run).mp found).stands) m
  stays _ swept _ stands _ keeps := joined.keeper exactly orderly swept stands keeps
  leaves _ swept _ stands _ inside unkept :=
    joined.leaver exactly orderly swept stands inside unkept
  unlisted _ out := joined.children_unswept exactly orderly out
  others _ plain := joined.spared exactly plain
  rest := joined.rest
  outside _ out := joined.outside exactly orderly out
  contents t c _ free apart x below := by
    refine joined.outside exactly orderly fun above => ?_
    -- the content has no parent: what is above a node of it is in it, or is the content itself
    rcases above.comparable below with up | up
    · cases up with
      | self => exact apart .self
      | up link _ => cases free.symm.trans link
    · exact apart up

end Joined

-- Whatever the links outside are like, texts that stand side by side, at either end of a list or in
-- between, with nothing to say or with nothing at all, are merged through the whole tree.
theorem Orderly.normalize_exact (orderly : Orderly f) (known : f.known n = true) :
    ∃ g, normalize n f = .ok () g ∧ Normalized f g n := by
  obtain ⟨g, runs, ran, joined, exactly⟩ := normalize_joined orderly known
  exact ⟨g, ran, joined.normalized exactly orderly⟩

-- A paragraph with a text, a text without data, an element with two texts, and an empty text.
theorem Orderly.normalize_exact_nested :
    let f := Forest.empty.through [.element (some "p") (some "html"), .text (some "a"), .text none,
      .element (some "b") (some "html"), .text (some "c"), .text (some "d"), .text (some ""),
      .move (.append 0 (some 1)), .move (.append 0 (some 2)), .move (.append 0 (some 3)),
      .move (.append 3 (some 4)), .move (.append 3 (some 5)), .move (.append 0 (some 6))]
    f.children 0 = some [1, 2, 3, 6] ∧ f.children 3 = some [4, 5] ∧
      ∃ g, normalize 0 f = .ok () g ∧ g.children 0 = some [1, 3] ∧ g.children 3 = some [4] ∧
        g.data 4 = some "cd" ∧ g.parent 5 = none ∧ g.data 5 = some "d" ∧ g.parent 6 = none := by
  intro f
  have orderly : Orderly f := orderly_through (by decide) (by decide)
  obtain ⟨g, ran, normalized⟩ := Orderly.normalize_exact orderly (n := 0) (by decide)
  have outer : Swept f 0 0 := .self (by decide)
  have inner : Swept f 0 3 := .child outer (by decide) (by decide)
  have lists : f.tidied (f.kids 0) = [1, 3] ∧ f.tidied (f.kids 3) = [4] := by decide
  obtain ⟨parent, data⟩ := normalized.leaves 3 inner [4, 5] (by decide) 5 (by decide) (by decide)
  refine ⟨by decide, by decide, g, ran, ?_, ?_, ?_, parent, ?_, ?_⟩
  · rw [normalized.lists 0 outer, lists.1]
  · rw [normalized.lists 3 inner, lists.2]
  · exact (normalized.stays 3 inner [4, 5] (by decide) 4 (by decide)).2
  · exact data
  · exact (normalized.leaves 0 outer [6] (by decide) 6 (by decide) (by decide)).1

-- A list in which no two texts stand side by side, and every text has something to say.
structure Parted (f : Forest) (list : List NodeId) : Prop where
  apart : list.IsChain fun a b => ¬ ((f.node a).isText = true ∧ (f.node b).isText = true)
  spoken : ∀ c ∈ list, (f.node c).isText = true → ∃ said, f.data c = some said ∧ said ≠ ""

theorem runText_keeper (keeps : k ∈ runKeeper f run) : runText f run ≠ "" := by
  unfold runKeeper at keeps
  split at keeps
  · cases keeps
  · simpa using ‹¬ (runText f run).isEmpty = true›

theorem tidied_chain (f : Forest) (list : List NodeId) : (f.tidied list).IsChain fun a b =>
    ¬ ((f.node a).isText = true ∧ (f.node b).isText = true) := by
  induction list using f.runs_induction with
  | texts run texts =>
    rw [tidied_texts texts]
    cases runKeeper f run <;> simp
  | plain front n run plain texts ih =>
    rw [tidied_plain plain, tidied_texts texts, List.isChain_append]
    refine ⟨ih, ?_, ?_⟩
    · cases runKeeper f run <;> simp [plain]
    · simp [plain]

theorem tidied_text (member : c ∈ f.tidied list) (text : (f.node c).isText = true) :
    ∃ run ∈ f.textRuns list, c ∈ runKeeper f run := by
  have kept {run : List NodeId} (texts : ∀ x ∈ run, (f.node x).isText = true)
      (member : c ∈ f.tidied run) : ∃ run' ∈ f.textRuns run, c ∈ runKeeper f run' := by
    rw [tidied_texts texts, Option.mem_toList] at member
    exact ⟨run, by simp [textRuns_texts texts (List.ne_nil_of_mem (runKeeper_mem member))], member⟩
  induction list using f.runs_induction with
  | texts run texts => exact kept texts member
  | plain front n run plain texts ih =>
    simp only [textRuns_plain plain, List.mem_append]
    rw [tidied_plain plain] at member
    rcases List.mem_append.mp member with first | behind
    · obtain ⟨found, among, keeps⟩ := ih first
      exact ⟨found, .inl among, keeps⟩
    · rcases List.mem_cons.mp behind with rfl | last
      · cases plain.symm.trans text
      · obtain ⟨found, among, keeps⟩ := kept texts last
        exact ⟨found, .inr among, keeps⟩

-- In such a list every run is one text, which stays, and says what it says already.
theorem Parted.alone (parted : Parted f list) (stands : run ∈ f.textRuns list) :
    ∃ k, run = [k] ∧ runKeeper f run = some k ∧ f.data k = some (runText f run) := by
  have single {texts : List NodeId} (all : ∀ c ∈ texts, (f.node c).isText = true)
      (parted : Parted f texts) (stands : run ∈ f.textRuns texts) :
      ∃ k, run = [k] ∧ runKeeper f run = some k ∧ f.data k = some (runText f run) := by
    match texts with
    | [] => cases stands
    | [k] =>
      obtain rfl : run = [k] := by simpa [textRuns_texts all (List.cons_ne_nil k [])] using stands
      obtain ⟨said, holds, full⟩ := parted.spoken k List.mem_cons_self (all k List.mem_cons_self)
      have own : (f.node k).ownText = said := by
        rw [Node.ownText, ← Forest.data, holds, Option.getD_some]
      have text : runText f [k] = said := by simp [runText, own]
      have some : (runText f [k]).isEmpty = false := by simpa [text] using full
      exact ⟨k, rfl, by simp [runKeeper, some], by rw [holds, text]⟩
    | a :: b :: _ =>
      have both := (List.isChain_cons_cons.mp parted.apart).1
      exact absurd ⟨all a (by simp), all b (by simp)⟩ both
  induction list using f.runs_induction with
  | texts texts all => exact single all parted stands
  | plain front n behind plain all ih =>
    rw [textRuns_plain plain, List.mem_append] at stands
    obtain ⟨before, after, _⟩ := List.isChain_append.mp parted.apart
    rcases stands with first | last
    · exact ih ⟨before, fun c member => parted.spoken c (by simp [member])⟩ first
    · exact single all ⟨after.tail, fun c member => parted.spoken c (by simp [member])⟩ last

-- Where every run is of this kind, a merging leaves every node as it is.
theorem Joined.unchanged (joined : Joined f g runs) (alone : ∀ run ∈ runs,
    ∃ k, run = [k] ∧ runKeeper f run = some k ∧ f.data k = some (runText f run)) (m : NodeId) :
    g.node m = f.node m := by
  have none_leave (x : NodeId) : x ∉ f.leaving runs := by
    intro leaves
    obtain ⟨run, found, inside, unkept⟩ := mem_leaving.mp leaves
    obtain ⟨k, rfl, keeps, _⟩ := alone run found
    exact unkept (List.mem_singleton.mp inside ▸ keeps)
  have data : g.data m = f.data m := by
    by_cases keeps : ∃ run ∈ runs, m ∈ runKeeper f run
    · obtain ⟨run, found, keeps⟩ := keeps
      obtain ⟨k, rfl, stays, holds⟩ := alone run found
      cases stays.symm.trans keeps
      rw [joined.said [m] found m keeps, holds]
    · exact joined.kept m fun run found stays => keeps ⟨run, found, stays⟩
  have children : g.children m = f.children m :=
    joined.children_apart fun c _ => none_leave c
  rw [joined.rest m, data, joined.parent, if_neg (none_leave m), children]
  rfl

-- After a node is normalized no container that is come to from it has two texts side by side or a
-- text without a word, and to normalize it once more changes nothing.
theorem Orderly.normalize_settles (orderly : Orderly f) (known : f.known n = true) :
    ∃ g, normalize n f = .ok () g ∧ (∀ m, Swept g n m → Parted g (g.kids m)) ∧
      ∃ h, normalize n g = .ok () h ∧ h.nodes = g.nodes := by
  obtain ⟨g, runs, ran, joined, exactly⟩ := normalize_joined orderly known
  have normalized := joined.normalized exactly orderly
  have within (m : NodeId) : g.kids m ⊆ f.kids m := by
    rw [joined.kids]
    exact List.filter_subset_self _
  have parted : ∀ m, Swept g n m → Parted g (g.kids m) := by
    intro m swept
    have before := swept.mono joined.isContainer within
    have lists : g.kids m = f.tidied (f.kids m) := by
      rw [kids, normalized.lists m before, Option.getD_some]
    rw [lists]
    refine ⟨?_, fun c member text => ?_⟩
    · simpa only [joined.isText] using f.tidied_chain (f.kids m)
    · rw [joined.isText] at text
      obtain ⟨run, stands, keeps⟩ := tidied_text member text
      exact ⟨_, (normalized.stays m before run stands c keeps).2, runText_keeper keeps⟩
  obtain ⟨h, more, again, next, further⟩ :=
    normalize_joined (joined.orderly orderly) ((joined.known n).trans known)
  refine ⟨g, ran, parted, h, again, nodes_ext next.size (next.unchanged fun run found => ?_)⟩
  obtain ⟨m, swept, stands⟩ := (further run).mp found
  exact (parted m swept).alone stands

-- A text without data parts the same two texts as an element would, but is gone afterwards.
theorem Orderly.normalize_settles_gap :
    let f := Forest.empty.through [.element (some "p") (some "html"), .text (some "a"), .text none,
      .text (some "b"), .element (some "br") (some "html"), .text (some ""),
      .move (.append 0 (some 1)), .move (.append 0 (some 2)), .move (.append 0 (some 3)),
      .move (.append 0 (some 4)), .move (.append 0 (some 5))]
    f.children 0 = some [1, 2, 3, 4, 5] ∧ ∃ g h, normalize 0 f = .ok () g ∧
      Parted g (g.kids 0) ∧ normalize 0 g = .ok () h ∧ h.nodes = g.nodes := by
  intro f
  have orderly : Orderly f := orderly_through (by decide) (by decide)
  obtain ⟨g, ran, parted, h, again, same⟩ :=
    Orderly.normalize_settles orderly (n := 0) (by decide)
  have container : (g.node 0).isContainer = true := by
    rw [← EStateM.after_ok ran]
    decide
  exact ⟨by decide, g, h, ran, parted 0 (.self container), again, same⟩

end HtmlTree.Forest

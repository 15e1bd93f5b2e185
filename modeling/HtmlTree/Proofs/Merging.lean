import HtmlTree.Edit.Normalize
import HtmlTree.Proofs.Upkeep

namespace HtmlTree.Edit
open Forest EStateM

variable {holds : Forest → Prop} {f g : Forest} {n p : NodeId}

-- The children that a merging looks at, what they hold together, and which of them stays.
def runAt (f : Forest) (p : NodeId) (start count : Nat) : List NodeId :=
  ((f.kids p).drop start).take count

def runText (f : Forest) (run : List NodeId) : String :=
  String.join (run.map fun n => (f.node n).ownText)

def runKeeper (f : Forest) (run : List NodeId) : Option NodeId :=
  if (runText f run).isEmpty then none else run.head?

def runNoted (f : Forest) (p : NodeId) (run : List NodeId) : Forest :=
  if 1 < run.length then f.note (.merging run.length (f.name p)) else f

theorem runNoted_nodes (run : List NodeId) : (runNoted f p run).nodes = f.nodes := by
  unfold runNoted
  split <;> rfl

-- The forest with such a run merged, as far as links go.
def unrun (f : Forest) (p : NodeId) (start count : Nat) : Forest :=
  let run := runAt f p start count
  ((runNoted f p run).linkAll (run.filter (runKeeper f run != some ·)) none).setChildren p
    (some ((f.kids p).take start ++ (runKeeper f run).toList ++ (f.kids p).drop (start + count)))

theorem collapse_run (start count : Nat) :
    collapse p start count f = .ok () (match runKeeper f (runAt f p start count) with
      | some n => (unrun f p start count).setData n (some (runText f (runAt f p start count)))
      | none => unrun f p start count) := by
  have staged : collapse p start count f = (match runKeeper f (runAt f p start count) with
      | some n =>
        (modify fun g : Forest => g.setData n (some (runText f (runAt f p start count))))
      | none => (pure () : Edit Unit)) (unrun f p start count) := by
    unfold unrun runNoted
    by_cases many : 1 < (runAt f p start count).length
    · have long := many
      simp only [runAt, kids] at long
      simp only [collapse, bind_run, get_run, if_pos long, if_pos many, modify_run]
      rfl
    · have short := many
      simp only [runAt, kids] at short
      simp only [collapse, bind_run, get_run, if_neg short, if_neg many, modify_run]
      rfl
  rw [staged]
  cases runKeeper f (runAt f p start count) <;> rfl

-- Of a run of children at most the first stays; those around the run are not touched.
theorem filter_run {front run back : List NodeId} (nodup : (front ++ run ++ back).Nodup)
    {keep : Option NodeId} (first : ∀ k ∈ keep, run.head? = some k) :
    (front ++ run ++ back).filter (· ∉ run.filter (keep != some ·)) =
      front ++ keep.toList ++ back := by
  rw [List.nodup_append, List.nodup_append] at nodup
  obtain ⟨⟨_, within, before⟩, _, behind⟩ := nodup
  have left : front.filter (· ∉ run.filter (keep != some ·)) = front := by
    refine List.filter_eq_self.mpr fun c member => ?_
    have apart : c ∉ run := fun also => before c member c also rfl
    simp [apart]
  have right : back.filter (· ∉ run.filter (keep != some ·)) = back := by
    refine List.filter_eq_self.mpr fun c member => ?_
    have apart : c ∉ run := fun also =>
      behind c (List.mem_append_right _ also) c member rfl
    simp [apart]
  have middle : run.filter (· ∉ run.filter (keep != some ·)) = keep.toList := by
    cases keep with
    | none =>
      refine List.filter_eq_nil_iff.mpr fun c member => ?_
      simp [member]
    | some k =>
      obtain ⟨later, rfl⟩ := List.head?_eq_some_iff.mp (first k rfl)
      have fresh : k ∉ later := (List.nodup_cons.mp within).1
      have others : later.filter (· ∉ (k :: later).filter (some k != some ·)) = [] := by
        refine List.filter_eq_nil_iff.mpr fun c member => ?_
        have differs : k ≠ c := fun same => fresh (same ▸ member)
        simp [member, differs]
      rw [List.filter_cons_of_pos (by simp), others]
      rfl
  rw [List.filter_append, List.filter_append, left, middle, right]

theorem runKeeper_head {run : List NodeId} : ∀ k ∈ runKeeper f run, run.head? = some k := by
  intro k
  unfold runKeeper
  split <;> simp

theorem unrun_keeps (stable : Stable holds) (held : holds f) (start count : Nat) :
    holds (unrun f p start count) := by
  cases owns : f.children p with
  | none =>
    have nothing : runAt f p start count = [] := by simp [runAt, kids, owns]
    have left : unrun f p start count = f.setChildren p (some []) := by
      simp [unrun, nothing, runNoted, runKeeper, kids, owns, linkAll]
    rw [left]
    exact stable.same held (.emptied owns rfl)
  | some list =>
    have nodes := runNoted_nodes (f := f) (p := p) (runAt f p start count)
    have before := stable.same held (.of_nodes nodes)
    have owned := (stable.sound before).owned
    have here : (runNoted f p (runAt f p start count)).children p = some list := by
      rw [children, node_of_nodes nodes]
      exact owns
    have split : list.take start ++ runAt f p start count ++ list.drop (start + count) = list := by
      simp only [runAt, kids, owns, Option.getD_some]
      rw [List.append_assoc, ← List.drop_drop, List.take_append_drop, List.take_append_drop]
    have whole : list.Nodup := owned.nodup here
    have stays := filter_run (split ▸ whole) (runKeeper_head (f := f))
    rw [split] at stays
    have within : (runAt f p start count).filter
        (runKeeper f (runAt f p start count) != some ·) ⊆ list := by
      intro c member
      rw [← split]
      simp [List.mem_of_mem_filter member]
    have relinked := unlinked owned here within
    rw [stays] at relinked
    have lists : f.kids p = list := kids_eq owns
    simp only [unrun, lists]
    exact stable.left before relinked

theorem collapse_keeps (stable : Stable holds) (start count : Nat) :
    Keeps holds (collapse p start count) := by
  intro f held
  rw [after_ok (collapse_run start count)]
  have left := unrun_keeps (p := p) stable held start count
  split
  · exact stable.same left (sameLinks_setData _)
  · exact left

theorem sweep_keeps (stable : Stable holds) {visit : NodeId → Edit Unit}
    (visits : ∀ n, Keeps holds (visit n)) (list : List NodeId) (run : Nat) :
    Keeps holds (sweep visit p list run) := by
  induction list generalizing run with
  | nil =>
    unfold sweep
    split
    · exact collapse_keeps stable 0 run
    · exact Keeps.pure ()
  | cons n earlier ih =>
    unfold sweep
    refine Keeps.bind Keeps.read fun f => ?_
    dsimp only
    split
    · exact Keeps.refuse
    · refine Keeps.bind Keeps.read fun g => ?_
      split
      · exact ih (run + 1)
      · refine Keeps.bind (visits n) fun _ => ?_
        split
        · exact Keeps.bind (collapse_keeps stable _ _) fun _ => ih 0
        · exact ih 0

theorem normalizeWithin_keeps (stable : Stable holds) (depth : Nat) :
    Keeps holds (normalizeWithin depth n) := by
  induction depth generalizing n with
  | zero => exact Keeps.pure ()
  | succ depth ih =>
    unfold normalizeWithin
    refine Keeps.bind Keeps.read fun f => ?_
    dsimp only
    split
    · exact Keeps.refuse
    · split
      · split
        · exact Keeps.throw _
        · exact sweep_keeps stable (fun _ => ih) _ _
      · exact Keeps.pure ()

theorem normalize_keeps (stable : Stable holds) : Keeps holds (normalize n) :=
  Keeps.bind Keeps.read fun f => normalizeWithin_keeps stable f.reach

end HtmlTree.Edit

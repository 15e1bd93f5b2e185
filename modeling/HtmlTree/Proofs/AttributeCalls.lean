import HtmlTree.Proofs.Undoing
import Mathlib.Data.List.Nodup

namespace HtmlTree

namespace Attributes

variable {attrs : Attributes} {entries : List (String × Option String)}
  {entry : String × Option String} {name key a : String} {value : Option String}

-- No two names differ only in case.
def Distinct (attrs : Attributes) : Prop := (attrs.names.map Text.lower).Nodup

instance (attrs : Attributes) : Decidable attrs.Distinct := inferInstanceAs (Decidable (List.Nodup _))

theorem Distinct.name_unique (distinct : attrs.Distinct) {left right : String}
    (first : left ∈ attrs.names) (second : right ∈ attrs.names)
    (same : Text.lower left = Text.lower right) : left = right :=
  List.inj_on_of_nodup_map distinct first second same

theorem Distinct.nodup (distinct : attrs.Distinct) : (attrs.entries.map Prod.fst).Nodup :=
  List.Nodup.of_map _ distinct

theorem mem_names (member : entry ∈ attrs.entries) : entry.1 ∈ attrs.names :=
  List.mem_map_of_mem member

theorem putEntry_known (nodup : (entries.map Prod.fst).Nodup) (member : name ∈ entries.map Prod.fst) :
    putEntry name value entries =
      entries.map fun entry => if entry.1 = name then (entry.1, value) else entry := by
  induction entries with
  | nil => cases member
  | cons entry rest ih =>
    simp only [List.map_cons, List.nodup_cons] at nodup
    rw [putEntry, List.map_cons]
    by_cases here : entry.1 = name
    · have kept : (rest.map fun entry => if entry.1 = name then (entry.1, value) else entry) = rest := by
        refine (List.map_congr_left fun later below => if_neg fun same => ?_).trans (List.map_id rest)
        exact nodup.1 (here ▸ same ▸ List.mem_map_of_mem below)
      rw [if_pos here, if_pos here, kept]
    · have further : name ∈ rest.map Prod.fst :=
        (List.mem_cons.mp member).resolve_left fun same => here same.symm
      rw [if_neg here, if_neg here, ih nodup.2 further]

theorem lookup_entry (nodup : (entries.map Prod.fst).Nodup) (member : entry ∈ entries) :
    entries.lookup entry.1 = some entry.2 := by
  induction entries with
  | nil => cases member
  | cons first rest ih =>
    simp only [List.map_cons, List.nodup_cons] at nodup
    rcases List.mem_cons.mp member with rfl | further
    · rw [List.lookup_cons, beq_self_eq_true]
    · have differs : (entry.1 == first.1) = false :=
        beq_eq_false_iff_ne.mpr fun same => nodup.1 (same ▸ List.mem_map_of_mem further)
      rw [List.lookup_cons, differs]
      exact ih nodup.2 further

-- A name refers to what is stored under the same lower case, and to one name at most.
theorem spelling?_same (found : attrs.spelling? a = some key) :
    key ∈ attrs.names ∧ Text.lower key = Text.lower a := by
  rw [spelling?] at found
  split at found
  · rename_i stored
    cases found
    exact ⟨List.contains_iff_mem.mp stored, rfl⟩
  · exact ⟨List.mem_of_find?_eq_some found, by simpa using List.find?_some found⟩

theorem spelling?_none :
    attrs.spelling? a = none ↔ ∀ key ∈ attrs.names, Text.lower key ≠ Text.lower a := by
  rw [spelling?]
  split
  · rename_i stored
    refine ⟨nofun, fun differs => absurd rfl (differs a (List.contains_iff_mem.mp stored))⟩
  · rw [List.find?_eq_none]
    exact forall₂_congr fun key _ => not_congr beq_iff_eq

theorem Distinct.spelling?_eq (distinct : attrs.Distinct) (member : key ∈ attrs.names)
    (same : Text.lower key = Text.lower a) : attrs.spelling? a = some key := by
  cases found : attrs.spelling? a with
  | none => exact absurd same (spelling?_none.mp found key member)
  | some other =>
    obtain ⟨stored, alike⟩ := spelling?_same found
    rw [distinct.name_unique stored member (alike.trans same.symm)]

theorem has_iff : attrs.has a = true ↔ ∃ key ∈ attrs.names, Text.lower key = Text.lower a := by
  simp only [has, Option.isSome_iff_ne_none, Ne, spelling?_none, not_forall, exists_prop, not_not]

theorem Distinct.get_eq (distinct : attrs.Distinct) (member : entry ∈ attrs.entries)
    (same : Text.lower entry.1 = Text.lower a) : attrs.get a = entry.2 := by
  rw [get, distinct.spelling?_eq (mem_names member) same]
  exact congrArg (Option.getD · none) (lookup_entry distinct.nodup member)

theorem Distinct.remove_entries (distinct : attrs.Distinct) (a : String) : (attrs.remove a).entries =
    attrs.entries.filter fun entry => Text.lower entry.1 != Text.lower a := by
  rw [remove]
  cases found : attrs.spelling? a with
  | none =>
    refine (List.filter_eq_self.mpr fun entry member => ?_).symm
    exact bne_iff_ne.mpr (spelling?_none.mp found entry.1 (mem_names member))
  | some key =>
    obtain ⟨stored, alike⟩ := spelling?_same found
    refine List.filter_congr fun entry member => ?_
    rw [Bool.eq_iff_iff, bne_iff_ne, bne_iff_ne, not_iff_not, ← alike]
    exact ⟨congrArg Text.lower, distinct.name_unique (mem_names member) stored⟩

theorem set_new (absent : ∀ key ∈ attrs.names, Text.lower key ≠ Text.lower name)
    (value : Option String) :
    (attrs.set name value).entries = attrs.entries ++ [(name, value)] := by
  rw [set, spelling?_none.mpr absent]
  exact putEntry_new (fun stored => absent name stored rfl) value

theorem Distinct.set_known (distinct : attrs.Distinct) (member : key ∈ attrs.names)
    (same : Text.lower key = Text.lower name) (value : Option String) :
    (attrs.set name value).entries = attrs.entries.map fun entry =>
      if Text.lower entry.1 = Text.lower name then (entry.1, value) else entry := by
  rw [set, distinct.spelling?_eq member same]
  refine (putEntry_known distinct.nodup member).trans (List.map_congr_left fun entry listed => ?_)
  refine if_congr ⟨fun here => here ▸ same, fun alike => ?_⟩ rfl rfl
  exact distinct.name_unique (mem_names listed) member (alike.trans same.symm)

end Attributes

namespace Forest

variable {f : Forest} {n : NodeId}

theorem journal_writeAttrs (attrs : Attributes) : (f.writeAttrs n attrs).journal = f.journal := by
  unfold writeAttrs
  split <;> rfl

theorem writeAttrs_again (known : f.known n = true) (earlier later : Attributes) :
    (f.writeAttrs n earlier).writeAttrs n later = f.writeAttrs n later := by
  have still : (f.writeAttrs n earlier).known n = true := by
    rw [known_iff, size_writeAttrs]
    exact known_iff.mp known
  refine forest_ext (by simp only [journal_writeAttrs]) (by simp only [size_writeAttrs]) fun m => ?_
  simp only [node_writeAttrs still, node_writeAttrs known, SharesTable.same (table_writeAttrs earlier)]
  split <;> rfl

end Forest

-- A call for one name: to give it a value, or to take it away.
inductive AttributeCall where
  | set (name : String) (value : Option String)
  | remove (name : String)
deriving DecidableEq, Repr

namespace AttributeCall
open Attributes Edit

def target : AttributeCall → String
  | set name _ => name
  | remove name => name

def run (n : NodeId) : AttributeCall → Edit Unit
  | set name value => Edit.setAttribute n name value
  | remove name => Edit.removeAttribute n name

def apply (attrs : Attributes) : AttributeCall → Attributes
  | set name value => attrs.set name value
  | remove name => attrs.remove name

-- The last of the calls that are about a name, in whatever case they write it.
def lastOn (a : String) (calls : List AttributeCall) : Option AttributeCall :=
  (calls.filter fun call => Text.lower call.target == Text.lower a).getLast?

-- The name is there after the calls, as the last one about it sets it.
def Present (history : List AttributeCall) (a : String) : Prop :=
  ∃ name value, lastOn a history = some (.set name value)

-- A call adds a name if it sets the name while it is not there.
def AddedAt (history : List AttributeCall) (i : Nat) (name : String) : Prop :=
  (∃ value, history[i]? = some (.set name value)) ∧ ¬ Present (history.take i) name

def LastAddedAt (history : List AttributeCall) (i : Nat) (name : String) : Prop :=
  AddedAt history i name ∧
    ∀ j other, i < j → AddedAt history j other → Text.lower other ≠ Text.lower name

-- The names are written as they were when last added, and stand in the order of those times.
structure Arranged (history : List AttributeCall) (names : List String) : Prop where
  spelled : ∀ name ∈ names, ∃ i, LastAddedAt history i name
  ordered : names.Pairwise fun left right =>
    ∃ i j, i < j ∧ LastAddedAt history i left ∧ LastAddedAt history j right

-- A further call adds a name, in whatever case it writes it.
def Adds (history : List AttributeCall) (call : AttributeCall) (a : String) : Prop :=
  ∃ name value, call = .set name value ∧ Text.lower name = Text.lower a ∧ ¬ Present history name

-- Attributes as calls that add them one after the other.
def opening (attrs : Attributes) : List AttributeCall :=
  attrs.entries.map fun entry => .set entry.1 entry.2

variable {attrs : Attributes} {history calls : List AttributeCall} {call : AttributeCall}
  {entry : String × Option String} {name key a b : String} {value : Option String} {i j : Nat}

theorem lastOn_congr (same : Text.lower a = Text.lower b) (calls : List AttributeCall) :
    lastOn a calls = lastOn b calls := by
  rw [lastOn, lastOn, same]

theorem Present.congr (present : Present history a) (same : Text.lower a = Text.lower b) :
    Present history b := by
  rw [Present, ← lastOn_congr same]
  exact present

theorem lastOn_append (a : String) (history calls : List AttributeCall) :
    lastOn a (history ++ calls) = (lastOn a calls).or (lastOn a history) := by
  rw [lastOn, List.filter_append, List.getLast?_append]
  rfl

theorem lastOn_append_same (call : AttributeCall) (same : Text.lower call.target = Text.lower a) :
    lastOn a (history ++ [call]) = some call := by
  simp [lastOn, same]

theorem lastOn_append_other (call : AttributeCall) (other : Text.lower call.target ≠ Text.lower a) :
    lastOn a (history ++ [call]) = lastOn a history := by
  simp [lastOn, other]

-- A call about another name has nothing to do with whether a name is there.
theorem Present.before (present : Present (history ++ [call]) a)
    (other : Text.lower call.target ≠ Text.lower a) : Present history a := by
  rwa [Present, lastOn_append_other call other] at present

theorem AddedAt.lt (added : AddedAt history i name) : i < history.length := by
  obtain ⟨⟨value, at_time⟩, -⟩ := added
  exact (List.getElem?_eq_some_iff.mp at_time).1

theorem addedAt_before (before : i < history.length) :
    AddedAt (history ++ [call]) i name ↔ AddedAt history i name := by
  rw [AddedAt, List.getElem?_append_left before, List.take_append_of_le_length (Nat.le_of_lt before)]
  rfl

theorem addedAt_now : AddedAt (history ++ [call]) history.length name ↔
    (∃ value, call = .set name value) ∧ ¬ Present history name := by
  rw [AddedAt, List.getElem?_concat_length, List.take_left' rfl]
  simp only [Option.some.injEq]

theorem AddedAt.append (added : AddedAt (history ++ [call]) i name) :
    AddedAt history i name ∨
      i = history.length ∧ (∃ value, call = .set name value) ∧ ¬ Present history name := by
  have inside := added.lt
  rw [List.length_append, List.length_singleton, Nat.lt_succ_iff] at inside
  rcases Nat.lt_or_eq_of_le inside with before | rfl
  · exact .inl ((addedAt_before before).mp added)
  · exact .inr ⟨rfl, addedAt_now.mp added⟩

-- A later call changes nothing for a name that it does not add.
theorem LastAddedAt.append (last : LastAddedAt history i name) (quiet : ¬ Adds history call name) :
    LastAddedAt (history ++ [call]) i name := by
  refine ⟨(addedAt_before last.1.lt).mpr last.1, fun j other later added alike => ?_⟩
  rcases added.append with before | ⟨-, ⟨value, sets⟩, absent⟩
  · exact last.2 j other later before alike
  · exact quiet ⟨other, value, sets, alike, absent⟩

theorem LastAddedAt.now (absent : ¬ Present history name) :
    LastAddedAt (history ++ [.set name value]) history.length name := by
  refine ⟨addedAt_now.mpr ⟨⟨value, rfl⟩, absent⟩, fun j other later added => ?_⟩
  have inside := added.lt
  rw [List.length_append, List.length_singleton] at inside
  exact absurd (Nat.lt_succ_iff.mp inside) (Nat.not_le.mpr later)

theorem Arranged.append {names fewer : List String} (arranged : Arranged history names)
    (part : fewer.Sublist names) (quiet : ∀ name ∈ fewer, ¬ Adds history call name) :
    Arranged (history ++ [call]) fewer := by
  refine ⟨fun name member => ?_, ?_⟩
  · obtain ⟨i, last⟩ := arranged.spelled name (part.subset member)
    exact ⟨i, last.append (quiet name member)⟩
  · refine (arranged.ordered.sublist part).imp_of_mem fun first second earlier => ?_
    obtain ⟨i, j, before, left, right⟩ := earlier
    exact ⟨i, j, before, left.append (quiet _ first), right.append (quiet _ second)⟩

theorem Arranged.add {names : List String} (arranged : Arranged history names)
    (absent : ¬ Present history name)
    (differs : ∀ key ∈ names, Text.lower key ≠ Text.lower name) :
    Arranged (history ++ [.set name value]) (names ++ [name]) := by
  have quiet : ∀ key ∈ names, ¬ Adds history (.set name value) key := by
    rintro key member ⟨_, _, sets, alike, _⟩
    cases sets
    exact differs key member alike.symm
  have still := arranged.append (List.Sublist.refl names) quiet
  have now : LastAddedAt (history ++ [.set name value]) history.length name := .now absent
  refine ⟨fun key member => ?_,
    List.pairwise_append.mpr ⟨still.ordered, List.pairwise_singleton _ _, fun key member new added => ?_⟩⟩
  · rcases List.mem_append.mp member with old | new
    · exact still.spelled key old
    · cases List.mem_singleton.mp new
      exact ⟨_, now⟩
  · cases List.mem_singleton.mp added
    obtain ⟨i, last⟩ := arranged.spelled key member
    exact ⟨i, _, last.1.lt, last.append (quiet key member), now⟩

-- Attributes are what a history of calls makes of none: each is there with the value set last.
structure Follows (history : List AttributeCall) (attrs : Attributes) : Prop where
  distinct : attrs.Distinct
  latest : ∀ entry ∈ attrs.entries, ∃ name, lastOn entry.1 history = some (.set name entry.2)
  stored : ∀ a, Present history a → ∃ key ∈ attrs.names, Text.lower key = Text.lower a
  arranged : Arranged history attrs.names

theorem Follows.present (follows : Follows history attrs) (member : key ∈ attrs.names) :
    Present history key := by
  obtain ⟨entry, listed, rfl⟩ := List.mem_map.mp member
  obtain ⟨name, last⟩ := follows.latest entry listed
  exact ⟨name, entry.2, last⟩

theorem Follows.present_iff (follows : Follows history attrs) :
    Present history a ↔ ∃ key ∈ attrs.names, Text.lower key = Text.lower a := by
  refine ⟨follows.stored a, ?_⟩
  rintro ⟨key, member, same⟩
  exact (follows.present member).congr same

theorem follows_empty : Follows [] .empty where
  distinct := List.nodup_nil
  latest := nofun
  stored := nofun
  arranged := ⟨nofun, List.Pairwise.nil⟩

theorem Follows.remove (follows : Follows history attrs) (name : String) :
    Follows (history ++ [.remove name]) (attrs.remove name) := by
  have entries := follows.distinct.remove_entries name
  have part : (attrs.remove name).names.Sublist attrs.names := by
    rw [names, entries]
    exact List.filter_sublist.map Prod.fst
  refine ⟨follows.distinct.sublist (part.map Text.lower), fun entry member => ?_, ?_, ?_⟩
  · rw [entries, List.mem_filter, bne_iff_ne] at member
    obtain ⟨listed, other⟩ := member
    rw [lastOn_append_other (.remove name) other.symm]
    exact follows.latest entry listed
  · intro a present
    have other : Text.lower name ≠ Text.lower a := by
      intro same
      obtain ⟨target, value, last⟩ := present
      rw [lastOn_append_same (.remove name) same] at last
      cases last
    obtain ⟨key, member, same⟩ := follows.stored a (present.before other)
    obtain ⟨entry, listed, rfl⟩ := List.mem_map.mp member
    refine ⟨entry.1, mem_names ?_, same⟩
    rw [entries, List.mem_filter, bne_iff_ne]
    exact ⟨listed, same ▸ other.symm⟩
  · refine follows.arranged.append part ?_
    rintro key _ ⟨_, _, sets, _⟩
    cases sets

theorem Follows.set_known (follows : Follows history attrs) (member : key ∈ attrs.names)
    (same : Text.lower key = Text.lower name) (value : Option String) :
    Follows (history ++ [.set name value]) (attrs.set name value) := by
  have entries := follows.distinct.set_known member same value
  have kept : (attrs.set name value).names = attrs.names := by
    rw [names, entries, List.map_map]
    refine List.map_congr_left fun entry _ => ?_
    rw [Function.comp_apply]
    split <;> rfl
  refine ⟨by rw [Distinct, kept]; exact follows.distinct, fun entry found => ?_, ?_, ?_⟩
  · rw [entries, List.mem_map] at found
    obtain ⟨old, listed, rfl⟩ := found
    split
    · rename_i alike
      exact ⟨name, lastOn_append_same (.set name value) alike.symm⟩
    · rename_i other
      rw [lastOn_append_other (.set name value) (Ne.symm other)]
      exact follows.latest old listed
  · intro a present
    rw [kept]
    by_cases alike : Text.lower name = Text.lower a
    · exact ⟨key, member, same.trans alike⟩
    · exact follows.stored a (present.before alike)
  · rw [kept]
    refine follows.arranged.append (List.Sublist.refl _) ?_
    rintro other _ ⟨_, _, sets, _, absent⟩
    cases sets
    exact absent ((follows.present member).congr same)

theorem Follows.set_new (follows : Follows history attrs)
    (absent : ∀ key ∈ attrs.names, Text.lower key ≠ Text.lower name) (value : Option String) :
    Follows (history ++ [.set name value]) (attrs.set name value) := by
  have entries := Attributes.set_new absent value
  have grown : (attrs.set name value).names = attrs.names ++ [name] := by
    rw [names, entries, List.map_append]
    rfl
  have new : ¬ Present history name := by
    intro present
    obtain ⟨key, member, same⟩ := follows.stored name present
    exact absent key member same
  refine ⟨?_, fun entry found => ?_, ?_, grown ▸ follows.arranged.add new absent⟩
  · rw [Distinct, grown, List.map_append]
    refine List.nodup_append'.mpr ⟨follows.distinct, List.nodup_singleton _, ?_⟩
    simpa using absent
  · rw [entries] at found
    rcases List.mem_append.mp found with old | added
    · rw [lastOn_append_other (.set name value) (absent _ (mem_names old)).symm]
      exact follows.latest entry old
    · cases List.mem_singleton.mp added
      exact ⟨name, lastOn_append_same (.set name value) rfl⟩
  · intro a present
    rw [grown]
    by_cases alike : Text.lower name = Text.lower a
    · exact ⟨name, List.mem_append_right _ (List.mem_singleton_self _), alike⟩
    · obtain ⟨key, member, same⟩ := follows.stored a (present.before alike)
      exact ⟨key, List.mem_append_left _ member, same⟩

theorem Follows.step (follows : Follows history attrs) (call : AttributeCall) :
    Follows (history ++ [call]) (call.apply attrs) := by
  cases call with
  | remove name => exact follows.remove name
  | set name value =>
    by_cases known : ∃ key ∈ attrs.names, Text.lower key = Text.lower name
    · obtain ⟨key, member, same⟩ := known
      exact follows.set_known member same value
    · exact follows.set_new (fun key member same => known ⟨key, member, same⟩) value

theorem Follows.steps (follows : Follows history attrs) (calls : List AttributeCall) :
    Follows (history ++ calls) (calls.foldl apply attrs) := by
  induction calls generalizing history attrs with
  | nil => simpa using follows
  | cons call rest ih => simpa using ih (follows.step call)

-- Attributes come of the calls that add them.
theorem opening_adds (distinct : attrs.Distinct) : (opening attrs).foldl apply .empty = attrs := by
  rw [Distinct, names, List.map_map] at distinct
  rw [opening, List.foldl_map]
  refine foldl_distinct Attributes.mk (fun front entry new => ?_) [] distinct
  refine congrArg Attributes.mk (Attributes.set_new (fun name stored => ?_) entry.2)
  obtain ⟨other, member, rfl⟩ := List.mem_map.mp stored
  exact new other member

theorem follows_opening (distinct : attrs.Distinct) : Follows (opening attrs) attrs := by
  have follows := follows_empty.steps (opening attrs)
  rwa [opening_adds distinct] at follows

variable {f : Forest} {n : NodeId}

theorem run_apply (read : f.attrs n = some attrs) (call : AttributeCall) :
    call.run n f = .ok () (f.writeAttrs n (call.apply attrs)) := by
  cases call <;> simp only [run, setAttribute, removeAttribute, bind_run, get_run, read, modify_run, apply]

theorem forM_run (read : f.attrs n = some attrs) (calls : List AttributeCall) :
    calls.forM (run n) f =
      .ok () (if calls = [] then f else f.writeAttrs n (calls.foldl apply attrs)) := by
  induction calls generalizing f attrs with
  | nil => rfl
  | cons call rest ih =>
    have known := Forest.known_of_attrs read
    have written : (f.writeAttrs n (call.apply attrs)).attrs n = some (call.apply attrs) := by
      rw [Forest.attrs_writeAttrs known, if_pos (.self f n)]
    change (call.run n >>= fun _ => rest.forM (run n)) f = _
    rw [bind_run, run_apply read call, if_neg (List.cons_ne_nil call rest), List.foldl_cons]
    refine (ih written).trans (congrArg (EStateM.Result.ok ()) ?_)
    split
    · rename_i last
      rw [last, List.foldl_nil]
    · exact Forest.writeAttrs_again known _ _

-- A sequence of calls on a node that has attributes succeeds and changes nothing but the table that
-- they are in. A name is there in the end if the last call about it set it, or if there was no such call and it was there before,
-- and it has the value of then. The names are spelled and ordered as they were last added, those that
-- were there before counting as added first.
theorem attributes_kept (read : f.attrs n = some attrs) (distinct : attrs.Distinct)
    (calls : List AttributeCall) :
    ∃ after g, calls.forM (run n) f = .ok () g ∧ g.attrs n = some after ∧
      g = (if calls = [] then f else f.writeAttrs n after) ∧ after.Distinct ∧
      (∀ a, after.has a = true ↔ (∃ name value, lastOn a calls = some (.set name value)) ∨
        lastOn a calls = none ∧ ∃ key ∈ attrs.names, Text.lower key = Text.lower a) ∧
      (∀ a name value, lastOn a calls = some (.set name value) → after.get a = value) ∧
      (∀ a, lastOn a calls = none → ∀ entry ∈ attrs.entries, Text.lower entry.1 = Text.lower a →
        after.get a = entry.2) ∧
      Arranged (opening attrs ++ calls) after.names := by
  have before := follows_opening distinct
  have follows := before.steps calls
  -- The value under a name is the one that the last call about it gives.
  have read_off {a name : String} {value : Option String}
      (last : lastOn a (opening attrs ++ calls) = some (.set name value)) :
      (calls.foldl apply attrs).get a = value := by
    obtain ⟨key, member, same⟩ := follows.stored a ⟨name, value, last⟩
    obtain ⟨entry, listed, rfl⟩ := List.mem_map.mp member
    obtain ⟨_, latest⟩ := follows.latest entry listed
    rw [lastOn_congr same, last] at latest
    cases latest
    exact follows.distinct.get_eq listed same
  have written : (if calls = [] then f else f.writeAttrs n (calls.foldl apply attrs)).attrs n =
      some (calls.foldl apply attrs) := by
    split
    · rename_i none
      rw [read, none, List.foldl_nil]
    · rw [Forest.attrs_writeAttrs (Forest.known_of_attrs read), if_pos (.self f n)]
  refine ⟨_, _, forM_run read calls, written, rfl, follows.distinct, fun a => ?_, fun a name value last => ?_, fun a untouched entry member same => ?_,
    follows.arranged⟩
  · rw [has_iff, ← follows.present_iff, ← before.present_iff, Present, lastOn_append]
    cases last : lastOn a calls with
    | none => simp [Present]
    | some call => simp
  · have latest : lastOn a (opening attrs ++ calls) = some (.set name value) := by
      rw [lastOn_append, last]
      rfl
    exact read_off latest
  · obtain ⟨name, first⟩ := before.latest entry member
    have latest : lastOn a (opening attrs ++ calls) = some (.set name entry.2) := by
      rw [lastOn_append, untouched, ← lastOn_congr same]
      exact first
    exact read_off latest

-- The address of a link is emptied under another spelling. Its mark is removed and comes back.
theorem attributes_kept_link :
    let attrs : Attributes := ⟨[("HREF", some "/x"), ("id", none)]⟩
    let f : Forest := ⟨#[.newElement (some "a") (some attrs) (some "html")], #[]⟩
    let calls : List AttributeCall :=
      [.set "href" none, .remove "ID", .set "Title" (some "t"), .set "iD" (some "v")]
    f.attrs 0 = some attrs ∧ attrs.Distinct ∧
      ∃ after, calls.forM (run 0) f = .ok () (f.writeAttrs 0 after) ∧
        after.has "Href" = true ∧ after.get "Href" = none ∧ after.get "ID" = some "v" ∧
        Arranged (opening attrs ++ calls) after.names := by
  intro attrs f calls
  have read : f.attrs 0 = some attrs := rfl
  have distinct : attrs.Distinct := by decide
  have emptied : lastOn "Href" calls = some (.set "href" none) := by decide
  have back : lastOn "ID" calls = some (.set "iD" (some "v")) := by decide
  obtain ⟨after, _, ran, -, rfl, -, has, last, -, arranged⟩ := attributes_kept read distinct calls
  exact ⟨read, distinct, after, ran, (has "Href").mpr (.inl ⟨_, _, emptied⟩), last _ _ _ emptied,
    last _ _ _ back, arranged⟩

end AttributeCall
end HtmlTree

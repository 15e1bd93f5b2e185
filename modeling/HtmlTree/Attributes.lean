import HtmlTree.Text.Lower

namespace HtmlTree

-- Attribute names with their values, in the order in which the names were added. A value may be
-- missing, which is not the same as an empty one.
structure Attributes where
  entries : List (String × Option String)
deriving DecidableEq, Repr, Inhabited

namespace Attributes

def empty : Attributes := ⟨[]⟩

def names (attrs : Attributes) : List String := attrs.entries.map Prod.fst

-- The value under exactly this spelling.
def find? (attrs : Attributes) (name : String) : Option (Option String) := attrs.entries.lookup name

def putEntry (name : String) (value : Option String) :
    List (String × Option String) → List (String × Option String)
  | [] => [(name, value)]
  | (key, old) :: rest =>
    if key = name then (key, value) :: rest else (key, old) :: putEntry name value rest

-- A new name goes to the end; a known one keeps its place and takes the new value.
def put (attrs : Attributes) (name : String) (value : Option String) : Attributes :=
  ⟨putEntry name value attrs.entries⟩

def drop (attrs : Attributes) (name : String) : Attributes :=
  ⟨attrs.entries.filter fun entry => entry.1 != name⟩

-- Pairs taken one after the other: a later pair with a known name changes only the value.
def ofPairs (pairs : List (String × Option String)) : Attributes :=
  pairs.foldl (fun attrs pair => attrs.put pair.1 pair.2) empty

-- The stored spelling that a name refers to: itself if present, else the first name with the same
-- lower case.
def spelling? (attrs : Attributes) (name : String) : Option String :=
  if attrs.names.contains name then some name
  else attrs.names.find? fun key => Text.lower key == Text.lower name

def has (attrs : Attributes) (name : String) : Bool := (attrs.spelling? name).isSome

def get (attrs : Attributes) (name : String) : Option String :=
  match attrs.spelling? name with
  | some key => (attrs.find? key).getD none
  | none => none

-- Sets a value under the stored spelling of the name, or adds the name as it is written.
def set (attrs : Attributes) (name : String) (value : Option String) : Attributes :=
  attrs.put ((attrs.spelling? name).getD name) value

def remove (attrs : Attributes) (name : String) : Attributes :=
  match attrs.spelling? name with
  | some key => attrs.drop key
  | none => attrs

-- Equal as mappings: the same values under the same names, whatever the order.
def agrees (left right : Attributes) : Bool :=
  left.entries.length == right.entries.length &&
    left.entries.all fun entry => right.find? entry.1 == some entry.2

-- Where a new key is added at the end, items whose keys are all different are in the end there in
-- their order.
theorem foldl_distinct {α β κ : Type} {key : α → κ} {add : β → α → β} (make : List α → β)
    (adds : ∀ front a, (∀ other ∈ front, key other ≠ key a) → add (make front) a = make (front ++ [a]))
    {items : List α} (front : List α) (distinct : ((front ++ items).map key).Nodup) :
    items.foldl add (make front) = make (front ++ items) := by
  induction items generalizing front with
  | nil => rw [List.append_nil, List.foldl_nil]
  | cons a items ih =>
    have new : ∀ other ∈ front, key other ≠ key a := by
      rw [List.map_append, List.nodup_append] at distinct
      exact fun other member => distinct.2.2 _ (List.mem_map_of_mem member) _ List.mem_cons_self
    have moved : front ++ a :: items = (front ++ [a]) ++ items := by simp
    rw [List.foldl_cons, adds front a new, moved]
    exact ih (front ++ [a]) (moved ▸ distinct)

theorem putEntry_new {name : String} {entries : List (String × Option String)}
    (absent : name ∉ entries.map Prod.fst) (value : Option String) :
    putEntry name value entries = entries ++ [(name, value)] := by
  induction entries with
  | nil => rfl
  | cons entry rest ih =>
    simp only [List.map_cons, List.mem_cons, not_or] at absent
    rw [putEntry, if_neg (Ne.symm absent.1), ih absent.2, List.cons_append]

theorem ofPairs_distinct {pairs : List (String × Option String)}
    (distinct : (pairs.map Prod.fst).Nodup) : ofPairs pairs = ⟨pairs⟩ := by
  refine foldl_distinct mk (fun front pair new => ?_) [] distinct
  refine congrArg mk (putEntry_new (fun stored => ?_) pair.2)
  obtain ⟨other, member, same⟩ := List.mem_map.mp stored
  exact new other member same

end Attributes
end HtmlTree

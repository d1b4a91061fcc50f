import SchemaRegistry.Schema.Node

/-!
The store of compiled schemas. Schemas are kept in the order in which they were compiled, each with
all its locations, beside a table from locations to places and a list of the bases of documents. A
location stands for the first schema that has it: a table keeps the value that a key got first. A
store holds nothing but what its schemas have put there, and so its table can be read as a search
for the first of them.
-/

namespace SchemaRegistry

/-- Values under URLs. -/
abbrev Table (α : Type) := List (Url × α)

namespace Table

variable {α : Type}

/-- Puts a value under a key that has none. -/
def insertNew (t : Table α) (key : Url) (value : α) : Table α :=
  if (t.lookup key).isSome then t else (key, value) :: t

/-- Puts a value under all of the keys that have none. -/
def insertAll (t : Table α) (keys : List Url) (value : α) : Table α :=
  keys.foldl (fun t key => t.insertNew key value) t

theorem lookup_insertNew (t : Table α) (key : Url) (value : α) (uri : Url) :
    (t.insertNew key value).lookup uri =
      (t.lookup uri).or (if uri = key then some value else none) := by
  unfold insertNew
  by_cases hkey : uri = key
  · subst hkey
    rw [if_pos rfl]
    cases hold : t.lookup uri with
    | none => simp
    | some old => simpa using hold
  · rw [if_neg hkey, Option.or_none]
    split
    · rfl
    · rw [List.lookup_cons, beq_false_of_ne hkey]

/-- Old values stay, and of the other keys those in the list get the new one. -/
theorem lookup_insertAll (t : Table α) (keys : List Url) (value : α) (uri : Url) :
    (t.insertAll keys value).lookup uri =
      (t.lookup uri).or (if keys.contains uri then some value else none) := by
  induction keys generalizing t with
  | nil => exact Option.or_none.symm
  | cons key rest ih =>
      change ((t.insertNew key value).insertAll rest value).lookup uri = _
      rw [ih, lookup_insertNew, Option.or_assoc, List.contains_cons]
      by_cases hkey : uri = key
      · simp [hkey]
      · simp [hkey]

end Table

/-- A compiled schema with the text it was compiled from, its locations from the innermost scope
out, and the base of the resource that starts with it, if one does. -/
structure Entry where
  node : Node
  raw : Json
  locations : List Url
  resource : Option Url
  deriving Inhabited

/-- The first schema with a location. -/
def firstWith? (entries : Array Entry) (uri : Url) : Option Entry :=
  entries.find? fun entry => entry.locations.contains uri

/-- The place of the first schema with a location. -/
def findLocation? (entries : Array Entry) (uri : Url) : Option Nat :=
  entries.findIdx? fun entry => entry.locations.contains uri

theorem firstWith?_push (entries : Array Entry) (entry : Entry) (uri : Url) :
    firstWith? (entries.push entry) uri = (firstWith? entries uri).or
      (if entry.locations.contains uri then some entry else none) := by
  unfold firstWith?
  rw [Array.find?_push]

theorem findLocation?_push (entries : Array Entry) (entry : Entry) (uri : Url) :
    findLocation? (entries.push entry) uri = (findLocation? entries uri).or
      (if entry.locations.contains uri then some entries.size else none) :=
  Array.findIdx?_push

/-- Compiled schemas, the first place of each location, and the bases of documents and scopes. -/
structure Store where
  entries : Array Entry
  locations : Table Nat
  resources : List Url
  locations_first : ∀ uri, locations.lookup uri = findLocation? entries uri
  resources_iff : ∀ base, base ∈ resources ↔ ∃ entry ∈ entries, entry.resource = some base

namespace Store

def empty : Store where
  entries := #[]
  locations := []
  resources := []
  locations_first uri := by simp [findLocation?]
  resources_iff base := by simp

instance : Inhabited Store := ⟨empty⟩

/-- Adds a schema. Its locations and its base stay what they are if they are known. -/
def push (s : Store) (entry : Entry) : Store where
  entries := s.entries.push entry
  locations := s.locations.insertAll entry.locations s.entries.size
  resources := entry.resource.elim s.resources s.resources.insert
  locations_first uri := by
    rw [Table.lookup_insertAll, s.locations_first, findLocation?_push]
  resources_iff base := by
    simp only [Array.mem_push, or_and_right, exists_or, exists_eq_left, ← s.resources_iff]
    cases entry.resource with
    | none => simp
    | some added => simp [List.mem_insert_iff, eq_comm, or_comm]

@[simp] theorem entries_push (s : Store) (entry : Entry) :
    (s.push entry).entries = s.entries.push entry := rfl

end Store

end SchemaRegistry

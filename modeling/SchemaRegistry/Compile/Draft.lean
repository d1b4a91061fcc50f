import SchemaRegistry.Store

/-!
Stores in the making. While documents are compiled, the text that was first stored under each
location is kept, and no schema is stored whose text differs from it.
-/

namespace SchemaRegistry

/-- A store with the first text of each location. -/
structure Draft extends Store where
  seen : Table Json
  seen_first : ∀ uri, seen.lookup uri = (firstWith? entries uri).map (·.raw)

namespace Draft

def empty : Draft where
  toStore := .empty
  seen := []
  seen_first uri := by simp [Store.empty, firstWith?]

/-- Adds a schema. Under a location that is known its text does not count. -/
def push (d : Draft) (entry : Entry) : Draft where
  toStore := d.toStore.push entry
  seen := d.seen.insertAll entry.locations entry.raw
  seen_first uri := by
    rw [Table.lookup_insertAll, d.seen_first, Store.entries_push, firstWith?_push, Option.map_or]
    split <;> rfl

@[simp] theorem entries_push (d : Draft) (entry : Entry) :
    (d.push entry).entries = d.entries.push entry := rfl

/-- The first location at which another text was seen. -/
def conflict? (d : Draft) (raw : Json) (locations : List Url) : Option Url :=
  locations.find? fun uri =>
    match d.seen.lookup uri with
    | some earlier => !earlier.same raw
    | none => false

end Draft

end SchemaRegistry

import SchemaRegistry.Store

/-!
Registries. A registry is a store that is complete, with the places of the documents in it, and
answers what a URL addresses and which references miss their targets.
-/

namespace SchemaRegistry

/-- The compiled schemas and the places of those that are documents. -/
structure Registry extends Store where
  roots : List Nat

namespace Registry

instance : Inhabited Registry := ⟨⟨.empty, []⟩⟩

def size (r : Registry) : Nat := r.entries.size

def isEmpty (r : Registry) : Bool := r.entries.isEmpty

/-- The schema at a place. -/
def node? (r : Registry) (index : Nat) : Option Node := r.entries[index]?.map (·.node)

def uriOf? (r : Registry) (index : Nat) : Option Url := (r.node? index).map (·.uri)

def root? (r : Registry) : Option Nat := r.roots.head?

/-- The schema with a location in the form that locations have. -/
def lookup? (r : Registry) (uri : Url) : Option Nat := r.locations.lookup uri

/-- What is found is the first schema that was stored with the location. -/
theorem lookup?_eq_findLocation? (r : Registry) (uri : Url) :
    r.lookup? uri = findLocation? r.entries uri := r.locations_first uri

/-- The schema that a URL addresses: its fragment is read as a pointer. -/
def resolve? (r : Registry) (uri : Url) : Option Nat :=
  match uri.pointer with
  | .ok pointer => r.lookup? (location uri pointer)
  | .error _ => none

/-- Whether a document or declared base has this URL without a fragment. -/
def hasBase (r : Registry) (base : Url) : Bool := r.resources.contains base

theorem hasBase_iff_exists (r : Registry) (base : Url) :
    r.hasBase base = true ↔ ∃ entry ∈ r.entries, entry.resource = some base :=
  List.contains_iff_mem.trans (r.resources_iff base)

/-- Whether a document or declared base has this URL, whatever its fragment. -/
def containsResource (r : Registry) (uri : Url) : Bool := r.hasBase uri.withoutFragment

/-- What a reference misses: its document, or the schema in it. -/
def missing? (r : Registry) (reference : Reference) : Option Url :=
  if !r.hasBase reference.base then some reference.base
  else if (r.lookup? reference.target).isNone then some reference.target
  else none

/-- The references in the order of the schemas that hold them. -/
def references (r : Registry) : List Reference :=
  r.entries.toList.filterMap fun entry => entry.node.reference?

/-- Everything that references miss, each once and in the order in which it is first missed. -/
def unresolved (r : Registry) : List Url :=
  (r.references.filterMap r.missing?).foldl
    (fun found uri => if found.contains uri then found else found ++ [uri]) []

end Registry

end SchemaRegistry

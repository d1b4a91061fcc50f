import SchemaRegistry.Json.Value

/-!
The seven type names of JSON Schema and sets of them, as the `type` keyword uses them.
-/

namespace SchemaRegistry

inductive PrimitiveType where
  | array
  | boolean
  | integer
  | null
  | number
  | object
  | string
  deriving DecidableEq, Inhabited

namespace PrimitiveType

def all : List PrimitiveType := [array, boolean, integer, null, number, object, string]

/-- The name as it is written in a schema. -/
def name : PrimitiveType → String
  | array => "array"
  | boolean => "boolean"
  | integer => "integer"
  | null => "null"
  | number => "number"
  | object => "object"
  | string => "string"

def ofName? (name : String) : Option PrimitiveType := all.find? fun type => type.name = name

/-- Reading a name gives the type that has it. -/
theorem ofName?_name (type : PrimitiveType) : ofName? type.name = some type := by
  cases type <;> decide

end PrimitiveType

structure TypeSet where
  types : List PrimitiveType
  deriving Inhabited

namespace TypeSet

def empty : TypeSet := ⟨[]⟩

def contains (s : TypeSet) (type : PrimitiveType) : Bool := s.types.contains type

def insert (s : TypeSet) (type : PrimitiveType) : TypeSet :=
  if s.contains type then s else ⟨type :: s.types⟩

def isEmpty (s : TypeSet) : Bool := s.types.isEmpty

/-- The types of the set in alphabetical order. -/
def toList (s : TypeSet) : List PrimitiveType := PrimitiveType.all.filter s.contains

/-- Whether the set accepts a value. Integral numbers are integers, however they are written. -/
def accepts (s : TypeSet) : Json → Bool
  | .null => s.contains .null
  | .bool _ => s.contains .boolean
  | .number n => s.contains .number || (s.contains .integer && n.isInteger)
  | .string _ => s.contains .string
  | .array _ => s.contains .array
  | .object _ => s.contains .object

theorem contains_insert (s : TypeSet) (added type : PrimitiveType) :
    (s.insert added).contains type = (s.contains type || added == type) := by
  unfold insert
  split
  · next h =>
    by_cases heq : added = type
    · subst heq; simp [h]
    · simp [heq]
  · simp only [contains, List.contains_cons]
    rw [Bool.or_comm, Bool.beq_comm]

end TypeSet

end SchemaRegistry

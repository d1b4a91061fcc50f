import SchemaRegistry.Compile.Draft
import SchemaRegistry.Compile.Site

/-!
Compiling the keywords of a schema object, with the schemas that they hold. The keywords are read in
a fixed order, and a schema is stored only after all schemas inside it, so that the place of a
schema is greater than the places of its sub-schemas.

How a sub-schema is compiled is a parameter here, `child`, which gets the scopes at the sub-schema's
place.
-/

namespace SchemaRegistry

/-- A computation that stores schemas and may fail. -/
abbrev Compile := StateT Draft (Except CompileError)

/-- The way to compile a schema at the place with the given scopes. -/
abbrev Compiler := Scopes → Json → Compile Nat

namespace Site

/-- Compiles the schema `value`, which lies at `path` below the site under `keyword`. -/
def subschema (s : Site) (child : Compiler) (keyword : String) (path : List String)
    (value : Json) : Compile Nat :=
  if value.isSchema then child (s.scopes.descend path) value
  else s.fail keyword .schemaNotObject

def optional (s : Site) (child : Compiler) (keyword : String) : Compile (Option Nat) :=
  match s.keyword? keyword with
  | none => return none
  | some value => some <$> s.subschema child keyword [keyword] value

/-- Compiles the schemas of an array under a keyword. -/
def sequence (s : Site) (child : Compiler) (keyword : String) (items : List Json) :
    Compile (List Nat) :=
  items.zipIdx.mapM fun (item, index) => s.subschema child keyword [keyword, toString index] item

/-- Compiles the schemas of an object under a keyword. -/
def named (s : Site) (child : Compiler) (keyword : String) (members : List (String × Json)) :
    Compile (List (String × Nat)) :=
  members.mapM fun (name, value) => do
    return (name, ← s.subschema child keyword [keyword, name] value)

def numberRules (s : Site) : Except CompileError NumberRules := do
  let minimum ← s.number? "minimum"
  let maximum ← s.number? "maximum"
  let exclusiveMinimum ← s.number? "exclusiveMinimum"
  let exclusiveMaximum ← s.number? "exclusiveMaximum"
  let multipleOf ← s.divisor? "multipleOf"
  return { minimum, maximum, exclusiveMinimum, exclusiveMaximum, multipleOf }

def stringRules (s : Site) : Except CompileError StringRules := do
  let minLength ← s.natural? "minLength"
  let maxLength ← s.natural? "maxLength"
  let pattern ← s.pattern? "pattern"
  return { minLength, maxLength, pattern }

def items (s : Site) (child : Compiler) : Compile (Option Items) :=
  match s.keyword? "items" with
  | none => return none
  | some (.array schemas) => return some (.tuple (← s.sequence child "items" schemas))
  | some schema => return some (.each (← s.subschema child "items" ["items"] schema))

def arrayRules (s : Site) (child : Compiler) : Compile ArrayRules := do
  let items ← s.items child
  let additionalItems ← s.optional child "additionalItems"
  let minItems ← s.natural? "minItems"
  let maxItems ← s.natural? "maxItems"
  let uniqueItems ← s.flag "uniqueItems"
  let contains ← s.optional child "contains"
  return { items, additionalItems, minItems, maxItems, uniqueItems, contains }

def patternProperty (s : Site) (child : Compiler) (entry : String × Json) :
    Compile (Pattern × Nat) := do
  let pattern ← s.regexp "patternProperties" entry.1
  let index ← s.subschema child "patternProperties" ["patternProperties", entry.1] entry.2
  return (pattern, index)

def dependency (s : Site) (child : Compiler) (entry : String × Json) :
    Compile (String × Dependency) :=
  match entry.2 with
  | .array _ => return (entry.1, .keys (← s.strings "dependencies" entry.2))
  | _ => return (entry.1,
      .schema (← s.subschema child "dependencies" ["dependencies", entry.1] entry.2))

def objectRules (s : Site) (child : Compiler) : Compile ObjectRules := do
  let properties ← s.named child "properties" (← s.table "properties")
  let patternProperties ← (← s.table "patternProperties").mapM (s.patternProperty child)
  let additionalProperties ← s.optional child "additionalProperties"
  let required ← s.required
  let minProperties ← s.natural? "minProperties"
  let maxProperties ← s.natural? "maxProperties"
  let dependencies ← (← s.table "dependencies").mapM (s.dependency child)
  let propertyNames ← s.optional child "propertyNames"
  return { properties, patternProperties, additionalProperties, required, minProperties,
           maxProperties, dependencies, propertyNames }

/-- Compiles the keywords that apply schemas to the same value. What `then` and `else` hold is
compiled also where no `if` gives it a meaning. -/
def combinators (s : Site) (child : Compiler) : Compile Combinators := do
  let allOf ← s.sequence child "allOf" (← s.list "allOf")
  let anyOf ← s.sequence child "anyOf" (← s.list "anyOf")
  let oneOf ← s.sequence child "oneOf" (← s.list "oneOf")
  let not ← s.optional child "not"
  let condition ← s.optional child "if"
  let consequent ← s.optional child "then"
  let alternative ← s.optional child "else"
  return { allOf, anyOf, oneOf, not,
           conditional := condition.map fun condition => { condition, consequent, alternative } }

/-- Compiles all keywords of a schema object. The schemas under `definitions` are stored, but the
object itself does not refer to them. -/
def keywords (s : Site) (child : Compiler) : Compile Keywords := do
  let reference ← s.reference?
  let types ← s.types?
  let numbers ← s.numberRules
  let strings ← s.stringRules
  let arrays ← s.arrayRules child
  let objects ← s.objectRules child
  let enum ← s.enum?
  let const := s.keyword? "const"
  let combinators ← s.combinators child
  let _ ← s.named child "definitions" (← s.table "definitions")
  return { reference, types, numbers, strings, arrays, objects, enum, const, combinators }

end Site

end SchemaRegistry

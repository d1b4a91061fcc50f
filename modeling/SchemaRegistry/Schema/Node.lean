import SchemaRegistry.Json.Equality
import SchemaRegistry.Pattern
import SchemaRegistry.Schema.Location
import SchemaRegistry.Schema.PrimitiveType

/-!
Compiled schemas. A node holds the keywords of one schema, and refers to its sub-schemas by their
place in the list of all nodes, so that a graph of schemas with cycles is a finite list.
-/

namespace SchemaRegistry

/-- The target of a `$ref`: its location, the document it lies in, and the way from there. -/
structure Reference where
  target : Url
  base : Url
  pointer : JsonPointer
  deriving DecidableEq, Inhabited

/-- What `items` holds: one schema for all items, or one for each of the first items. -/
inductive Items where
  | each (schema : Nat)
  | tuple (schemas : List Nat)
  deriving DecidableEq, Inhabited

/-- What a member of an object requires of the object: other members, or a schema. -/
inductive Dependency where
  | keys (names : List String)
  | schema (index : Nat)
  deriving DecidableEq, Inhabited

/-- A schema that decides which of two others applies. -/
structure Conditional where
  condition : Nat
  consequent : Option Nat
  alternative : Option Nat
  deriving DecidableEq, Inhabited

structure NumberRules where
  minimum : Option Binary64
  maximum : Option Binary64
  exclusiveMinimum : Option Binary64
  exclusiveMaximum : Option Binary64
  multipleOf : Option Binary64
  deriving Inhabited

structure StringRules where
  minLength : Option Nat
  maxLength : Option Nat
  pattern : Option Pattern
  deriving Inhabited

structure ArrayRules where
  items : Option Items
  additionalItems : Option Nat
  minItems : Option Nat
  maxItems : Option Nat
  uniqueItems : Bool
  contains : Option Nat
  deriving Inhabited

structure ObjectRules where
  properties : List (String × Nat)
  patternProperties : List (Pattern × Nat)
  additionalProperties : Option Nat
  required : List String
  minProperties : Option Nat
  maxProperties : Option Nat
  dependencies : List (String × Dependency)
  propertyNames : Option Nat
  deriving Inhabited

/-- Keywords that apply schemas to the same value. -/
structure Combinators where
  allOf : List Nat
  anyOf : List Nat
  oneOf : List Nat
  not : Option Nat
  conditional : Option Conditional
  deriving Inhabited

structure Keywords where
  reference : Option Reference
  types : Option TypeSet
  numbers : NumberRules
  strings : StringRules
  arrays : ArrayRules
  objects : ObjectRules
  enum : Option (List Json)
  const : Option Json
  combinators : Combinators
  deriving Inhabited

/-- The content of a schema: a verdict on every value, or keywords. -/
inductive Body where
  | constant (accepts : Bool)
  | keywords (keywords : Keywords)
  deriving Inhabited

/-- A compiled schema: its location in the innermost scope, the base it declares, and its
content. -/
structure Node where
  uri : Url
  id : Option Url
  body : Body
  deriving Inhabited

namespace Node

/-- The verdict of a schema that is just `true` or `false`. -/
def constant? (n : Node) : Option Bool :=
  match n.body with
  | .constant accepts => some accepts
  | .keywords _ => none

/-- The `$ref` of a schema. -/
def reference? (n : Node) : Option Reference :=
  match n.body with
  | .constant _ => none
  | .keywords k => k.reference

/-- The types that a schema admits, if it restricts them. -/
def types? (n : Node) : Option TypeSet :=
  match n.body with
  | .constant _ => none
  | .keywords k => k.types

end Node

end SchemaRegistry

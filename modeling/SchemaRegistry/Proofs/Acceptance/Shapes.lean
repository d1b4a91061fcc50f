import SchemaRegistry.Proofs.Addressing.Trails

/-!
Which schemas are well-formed. Each keyword has a shape that its value has to have. A schema is
well-formed if it is an object or a boolean, all its keywords have their shapes, and all schemas
that it holds are well-formed, also those that have no effect.
-/

namespace SchemaRegistry

/-- What the value of a keyword has to be. -/
inductive Shape where
  /-- A reference to a base without a fragment that is not empty, read against the base outside. -/
  | id
  /-- A reference with a pointer as the fragment, read against the base inside. -/
  | reference
  /-- The name of a type, or several in an array. -/
  | types
  | number
  /-- A number above zero. -/
  | divisor
  /-- A natural number, in whichever way it is written. -/
  | natural
  | flag
  | pattern
  | strings
  | options
  | schema
  | schemas
  /-- One schema, or any number of them in an array. -/
  | items
  /-- An object with schemas as members. -/
  | table
  /-- An object with patterns as keys and schemas as members. -/
  | patterns
  /-- An object with lists of keys or schemas as members. -/
  | dependencies
  deriving DecidableEq

def typeNames : List String :=
  ["null", "boolean", "integer", "number", "string", "array", "object"]

/-- Whether a value is the name of a type. -/
def Json.isTypeName : Json → Bool
  | .string name => typeNames.contains name
  | _ => false

def Json.isString : Json → Bool
  | .string _ => true
  | _ => false

/-- Whether a value is an array of strings, which may be empty. -/
def Json.isStrings : Json → Bool
  | .array items => items.all isString
  | _ => false

def Json.isObject : Json → Bool
  | .object _ => true
  | _ => false

/-- Whether a value is an array that is not empty. -/
def Json.isFilled : Json → Bool
  | .array items => !items.isEmpty
  | _ => false

/-- Whether a text is a pattern that can be compiled. -/
def isPattern (source : String) : Bool := (Pattern.ofString? source).isSome

namespace Shape

/-- Whether a value has a shape, in a schema with the given bases outside and inside of it. -/
def fits (around base : Url) : Shape → Json → Bool
  | id, .string text =>
    match Url.resolve around text with
    | .ok uri => !uri.fragment.any (· ≠ "")
    | .error _ => false
  | reference, .string text =>
    match Url.resolve base text with
    | .ok uri => uri.pointer.toOption.isSome
    | .error _ => false
  | types, .array names => !names.isEmpty && names.all Json.isTypeName
  | types, value => value.isTypeName
  | number, .number _ => true
  | divisor, .number n => 0 < n.value
  | natural, .number n => n.value.den = 1 && 0 ≤ n.value.num
  | flag, .bool _ => true
  | pattern, .string source => isPattern source
  | strings, value => value.isStrings
  | options, value => value.isFilled
  | schema, value => value.isSchema
  | schemas, .array values => !values.isEmpty && values.all Json.isSchema
  | items, .array values => values.all Json.isSchema
  | items, value => value.isSchema
  | table, .object members => members.all fun member => member.2.isSchema
  | patterns, .object members => members.all fun member => isPattern member.1 && member.2.isSchema
  | dependencies, .object members =>
    members.all fun member => member.2.isStrings || member.2.isSchema
  | _, _ => false

theorem fits_of_not_isObject {around base : Url} {shape : Shape}
    (hshape : shape ∈ [table, patterns, dependencies]) {value : Json}
    (hvalue : value.isObject = false) : shape.fits around base value = false := by
  simp only [List.mem_cons, List.not_mem_nil, or_false] at hshape
  rcases hshape with rfl | rfl | rfl
  all_goals
    cases value with
    | object members => cases hvalue
    | _ => rfl

/-- The keywords that have a shape. -/
def recognised : List (String × Shape) := [
  ("$id", id), ("$ref", reference), ("type", types), ("enum", options),
  ("minimum", number), ("maximum", number), ("exclusiveMinimum", number),
  ("exclusiveMaximum", number), ("multipleOf", divisor),
  ("minLength", natural), ("maxLength", natural), ("pattern", pattern),
  ("items", items), ("additionalItems", schema), ("minItems", natural), ("maxItems", natural),
  ("uniqueItems", flag), ("contains", schema),
  ("properties", table), ("patternProperties", patterns), ("additionalProperties", schema),
  ("required", strings), ("minProperties", natural), ("maxProperties", natural),
  ("dependencies", dependencies), ("propertyNames", schema),
  ("allOf", schemas), ("anyOf", schemas), ("oneOf", schemas), ("not", schema),
  ("if", schema), ("then", schema), ("else", schema), ("definitions", table)]

end Shape

/-- The base inside a schema. -/
def Json.baseIn (around : Url) (raw : Json) : Url := (raw.declared? around).getD around

/-- The shape that a keyword has to have, if it is one that the schemas know. -/
def Shape.of? (keyword : String) : Option Shape := recognised.lookup keyword

/-- Whether a keyword, if it is among some members, has the value that it has to have. -/
def sound (around base : Url) (members : List (String × Json)) (keyword : String) : Bool :=
  match Shape.of? keyword, Json.member? keyword members with
  | some shape, some value => shape.fits around base value
  | _, _ => true

/-- Schemas of which each keyword has the value that it has to have, at all depths. -/
inductive Json.WellFormed : Url → Json → Prop
  | bool (around : Url) (accepts : Bool) : WellFormed around (.bool accepts)
  | object (around : Url) (members : List (String × Json))
      (hsound : ∀ keyword,
        sound around ((Json.object members).baseIn around) members keyword = true)
      (hinside : ∀ slot ∈ (Json.object members).subschemas,
        WellFormed ((Json.object members).baseIn around) slot.2) :
      WellFormed around (.object members)

theorem Json.WellFormed.isSchema {around : Url} {raw : Json} (hformed : raw.WellFormed around) :
    raw.isSchema = true := by
  cases hformed with
  | bool accepts => rfl
  | object members => rfl

theorem Position.base_scopes (p : Position) : p.scopes.base = p.raw.baseIn p.outer.base := by
  unfold scopes Json.baseIn
  rw [Scopes.enter_eq]
  cases p.raw.declared? p.outer.base with
  | none => rfl
  | some base =>
      change (p.outer.declare base).base = base
      unfold Scopes.declare
      split <;> rfl

end SchemaRegistry

import Mathlib.Data.Rat.Floor
import SchemaRegistry.Proofs.Json.Proper
import SchemaRegistry.Registry
import SchemaRegistry.Validation.Keywords

/-!
The meaning of schemas, without a machine and without an order of evaluation. `Node.Admits` says
what the keywords of one schema demand of a value, given which values other schemas accept and
reject. The meaning of all schemas of a registry is the least pair of answers that follows from
this: a value is accepted or rejected only for a reason, and schemas that wait for each other do
neither.
-/

namespace SchemaRegistry

/-- The types of a value. An integral number is an integer, however it is written. -/
inductive Json.HasType : Json → PrimitiveType → Prop
  | null : HasType .null .null
  | boolean (b : Bool) : HasType (.bool b) .boolean
  | number (n : Number) : HasType (.number n) .number
  | integer {n : Number} {z : Int} (hintegral : n.value = z) : HasType (.number n) .integer
  | string (text : String) : HasType (.string text) .string
  | array (items : List Json) : HasType (.array items) .array
  | object (members : List (String × Json)) : HasType (.object members) .object

/-- What a division leaves of the divisor, as a part of the divisor between zero and one. -/
def Binary64.leftover (value divisor : Binary64) : Rat :=
  (ofRat (Int.fract (|value.value| / divisor.value))).value

/-- No item equals another one. Of items that no text holds it is the answer of the search that
counts. -/
def Json.Unrepeated (items : List Json) : Prop :=
  if ∀ item ∈ items, item.Proper then items.Pairwise fun a b => a.same b = false
  else distinct items = true

/-- What the keywords for numbers demand of a number. What it leaves of the divisor, or what is
missing then, has to be within the tolerance. -/
structure NumberRules.Admits (rules : NumberRules) (epsilon : Binary64) (n : Number) : Prop where
  minimum : ∀ bound ∈ rules.minimum, bound.value ≤ n.value
  maximum : ∀ bound ∈ rules.maximum, n.value ≤ bound.value
  exclusiveMinimum : ∀ bound ∈ rules.exclusiveMinimum, bound.value < n.value
  exclusiveMaximum : ∀ bound ∈ rules.exclusiveMaximum, n.value < bound.value
  multipleOf : ∀ divisor ∈ rules.multipleOf,
    min (n.toBinary64.leftover divisor) (Binary64.ofRat (1 - n.toBinary64.leftover divisor)).value ≤
      epsilon.value

structure StringRules.Admits (rules : StringRules) (text : String) : Prop where
  minLength : ∀ bound ∈ rules.minLength, bound ≤ text.length
  maxLength : ∀ bound ∈ rules.maxLength, text.length ≤ bound
  pattern : ∀ pattern ∈ rules.pattern, pattern.matches text = true

def HasMember (members : List (String × Json)) (name : String) : Prop :=
  ∃ value, (name, value) ∈ members

section Admits

variable (r : Registry) (epsilon : Binary64) (accepts rejects : Nat → Json → Prop)

structure ArrayRules.Admits (rules : ArrayRules) (items : List Json) : Prop where
  each : ∀ schema, rules.items = some (.each schema) → ∀ item ∈ items, accepts schema item
  tuple : ∀ schemas, rules.items = some (.tuple schemas) → ∀ (position : Nat) schema item,
    schemas[position]? = some schema → items[position]? = some item → accepts schema item
  additionalItems : ∀ schemas, rules.items = some (.tuple schemas) →
    ∀ schema ∈ rules.additionalItems, ∀ (position : Nat) item, schemas.length ≤ position →
      items[position]? = some item → accepts schema item
  minItems : ∀ bound ∈ rules.minItems, bound ≤ items.length
  maxItems : ∀ bound ∈ rules.maxItems, items.length ≤ bound
  uniqueItems : rules.uniqueItems = true → Json.Unrepeated items
  contains : ∀ schema ∈ rules.contains, ∃ item ∈ items, accepts schema item

structure ObjectRules.Admits (rules : ObjectRules) (members : List (String × Json)) : Prop where
  properties : ∀ member ∈ members, ∀ schema ∈ rules.properties.lookup member.1,
    accepts schema member.2
  patternProperties : ∀ member ∈ members, ∀ entry ∈ rules.patternProperties,
    entry.1.matches member.1 = true → accepts entry.2 member.2
  additionalProperties : ∀ member ∈ members, rules.properties.lookup member.1 = none →
    (∀ entry ∈ rules.patternProperties, entry.1.matches member.1 = false) →
      ∀ schema ∈ rules.additionalProperties, accepts schema member.2
  required : ∀ name ∈ rules.required, HasMember members name
  minProperties : ∀ bound ∈ rules.minProperties, bound ≤ members.length
  maxProperties : ∀ bound ∈ rules.maxProperties, members.length ≤ bound
  dependentNames : ∀ entry ∈ rules.dependencies, HasMember members entry.1 →
    ∀ names, entry.2 = .keys names → ∀ name ∈ names, HasMember members name
  dependentSchemas : ∀ entry ∈ rules.dependencies, HasMember members entry.1 →
    ∀ schema, entry.2 = .schema schema → accepts schema (.object members)
  propertyNames : ∀ schema ∈ rules.propertyNames, ∀ member ∈ members,
    accepts schema (.string member.1)

/-- What a condition demands: the schema that it chooses accepts the value. -/
def Conditional.Admits (conditional : Conditional) (value : Json) : Prop :=
  (accepts conditional.condition value ∧ ∀ schema ∈ conditional.consequent, accepts schema value) ∨
    (rejects conditional.condition value ∧ ∀ schema ∈ conditional.alternative, accepts schema value)

/-- Whether exactly one of some checks succeeds. -/
def ExactlyOne (cases : List (Nat × Json)) : Prop :=
  ∃ before c after, cases = before ++ c :: after ∧ accepts c.1 c.2 ∧
    ∀ other ∈ before ++ after, rejects other.1 other.2

structure Combinators.Admits (c : Combinators) (value : Json) : Prop where
  allOf : ∀ schema ∈ c.allOf, accepts schema value
  anyOf : c.anyOf ≠ [] → ∃ schema ∈ c.anyOf, accepts schema value
  oneOf : c.oneOf ≠ [] → ExactlyOne accepts rejects (c.oneOf.map (·, value))
  not : ∀ schema ∈ c.not, rejects schema value
  conditional : ∀ conditional ∈ c.conditional, conditional.Admits accepts rejects value

/-- What the target of a reference demands of a value. -/
def Reference.Admits (reference : Reference) (value : Json) : Prop :=
  ∃ target, r.lookup? reference.target = some target ∧ accepts target value

/-- What the keywords of a schema demand of a value. The keywords for other kinds of values do not
matter. -/
structure Keywords.Admits (k : Keywords) (value : Json) : Prop where
  reference : ∀ reference ∈ k.reference, reference.Admits r accepts value
  types : ∀ types ∈ k.types, ∃ type, types.contains type = true ∧ value.HasType type
  numbers : ∀ n, value = .number n → k.numbers.Admits epsilon n
  strings : ∀ text, value = .string text → k.strings.Admits text
  arrays : ∀ items, value = .array items → k.arrays.Admits accepts items
  objects : ∀ members, value = .object members → k.objects.Admits accepts members
  enum : ∀ options ∈ k.enum, ∃ option ∈ options, option.same value = true
  const : ∀ constant ∈ k.const, constant.same value = true
  combinators : k.combinators.Admits accepts rejects value

/-- What a schema demands of a value. -/
def Node.Admits (node : Node) (value : Json) : Prop :=
  match node.body with
  | .constant accepted => accepted = true
  | .keywords k => k.Admits r epsilon accepts rejects value

/-- What refutes a schema: its demands fail however the open answers of other schemas turn out. -/
def Node.Refuses (node : Node) (value : Json) : Prop :=
  ¬ node.Admits r epsilon (fun index value => ¬ rejects index value)
    (fun index value => ¬ accepts index value) value

end Admits

namespace Registry

/-- A pair of answers that contains all answers which follow from it. -/
structure Closed (r : Registry) (epsilon : Binary64) (accepts rejects : Nat → Json → Prop) :
    Prop where
  accepting : ∀ index node value, r.node? index = some node →
    node.Admits r epsilon accepts rejects value → accepts index value
  rejecting : ∀ index node value, r.node? index = some node →
    node.Refuses r epsilon accepts rejects value → rejects index value

/-- The schema at an index accepts a value. -/
def Accepts (r : Registry) (epsilon : Binary64) (index : Nat) (value : Json) : Prop :=
  ∀ accepts rejects, r.Closed epsilon accepts rejects → accepts index value

/-- The schema at an index rejects a value. -/
def Rejects (r : Registry) (epsilon : Binary64) (index : Nat) (value : Json) : Prop :=
  ∀ accepts rejects, r.Closed epsilon accepts rejects → rejects index value

/-- An answer to all questions under which every schema accepts just what it admits. Where schemas
wait for each other there may be several, or none. -/
def IsMeaning (r : Registry) (epsilon : Binary64) (meaning : Nat → Json → Prop) : Prop :=
  ∀ index node value, r.node? index = some node →
    (meaning index value ↔
      node.Admits r epsilon meaning (fun index value => ¬ meaning index value) value)

end Registry

end SchemaRegistry

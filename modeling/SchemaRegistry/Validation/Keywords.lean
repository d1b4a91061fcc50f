import SchemaRegistry.Json.Distinct
import SchemaRegistry.Schema.Node
import SchemaRegistry.Validation.Machine

/-!
The keywords of one schema, checked against one value. Each group applies to values of its kind only
and reports at the keyword that failed. The machine stands at the schema and at the value; whoever
goes further takes it along.

How a sub-schema is checked, and how a reference is followed, are parameters here, `child` and
`jump`.
-/

namespace SchemaRegistry

/-- The way to check a value against the schema with a given index. -/
abbrev Checker := Nat → Json → Check Unit

/-- The way to check a value against the target of a reference. -/
abbrev Follower := Reference → Json → Check Unit

/-- Whether a bound holds; an absent bound does. -/
def holdsFor {α : Type} (bound : Option α) (test : α → Bool) : Bool := bound.all test

/-- Whether `value` is a multiple of `divisor`: the remainder is within the tolerance of zero or of
the divisor, as a fraction of the divisor. The remainder is exact; the fraction and its distance to
one are rounded. -/
def isMultipleOf (value divisor epsilon : Binary64) : Bool :=
  let magnitude := value.value.abs
  let remainder := magnitude - divisor.value * (magnitude / divisor.value).floor
  let fraction := (Binary64.ofRat (remainder / divisor.value)).value
  let complement := (Binary64.ofRat (1 - fraction)).value
  fraction ≤ epsilon.value || complement ≤ epsilon.value

namespace NumberRules

/-- Checks a number. Bounds are compared with its exact value. -/
def check (rules : NumberRules) (epsilon : Binary64) (n : Number) : Check Unit := do
  .require (holdsFor rules.minimum (·.value ≤ n.value)) "minimum"
  .require (holdsFor rules.maximum (n.value ≤ ·.value)) "maximum"
  .require (holdsFor rules.exclusiveMinimum (·.value < n.value)) "exclusiveMinimum"
  .require (holdsFor rules.exclusiveMaximum (n.value < ·.value)) "exclusiveMaximum"
  .require (holdsFor rules.multipleOf (isMultipleOf n.toBinary64 · epsilon)) "multipleOf"

end NumberRules

namespace StringRules

/-- Checks a string. Its length is the number of its characters. -/
def check (rules : StringRules) (text : String) : Check Unit := do
  .require (holdsFor rules.minLength (· ≤ text.length)) "minLength"
  .require (holdsFor rules.maxLength (text.length ≤ ·)) "maxLength"
  .require (holdsFor rules.pattern (·.matches text)) "pattern"

end StringRules

namespace ArrayRules

def checkEach (child : Checker) (schema : Nat) (index : Nat) : List Json → Check Unit
  | [] => pure ()
  | item :: rest => do
    Check.item (toString index) (child schema item)
    checkEach child schema (index + 1) rest

/-- Checks items against the schemas at their positions, as long as there are both. -/
def checkTuple (child : Checker) (index : Nat) : List Nat → List Json → Check Unit
  | schema :: schemas, item :: items => do
    Check.keyword (toString index) (Check.item (toString index) (child schema item))
    checkTuple child (index + 1) schemas items
  | _, _ => pure ()

/-- Checks the items of an array. Items beyond a tuple are the business of `additionalItems`. -/
def checkItems (rules : ArrayRules) (child : Checker) (items : List Json) : Check Unit :=
  match rules.items with
  | none => pure ()
  | some (.each schema) => Check.keyword "items" (checkEach child schema 0 items)
  | some (.tuple schemas) => do
    Check.keyword "items" (checkTuple child 0 schemas items)
    match rules.additionalItems with
    | none => pure ()
    | some schema =>
      if schemas.length < items.length then
        Check.keyword "additionalItems"
          (checkEach child schema schemas.length (items.drop schemas.length))
      else pure ()

/-- Whether some item satisfies a schema. Items after the first that does are not looked at. -/
def someSatisfies (child : Checker) (schema : Nat) : List Json → Check Bool
  | [] => pure false
  | item :: rest => do
    if ← Check.probe (child schema item) then pure true else someSatisfies child schema rest

def checkContains (rules : ArrayRules) (child : Checker) (items : List Json) : Check Unit :=
  match rules.contains with
  | none => pure ()
  | some schema => do .require (← someSatisfies child schema items) "contains"

def check (rules : ArrayRules) (child : Checker) (items : List Json) : Check Unit := do
  rules.checkItems child items
  .require (holdsFor rules.minItems (· ≤ items.length)) "minItems"
  .require (holdsFor rules.maxItems (items.length ≤ ·)) "maxItems"
  .require (!rules.uniqueItems || Json.distinct items) "uniqueItems"
  rules.checkContains child items

end ArrayRules

namespace ObjectRules

def matching (rules : ObjectRules) (key : String) : List (Pattern × Nat) :=
  rules.patternProperties.filter fun entry => entry.1.matches key

/-- Checks a member against the schema for its name. -/
def checkNamed (rules : ObjectRules) (child : Checker) (key : String) (value : Json) : Check Unit :=
  match rules.properties.lookup key with
  | some schema =>
    Check.keyword "properties" (Check.keyword key (Check.item key (child schema value)))
  | none => pure ()

/-- Checks a member against the schemas whose patterns match its name. -/
def checkMatching (rules : ObjectRules) (child : Checker) (key : String) (value : Json) :
    Check Unit :=
  (rules.matching key).forM fun entry =>
    Check.keyword "patternProperties"
      (Check.keyword entry.1.source (Check.item key (child entry.2 value)))

/-- Checks a member for whose name there is no other schema against `additionalProperties`. -/
def checkAdditional (rules : ObjectRules) (child : Checker) (key : String) (value : Json) :
    Check Unit :=
  if (rules.properties.lookup key).isNone && (rules.matching key).isEmpty then
    match rules.additionalProperties with
    | some schema => Check.keyword "additionalProperties" (Check.item key (child schema value))
    | none => pure ()
  else pure ()

def checkMember (rules : ObjectRules) (child : Checker) (key : String) (value : Json) :
    Check Unit := do
  rules.checkNamed child key value
  rules.checkMatching child key value
  rules.checkAdditional child key value

/-- Reports the names that an object lacks, each at its position in the list. -/
def reportMissing (members : List (String × Json)) (index : Nat) : List String → Check Unit
  | [] => pure ()
  | name :: rest => do
    .require (Json.member? name members).isSome (toString index)
    reportMissing members (index + 1) rest

def checkRequired (rules : ObjectRules) (members : List (String × Json)) : Check Unit :=
  if rules.required.isEmpty then pure ()
  else Check.keyword "required" (reportMissing members 0 rules.required)

/-- Checks what the member `entry.1`, if there is one, requires of the object. -/
def checkDependency (child : Checker) (members : List (String × Json))
    (entry : String × Dependency) : Check Unit :=
  if (Json.member? entry.1 members).isSome then
    Check.keyword "dependencies" (Check.keyword entry.1
      (match entry.2 with
      | .keys names => reportMissing members 0 names
      | .schema schema => child schema (.object members)))
  else pure ()

/-- Checks the names of the members, each as a string at the place of its member. -/
def checkNames (rules : ObjectRules) (child : Checker) (members : List (String × Json)) :
    Check Unit :=
  match rules.propertyNames with
  | none => pure ()
  | some schema =>
    Check.keyword "propertyNames"
      (members.forM fun member => Check.item member.1 (child schema (.string member.1)))

def check (rules : ObjectRules) (child : Checker) (members : List (String × Json)) :
    Check Unit := do
  members.forM fun member => rules.checkMember child member.1 member.2
  rules.checkRequired members
  .require (holdsFor rules.minProperties (· ≤ members.length)) "minProperties"
  .require (holdsFor rules.maxProperties (members.length ≤ ·)) "maxProperties"
  rules.dependencies.forM (checkDependency child members)
  rules.checkNames child members

end ObjectRules

namespace Combinators

/-- Checks all schemas of a list, the first at the position `index`. -/
def checkAll (child : Checker) (value : Json) (index : Nat) : List Nat → Check Unit
  | [] => pure ()
  | schema :: rest => do
    Check.keyword (toString index) (child schema value)
    checkAll child value (index + 1) rest

def checkAllOf (c : Combinators) (child : Checker) (value : Json) : Check Unit :=
  if c.allOf.isEmpty then pure () else Check.keyword "allOf" (checkAll child value 0 c.allOf)

/-- Checks the schemas of `anyOf` until one is satisfied. If none is, the violations of all of them
are recorded as one failure. -/
def checkAny (child : Checker) (value : Json) (index : Nat) (collected : Array Violation) :
    List Nat → Check Unit
  | [] => modify (Machine.recordAll collected)
  | schema :: rest => do
    let (valid, violations) ←
      Check.keyword "anyOf" (Check.keyword (toString index) (Check.attempt (child schema value)))
    if valid then pure ()
    else checkAny child value (index + 1) (collected ++ violations) rest

def checkAnyOf (c : Combinators) (child : Checker) (value : Json) : Check Unit :=
  if c.anyOf.isEmpty then pure () else checkAny child value 0 #[] c.anyOf

/-- The number of schemas that a value satisfies. The count ends at two. -/
def countSatisfied (child : Checker) (value : Json) (found : Nat) : List Nat → Check Nat
  | [] => pure found
  | schema :: rest => do
    let found := if ← Check.probe (child schema value) then found + 1 else found
    if found > 1 then pure found else countSatisfied child value found rest

def checkOneOf (c : Combinators) (child : Checker) (value : Json) : Check Unit :=
  if c.oneOf.isEmpty then pure ()
  else do .require ((← countSatisfied child value 0 c.oneOf) = 1) "oneOf"

def checkNot (c : Combinators) (child : Checker) (value : Json) : Check Unit :=
  match c.not with
  | none => pure ()
  | some schema => do .require (!(← Check.probe (child schema value))) "not"

def checkConditional (c : Combinators) (child : Checker) (value : Json) : Check Unit :=
  match c.conditional with
  | none => pure ()
  | some conditional => do
    if ← Check.probe (child conditional.condition value) then
      match conditional.consequent with
      | some schema => Check.keyword "then" (child schema value)
      | none => pure ()
    else
      match conditional.alternative with
      | some schema => Check.keyword "else" (child schema value)
      | none => pure ()

def check (c : Combinators) (child : Checker) (value : Json) : Check Unit := do
  c.checkAllOf child value
  c.checkAnyOf child value
  c.checkOneOf child value
  c.checkNot child value
  c.checkConditional child value

end Combinators

namespace Keywords

def checkReference (k : Keywords) (jump : Follower) (value : Json) : Check Unit :=
  match k.reference with
  | some reference => jump reference value
  | none => pure ()

/-- Checks the keywords for the kind of the value. -/
def checkKind (k : Keywords) (epsilon : Binary64) (child : Checker) : Json → Check Unit
  | .number n => k.numbers.check epsilon n
  | .string text => k.strings.check text
  | .array items => k.arrays.check child items
  | .object members => k.objects.check child members
  | .null => pure ()
  | .bool _ => pure ()

def checkValues (k : Keywords) (value : Json) : Check Unit := do
  .require (holdsFor k.enum fun options => options.any (·.same value)) "enum"
  .require (holdsFor k.const (·.same value)) "const"

/-- Checks all keywords of a schema in order. -/
def check (k : Keywords) (epsilon : Binary64) (child : Checker) (jump : Follower) (value : Json) :
    Check Unit := do
  k.checkReference jump value
  .require (holdsFor k.types (·.accepts value)) "type"
  k.checkKind epsilon child value
  k.checkValues value
  k.combinators.check child value

end Keywords

def Node.check (n : Node) (epsilon : Binary64) (child : Checker) (jump : Follower) (value : Json) :
    Check Unit :=
  match n.body with
  | .constant true => pure ()
  | .constant false => Check.report
  | .keywords k => k.check epsilon child jump value

end SchemaRegistry

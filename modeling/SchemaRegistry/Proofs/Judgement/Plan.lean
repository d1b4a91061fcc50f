import SchemaRegistry.Proofs.Judgement.Finding
import SchemaRegistry.Validation.Keywords

/-!
What a schema does with a value, as data. The plan of a schema for a value lists the tests that it
makes and the other schemas that it asks, in order and each with the way to its keyword. It is the
one place to look for the sub-schemas that a check can reach and for the values they get. Its
judgement is computed from judgements of those schemas, without a machine.
-/

namespace SchemaRegistry

/-- How many out of some checks have to succeed. -/
inductive Quota where
  | atLeastOne
  | exactlyOne
  | never
  deriving DecidableEq

/-- The number of successes after which the others do not matter. -/
def Quota.limit : Quota → Nat
  | atLeastOne => 1
  | exactlyOne => 2
  | never => 1

def Quota.met : Quota → Nat → Bool
  | atLeastOne, found => 0 < found
  | exactlyOne, found => found = 1
  | never, found => found = 0

/-- What a keyword does. -/
inductive Action where
  /-- A test with the given result. -/
  | test (ok : Bool)
  /-- Following a reference. -/
  | follow (reference : Reference) (value : Json)
  /-- Checking a value against a schema, with the way to the value if it is a member or an item. -/
  | descend (item : List String) (schema : Nat) (value : Json)
  /-- Counting how many checks succeed. -/
  | count (quota : Quota) (cases : List (Nat × Json))
  /-- Checking a value against schemas until it satisfies one. -/
  | any (schemas : List Nat) (value : Json)
  /-- Checking a value against the schema that a condition chooses. -/
  | choose (conditional : Conditional) (value : Json)

/-- What is done at a keyword, with the way from the schema to the keyword. -/
structure Step where
  path : List String
  action : Action

def Step.within (token : String) (s : Step) : Step := { s with path := token :: s.path }

section Judging

variable (child : Nat → Json → Judgement) (jump : Reference → Json → Judgement)

/-- The number of checks that succeed, counted from `found` until the limit is reached. -/
def judgeCount (limit found : Nat) : List (Nat × Json) → Except Stop Nat
  | [] => .ok found
  | (schema, value) :: rest => do
    let found := if (← child schema value).clean then found + 1 else found
    if limit ≤ found then return found else judgeCount limit found rest

/-- The findings of all checks, or nothing if one of them succeeds. -/
def judgeAny (value : Json) (index : Nat) : List Nat → Except Stop (Option (List Finding))
  | [] => .ok (some [])
  | schema :: rest => do
    let f ← child schema value
    if f.clean then return none
    else return (← judgeAny value (index + 1) rest).map ((f.within [toString index]).entries ++ ·)

/-- The judgement of the schema at `token`, if there is one. -/
def judgeBranch (token : String) (value : Json) : Option Nat → Judgement
  | none => .ok .empty
  | some schema => (child schema value).map (Findings.within [token])

def Action.judge : Action → Judgement
  | test ok => .ok (if ok then .empty else .single)
  | follow reference value => jump reference value
  | descend item schema value => (child schema value).map (Findings.under item)
  | count quota cases => do
    return if quota.met (← judgeCount child quota.limit 0 cases) then .empty else .single
  | any schemas value => do
    match ← judgeAny child value 0 schemas with
    | none => return .empty
    | some entries => return ⟨1, entries⟩
  | choose conditional value => do
    if (← child conditional.condition value).clean then
      judgeBranch child "then" value conditional.consequent
    else judgeBranch child "else" value conditional.alternative

def Step.judge (s : Step) : Judgement := (s.action.judge child jump).map (Findings.within s.path)

def judgeAll : List Step → Judgement
  | [] => .ok .empty
  | step :: rest => (step.judge child jump).andThen (judgeAll rest)

@[simp] theorem judgeAll_nil : judgeAll child jump [] = .ok .empty := rfl

theorem judgeAll_cons (step : Step) (rest : List Step) :
    judgeAll child jump (step :: rest) =
      (step.judge child jump).andThen (judgeAll child jump rest) := rfl

theorem judgeAll_append (first second : List Step) :
    judgeAll child jump (first ++ second) =
      (judgeAll child jump first).andThen (judgeAll child jump second) := by
  induction first with
  | nil => rw [List.nil_append, judgeAll_nil, Judgement.empty_andThen]
  | cons step rest ih =>
      rw [List.cons_append, judgeAll_cons, ih, ← Judgement.andThen_assoc, ← judgeAll_cons]

@[simp] theorem judgeAll_singleton (step : Step) :
    judgeAll child jump [step] = step.judge child jump := by
  rw [judgeAll_cons, judgeAll_nil, Judgement.andThen_empty]

theorem Step.judge_within (token : String) (step : Step) :
    (step.within token).judge child jump =
      (step.judge child jump).map (Findings.within [token]) := by
  unfold Step.judge Step.within
  cases step.action.judge child jump with
  | error stop => rfl
  | ok f =>
      change Except.ok (f.within (token :: step.path)) =
        Except.ok ((f.within step.path).within [token])
      rw [Findings.within_within, List.singleton_append]

/-- Steps below a keyword find what they find where they are, seen from above the keyword. -/
theorem judgeAll_within (token : String) (steps : List Step) :
    judgeAll child jump (steps.map (Step.within token)) =
      (judgeAll child jump steps).map (Findings.within [token]) := by
  induction steps with
  | nil => rfl
  | cons step rest ih =>
      rw [List.map_cons, judgeAll_cons, ih, Step.judge_within, judgeAll_cons, Judgement.map_within]

end Judging

def Step.test (token : String) (ok : Bool) : Step := ⟨[token], .test ok⟩

def NumberRules.plan (rules : NumberRules) (epsilon : Binary64) (n : Number) : List Step :=
  [.test "minimum" (holdsFor rules.minimum (·.value ≤ n.value)),
    .test "maximum" (holdsFor rules.maximum (n.value ≤ ·.value)),
    .test "exclusiveMinimum" (holdsFor rules.exclusiveMinimum (·.value < n.value)),
    .test "exclusiveMaximum" (holdsFor rules.exclusiveMaximum (n.value < ·.value)),
    .test "multipleOf" (holdsFor rules.multipleOf (isMultipleOf n.toBinary64 · epsilon))]

def StringRules.plan (rules : StringRules) (text : String) : List Step :=
  [.test "minLength" (holdsFor rules.minLength (· ≤ text.length)),
    .test "maxLength" (holdsFor rules.maxLength (text.length ≤ ·)),
    .test "pattern" (holdsFor rules.pattern (·.matches text))]

namespace ArrayRules

def planEach (schema index : Nat) : List Json → List Step
  | [] => []
  | item :: rest =>
    ⟨[], .descend [toString index] schema item⟩ :: planEach schema (index + 1) rest

def planTuple (index : Nat) : List Nat → List Json → List Step
  | schema :: schemas, item :: items =>
    ⟨[toString index], .descend [toString index] schema item⟩ :: planTuple (index + 1) schemas items
  | _, _ => []

def planItems (rules : ArrayRules) (items : List Json) : List Step :=
  match rules.items with
  | none => []
  | some (.each schema) => (planEach schema 0 items).map (Step.within "items")
  | some (.tuple schemas) =>
    (planTuple 0 schemas items).map (Step.within "items") ++
      match rules.additionalItems with
      | none => []
      | some schema =>
        (planEach schema schemas.length (items.drop schemas.length)).map
          (Step.within "additionalItems")

def planContains (rules : ArrayRules) (items : List Json) : List Step :=
  match rules.contains with
  | none => []
  | some schema => [⟨["contains"], .count .atLeastOne (items.map (schema, ·))⟩]

def plan (rules : ArrayRules) (items : List Json) : List Step :=
  rules.planItems items ++
    ([.test "minItems" (holdsFor rules.minItems (· ≤ items.length)),
      .test "maxItems" (holdsFor rules.maxItems (items.length ≤ ·)),
      .test "uniqueItems" (!rules.uniqueItems || Json.distinct items)] ++
    rules.planContains items)

theorem planEach_eq_map (schema index : Nat) (items : List Json) :
    planEach schema index items = (items.zipIdx index).map fun entry =>
      ⟨[], .descend [toString entry.2] schema entry.1⟩ := by
  induction items generalizing index with
  | nil => rfl
  | cons item rest ih => rw [planEach, ih, List.zipIdx_cons, List.map_cons]

theorem planTuple_eq_map (index : Nat) (schemas : List Nat) (items : List Json) :
    planTuple index schemas items = ((schemas.zip items).zipIdx index).map fun entry =>
      ⟨[toString entry.2], .descend [toString entry.2] entry.1.1 entry.1.2⟩ := by
  induction schemas generalizing index items with
  | nil => rfl
  | cons schema schemas ih =>
      cases items with
      | nil => rfl
      | cons item items =>
          rw [planTuple, ih, List.zip_cons_cons, List.zipIdx_cons, List.map_cons]

theorem mem_planEach {schema index : Nat} {items : List Json} {step : Step} :
    step ∈ planEach schema index items ↔ ∃ (n : Nat) (item : Json), items[n]? = some item ∧
      ⟨[], .descend [toString (index + n)] schema item⟩ = step := by
  simp [planEach_eq_map, List.mem_iff_getElem?]

theorem mem_planTuple {index : Nat} {schemas : List Nat} {items : List Json} {step : Step} :
    step ∈ planTuple index schemas items ↔ ∃ (n schema : Nat) (item : Json),
      schemas[n]? = some schema ∧ items[n]? = some item ∧
        ⟨[toString (index + n)], .descend [toString (index + n)] schema item⟩ = step := by
  simp [planTuple_eq_map, List.mem_iff_getElem?, List.getElem?_zip_eq_some, and_assoc]

end ArrayRules

namespace ObjectRules

def planMember (rules : ObjectRules) (key : String) (value : Json) : List Step :=
  (match rules.properties.lookup key with
    | some schema => [⟨["properties", key], .descend [key] schema value⟩]
    | none => []) ++
  ((rules.matching key).map (fun entry =>
      ⟨["patternProperties", entry.1.source], .descend [key] entry.2 value⟩) ++
    if (rules.properties.lookup key).isNone && (rules.matching key).isEmpty then
      match rules.additionalProperties with
      | some schema => [⟨["additionalProperties"], .descend [key] schema value⟩]
      | none => []
    else [])

/-- The plan for names that have to be among those of the members. -/
def planMissing (members : List (String × Json)) (index : Nat) : List String → List Step
  | [] => []
  | name :: rest =>
    .test (toString index) (Json.member? name members).isSome ::
      planMissing members (index + 1) rest

/-- The plan for what a member requires of the object. -/
def planDependency (members : List (String × Json)) (entry : String × Dependency) : List Step :=
  if (Json.member? entry.1 members).isSome then
    match entry.2 with
    | .keys names =>
      ((planMissing members 0 names).map (Step.within entry.1)).map (Step.within "dependencies")
    | .schema schema => [⟨["dependencies", entry.1], .descend [] schema (.object members)⟩]
  else []

def planNames (rules : ObjectRules) (members : List (String × Json)) : List Step :=
  match rules.propertyNames with
  | none => []
  | some schema =>
    members.map fun member =>
      ⟨["propertyNames"], .descend [member.1] schema (.string member.1)⟩

def plan (rules : ObjectRules) (members : List (String × Json)) : List Step :=
  members.flatMap (fun member => rules.planMember member.1 member.2) ++
    ((planMissing members 0 rules.required).map (Step.within "required") ++
      ([.test "minProperties" (holdsFor rules.minProperties (· ≤ members.length)),
        .test "maxProperties" (holdsFor rules.maxProperties (members.length ≤ ·))] ++
      (rules.dependencies.flatMap (planDependency members) ++ rules.planNames members)))

theorem planMissing_eq_map (members : List (String × Json)) (index : Nat) (names : List String) :
    planMissing members index names = (names.zipIdx index).map fun entry =>
      .test (toString entry.2) (Json.member? entry.1 members).isSome := by
  induction names generalizing index with
  | nil => rfl
  | cons name rest ih => rw [planMissing, ih, List.zipIdx_cons, List.map_cons]

theorem mem_planMissing {members : List (String × Json)} {index : Nat} {names : List String}
    {step : Step} : step ∈ planMissing members index names ↔ ∃ (n : Nat) (name : String),
      names[n]? = some name ∧
        .test (toString (index + n)) (Json.member? name members).isSome = step := by
  simp [planMissing_eq_map, List.mem_iff_getElem?]

end ObjectRules

namespace Combinators

def planAll (value : Json) (index : Nat) : List Nat → List Step
  | [] => []
  | schema :: rest =>
    ⟨[toString index], .descend [] schema value⟩ :: planAll value (index + 1) rest

def plan (c : Combinators) (value : Json) : List Step :=
  (planAll value 0 c.allOf).map (Step.within "allOf") ++
    ((if c.anyOf.isEmpty then [] else [⟨["anyOf"], .any c.anyOf value⟩]) ++
    ((if c.oneOf.isEmpty then [] else [⟨["oneOf"], .count .exactlyOne (c.oneOf.map (·, value))⟩]) ++
    ((match c.not with
      | none => []
      | some schema => [⟨["not"], .count .never [(schema, value)]⟩]) ++
    match c.conditional with
      | none => []
      | some conditional => [⟨[], .choose conditional value⟩])))

theorem planAll_eq_map (value : Json) (index : Nat) (schemas : List Nat) :
    planAll value index schemas = (schemas.zipIdx index).map fun entry =>
      ⟨[toString entry.2], .descend [] entry.1 value⟩ := by
  induction schemas generalizing index with
  | nil => rfl
  | cons schema rest ih => rw [planAll, ih, List.zipIdx_cons, List.map_cons]

theorem mem_planAll {value : Json} {index : Nat} {schemas : List Nat} {step : Step} :
    step ∈ planAll value index schemas ↔ ∃ n schema : Nat, schemas[n]? = some schema ∧
      ⟨[toString (index + n)], .descend [] schema value⟩ = step := by
  simp [planAll_eq_map, List.mem_iff_getElem?]

end Combinators

namespace Keywords

/-- The plan for the keywords that depend on the kind of the value. -/
def planKind (k : Keywords) (epsilon : Binary64) : Json → List Step
  | .number n => k.numbers.plan epsilon n
  | .string text => k.strings.plan text
  | .array items => k.arrays.plan items
  | .object members => k.objects.plan members
  | .null => []
  | .bool _ => []

def planReference (k : Keywords) (value : Json) : List Step :=
  match k.reference with
  | some reference => [⟨[], .follow reference value⟩]
  | none => []

def planValues (k : Keywords) (value : Json) : List Step :=
  [.test "enum" (holdsFor k.enum fun options => options.any (·.same value)),
    .test "const" (holdsFor k.const (·.same value))]

def plan (k : Keywords) (epsilon : Binary64) (value : Json) : List Step :=
  k.planReference value ++
    ([.test "type" (holdsFor k.types (·.accepts value))] ++
    (k.planKind epsilon value ++ (k.planValues value ++ k.combinators.plan value)))

end Keywords

/-- The plan of a schema for a value. -/
def Node.plan (n : Node) (epsilon : Binary64) (value : Json) : List Step :=
  match n.body with
  | .constant accepts => [⟨[], .test accepts⟩]
  | .keywords k => k.plan epsilon value

end SchemaRegistry

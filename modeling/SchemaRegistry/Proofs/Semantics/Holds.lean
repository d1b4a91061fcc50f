import Mathlib.Data.Rat.Lemmas
import SchemaRegistry.Proofs.Json.Distinct
import SchemaRegistry.Proofs.Judgement.Plan
import SchemaRegistry.Proofs.Semantics.Admits

/-!
Plans and demands say the same. An action holds if other schemas answer as it needs, and a value is
admitted by a schema if and only if all actions of the schema's plan for it hold.
-/

namespace SchemaRegistry

theorem rat_abs_eq (q : Rat) : q.abs = |q| := by
  unfold Rat.abs
  split
  · next hsign => exact (abs_of_nonneg hsign).symm
  · next hsign => exact (abs_of_neg (not_le.mp hsign)).symm

theorem isMultipleOf_iff (value divisor epsilon : Binary64) :
    isMultipleOf value divisor epsilon = true ↔
      min (value.leftover divisor) (Binary64.ofRat (1 - value.leftover divisor)).value ≤
        epsilon.value := by
  have hpart : (value.value.abs -
      divisor.value * (value.value.abs / divisor.value).floor) / divisor.value =
        Int.fract (|value.value| / divisor.value) := by
    rw [rat_abs_eq, sub_div]
    by_cases hzero : divisor.value = 0
    · simp [hzero]
    · rw [mul_div_cancel_left₀ _ hzero]
      rfl
  unfold isMultipleOf Binary64.leftover
  dsimp only
  rw [hpart, Bool.or_eq_true, decide_eq_true_eq, decide_eq_true_eq, min_le_iff]

theorem Json.distinct_iff_unrepeated (items : List Json) :
    distinct items = true ↔ Unrepeated items := by
  unfold Unrepeated
  split
  · next hproper => exact distinct_iff hproper
  · exact Iff.rfl

section Holding

variable (r : Registry) (accepts rejects : Nat → Json → Prop)

/-- What a quota demands of some checks. -/
def Quota.Holds (cases : List (Nat × Json)) : Quota → Prop
  | atLeastOne => ∃ c ∈ cases, accepts c.1 c.2
  | exactlyOne => ExactlyOne accepts rejects cases
  | never => ∀ c ∈ cases, rejects c.1 c.2

/-- What an action demands of other schemas. -/
def Action.Holds : Action → Prop
  | test ok => ok = true
  | follow reference value => reference.Admits r accepts value
  | descend _ schema value => accepts schema value
  | count quota cases => quota.Holds accepts rejects cases
  | any schemas value => ∃ schema ∈ schemas, accepts schema value
  | choose conditional value => conditional.Admits accepts rejects value

/-- Whether all actions of a plan hold. -/
def HoldsAll (steps : List Step) : Prop := ∀ step ∈ steps, step.action.Holds r accepts rejects

variable {r accepts rejects}

@[simp] theorem holdsAll_nil : HoldsAll r accepts rejects [] ↔ True := by
  simp [HoldsAll]

@[simp] theorem holdsAll_cons (step : Step) (rest : List Step) :
    HoldsAll r accepts rejects (step :: rest) ↔
      step.action.Holds r accepts rejects ∧ HoldsAll r accepts rejects rest :=
  List.forall_mem_cons

@[simp] theorem holdsAll_append (first second : List Step) :
    HoldsAll r accepts rejects (first ++ second) ↔
      HoldsAll r accepts rejects first ∧ HoldsAll r accepts rejects second :=
  List.forall_mem_append

theorem holdsAll_map {α : Type} (items : List α) (step : α → Step) :
    HoldsAll r accepts rejects (items.map step) ↔
      ∀ item ∈ items, (step item).action.Holds r accepts rejects :=
  List.forall_mem_map

@[simp] theorem holdsAll_within (token : String) (steps : List Step) :
    HoldsAll r accepts rejects (steps.map (Step.within token)) ↔
      HoldsAll r accepts rejects steps :=
  List.forall_mem_map

@[simp] theorem holdsAll_flatMap {α : Type} (items : List α) (steps : α → List Step) :
    HoldsAll r accepts rejects (items.flatMap steps) ↔
      ∀ item ∈ items, HoldsAll r accepts rejects (steps item) := by
  simp only [HoldsAll, List.mem_flatMap]
  constructor
  · intro hall item hitem step hstep
    exact hall step ⟨item, hitem, hstep⟩
  · rintro hall step ⟨item, hitem, hstep⟩
    exact hall item hitem step hstep

@[simp] theorem holds_test (token : String) (ok : Bool) :
    (Step.test token ok).action.Holds r accepts rejects ↔ ok = true := Iff.rfl

@[simp] theorem holds_descend (item : List String) (schema : Nat) (value : Json) :
    (Action.descend item schema value).Holds r accepts rejects ↔ accepts schema value := Iff.rfl

@[simp] theorem holdsFor_iff {α : Type} (bound : Option α) (test : α → Bool) :
    holdsFor bound test = true ↔ ∀ b ∈ bound, test b = true :=
  Option.all_eq_true test bound

theorem NumberRules.holds_plan_iff (rules : NumberRules) (epsilon : Binary64) (n : Number) :
    HoldsAll r accepts rejects (rules.plan epsilon n) ↔ rules.Admits epsilon n := by
  simp only [plan, holdsAll_cons, holds_test, holdsFor_iff, holdsAll_nil, decide_eq_true_eq,
    and_true, isMultipleOf_iff]
  constructor
  · rintro ⟨hminimum, hmaximum, hexclusiveMinimum, hexclusiveMaximum, hmultipleOf⟩
    exact ⟨hminimum, hmaximum, hexclusiveMinimum, hexclusiveMaximum, hmultipleOf⟩
  · rintro ⟨hminimum, hmaximum, hexclusiveMinimum, hexclusiveMaximum, hmultipleOf⟩
    exact ⟨hminimum, hmaximum, hexclusiveMinimum, hexclusiveMaximum, hmultipleOf⟩

theorem StringRules.holds_plan_iff (rules : StringRules) (text : String) :
    HoldsAll r accepts rejects (rules.plan text) ↔ rules.Admits text := by
  simp only [plan, holdsAll_cons, holds_test, holdsFor_iff, holdsAll_nil, decide_eq_true_eq,
    and_true]
  constructor
  · rintro ⟨hminLength, hmaxLength, hpattern⟩
    exact ⟨hminLength, hmaxLength, hpattern⟩
  · rintro ⟨hminLength, hmaxLength, hpattern⟩
    exact ⟨hminLength, hmaxLength, hpattern⟩

namespace ArrayRules

theorem holds_planEach_iff (schema index : Nat) (items : List Json) :
    HoldsAll r accepts rejects (planEach schema index items) ↔
      ∀ item ∈ items, accepts schema item := by
  induction items generalizing index with
  | nil => simp [planEach]
  | cons item rest ih =>
      rw [planEach, holdsAll_cons, ih, List.forall_mem_cons]
      rfl

theorem holds_planTuple_iff (index : Nat) (schemas : List Nat) (items : List Json) :
    HoldsAll r accepts rejects (planTuple index schemas items) ↔
      ∀ (position : Nat) schema item, schemas[position]? = some schema →
        items[position]? = some item → accepts schema item := by
  induction schemas generalizing index items with
  | nil => simp [planTuple]
  | cons schema schemas ih =>
      cases items with
      | nil => simp [planTuple]
      | cons item items =>
          rw [planTuple, holdsAll_cons, ih]
          constructor
          · rintro ⟨hfirst, hrest⟩ position schema' item' hschema hitem
            cases position with
            | zero =>
                cases hschema
                cases hitem
                exact hfirst
            | succ position => exact hrest position schema' item' hschema hitem
          · intro hall
            exact ⟨hall 0 schema item rfl rfl, fun position schema' item' hschema hitem =>
              hall (position + 1) schema' item' hschema hitem⟩

theorem forall_mem_drop_iff {items : List Json} {count : Nat} {holds : Json → Prop} :
    (∀ item ∈ items.drop count, holds item) ↔
      ∀ (position : Nat) item, count ≤ position → items[position]? = some item → holds item := by
  constructor
  · intro hall position item hposition hitem
    refine hall item (List.mem_iff_getElem?.mpr ⟨position - count, ?_⟩)
    rw [List.getElem?_drop, Nat.add_sub_cancel' hposition]
    exact hitem
  · intro hall item hitem
    obtain ⟨offset, hoffset⟩ := List.mem_iff_getElem?.mp hitem
    rw [List.getElem?_drop] at hoffset
    exact hall (count + offset) item (Nat.le_add_right _ _) hoffset

theorem holds_planItems_iff (rules : ArrayRules) (items : List Json) :
    HoldsAll r accepts rejects (rules.planItems items) ↔
      (∀ schema, rules.items = some (.each schema) → ∀ item ∈ items, accepts schema item) ∧
      (∀ schemas, rules.items = some (.tuple schemas) → ∀ (position : Nat) schema item,
        schemas[position]? = some schema → items[position]? = some item → accepts schema item) ∧
      (∀ schemas, rules.items = some (.tuple schemas) →
        ∀ schema ∈ rules.additionalItems, ∀ (position : Nat) item, schemas.length ≤ position →
          items[position]? = some item → accepts schema item) := by
  unfold planItems
  cases hitems : rules.items with
  | none => simp
  | some shape =>
      cases shape with
      | each schema => simp [holds_planEach_iff]
      | tuple schemas =>
          cases hadditional : rules.additionalItems with
          | none => simp [holds_planTuple_iff]
          | some schema => simp [holds_planTuple_iff, holds_planEach_iff, forall_mem_drop_iff]

theorem holds_planContains_iff (rules : ArrayRules) (items : List Json) :
    HoldsAll r accepts rejects (rules.planContains items) ↔
      ∀ schema ∈ rules.contains, ∃ item ∈ items, accepts schema item := by
  unfold planContains
  cases hcontains : rules.contains with
  | none => simp
  | some schema => simp [Action.Holds, Quota.Holds]

theorem holds_plan_iff (rules : ArrayRules) (items : List Json) :
    HoldsAll r accepts rejects (rules.plan items) ↔ rules.Admits accepts items := by
  have hunique : (!rules.uniqueItems || Json.distinct items) = true ↔
      (rules.uniqueItems = true → Json.Unrepeated items) := by
    rw [← Json.distinct_iff_unrepeated]
    cases rules.uniqueItems with
    | true => simp
    | false => simp
  simp only [plan, holdsAll_append, holdsAll_cons, holds_test, holdsFor_iff, holdsAll_nil,
    decide_eq_true_eq, and_true, holds_planItems_iff, holds_planContains_iff, hunique]
  constructor
  · rintro ⟨⟨heach, htuple, hadditional⟩, ⟨hminItems, hmaxItems, huniqueItems⟩, hcontains⟩
    exact ⟨heach, htuple, hadditional, hminItems, hmaxItems, huniqueItems, hcontains⟩
  · rintro ⟨heach, htuple, hadditional, hminItems, hmaxItems, huniqueItems, hcontains⟩
    exact ⟨⟨heach, htuple, hadditional⟩, ⟨hminItems, hmaxItems, huniqueItems⟩, hcontains⟩

end ArrayRules

theorem hasMember_iff {members : List (String × Json)} {name : String} :
    (Json.member? name members).isSome = true ↔ HasMember members name := by
  induction members with
  | nil => simp [Json.member?, HasMember]
  | cons first rest ih =>
      obtain ⟨key, value⟩ := first
      unfold Json.member? HasMember
      by_cases hname : key = name
      · subst hname
        simp
      · rw [if_neg hname, ih]
        unfold HasMember
        have hother : ∀ found, (name, found) ≠ (key, value) := fun found heq =>
          hname (congrArg Prod.fst heq).symm
        simp only [List.mem_cons, hother, false_or]

namespace ObjectRules

theorem holds_planMember_iff (rules : ObjectRules) (key : String) (value : Json) :
    HoldsAll r accepts rejects (rules.planMember key value) ↔
      (∀ schema ∈ rules.properties.lookup key, accepts schema value) ∧
      (∀ entry ∈ rules.patternProperties, entry.1.matches key = true → accepts entry.2 value) ∧
      (rules.properties.lookup key = none →
        (∀ entry ∈ rules.patternProperties, entry.1.matches key = false) →
          ∀ schema ∈ rules.additionalProperties, accepts schema value) := by
  have hmatching : (∀ entry ∈ rules.matching key, accepts entry.2 value) ↔
      ∀ entry ∈ rules.patternProperties, entry.1.matches key = true → accepts entry.2 value := by
    simp only [matching, List.mem_filter, and_imp]
  have hother : ((rules.properties.lookup key).isNone && (rules.matching key).isEmpty) = true ↔
      rules.properties.lookup key = none ∧
        ∀ entry ∈ rules.patternProperties, entry.1.matches key = false := by
    simp [matching]
  unfold planMember
  rw [holdsAll_append, holdsAll_append, holdsAll_map]
  refine and_congr ?_ (and_congr hmatching ?_)
  · cases rules.properties.lookup key with
    | none => simp
    | some schema => simp
  split
  · next hcondition =>
      obtain ⟨hlookup, hunmatched⟩ := hother.mp hcondition
      simp only [hlookup, true_implies]
      cases rules.additionalProperties with
      | none => simp
      | some schema =>
          simp only [holdsAll_cons, holds_descend, holdsAll_nil, and_true, Option.mem_some]
          constructor
          · rintro haccepted - schema rfl
            exact haccepted
          · intro hall
            exact hall hunmatched schema rfl
  · next hcondition =>
      simp only [holdsAll_nil, true_iff]
      intro hlookup hunmatched
      exact absurd (hother.mpr ⟨hlookup, hunmatched⟩) hcondition

theorem holds_planMissing_iff (members : List (String × Json)) (index : Nat) (names : List String) :
    HoldsAll r accepts rejects (planMissing members index names) ↔
      ∀ name ∈ names, HasMember members name := by
  induction names generalizing index with
  | nil => simp [planMissing]
  | cons name rest ih =>
      rw [planMissing, holdsAll_cons, holds_test, hasMember_iff, ih, List.forall_mem_cons]

theorem holds_planDependency_iff (members : List (String × Json)) (entry : String × Dependency) :
    HoldsAll r accepts rejects (planDependency members entry) ↔
      (HasMember members entry.1 →
        (∀ names, entry.2 = .keys names → ∀ name ∈ names, HasMember members name) ∧
        ∀ schema, entry.2 = .schema schema → accepts schema (.object members)) := by
  obtain ⟨key, dependency⟩ := entry
  unfold planDependency
  by_cases hmember : (Json.member? key members).isSome = true
  · rw [if_pos hmember]
    have hpresent := hasMember_iff.mp hmember
    cases dependency with
    | keys names =>
        rw [holdsAll_within, holdsAll_within, holds_planMissing_iff]
        simp [hpresent]
    | schema schema => simp [hpresent]
  · rw [if_neg hmember]
    have habsent : ¬ HasMember members key := fun hpresent => hmember (hasMember_iff.mpr hpresent)
    simp [habsent]

theorem holds_planNames_iff (rules : ObjectRules) (members : List (String × Json)) :
    HoldsAll r accepts rejects (rules.planNames members) ↔
      ∀ schema ∈ rules.propertyNames, ∀ member ∈ members, accepts schema (.string member.1) := by
  unfold planNames
  cases hnames : rules.propertyNames with
  | none => simp
  | some schema =>
      simp only [holdsAll_map, holds_descend, Option.mem_some]
      constructor
      · rintro hall schema rfl
        exact hall
      · intro hall
        exact hall schema rfl

theorem holds_plan_iff (rules : ObjectRules) (members : List (String × Json)) :
    HoldsAll r accepts rejects (rules.plan members) ↔ rules.Admits accepts members := by
  simp only [plan, holdsAll_append, holdsAll_flatMap, holdsAll_within, holdsAll_cons, holds_test,
    holdsFor_iff, holdsAll_nil, decide_eq_true_eq, and_true, holds_planMember_iff,
    holds_planMissing_iff, holds_planDependency_iff, holds_planNames_iff]
  constructor
  · rintro ⟨hmembers, hrequired, ⟨hminProperties, hmaxProperties⟩, hdependencies, hnames⟩
    exact {
      properties := fun member hmember => (hmembers member hmember).1
      patternProperties := fun member hmember => (hmembers member hmember).2.1
      additionalProperties := fun member hmember => (hmembers member hmember).2.2
      required := hrequired
      minProperties := hminProperties
      maxProperties := hmaxProperties
      dependentNames := fun entry hentry hpresent => (hdependencies entry hentry hpresent).1
      dependentSchemas := fun entry hentry hpresent => (hdependencies entry hentry hpresent).2
      propertyNames := hnames }
  · intro hadmits
    refine ⟨fun member hmember => ?_, hadmits.required,
      ⟨hadmits.minProperties, hadmits.maxProperties⟩, fun entry hentry hpresent => ?_,
      hadmits.propertyNames⟩
    · exact ⟨hadmits.properties member hmember, hadmits.patternProperties member hmember,
        hadmits.additionalProperties member hmember⟩
    · exact ⟨hadmits.dependentNames entry hentry hpresent,
        hadmits.dependentSchemas entry hentry hpresent⟩

end ObjectRules

namespace Combinators

theorem holds_planAll_iff (value : Json) (index : Nat) (schemas : List Nat) :
    HoldsAll r accepts rejects (planAll value index schemas) ↔
      ∀ schema ∈ schemas, accepts schema value := by
  induction schemas generalizing index with
  | nil => simp [planAll]
  | cons schema rest ih => rw [planAll, holdsAll_cons, ih, List.forall_mem_cons, holds_descend]

theorem admits_iff (c : Combinators) (value : Json) :
    c.Admits accepts rejects value ↔
      (∀ schema ∈ c.allOf, accepts schema value) ∧
      (c.anyOf ≠ [] → ∃ schema ∈ c.anyOf, accepts schema value) ∧
      (c.oneOf ≠ [] → ExactlyOne accepts rejects (c.oneOf.map (·, value))) ∧
      (∀ schema ∈ c.not, rejects schema value) ∧
      ∀ conditional ∈ c.conditional, conditional.Admits accepts rejects value :=
  ⟨fun ⟨hall, hany, hone, hnot, hconditional⟩ => ⟨hall, hany, hone, hnot, hconditional⟩,
    fun ⟨hall, hany, hone, hnot, hconditional⟩ => ⟨hall, hany, hone, hnot, hconditional⟩⟩

theorem holds_plan_iff (c : Combinators) (value : Json) :
    HoldsAll r accepts rejects (c.plan value) ↔ c.Admits accepts rejects value := by
  unfold plan
  rw [admits_iff]
  simp only [holdsAll_append, holdsAll_within, holds_planAll_iff]
  refine and_congr_right fun _ => and_congr ?_ (and_congr ?_ (and_congr ?_ ?_))
  · cases c.anyOf with
    | nil => simp
    | cons schema rest => simp [Action.Holds]
  · cases c.oneOf with
    | nil => simp
    | cons schema rest => simp [Action.Holds, Quota.Holds]
  · cases c.not with
    | none => simp
    | some schema => simp [Action.Holds, Quota.Holds]
  · cases c.conditional with
    | none => simp
    | some conditional => simp [Action.Holds]

end Combinators

theorem Number.isInteger_iff (n : Number) : n.isInteger = true ↔ ∃ z : Int, n.value = z := by
  cases n with
  | integer z => simp [isInteger, value]
  | double x =>
      simp only [isInteger, value, decide_eq_true_eq]
      constructor
      · intro hden
        exact ⟨x.value.num, (Rat.coe_int_num_of_den_eq_one hden).symm⟩
      · rintro ⟨z, hz⟩
        rw [hz]
        exact Rat.den_intCast z

theorem TypeSet.accepts_iff (s : TypeSet) (value : Json) :
    s.accepts value = true ↔ ∃ type, s.contains type = true ∧ value.HasType type := by
  constructor
  · intro haccepts
    cases value with
    | null => exact ⟨.null, haccepts, .null⟩
    | bool b => exact ⟨.boolean, haccepts, .boolean b⟩
    | string text => exact ⟨.string, haccepts, .string text⟩
    | array items => exact ⟨.array, haccepts, .array items⟩
    | object members => exact ⟨.object, haccepts, .object members⟩
    | number n =>
        simp only [accepts, Bool.or_eq_true, Bool.and_eq_true] at haccepts
        rcases haccepts with hnumber | ⟨hinteger, hintegral⟩
        · exact ⟨.number, hnumber, .number n⟩
        · obtain ⟨z, hz⟩ := n.isInteger_iff.mp hintegral
          exact ⟨.integer, hinteger, .integer hz⟩
  · rintro ⟨type, hcontains, htype⟩
    cases htype with
    | number n => simp [accepts, hcontains]
    | @integer n z hintegral =>
        have hinteger := n.isInteger_iff.mpr ⟨z, hintegral⟩
        simp [accepts, hcontains, hinteger]
    | _ => exact hcontains

namespace Keywords

theorem holds_planKind_iff (k : Keywords) (epsilon : Binary64) (value : Json) :
    HoldsAll r accepts rejects (k.planKind epsilon value) ↔
      (∀ n, value = .number n → k.numbers.Admits epsilon n) ∧
      (∀ text, value = .string text → k.strings.Admits text) ∧
      (∀ items, value = .array items → k.arrays.Admits accepts items) ∧
      ∀ members, value = .object members → k.objects.Admits accepts members := by
  cases value with
  | null => simp [planKind]
  | bool b => simp [planKind]
  | number n => simp [planKind, NumberRules.holds_plan_iff]
  | string text => simp [planKind, StringRules.holds_plan_iff]
  | array items => simp [planKind, ArrayRules.holds_plan_iff]
  | object members => simp [planKind, ObjectRules.holds_plan_iff]

theorem holds_plan_iff (k : Keywords) (epsilon : Binary64) (value : Json) :
    HoldsAll r accepts rejects (k.plan epsilon value) ↔
      k.Admits r epsilon accepts rejects value := by
  have hreference : HoldsAll r accepts rejects (k.planReference value) ↔
      ∀ reference ∈ k.reference, reference.Admits r accepts value := by
    unfold planReference
    cases k.reference with
    | none => simp
    | some reference => simp [Action.Holds]
  simp only [plan, planValues, holdsAll_append, holdsAll_cons, holds_test, holdsFor_iff,
    holdsAll_nil, and_true, hreference, holds_planKind_iff, Combinators.holds_plan_iff,
    TypeSet.accepts_iff, List.any_eq_true]
  constructor
  · rintro ⟨hreference, htypes, ⟨hnumbers, hstrings, harrays, hobjects⟩, ⟨henum, hconst⟩,
      hcombinators⟩
    exact ⟨hreference, htypes, hnumbers, hstrings, harrays, hobjects, henum, hconst, hcombinators⟩
  · rintro ⟨hreference, htypes, hnumbers, hstrings, harrays, hobjects, henum, hconst, hcombinators⟩
    exact ⟨hreference, htypes, ⟨hnumbers, hstrings, harrays, hobjects⟩, ⟨henum, hconst⟩,
      hcombinators⟩

end Keywords

/-- All actions of a schema's plan hold if and only if the schema admits the value. -/
theorem Node.holds_plan_iff (node : Node) (epsilon : Binary64) (value : Json) :
    HoldsAll r accepts rejects (node.plan epsilon value) ↔
      node.Admits r epsilon accepts rejects value := by
  unfold plan Admits
  cases node.body with
  | constant accepted => simp [Action.Holds]
  | keywords k => exact k.holds_plan_iff epsilon value

end Holding

end SchemaRegistry

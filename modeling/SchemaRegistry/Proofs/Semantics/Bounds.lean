import SchemaRegistry.Proofs.Compile.Sealed
import SchemaRegistry.Proofs.Invariance.Bisimulation
import SchemaRegistry.Proofs.Json.Rounding
import SchemaRegistry.Proofs.Reports.Assertions

/-!
Bounds of numbers. The limit of a bound is rounded to double precision when it is read, and numbers
are compared with the limit that is left, exactly. So the bound that is kept is not always the one
that is written. For integers of 64 bits they are the same if double precision has the limit, and
otherwise only if the limit is the greatest integer in a bound that none of them goes beyond.
-/

namespace SchemaRegistry

/-- A bound that a schema sets to numbers. -/
inductive Bound where
  | minimum
  | maximum
  | exclusiveMinimum
  | exclusiveMaximum
  deriving DecidableEq

namespace Bound

def keyword : Bound → String
  | minimum => "minimum"
  | maximum => "maximum"
  | exclusiveMinimum => "exclusiveMinimum"
  | exclusiveMaximum => "exclusiveMaximum"

/-- Whether a value keeps the bound with the given limit. -/
def Holds {α : Type} [LE α] [LT α] (limit value : α) : Bound → Prop
  | minimum => limit ≤ value
  | maximum => value ≤ limit
  | exclusiveMinimum => limit < value
  | exclusiveMaximum => value < limit

/-- The rules of a schema with nothing but this bound. -/
def rules (limit : Binary64) : Bound → NumberRules
  | minimum => ⟨some limit, none, none, none, none⟩
  | maximum => ⟨none, some limit, none, none, none⟩
  | exclusiveMinimum => ⟨none, none, some limit, none, none⟩
  | exclusiveMaximum => ⟨none, none, none, some limit, none⟩

theorem holds_intCast (bound : Bound) (limit value : Int) :
    bound.Holds (limit : Rat) (value : Rat) ↔ bound.Holds limit value := by
  cases bound <;> simp [Holds]

/-- The integers between `-2 ^ 63` and `2 ^ 64 - 1` tell any two limits apart, except for limits
above all of them in a bound that these integers keep all or break all. -/
theorem agree_iff {bound : Bound} {limit rounded : Int} (hlower : -2 ^ 63 ≤ limit)
    (hupper : limit < 2 ^ 64) (hleast : rounded < limit → -2 ^ 63 < limit) :
    (∀ n : Int, -2 ^ 63 ≤ n → n < 2 ^ 64 → (bound.Holds rounded n ↔ bound.Holds limit n)) ↔
      rounded = limit ∨
        limit = 2 ^ 64 - 1 ∧ limit < rounded ∧ (bound = .maximum ∨ bound = .exclusiveMinimum) := by
  constructor
  · intro hagree
    rcases lt_trichotomy rounded limit with hless | heq | hmore
    · -- The limit, or the integer before it, keeps only one of the two bounds.
      have hbefore := hagree (limit - 1) (by have := hleast hless; omega) (by omega)
      have hat := hagree limit hlower hupper
      exfalso
      cases bound <;> simp only [Holds] at hbefore hat <;> omega
    · exact Or.inl heq
    · have hat := hagree limit hlower hupper
      by_cases hgreatest : limit = 2 ^ 64 - 1
      · refine Or.inr ⟨hgreatest, hmore, ?_⟩
        cases bound with
        | minimum => simp only [Holds] at hat; omega
        | maximum => exact Or.inl rfl
        | exclusiveMinimum => exact Or.inr rfl
        | exclusiveMaximum => simp only [Holds] at hat; omega
      · have hafter := hagree (limit + 1) (by omega) (by omega)
        exfalso
        cases bound <;> simp only [Holds] at hat hafter <;> omega
  · rintro (rfl | ⟨hgreatest, hmore, rfl | rfl⟩) n hn hn'
    · exact Iff.rfl
    · simp only [Holds]
      omega
    · simp only [Holds]
      omega

/-- A bound with its limit rounded to double precision is the bound itself, for the integers between
`-2 ^ 63` and `2 ^ 64 - 1`, exactly if double precision has the limit, or if the limit is the
greatest of them and the bound one that they keep all or break all. -/
theorem agrees_rounded_iff {bound : Bound} {limit : Int} (hlower : -2 ^ 63 ≤ limit)
    (hupper : limit < 2 ^ 64) :
    (∀ n : Int, -2 ^ 63 ≤ n → n < 2 ^ 64 →
        (bound.Holds (Binary64.ofInt limit).value n ↔ bound.Holds limit n)) ↔
      (∃ x : Binary64, x.Canonical ∧ x.value = limit) ∨
        limit = 2 ^ 64 - 1 ∧ (bound = .maximum ∨ bound = .exclusiveMinimum) := by
  obtain ⟨rounded, hrounded⟩ := Binary64.exists_ofInt_value_eq limit
  have hkept : rounded = limit ↔ ∃ x : Binary64, x.Canonical ∧ x.value = limit := by
    constructor
    · rintro rfl
      exact ⟨_, Binary64.canonical_ofFraction _ Nat.one_pos, hrounded⟩
    · rintro ⟨x, hx, hvalue⟩
      have hexact := Binary64.ofInt_value_of_eq hx.significand_lt hvalue
      exact_mod_cast hrounded.symm.trans hexact
  have hleast : rounded < limit → -2 ^ 63 < limit := by
    intro hless
    refine lt_of_le_of_ne hlower ?_
    rintro rfl
    have hexact : (Binary64.ofInt (-2 ^ 63)).value = (-2 ^ 63 : Int) := by decide +kernel
    have hsame : rounded = -2 ^ 63 := by exact_mod_cast hrounded.symm.trans hexact
    omega
  have hgreatest : limit = 2 ^ 64 - 1 → limit < rounded := by
    rintro rfl
    have hnext : (Binary64.ofInt (2 ^ 64 - 1)).value = (2 ^ 64 : Int) := by decide +kernel
    have hsame : rounded = 2 ^ 64 := by exact_mod_cast hrounded.symm.trans hnext
    omega
  simp only [hrounded, holds_intCast]
  rw [agree_iff hlower hupper hleast, hkept]
  refine or_congr_right ⟨?_, ?_⟩
  · rintro ⟨hlimit, -, hbound⟩
    exact ⟨hlimit, hbound⟩
  · rintro ⟨hlimit, hbound⟩
    exact ⟨hlimit, hgreatest hlimit, hbound⟩

/-- The schema with nothing but the bound. -/
def schema (bound : Bound) (limit : Int) : Json :=
  .object [(bound.keyword, .number (.integer limit))]

/-- The keywords besides bounds that take part in the check of a number. -/
def otherKeywords : List String :=
  ["$ref", "type", "multipleOf", "enum", "const", "allOf", "anyOf", "oneOf", "not", "if"]

/-- The members of a schema that demands nothing of a number but that it keeps one bound. -/
structure Sole (limit : Number) (members : List (String × Json)) (bound : Bound) : Prop where
  limit : Json.member? bound.keyword members = some (.number limit)
  bounds : ∀ other : Bound, other ≠ bound → Json.member? other.keyword members = none
  others : ∀ keyword ∈ otherKeywords, Json.member? keyword members = none

end Bound

theorem Slots.eq_nil_of_list {α : Type} {keyword : String} {items : List α}
    (habsent : ∀ path a, (keyword :: path, a) ∉ list keyword 0 items) : items = [] := by
  cases items with
  | nil => rfl
  | cons item rest => exact absurd List.mem_cons_self (habsent [toString 0] item)

theorem Slots.eq_none_of_one {α : Type} {keyword : String} {value : Option α}
    (habsent : ∀ path a, (keyword :: path, a) ∉ one keyword value) : value = none := by
  cases value with
  | none => rfl
  | some a => exact absurd List.mem_cons_self (habsent [] a)

/-- Where no keyword combines schemas, none are combined. -/
theorem Combinators.plan_eq_nil {c : Combinators}
    (habsent : ∀ keyword ∈ ["allOf", "anyOf", "oneOf", "not", "if"], ∀ path inner,
      (keyword :: path, inner) ∉ c.slots) (value : Json) : c.plan value = [] := by
  simp only [slots, List.mem_append, not_or] at habsent
  have hallOf := Slots.eq_nil_of_list fun path inner => (habsent "allOf" (by decide) path inner).1
  have hanyOf := Slots.eq_nil_of_list fun path inner => (habsent "anyOf" (by decide) path inner).2.1
  have honeOf := Slots.eq_nil_of_list fun path inner =>
    (habsent "oneOf" (by decide) path inner).2.2.1
  have hnot := Slots.eq_none_of_one fun path inner =>
    (habsent "not" (by decide) path inner).2.2.2.1
  have hconditional : c.conditional = none := by
    cases hrule : c.conditional with
    | none => rfl
    | some conditional =>
        have hheld := (habsent "if" (by decide) [] conditional.condition).2.2.2.2
        exact absurd (by simp [Slots.one, Conditional.slots, hrule]) hheld
  simp [plan, planAll, hallOf, hanyOf, honeOf, hnot, hconditional]

/-- The plan for a number of a schema with nothing but keywords for numbers. -/
theorem Keywords.plan_number {k : Keywords} (hreference : k.reference = none)
    (htypes : k.types = none) (henum : k.enum = none) (hconst : k.const = none)
    (hcombinators : ∀ value, k.combinators.plan value = []) (epsilon : Binary64) (n : Number) :
    k.plan epsilon (.number n) = .test "type" true ::
      (k.numbers.plan epsilon n ++ [.test "enum" true, .test "const" true]) := by
  simp only [plan, planReference, planValues, planKind, hreference, htypes, henum, hconst,
    hcombinators]
  rfl

/-- The tests that rules for numbers make. -/
def NumberRules.tests (rules : NumberRules) (epsilon : Binary64) (n : Number) :
    List (String × Bool) :=
  [("minimum", holdsFor rules.minimum (·.value ≤ n.value)),
    ("maximum", holdsFor rules.maximum (n.value ≤ ·.value)),
    ("exclusiveMinimum", holdsFor rules.exclusiveMinimum (·.value < n.value)),
    ("exclusiveMaximum", holdsFor rules.exclusiveMaximum (n.value < ·.value)),
    ("multipleOf", holdsFor rules.multipleOf (isMultipleOf n.toBinary64 · epsilon))]

theorem NumberRules.plan_eq_map (rules : NumberRules) (epsilon : Binary64) (n : Number) :
    rules.plan epsilon n =
      (rules.tests epsilon n).map fun entry => Step.test entry.1 entry.2 := rfl

theorem NumberRules.ReadAt.unique {rules others : NumberRules} {s : Site} (hrules : rules.ReadAt s)
    (hothers : others.ReadAt s) : rules = others := by
  obtain ⟨minimum, maximum, exclusiveMinimum, exclusiveMaximum, multipleOf⟩ := rules
  obtain rfl := Except.ok.inj (hrules.minimum.symm.trans hothers.minimum)
  obtain rfl := Except.ok.inj (hrules.maximum.symm.trans hothers.maximum)
  obtain rfl := Except.ok.inj (hrules.exclusiveMinimum.symm.trans hothers.exclusiveMinimum)
  obtain rfl := Except.ok.inj (hrules.exclusiveMaximum.symm.trans hothers.exclusiveMaximum)
  obtain rfl := Except.ok.inj (hrules.multipleOf.symm.trans hothers.multipleOf)
  rfl

namespace Bound

variable {bound : Bound} {limit : Number}

theorem Sole.rules_eq {s : Site} (hsole : bound.Sole limit s.members) {rules : NumberRules}
    (hread : rules.ReadAt s) : rules = bound.rules limit.toBinary64 := by
  have hnumber : ∀ other : Bound, s.number? other.keyword =
      .ok (if other = bound then some limit.toBinary64 else none) := by
    intro other
    split
    · next heq =>
        unfold Site.number? Site.keyword?
        rw [heq, hsole.limit]
    · next hother => exact Site.number?_of_absent (hsole.bounds other hother)
  have hdivisor : s.divisor? "multipleOf" = .ok none :=
    Site.divisor?_of_absent (hsole.others _ (by decide))
  apply hread.unique
  cases bound <;> exact ⟨hnumber .minimum, hnumber .maximum, hnumber .exclusiveMinimum,
    hnumber .exclusiveMaximum, hdivisor⟩

/-- The tests of the rules succeed for the numbers that keep the bound. -/
theorem all_tests_iff (bound : Bound) (limit epsilon : Binary64) (n : Number) :
    ((bound.rules limit).tests epsilon n).all Prod.snd = true ↔
      bound.Holds limit.value n.value := by
  cases bound <;> simp [NumberRules.tests, Bound.rules, holdsFor, Holds]

end Bound

/-- The keywords besides those for numbers that take part in the check of a number. -/
def generalKeywords : List String :=
  ["$ref", "type", "enum", "const", "allOf", "anyOf", "oneOf", "not", "if"]

namespace Entry.CompiledAt

variable {entry : Entry} {index : Nat} {p : Position} {places : List Position}
  (hcompiled : entry.CompiledAt index p places) {members : List (String × Json)}
  (hraw : p.raw = .object members)

include hcompiled hraw

/-- A schema without keywords that combine schemas combines none. -/
theorem combinators_plan_eq_nil {k : Keywords} (hbody : entry.node.body = .keywords k)
    (habsent : ∀ keyword ∈ ["allOf", "anyOf", "oneOf", "not", "if"],
      Json.member? keyword members = none) (value : Json) : k.combinators.plan value = [] := by
  refine Combinators.plan_eq_nil (fun keyword hknown path inner hslot => ?_) value
  have hheld : (keyword :: path, inner) ∈ entry.node.slots := by
    rw [Node.slots_of_body hbody]
    exact Keywords.mem_slots.mpr (Or.inr (Or.inr hslot))
  obtain ⟨-, value, hsubschema, -⟩ := hcompiled.slots _ _ hheld
  rw [hraw] at hsubschema
  obtain ⟨pointed, hmember⟩ := (Json.heldAt_of_subschema hsubschema).exists_member
  cases (habsent keyword hknown).symm.trans hmember

/-- What a schema with nothing but rules for numbers does with a number: it makes the tests of the
rules, and tests nothing at the other keywords. -/
theorem exists_plan_numbers (hreferred : entry.node.reference? = p.reference?)
    (habsent : ∀ keyword ∈ generalKeywords, Json.member? keyword members = none) :
    ∃ rules : NumberRules, rules.ReadAt ⟨p.scopes, members⟩ ∧ ∀ epsilon n,
      entry.node.plan epsilon (.number n) = .test "type" true ::
        (rules.plan epsilon n ++ [.test "enum" true, .test "const" true]) := by
  obtain ⟨accepts, hbool, -⟩ | ⟨ms, k, hobject, hbody, hread⟩ := hcompiled.made.body
  · rw [hraw] at hbool
    cases hbool
  · obtain rfl : members = ms := Json.object.inj (hraw.symm.trans hobject)
    have hunread : ∀ keyword ∈ generalKeywords,
        Site.keyword? ⟨p.scopes, members⟩ keyword = none := habsent
    have hreference : k.reference = none := by
      unfold Node.reference? Position.reference? Json.referred? at hreferred
      rw [hbody, hraw] at hreferred
      dsimp only at hreferred
      rw [hreferred, habsent "$ref" (by decide)]
    have htypes : k.types = none :=
      Except.ok.inj (hread.types.symm.trans
        (Site.types?_of_absent (hunread "type" (by decide))))
    have henum : k.enum = none :=
      Except.ok.inj (hread.enum.symm.trans (Site.enum?_of_absent (hunread "enum" (by decide))))
    have hconst : k.const = none := hread.const.trans (hunread "const" (by decide))
    have hcombining : ∀ keyword ∈ ["allOf", "anyOf", "oneOf", "not", "if"],
        keyword ∈ generalKeywords := by decide
    have hcombinators := hcompiled.combinators_plan_eq_nil hraw hbody fun keyword hknown =>
      habsent keyword (hcombining keyword hknown)
    refine ⟨k.numbers, hread.numbers, fun epsilon n => ?_⟩
    unfold Node.plan
    rw [hbody]
    dsimp only
    rw [Keywords.plan_number hreference htypes henum hconst hcombinators]

end Entry.CompiledAt

namespace Registry

variable {documents : List Json} {r : Registry}

/-- A schema with nothing but rules for numbers accepts the numbers for which all tests of the rules
succeed. -/
theorem exists_run_numbers (hcompile : compile documents = .ok r) {index : Nat} {p : Position}
    (hp : (positions documents)[index]? = some p) {members : List (String × Json)}
    (hraw : p.raw = .object members)
    (habsent : ∀ keyword ∈ generalKeywords, Json.member? keyword members = none) :
    ∃ rules : NumberRules, rules.ReadAt ⟨p.scopes, members⟩ ∧
      ∀ (options : Options) (capacity : Nat) (n : Number),
        (r.run options capacity index (.number n)).map Machine.clean =
          .ok ((rules.tests options.epsilon n).all Prod.snd) := by
  obtain ⟨entry, hentry, hcompiled⟩ := (compile_arranged hcompile).exists_entry_at hp
  obtain ⟨hreferred, -⟩ := hcompiled.made.reads (List.mem_of_getElem? hp)
  have hnode : r.node? index = some entry.node := by
    unfold Registry.node?
    rw [hentry]
    rfl
  obtain ⟨rules, hread, hplan⟩ := hcompiled.exists_plan_numbers hraw hreferred habsent
  refine ⟨rules, hread, fun options capacity n => ?_⟩
  have hwhole : entry.node.plan options.epsilon (.number n) =
      (("type", true) :: (rules.tests options.epsilon n ++
        [("enum", true), ("const", true)])).map fun entry => Step.test entry.1 entry.2 := by
    rw [hplan, rules.plan_eq_map, List.map_cons, List.map_append]
    rfl
  rw [(compile_sealed hcompile).run_clean_eq, (compile_postOrdered hcompile).judge_eq hnode,
    hwhole, verdict_judgeAll_tests]
  simp [resultOf]

/-- A schema with only a bound accepts the numbers that keep the bound with the rounded limit. -/
theorem run_bound (hcompile : compile documents = .ok r) {index : Nat} {p : Position}
    (hp : (positions documents)[index]? = some p) {members : List (String × Json)}
    (hraw : p.raw = .object members) {bound : Bound} {limit : Number}
    (hsole : bound.Sole limit members) (options : Options) (capacity : Nat) (n : Number) :
    ∃ verdict,
      (r.run options capacity index (.number n)).map Machine.clean = .ok verdict ∧
        (verdict = true ↔ bound.Holds limit.toBinary64.value n.value) := by
  have hgeneral : ∀ keyword ∈ generalKeywords, keyword ∈ Bound.otherKeywords := by decide
  obtain ⟨rules, hread, hrun⟩ := exists_run_numbers hcompile hp hraw fun keyword hknown =>
    hsole.others keyword (hgeneral keyword hknown)
  refine ⟨_, hrun options capacity n, ?_⟩
  rw [hsole.rules_eq hread]
  exact bound.all_tests_iff _ _ n

/-- The schema with nothing but a bound is compiled. -/
theorem exists_compile_bound (bound : Bound) (limit : Int) :
    ∃ r, compile [bound.schema limit] = .ok r := by
  cases bound <;> exact ⟨_, rfl⟩

/-- What a bound with an integer for its limit demands. The schema with nothing but the bound is
compiled, and wherever a schema sets this bound alone, each integer is judged. The verdict is
that of the bound with the limit rounded to double precision. So it is that of the limit itself, for
all integers from `-2 ^ 63` to `2 ^ 64 - 1`, exactly if double precision has the limit, or if the
limit is the greatest of these integers and the bound one that they keep all or break all. -/
theorem integer_bounds_round (hcompile : compile documents = .ok r) {index : Nat} {p : Position}
    (hp : (positions documents)[index]? = some p) {members : List (String × Json)}
    (hraw : p.raw = .object members) {bound : Bound} {limit : Int}
    (hsole : bound.Sole (.integer limit) members) (hlower : -2 ^ 63 ≤ limit)
    (hupper : limit < 2 ^ 64) (options : Options) (capacity : Nat) :
    (∃ s, compile [bound.schema limit] = .ok s) ∧
    (∀ n : Int, ∃ verdict,
      (r.run options capacity index (.number (.integer n))).map Machine.clean = .ok verdict ∧
        (verdict = true ↔ bound.Holds (Binary64.ofInt limit).value n)) ∧
    ((∀ n : Int, -2 ^ 63 ≤ n → n < 2 ^ 64 →
        ((r.run options capacity index (.number (.integer n))).map Machine.clean = .ok true ↔
          bound.Holds limit n)) ↔
      (∃ x : Binary64, x.Canonical ∧ x.value = limit) ∨
        limit = 2 ^ 64 - 1 ∧ (bound = .maximum ∨ bound = .exclusiveMinimum)) := by
  have hverdict : ∀ n : Int, ∃ verdict,
      (r.run options capacity index (.number (.integer n))).map Machine.clean = .ok verdict ∧
        (verdict = true ↔ bound.Holds (Binary64.ofInt limit).value n) := fun n =>
    run_bound hcompile hp hraw hsole options capacity (.integer n)
  refine ⟨exists_compile_bound bound limit, hverdict, ?_⟩
  rw [← Bound.agrees_rounded_iff hlower hupper]
  refine forall₃_congr fun n _ _ => ?_
  obtain ⟨verdict, hrun, hholds⟩ := hverdict n
  rw [hrun, Except.ok.injEq, hholds]

/-- A schema with the greatest integer as a maximum, which is not a double precision number. -/
def greatestMaximum : List (String × Json) :=
  [("title", .string "any"), ("maximum", .number (.integer 18446744073709551615))]

/-- This maximum is kept for all integers. -/
theorem integer_bounds_round_greatest :
    ∃ r, compile [.object greatestMaximum] = .ok r ∧
      (positions [.object greatestMaximum])[0]? = some (.root 0 (.object greatestMaximum)) ∧
      Bound.maximum.Sole (.integer 18446744073709551615) greatestMaximum ∧
      (Binary64.ofInt 18446744073709551615).value = 18446744073709551616 ∧
      ∀ n : Int, -2 ^ 63 ≤ n → n < 2 ^ 64 →
        ((r.run Options.default 0 0 (.number (.integer n))).map Machine.clean = .ok true ↔
          Bound.maximum.Holds (18446744073709551615 : Int) n) := by
  obtain ⟨r, hcompile⟩ : ∃ r, compile [.object greatestMaximum] = .ok r := ⟨_, rfl⟩
  have hposition : (positions [.object greatestMaximum])[0]? =
      some (.root 0 (.object greatestMaximum)) := by
    unfold positions positionsFrom
    rw [Position.postOrder_eq]
    rfl
  have hsole : Bound.maximum.Sole (.integer 18446744073709551615) greatestMaximum := by
    refine ⟨rfl, fun other hother => ?_, by decide⟩
    cases other with
    | maximum => exact absurd rfl hother
    | _ => rfl
  have hrounded : (Binary64.ofInt 18446744073709551615).value = 18446744073709551616 := by
    decide +kernel
  obtain ⟨-, -, hexact⟩ := integer_bounds_round hcompile hposition rfl hsole (by decide) (by decide)
    Options.default 0
  exact ⟨r, hcompile, hposition, hsole, hrounded,
    hexact.mpr (Or.inr ⟨by decide, Or.inl rfl⟩)⟩

/-- A minimum that double precision does not have lets the integer before it pass. -/
theorem minimum_passes_smaller :
    ∃ r, compile [Bound.minimum.schema 9007199254740993] = .ok r ∧
      r.isValid Options.default (.number (.integer 9007199254740992)) = .ok true ∧
      ¬ Bound.minimum.Holds (9007199254740993 : Int) 9007199254740992 := by
  have hchecked : (compile [Bound.minimum.schema 9007199254740993]).toOption.map (fun r =>
      (r.isValid Options.default (.number (.integer 9007199254740992))).toOption.map id) =
        some (some true) := by decide +kernel
  obtain ⟨r, hcompile, hr⟩ := exists_ok_of_toOption hchecked
  obtain ⟨_, hvalid, rfl⟩ := exists_ok_of_toOption hr
  exact ⟨r, hcompile, hvalid, by simp [Bound.Holds]⟩

end Registry

end SchemaRegistry

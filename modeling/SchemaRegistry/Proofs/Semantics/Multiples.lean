import Mathlib.Data.Nat.Prime.Basic
import Mathlib.Data.Rat.Floor
import Mathlib.Tactic.Linarith
import SchemaRegistry.Proofs.Acceptance.Rejection
import SchemaRegistry.Proofs.Json.Nearest
import SchemaRegistry.Proofs.Semantics.Bounds
import SchemaRegistry.Proofs.Semantics.Holds

/-!
Multiples of integers. The divisor is rounded to double precision when it is read, and an integer
before it is divided; what is left is then measured exactly enough to tell whether there is anything
left. So without a tolerance it is the rounded numbers of which one has to be a multiple of the
other. A multiple that double precision has stays one, since with it double precision has all of its
divisors.
-/

namespace SchemaRegistry

open Binary64

/-- A part of a number that is not too small, and not too close to the number, is rounded neither to
zero nor to the whole. -/
theorem rounded_fraction_bounds {rest d : Nat} (hrest : 1 ≤ rest) (hless : rest < d)
    (hupper : d ≤ 2 ^ 64) (hclose : d ≤ 2 ^ 53 * (d - rest)) :
    ((1 : Nat) : Rat) * 2 ^ (-64 : Int) ≤ (ofRat (rest / d)).value ∧
      (ofRat (rest / d)).value ≤ ((2 ^ 53 - 1 : Nat) : Rat) * 2 ^ (-53 : Int) := by
  have hd : (0 : Rat) < d := Nat.cast_pos.mpr (by omega)
  have hfraction : (0 : Rat) < rest / d := div_pos (Nat.cast_pos.mpr hrest) hd
  constructor
  · apply le_ofRat_value hfraction (by norm_num) (by decide)
    have hscaled : d ≤ rest * 2 ^ 64 := hupper.trans (Nat.le_mul_of_pos_left _ hrest)
    rw [Nat.cast_one, one_mul, zpow_neg, inv_eq_one_div, div_le_div_iff₀ (by positivity) hd,
      one_mul]
    exact_mod_cast hscaled
  · apply ofRat_value_le hfraction (by norm_num) (by decide)
    have hscaled : rest * 2 ^ 53 ≤ (2 ^ 53 - 1) * d := by omega
    rw [zpow_neg, ← div_eq_mul_inv, div_le_div_iff₀ hd (by positivity)]
    exact_mod_cast hscaled

section Remainder

variable {value divisor epsilon : Binary64} {n d : Nat} (hvalue : |value.value| = n)
  (hdivisor : divisor.value = d)

include hvalue hdivisor

theorem leftover_of_natural : value.leftover divisor = (ofRat ((n % d : Nat) / d)).value := by
  unfold leftover
  rw [hvalue, hdivisor, Int.fract_div_natCast_eq_div_natCast_mod]

/-- What leaves nothing passes with any tolerance. -/
theorem isMultipleOf_of_dvd (hdvd : d ∣ n) (hepsilon : 0 ≤ epsilon.value) :
    isMultipleOf value divisor epsilon = true := by
  rw [isMultipleOf_iff, leftover_of_natural hvalue hdivisor, Nat.mod_eq_zero_of_dvd hdvd,
    Nat.cast_zero, zero_div, ofRat_zero_value]
  exact min_le_of_left_le hepsilon

/-- What leaves something does not pass without a tolerance. Neither the part of the divisor that is
left, nor the part up to the divisor, is so small that it is rounded away. -/
theorem isMultipleOf_of_not_dvd (hn : Significant n) (hd : Significant d) (hpositive : 0 < d)
    (hupper : d ≤ 2 ^ 64) (hdvd : ¬ d ∣ n) (hepsilon : epsilon.value ≤ 0) :
    isMultipleOf value divisor epsilon = false := by
  have hrest : 1 ≤ n % d := Nat.pos_of_ne_zero (mt Nat.dvd_of_mod_eq_zero hdvd)
  obtain ⟨hlower, hbelow⟩ := rounded_fraction_bounds hrest (Nat.mod_lt n hpositive) hupper
    (hn.le_mul_sub_mod hd hpositive)
  have hgap : ((1 : Nat) : Rat) * 2 ^ (-53 : Int) ≤ 1 - (ofRat ((n % d : Nat) / d)).value := by
    have hwhole :
        ((2 ^ 53 - 1 : Nat) : Rat) * 2 ^ (-53 : Int) + (1 : Nat) * 2 ^ (-53 : Int) = 1 := by
      norm_num
    linarith
  have hcomplement := le_ofRat_value (lt_of_lt_of_le (by positivity) hgap) (by norm_num)
    (by decide) hgap
  rw [← Bool.not_eq_true, isMultipleOf_iff, leftover_of_natural hvalue hdivisor, not_le]
  refine hepsilon.trans_lt (lt_min ?_ ?_)
  · exact lt_of_lt_of_le (by positivity) hlower
  · exact lt_of_lt_of_le (by positivity) hcomplement

end Remainder

section Tolerance

variable (value divisor : Binary64) {epsilon : Binary64}

theorem leftover_bounds : 0 ≤ value.leftover divisor ∧ value.leftover divisor ≤ 1 :=
  ofRat_value_bounds (Int.fract_nonneg _) (Int.fract_lt_one _).le

/-- With a tolerance of one, and so with an infinite one, every number is a multiple. -/
theorem isMultipleOf_of_one_le (hepsilon : 1 ≤ epsilon.value) :
    isMultipleOf value divisor epsilon = true := by
  rw [isMultipleOf_iff]
  exact min_le_of_left_le ((leftover_bounds value divisor).2.trans hepsilon)

/-- With a tolerance below zero, and so with one that nothing is within, no number is a multiple. -/
theorem isMultipleOf_of_neg (hepsilon : epsilon.value < 0) :
    isMultipleOf value divisor epsilon = false := by
  obtain ⟨hlower, hupper⟩ := leftover_bounds value divisor
  have hcomplement := (ofRat_value_bounds (sub_nonneg.mpr hupper) (sub_le_self 1 hlower)).1
  rw [← Bool.not_eq_true, isMultipleOf_iff, not_le]
  exact hepsilon.trans_le (le_min hlower hcomplement)

end Tolerance

/-- Whether what an integer is rounded to is a multiple of what a divisor is rounded to. -/
def RoundedMultiple (d n : Int) : Prop :=
  ∃ k : Int, (ofInt n).value = (ofInt d).value * k

theorem exists_rounded (n : Int) : ∃ rounded : Nat, |(ofInt n).value| = rounded ∧
    Significant rounded := by
  obtain ⟨z, hz⟩ := exists_ofInt_value_eq n
  have hvalue : |(ofInt n).value| = (z.natAbs : Nat) := by
    rw [hz, Nat.cast_natAbs, Int.cast_abs]
  exact ⟨z.natAbs, hvalue, (canonical_ofFraction _ Nat.one_pos).significant hvalue⟩

theorem roundedMultiple_iff {d n : Int} {divisor rounded : Nat} (hd : (ofInt d).value = divisor)
    (hn : |(ofInt n).value| = rounded) : RoundedMultiple d n ↔ divisor ∣ rounded := by
  obtain ⟨z, hz⟩ := exists_ofInt_value_eq n
  have hmagnitude : z.natAbs = rounded := by
    rw [hz, ← Int.cast_abs, Int.abs_eq_natAbs] at hn
    exact_mod_cast hn
  unfold RoundedMultiple
  rw [hd, hz, ← hmagnitude, ← Int.natCast_dvd]
  exact exists_congr fun k => by norm_cast

/-- Double precision has all divisors of an integer that it has, other than zero. -/
theorem roundedMultiple_of_canonical {d n : Int} (hdvd : d ∣ n)
    (hkept : ∃ x : Binary64, x.Canonical ∧ x.value = n) : RoundedMultiple d n := by
  obtain ⟨x, hx, hvalue⟩ := hkept
  have hnumber : (ofInt n).value = n := ofInt_value_of_eq hx.significand_lt hvalue
  obtain ⟨k, rfl⟩ := hdvd
  rcases eq_or_ne (d * k) 0 with hzero | hnonzero
  · refine ⟨0, ?_⟩
    rw [hnumber, hzero, Int.cast_zero, mul_zero]
  · have hmagnitude : |x.value| = (d * k).natAbs := by
      rw [hvalue, Nat.cast_natAbs, Int.cast_abs]
    obtain ⟨significand, place, hsplit, hless, -⟩ := hx.significant hmagnitude
    obtain ⟨first, second, hfirst, hsecond, hdivisor⟩ :=
      (Nat.dvd_mul).mp (hsplit ▸ Int.natAbs_dvd_natAbs.mpr (Int.dvd_mul_right d k))
    obtain ⟨j, -, rfl⟩ := (Nat.dvd_prime_pow Nat.prime_two).mp hsecond
    have hpositive : 0 < significand := by
      refine Nat.pos_of_ne_zero fun hnone => hnonzero ?_
      rw [hnone, Nat.zero_mul] at hsplit
      exact Int.natAbs_eq_zero.mp hsplit
    have hsmall : first < 2 ^ 53 := (Nat.le_of_dvd hpositive hfirst).trans_lt hless
    refine ⟨k, ?_⟩
    rw [hnumber, ofInt_value_of_natAbs hsmall hdivisor.symm]
    exact_mod_cast rfl

/-- The rounded divisor of an integer divisor. -/
theorem exists_rounded_divisor {d : Int} (hpositive : 0 < d) (hupper : d < 2 ^ 64) :
    ∃ divisor : Nat, (ofInt d).value = divisor ∧ Significant divisor ∧ 0 < divisor ∧
      divisor ≤ 2 ^ 64 := by
  have hround : 0 < (ofInt d).value := (ofInt_value_pos_iff d).mpr hpositive
  obtain ⟨divisor, hvalue, hsignificant⟩ := exists_rounded d
  rw [abs_of_pos hround] at hvalue
  refine ⟨divisor, hvalue, hsignificant, Nat.cast_pos.mp (hvalue ▸ hround), ?_⟩
  have hbelow : (ofRat d).value ≤ ((1 : Nat) : Rat) * 2 ^ (64 : Int) := by
    apply ofRat_value_le (Int.cast_pos.mpr hpositive) (by norm_num) (by decide)
    rw [Nat.cast_one, one_mul]
    exact_mod_cast hupper.le
  rw [ofRat_intCast, hvalue, Nat.cast_one, one_mul] at hbelow
  exact_mod_cast hbelow

/-- Integers whose rounded numbers are multiples pass with any tolerance, and without one only they
pass. -/
theorem isMultipleOf_ofInt {d : Int} (hpositive : 0 < d) (hupper : d < 2 ^ 64) (n : Int)
    {epsilon : Binary64} (hepsilon : 0 ≤ epsilon.value) :
    (RoundedMultiple d n → isMultipleOf (ofInt n) (ofInt d) epsilon = true) ∧
      (epsilon.value = 0 → isMultipleOf (ofInt n) (ofInt d) epsilon = true →
        RoundedMultiple d n) := by
  obtain ⟨divisor, hdivisor, hd, hsome, hbound⟩ := exists_rounded_divisor hpositive hupper
  obtain ⟨rounded, hrounded, hn⟩ := exists_rounded n
  rw [roundedMultiple_iff hdivisor hrounded]
  refine ⟨fun hdvd => isMultipleOf_of_dvd hrounded hdivisor hdvd hepsilon, fun hzero hpasses => ?_⟩
  by_contra hdvd
  have hfails := isMultipleOf_of_not_dvd hrounded hdivisor hn hd hsome hbound hdvd hzero.le
  exact Bool.false_ne_true (hfails.symm.trans hpasses)

/-- The members of a schema that demands nothing of a number but that the divisor divides it. -/
structure SoleDivisor (divisor : Number) (members : List (String × Json)) : Prop where
  divisor : Json.member? "multipleOf" members = some (.number divisor)
  bounds : ∀ bound : Bound, Json.member? bound.keyword members = none
  others : ∀ keyword ∈ generalKeywords, Json.member? keyword members = none

/-- A positive integer is read as a divisor. -/
theorem Site.divisor?_eq {s : Site} {d : Int} (hpositive : 0 < d)
    (hkeyword : s.keyword? "multipleOf" = some (.number (.integer d))) :
    s.divisor? "multipleOf" = .ok (some (ofInt d)) := by
  have hnumber : s.number? "multipleOf" = .ok (some (ofInt d)) := by
    unfold number?
    rw [hkeyword]
    rfl
  unfold divisor?
  rw [hnumber]
  exact if_neg (not_le.mpr ((ofInt_value_pos_iff d).mpr hpositive))

/-- The rules of a schema with nothing but an integer divisor. -/
def divisorRules (d : Int) : NumberRules :=
  ⟨none, none, none, none, some (ofInt d)⟩

theorem SoleDivisor.rules_eq {s : Site} {d : Int} (hsole : SoleDivisor (.integer d) s.members)
    (hpositive : 0 < d) {rules : NumberRules} (hread : rules.ReadAt s) :
    rules = divisorRules d := by
  have habsent : ∀ bound : Bound, s.number? bound.keyword = .ok none := fun bound =>
    Site.number?_of_absent (hsole.bounds bound)
  exact hread.unique ⟨habsent .minimum, habsent .maximum, habsent .exclusiveMinimum,
    habsent .exclusiveMaximum, Site.divisor?_eq hpositive hsole.divisor⟩

theorem all_tests_divisorRules (d : Int) (epsilon : Binary64) (n : Number) :
    ((divisorRules d).tests epsilon n).all Prod.snd =
      isMultipleOf n.toBinary64 (ofInt d) epsilon := by
  simp [NumberRules.tests, divisorRules, holdsFor]

/-- The members of the schema with nothing but an integer divisor. -/
def divisorMembers (d : Int) : List (String × Json) :=
  [("multipleOf", .number (.integer d))]

theorem Site.numberRules_divisorMembers {d : Int} (hpositive : 0 < d) (scopes : Scopes) :
    Site.numberRules ⟨scopes, divisorMembers d⟩ = pure (divisorRules d) := by
  unfold Site.numberRules
  rw [Site.divisor?_eq hpositive rfl]
  rfl

theorem Site.keywords_divisorMembers {d : Int} (hpositive : 0 < d) (scopes : Scopes)
    (child : Compiler) :
    Site.keywords ⟨scopes, divisorMembers d⟩ child =
      pure { (default : Keywords) with numbers := divisorRules d } := by
  unfold Site.keywords
  rw [Site.numberRules_divisorMembers hpositive]
  rfl

namespace Registry

variable {documents : List Json} {r : Registry}

/-- The schema with nothing but a positive integer divisor is compiled. -/
theorem exists_compile_divisor {d : Int} (hpositive : 0 < d) :
    ∃ r, compile [.object (divisorMembers d)] = .ok r := by
  have hdocument : compileDocument (.object (divisorMembers d)) =
      compileObject (compileSchema (Json.heightMembers (divisorMembers d))) .document
        (divisorMembers d) := rfl
  obtain ⟨draft, hstored, hunresolved⟩ : ∃ draft,
      compileDocuments [.object (divisorMembers d)] .empty = .ok ([0], draft) ∧
        Registry.unresolved ⟨draft.toStore, [0]⟩ = [] := by
    unfold compileDocuments
    rw [List.mapM_cons, hdocument]
    unfold compileObject
    simp only [Site.keywords_divisorMembers hpositive]
    exact ⟨_, rfl, rfl⟩
  rw [compile_of_stored hstored, if_pos hunresolved]
  exact ⟨_, rfl⟩

/-- What an integer divisor demands of integers. The schema with nothing but the divisor is
compiled, and wherever a schema has a divisor alone, each integer is judged. An integer passes with
every tolerance if what it is rounded to is a multiple of what the divisor is rounded to, and
without a tolerance only then. So a multiple passes if double precision has it. -/
theorem integer_multiples_round (hcompile : compile documents = .ok r) {index : Nat} {p : Position}
    (hp : (positions documents)[index]? = some p) {members : List (String × Json)}
    (hraw : p.raw = .object members) {d : Int} (hsole : SoleDivisor (.integer d) members)
    (hpositive : 0 < d) (hupper : d < 2 ^ 64) (capacity : Nat) :
    (∃ s, compile [.object (divisorMembers d)] = .ok s) ∧
    (∀ (n : Int) (options : Options), 0 ≤ options.epsilon.value → ∃ verdict,
      (r.run options capacity index (.number (.integer n))).map Machine.clean = .ok verdict ∧
        (RoundedMultiple d n → verdict = true) ∧
        (options.epsilon.value = 0 → verdict = true → RoundedMultiple d n)) ∧
    (∀ n : Int, d ∣ n → (∃ x : Binary64, x.Canonical ∧ x.value = n) → RoundedMultiple d n) := by
  refine ⟨exists_compile_divisor hpositive, fun n options hepsilon => ?_,
    fun n => roundedMultiple_of_canonical⟩
  obtain ⟨rules, hread, hrun⟩ := exists_run_numbers hcompile hp hraw hsole.others
  rw [hsole.rules_eq hpositive hread] at hrun
  refine ⟨_, hrun options capacity (.integer n), ?_⟩
  rw [all_tests_divisorRules]
  exact isMultipleOf_ofInt hpositive hupper n hepsilon

/-- Multiples of three that double precision has pass a schema with three as its divisor. -/
theorem integer_multiples_round_three :
    ∃ r, compile [.object (divisorMembers 3)] = .ok r ∧
      (positions [.object (divisorMembers 3)])[0]? =
        some (.root 0 (.object (divisorMembers 3))) ∧
      SoleDivisor (.integer 3) (divisorMembers 3) ∧
      ∀ n : Int, 3 ∣ n → (∃ x : Binary64, x.Canonical ∧ x.value = n) →
        ∀ options : Options, 0 ≤ options.epsilon.value →
          (r.run options 0 0 (.number (.integer n))).map Machine.clean = .ok true := by
  have hposition : (positions [.object (divisorMembers 3)])[0]? =
      some (.root 0 (.object (divisorMembers 3))) := by
    unfold positions positionsFrom
    rw [Position.postOrder_eq]
    rfl
  have hsole : SoleDivisor (.integer 3) (divisorMembers 3) :=
    ⟨rfl, fun bound => by cases bound <;> rfl, by decide⟩
  obtain ⟨r, hcompile⟩ := exists_compile_divisor (show 0 < 3 by decide)
  obtain ⟨-, hjudged, hkept⟩ := integer_multiples_round hcompile hposition rfl hsole (by decide)
    (by decide) 0
  refine ⟨r, hcompile, hposition, hsole, fun n hdvd hexact options hepsilon => ?_⟩
  obtain ⟨_, hrun, hpasses, -⟩ := hjudged n options hepsilon
  rw [hrun, hpasses (hkept n hdvd hexact)]

/-- A multiple of three that double precision does not have is rejected. -/
theorem multiple_rejected :
    ∃ r, compile [.object (divisorMembers 3)] = .ok r ∧ (3 : Int) ∣ 9007199254740993 ∧
      0 ≤ Options.default.epsilon.value ∧
      r.isValid Options.default (.number (.integer 9007199254740993)) = .ok false := by
  have hchecked : (compile [.object (divisorMembers 3)]).toOption.map (fun r =>
      (r.isValid Options.default (.number (.integer 9007199254740993))).toOption.map id) =
        some (some false) := by decide +kernel
  obtain ⟨r, hcompile, hr⟩ := exists_ok_of_toOption hchecked
  obtain ⟨_, hvalid, rfl⟩ := exists_ok_of_toOption hr
  exact ⟨r, hcompile, by decide, by decide +kernel, hvalid⟩

end Registry

end SchemaRegistry

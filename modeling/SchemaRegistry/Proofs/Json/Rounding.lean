import Mathlib.Algebra.Order.Field.Power
import Mathlib.Algebra.Order.Ring.Rat
import Mathlib.Data.Rat.Lemmas
import Mathlib.Tactic.NormNum
import Mathlib.Tactic.Positivity
import Mathlib.Tactic.Ring
import SchemaRegistry.Binary64

/-!
Rounding to double precision. An integer is rounded to an integer of the same sign, so that whatever
is above zero stays above zero, and one of at most 53 significant bits is kept as it is. What a
decimal token is rounded to has the form in which numbers are stored, with no more significant bits
than that, and such a number is the one nearest to its value.
-/

namespace SchemaRegistry.Binary64

theorem roundHalfEven_pos {n d : Nat} (hd : 0 < d) (hle : d ≤ n) : 0 < roundHalfEven n d := by
  have hquotient : 0 < n / d := Nat.div_pos hle hd
  unfold roundHalfEven
  dsimp only
  split
  · exact hquotient
  · split
    · exact Nat.succ_pos _
    · exact Nat.add_pos_left hquotient _

theorem powerOfTwo_pos (exponent : Int) : 0 < powerOfTwo exponent := by
  unfold powerOfTwo
  split
  · exact Nat.cast_pos.mpr (Nat.pow_pos Nat.two_pos)
  · rw [Rat.mkRat_eq_div, Int.cast_one]
    exact div_pos zero_lt_one (Nat.cast_pos.mpr (Nat.pow_pos Nat.two_pos))

theorem floorLog2_le (n : Nat) : floorLog2 n 1 ≤ (n.log2 : Int) := by
  have hone : Nat.log2 1 = 0 := by decide
  unfold floorLog2
  dsimp only
  rw [hone]
  split <;> omega

/-- An integer that is not zero has a significand that is not zero. -/
theorem exists_ofFraction_eq (negative : Bool) {n : Nat} (hn : 0 < n) :
    ∃ significand exponent, 0 < significand ∧
      ofFraction negative n 1 = ⟨negative, significand, exponent⟩ := by
  have hlog := floorLog2_le n
  unfold ofFraction
  rw [if_neg (Nat.pos_iff_ne_zero.mp hn)]
  extract_lets exponent significand
  have hsignificand : 0 < significand := by
    dsimp only [significand]
    split
    · have hexponent : exponent.toNat ≤ n.log2 := by
        dsimp only [exponent, leastExponent]
        omega
      rw [Nat.one_mul]
      exact roundHalfEven_pos (Nat.pow_pos Nat.two_pos)
        (Nat.le_trans (Nat.pow_le_pow_right Nat.two_pos hexponent) (Nat.log2_self_le (by omega)))
    · exact roundHalfEven_pos Nat.one_pos (Nat.mul_pos hn (Nat.pow_pos Nat.two_pos))
  by_cases htop : significand = Nat.pow 2 53
  · exact ⟨Nat.pow 2 52, exponent + 1, Nat.pow_pos Nat.two_pos, if_pos htop⟩
  · refine ⟨significand, exponent, hsignificand, ?_⟩
    rw [if_neg htop, if_neg (Nat.pos_iff_ne_zero.mp hsignificand)]

/-- An integer is above zero exactly if the number it is rounded to is. -/
theorem ofInt_value_pos_iff (n : Int) : 0 < (ofInt n).value ↔ 0 < n := by
  have hmagnitude : ∀ (significand : Nat) exponent, 0 < significand →
      0 < (significand : Rat) * powerOfTwo exponent :=
    fun significand exponent hsome =>
      mul_pos (Nat.cast_pos.mpr hsome) (powerOfTwo_pos exponent)
  unfold ofInt
  rcases Int.lt_trichotomy n 0 with hneg | rfl | hpos
  · obtain ⟨significand, exponent, hsome, heq⟩ :=
      exists_ofFraction_eq (decide (n < 0)) (show 0 < n.natAbs by omega)
    rw [heq, decide_eq_true hneg]
    have hvalue : value ⟨true, significand, exponent⟩ =
        -((significand : Rat) * powerOfTwo exponent) := rfl
    rw [hvalue, neg_pos]
    exact ⟨fun h => absurd h (hmagnitude significand exponent hsome).asymm, fun h => by omega⟩
  · have hzero : (ofFraction (decide ((0 : Int) < 0)) (Int.natAbs 0) 1).value = 0 := by
      change ((0 : Nat) : Rat) * powerOfTwo leastExponent = 0
      rw [Nat.cast_zero, zero_mul]
    rw [hzero]
    exact ⟨fun h => absurd h (lt_irrefl _), fun h => absurd h (lt_irrefl _)⟩
  · obtain ⟨significand, exponent, hsome, heq⟩ :=
      exists_ofFraction_eq (decide (n < 0)) (show 0 < n.natAbs by omega)
    have hsign : ¬ n < 0 := by omega
    rw [heq, decide_eq_false hsign]
    exact ⟨fun _ => hpos, fun _ => hmagnitude significand exponent hsome⟩

theorem powerOfTwo_eq_zpow (exponent : Int) : powerOfTwo exponent = (2 : Rat) ^ exponent := by
  unfold powerOfTwo
  split
  · next hsign =>
      obtain ⟨k, rfl⟩ := Int.eq_ofNat_of_zero_le hsign
      rw [Int.toNat_natCast, zpow_natCast]
      exact Nat.cast_pow 2 k
  · next hsign =>
      obtain ⟨k, rfl⟩ : ∃ k : Nat, exponent = -(k : Int) := ⟨exponent.natAbs, by omega⟩
      rw [neg_neg, Int.toNat_natCast, zpow_neg, zpow_natCast, Rat.mkRat_eq_div, Int.cast_one,
        one_div]
      exact congrArg _ (Nat.cast_pow 2 k)

/-- A quotient without remainder is not rounded. -/
theorem roundHalfEven_of_dvd {n d : Nat} (hd : 0 < d) (hdvd : d ∣ n) :
    roundHalfEven n d = n / d := by
  unfold roundHalfEven
  dsimp only
  rw [Nat.mod_eq_zero_of_dvd hdvd, if_pos (by omega)]

/-- An integer that has at most 53 significant bits is not rounded. -/
theorem ofFraction_value_of_exact (negative : Bool) {n significand : Nat} {exponent : Int}
    (hn : 0 < n) (hsignificand : significand < 2 ^ 53)
    (hexact : (n : Rat) = significand * powerOfTwo exponent) :
    (ofFraction negative n 1).value = if negative then -(n : Rat) else n := by
  have hlog := floorLog2_le n
  have hpower : (2 : Rat) ^ n.log2 ≤ n := by exact_mod_cast Nat.log2_self_le (by omega)
  unfold ofFraction
  rw [if_neg (Nat.pos_iff_ne_zero.mp hn)]
  extract_lets place rounded
  have hrounded : (rounded : Rat) * powerOfTwo place = n := by
    dsimp only [rounded]
    split
    · next hplace =>
        -- The place of the last bit is not above that of the exact significand.
        have hplaces : place ≤ exponent := by
          have hless : (2 : Rat) ^ (n.log2 : Int) < 2 ^ (53 + exponent) := by
            calc (2 : Rat) ^ (n.log2 : Int) = 2 ^ n.log2 := zpow_natCast _ _
              _ ≤ n := hpower
              _ = significand * 2 ^ exponent := by rw [hexact, powerOfTwo_eq_zpow]
              _ < 2 ^ (53 : Int) * 2 ^ exponent := by
                apply mul_lt_mul_of_pos_right _ (by positivity)
                exact_mod_cast hsignificand
              _ = 2 ^ (53 + exponent) := (zpow_add₀ two_ne_zero _ _).symm
          have hexponents := (zpow_lt_zpow_iff_right₀ one_lt_two).mp hless
          dsimp only [place, leastExponent] at hplace ⊢
          omega
        obtain ⟨k, hk⟩ := Int.eq_ofNat_of_zero_le hplace
        obtain ⟨l, hl⟩ := Int.eq_ofNat_of_zero_le (Int.le_trans hplace hplaces)
        rw [hk, Int.toNat_natCast, Nat.one_mul]
        have hwhole : n = significand * 2 ^ l := by
          rw [hl, powerOfTwo_eq_zpow, zpow_natCast] at hexact
          exact_mod_cast hexact
        have hdvd : Nat.pow 2 k ∣ n := by
          rw [hwhole]
          exact Dvd.dvd.mul_left (pow_dvd_pow 2 (by omega)) _
        have hpositive : 0 < Nat.pow 2 k := Nat.pow_pos Nat.two_pos
        rw [roundHalfEven_of_dvd hpositive hdvd, powerOfTwo_eq_zpow, zpow_natCast]
        exact_mod_cast Nat.div_mul_cancel hdvd
    · next hplace =>
        obtain ⟨k, hk⟩ : ∃ k : Nat, place = -(k : Int) := ⟨place.natAbs, by omega⟩
        rw [roundHalfEven_of_dvd Nat.one_pos (Nat.one_dvd _), Nat.div_one, powerOfTwo_eq_zpow, hk,
          neg_neg, Int.toNat_natCast, zpow_neg, zpow_natCast, Nat.cast_mul]
        have hcast : ((Nat.pow 2 k : Nat) : Rat) = 2 ^ k := Nat.cast_pow 2 k
        rw [hcast, mul_assoc, mul_inv_cancel₀ (by positivity), mul_one]
  have hsome : rounded ≠ 0 := by
    intro hzero
    rw [hzero, Nat.cast_zero, zero_mul] at hrounded
    exact absurd hrounded.symm (Nat.cast_ne_zero.mpr (Nat.pos_iff_ne_zero.mp hn))
  have hvalue : ∀ x : Binary64, x.negative = negative →
      (x.significand : Rat) * powerOfTwo x.exponent = n →
        x.value = if negative then -(n : Rat) else n := by
    intro x hnegative hmagnitude
    unfold value
    rw [hmagnitude, hnegative]
  split
  · next htop =>
      refine hvalue _ rfl ?_
      rw [← hrounded, htop, powerOfTwo_eq_zpow, powerOfTwo_eq_zpow, zpow_add_one₀ two_ne_zero]
      have hhalf : ((Nat.pow 2 53 : Nat) : Rat) = (Nat.pow 2 52 : Nat) * 2 := by norm_num
      rw [hhalf]
      ring
  · exact hvalue _ rfl hrounded

theorem abs_value (x : Binary64) : |x.value| = x.significand * powerOfTwo x.exponent := by
  have hpositive : 0 ≤ (x.significand : Rat) * powerOfTwo x.exponent :=
    mul_nonneg (Nat.cast_nonneg _) (powerOfTwo_pos _).le
  unfold value
  dsimp only
  split
  · rw [abs_neg, abs_of_nonneg hpositive]
  · exact abs_of_nonneg hpositive

/-- Rounding an integer to double precision keeps its value if double precision has it. -/
theorem ofInt_value_of_eq {n : Int} {x : Binary64} (hx : x.significand < 2 ^ 53)
    (hvalue : x.value = n) : (ofInt n).value = n := by
  have hmagnitude : ((n.natAbs : Nat) : Rat) = x.significand * powerOfTwo x.exponent := by
    rw [Nat.cast_natAbs, Int.cast_abs, ← hvalue, abs_value]
  rcases Int.lt_trichotomy n 0 with hneg | rfl | hpos
  · unfold ofInt
    rw [ofFraction_value_of_exact _ (by omega) hx hmagnitude, decide_eq_true hneg, if_pos rfl,
      Nat.cast_natAbs, Int.cast_abs, abs_of_neg (by exact_mod_cast hneg), neg_neg]
  · change ((0 : Nat) : Rat) * powerOfTwo leastExponent = _
    rw [Nat.cast_zero, zero_mul, Int.cast_zero]
  · unfold ofInt
    rw [ofFraction_value_of_exact _ (by omega) hx hmagnitude, decide_eq_false (by omega),
      if_neg Bool.false_ne_true, Nat.cast_natAbs, Int.cast_abs,
      abs_of_pos (by exact_mod_cast hpos)]

theorem roundHalfEven_le {n d bound : Nat} (hless : n < bound * d) :
    roundHalfEven n d ≤ bound := by
  have hquotient : n / d < bound := Nat.div_lt_of_lt_mul (Nat.mul_comm bound d ▸ hless)
  have hparity := Nat.mod_lt (n / d) Nat.two_pos
  unfold roundHalfEven
  dsimp only
  split
  · omega
  · split <;> omega

/-- A quotient is below twice the power of two that is at most the quotient. -/
theorem lt_of_floorLog2 {n d : Nat} (hd : 0 < d) :
    (n : Rat) < (2 : Rat) ^ (floorLog2 n d + 1) * d := by
  have hn : (n : Rat) < 2 ^ ((n.log2 : Int) + 1) := by exact_mod_cast Nat.lt_log2_self
  have hlower : (2 : Rat) ^ (d.log2 : Int) ≤ d := by
    exact_mod_cast Nat.log2_self_le (Nat.pos_iff_ne_zero.mp hd)
  unfold floorLog2
  dsimp only
  split
  · calc (n : Rat) < 2 ^ ((n.log2 : Int) + 1) := hn
      _ = 2 ^ ((n.log2 : Int) - d.log2 + 1) * 2 ^ (d.log2 : Int) := by
        rw [← zpow_add₀ two_ne_zero]
        congr 1
        omega
      _ ≤ 2 ^ ((n.log2 : Int) - d.log2 + 1) * d := by gcongr
  · next hless =>
      rw [sub_add_cancel, ← powerOfTwo_eq_zpow]
      exact not_le.mp hless

/-- A number that is the nearest one to a quotient has at most 53 significant bits. -/
theorem significand_ofFraction_lt (negative : Bool) (n : Nat) {d : Nat} (hd : 0 < d) :
    (ofFraction negative n d).significand < 2 ^ 53 := by
  unfold ofFraction
  split
  · exact Nat.pow_pos Nat.two_pos
  · extract_lets place rounded
    have hbound : (n : Rat) < 2 ^ (53 : Int) * (2 ^ place * d) := by
      calc (n : Rat) < 2 ^ (floorLog2 n d + 1) * d := lt_of_floorLog2 hd
        _ ≤ 2 ^ (53 + place) * d := by
          have hplace : floorLog2 n d + 1 ≤ 53 + place := by omega
          gcongr
          exact one_le_two
        _ = 2 ^ (53 : Int) * (2 ^ place * d) := by rw [zpow_add₀ two_ne_zero, mul_assoc]
    have hrounded : rounded ≤ Nat.pow 2 53 := by
      dsimp only [rounded]
      split
      · next hsign =>
          obtain ⟨k, hk⟩ := Int.eq_ofNat_of_zero_le hsign
          rw [hk, zpow_natCast, mul_comm _ (d : Rat)] at hbound
          rw [hk, Int.toNat_natCast]
          exact roundHalfEven_le (by exact_mod_cast hbound)
      · next hsign =>
          obtain ⟨k, hk⟩ : ∃ k : Nat, place = -(k : Int) := ⟨place.natAbs, by omega⟩
          rw [hk, zpow_neg, zpow_natCast, mul_left_comm, ← div_eq_inv_mul,
            lt_div_iff₀ (by positivity)] at hbound
          rw [hk, neg_neg, Int.toNat_natCast]
          exact roundHalfEven_le (by exact_mod_cast hbound)
    split
    · norm_num
    · split
      · exact Nat.pow_pos Nat.two_pos
      · next htop _ => exact Nat.lt_of_le_of_ne hrounded htop

/-- A number whose last place is a whole number is an integer. -/
theorem exists_value_eq_intCast {x : Binary64} (hexponent : 0 ≤ x.exponent) :
    ∃ z : Int, x.value = z := by
  obtain ⟨k, hk⟩ := Int.eq_ofNat_of_zero_le hexponent
  unfold value
  dsimp only
  rw [hk, powerOfTwo_eq_zpow, zpow_natCast]
  split
  · exact ⟨-(x.significand * 2 ^ k), by push_cast; rfl⟩
  · exact ⟨x.significand * 2 ^ k, by push_cast; rfl⟩

/-- An integer with at most 53 significant bits keeps its value. -/
theorem ofInt_value_of_natAbs {n : Int} {significand place : Nat} (hless : significand < 2 ^ 53)
    (hn : n.natAbs = significand * 2 ^ place) : (ofInt n).value = n := by
  have hmagnitude : (significand : Rat) * powerOfTwo place = |(n : Rat)| := by
    rw [powerOfTwo_eq_zpow, zpow_natCast, ← Int.cast_abs, ← Nat.cast_natAbs, hn]
    push_cast
    rfl
  have hexact : value ⟨decide (n < 0), significand, place⟩ = n := by
    unfold value
    dsimp only
    rw [hmagnitude]
    split
    · next hneg =>
        rw [abs_of_neg (by exact_mod_cast of_decide_eq_true hneg), neg_neg]
    · next hsign =>
        rw [decide_eq_true_eq, not_lt] at hsign
        exact abs_of_nonneg (by exact_mod_cast hsign)
  exact ofInt_value_of_eq hless hexact

/-- An integer is rounded to an integer. -/
theorem exists_ofInt_value_eq (n : Int) : ∃ z : Int, (ofInt n).value = z := by
  by_cases hsmall : n.natAbs < 2 ^ 53
  · exact ⟨n, ofInt_value_of_natAbs hsmall (show _ = _ * 2 ^ 0 from (Nat.mul_one _).symm)⟩
  · have hlog : 53 ≤ floorLog2 n.natAbs 1 := by
      have hbound : (2 : Rat) ^ (53 : Int) < 2 ^ (floorLog2 n.natAbs 1 + 1) := by
        calc (2 : Rat) ^ (53 : Int) ≤ n.natAbs := by exact_mod_cast not_lt.mp hsmall
          _ < 2 ^ (floorLog2 n.natAbs 1 + 1) * (1 : Nat) := lt_of_floorLog2 Nat.one_pos
          _ = 2 ^ (floorLog2 n.natAbs 1 + 1) := by rw [Nat.cast_one, mul_one]
      have hexponents := (zpow_lt_zpow_iff_right₀ one_lt_two).mp hbound
      omega
    have hzero : ∃ z : Int, (zero (decide (n < 0))).value = z := ⟨0, by simp [zero, value]⟩
    unfold ofInt ofFraction
    split
    · exact hzero
    · extract_lets place rounded
      have hplace : 0 ≤ place := by
        dsimp only [place]
        omega
      split
      · exact exists_value_eq_intCast (Int.add_nonneg hplace Int.one_nonneg)
      · split
        · exact hzero
        · exact exists_value_eq_intCast hplace

/-- The power of two is at most the quotient. -/
theorem le_of_floorLog2 {n d : Nat} (hn : 0 < n) : (2 : Rat) ^ floorLog2 n d * d ≤ n := by
  have hlower : (2 : Rat) ^ (n.log2 : Int) ≤ n := by
    exact_mod_cast Nat.log2_self_le (Nat.pos_iff_ne_zero.mp hn)
  have hd : (d : Rat) ≤ 2 ^ ((d.log2 : Int) + 1) := by exact_mod_cast Nat.lt_log2_self.le
  unfold floorLog2
  dsimp only
  split
  · next hle =>
      rw [← powerOfTwo_eq_zpow]
      exact hle
  · calc (2 : Rat) ^ ((n.log2 : Int) - d.log2 - 1) * d
        ≤ 2 ^ ((n.log2 : Int) - d.log2 - 1) * 2 ^ ((d.log2 : Int) + 1) := by gcongr
      _ = 2 ^ (n.log2 : Int) := by
        rw [← zpow_add₀ two_ne_zero]
        congr 1
        omega
      _ ≤ n := hlower

/-- A number as it is stored: its significand has 53 bits unless the number is subnormal. -/
structure Canonical (x : Binary64) : Prop where
  significand_lt : x.significand < 2 ^ 53
  exponent_ge : leastExponent ≤ x.exponent
  normal : 2 ^ 52 ≤ x.significand ∨ x.exponent = leastExponent

theorem canonical_zero (negative : Bool) : (zero negative).Canonical :=
  ⟨Nat.pow_pos Nat.two_pos, le_refl _, Or.inr rfl⟩

theorem le_roundHalfEven {n d bound : Nat} (hd : 0 < d) (hle : bound * d ≤ n) :
    bound ≤ roundHalfEven n d := by
  have hquotient : bound ≤ n / d := (Nat.le_div_iff_mul_le hd).mpr hle
  unfold roundHalfEven
  dsimp only
  split
  · exact hquotient
  · split <;> omega

/-- The nearest number is in the form in which it is stored. -/
theorem canonical_ofFraction (negative : Bool) {n d : Nat} (hd : 0 < d) :
    (ofFraction negative n d).Canonical := by
  have hless := significand_ofFraction_lt negative n hd
  revert hless
  unfold ofFraction
  split
  · exact fun _ => canonical_zero negative
  · next hn =>
      extract_lets place rounded
      have hplace : leastExponent ≤ place := le_max_left _ _
      intro hless
      split
      · exact ⟨by norm_num, by dsimp only; omega, Or.inl (by norm_num)⟩
      · split
        · exact canonical_zero negative
        · next htop hzero =>
            rw [if_neg htop, if_neg hzero] at hless
            refine ⟨hless, hplace, ?_⟩
            by_cases hleast : place = leastExponent
            · exact Or.inr hleast
            · left
              have hlog : place = floorLog2 n d - 52 := by
                dsimp only [place] at hleast ⊢
                omega
              have hbound : (2 : Rat) ^ (52 : Int) * (2 ^ place * d) ≤ n := by
                rw [← mul_assoc, ← zpow_add₀ two_ne_zero, hlog, add_sub_cancel]
                exact le_of_floorLog2 (Nat.pos_of_ne_zero hn)
              change 2 ^ 52 ≤ rounded
              dsimp only [rounded]
              split
              · next hsign =>
                  obtain ⟨k, hk⟩ := Int.eq_ofNat_of_zero_le hsign
                  rw [hk, zpow_natCast, mul_comm _ (d : Rat)] at hbound
                  rw [hk, Int.toNat_natCast]
                  exact le_roundHalfEven (Nat.mul_pos hd (Nat.pow_pos Nat.two_pos))
                    (by exact_mod_cast hbound)
              · next hsign =>
                  obtain ⟨k, hk⟩ : ∃ k : Nat, place = -(k : Int) := ⟨place.natAbs, by omega⟩
                  rw [hk, zpow_neg, zpow_natCast, mul_left_comm, ← div_eq_inv_mul,
                    div_le_iff₀ (by positivity)] at hbound
                  rw [hk, neg_neg, Int.toNat_natCast]
                  exact le_roundHalfEven hd (by exact_mod_cast hbound)

theorem canonical_ofDecimal (negative : Bool) (digits : Nat) (exponent : Int) :
    (ofDecimal negative digits exponent).Canonical := by
  unfold ofDecimal
  split
  · exact canonical_ofFraction negative Nat.one_pos
  · split
    · exact canonical_zero negative
    · exact canonical_ofFraction negative (Nat.pow_pos (by omega))

theorem significand_ofDecimal_lt (negative : Bool) (digits : Nat) (exponent : Int) :
    (ofDecimal negative digits exponent).significand < 2 ^ 53 :=
  (canonical_ofDecimal negative digits exponent).significand_lt

/-- The power of two is the greatest one that is at most the quotient. -/
theorem floorLog2_eq {n d : Nat} (hn : 0 < n) (hd : 0 < d) {k : Int}
    (hlower : (2 : Rat) ^ k * d ≤ n) (hupper : (n : Rat) < 2 ^ (k + 1) * d) :
    floorLog2 n d = k := by
  have hpositive : (0 : Rat) < d := Nat.cast_pos.mpr hd
  have hfirst : (2 : Rat) ^ k < 2 ^ (floorLog2 n d + 1) :=
    lt_of_mul_lt_mul_right (hlower.trans_lt (lt_of_floorLog2 hd)) hpositive.le
  have hsecond : (2 : Rat) ^ floorLog2 n d < 2 ^ (k + 1) :=
    lt_of_mul_lt_mul_right ((le_of_floorLog2 hn).trans_lt hupper) hpositive.le
  have hbelow := (zpow_lt_zpow_iff_right₀ one_lt_two).mp hfirst
  have habove := (zpow_lt_zpow_iff_right₀ one_lt_two).mp hsecond
  omega

/-- A number that is stored is not rounded. -/
theorem ofFraction_of_canonical {x : Binary64} (hx : x.Canonical) (hsome : 0 < x.significand)
    {n d : Nat} (hd : 0 < d) (hexact : (n : Rat) = x.significand * powerOfTwo x.exponent * d) :
    ofFraction x.negative n d = x := by
  obtain ⟨negative, significand, exponent⟩ := x
  obtain ⟨hless, hleast, hnormal⟩ := hx
  dsimp only at hless hleast hnormal hsome hexact ⊢
  rw [powerOfTwo_eq_zpow] at hexact
  have hn : 0 < n := by
    have hpositive : (0 : Rat) < n := by
      rw [hexact]
      positivity
    exact_mod_cast hpositive
  have hlog : floorLog2 n d = significand.log2 + exponent := by
    have hbelow : (2 : Rat) ^ (significand.log2 : Int) ≤ significand := by
      exact_mod_cast Nat.log2_self_le (Nat.pos_iff_ne_zero.mp hsome)
    have habove : (significand : Rat) < 2 ^ ((significand.log2 : Int) + 1) := by
      exact_mod_cast Nat.lt_log2_self
    apply floorLog2_eq hn hd
    · rw [hexact, zpow_add₀ two_ne_zero]
      gcongr
    · rw [hexact, add_right_comm, zpow_add₀ two_ne_zero]
      gcongr
  -- The last place of the nearest number is that of the number itself.
  have hplace : max leastExponent (floorLog2 n d - 52) = exponent := by
    have hbits : significand.log2 < 53 := (Nat.log2_lt (by omega)).mpr hless
    rw [hlog]
    rcases hnormal with hnormal | rfl
    · have hfull : 52 ≤ significand.log2 := (Nat.le_log2 (by omega)).mpr hnormal
      omega
    · omega
  have hrounded : (if 0 ≤ exponent then roundHalfEven n (d * Nat.pow 2 exponent.toNat)
      else roundHalfEven (n * Nat.pow 2 (-exponent).toNat) d) = significand := by
    split
    · next hsign =>
        obtain ⟨k, hk⟩ := Int.eq_ofNat_of_zero_le hsign
        have hwhole : n = significand * (d * Nat.pow 2 k) := by
          rw [hk, zpow_natCast, mul_right_comm, mul_assoc] at hexact
          exact_mod_cast hexact
        have hpositive : 0 < d * Nat.pow 2 k := Nat.mul_pos hd (Nat.pow_pos Nat.two_pos)
        rw [hk, Int.toNat_natCast, hwhole, roundHalfEven_of_dvd hpositive (Nat.dvd_mul_left _ _),
          Nat.mul_div_cancel _ hpositive]
    · next hsign =>
        obtain ⟨k, hk⟩ : ∃ k : Nat, exponent = -(k : Int) := ⟨exponent.natAbs, by omega⟩
        have hwhole : n * Nat.pow 2 k = significand * d := by
          have hscaled : (n : Rat) * 2 ^ k = significand * d := by
            rw [hexact, hk, zpow_neg, zpow_natCast, mul_right_comm,
              inv_mul_cancel_right₀ (by positivity)]
          exact_mod_cast hscaled
        rw [hk, neg_neg, Int.toNat_natCast, hwhole,
          roundHalfEven_of_dvd hd (Nat.dvd_mul_left _ _), Nat.mul_div_cancel _ hd]
  unfold ofFraction
  rw [if_neg (Nat.pos_iff_ne_zero.mp hn)]
  dsimp only
  rw [hplace, hrounded, if_neg (by norm_num; omega), if_neg (by omega)]

/-- A number other than zero is the one nearest to its value. -/
theorem ofRat_value {x : Binary64} (hx : x.Canonical) (hsome : 0 < x.significand) :
    ofRat x.value = x := by
  have hpositive : 0 < (x.significand : Rat) * powerOfTwo x.exponent :=
    mul_pos (Nat.cast_pos.mpr hsome) (powerOfTwo_pos _)
  have hsign : decide (x.value < 0) = x.negative := by
    unfold value
    dsimp only
    cases x.negative with
    | false => exact decide_eq_false (not_lt.mpr hpositive.le)
    | true => exact decide_eq_true (neg_lt_zero.mpr hpositive)
  unfold ofRat
  rw [hsign]
  apply ofFraction_of_canonical hx hsome x.value.den_pos
  rw [← abs_value, Nat.cast_natAbs, Int.cast_abs]
  have hden : (0 : Rat) < x.value.den := Nat.cast_pos.mpr x.value.den_pos
  nth_rewrite 2 [← Rat.num_div_den x.value]
  rw [abs_div, abs_of_pos hden, div_mul_cancel₀ _ hden.ne']

end SchemaRegistry.Binary64

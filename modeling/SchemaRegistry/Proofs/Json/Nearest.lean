import SchemaRegistry.Proofs.Json.Rounding

/-!
Rounding and order. The number nearest to a rational is found on a grid, and a number that double
precision has lies on this grid or below all that is rounded on it. So such a number bounds what a
rational is rounded to exactly if it bounds the rational.
-/

namespace SchemaRegistry.Binary64

theorem roundHalfEven_le_of_le {n d bound : Nat} (hd : 0 < d) (hle : n ≤ bound * d) :
    roundHalfEven n d ≤ bound := by
  rcases Nat.lt_or_eq_of_le hle with hless | rfl
  · exact roundHalfEven_le hless
  · rw [roundHalfEven_of_dvd hd (Nat.dvd_mul_left _ _), Nat.mul_div_cancel _ hd]

/-- What is divided to find the multiple of a power of two that is nearest to a quotient. -/
theorem exists_scaled (n : Nat) {d : Nat} (hd : 0 < d) (place : Int) :
    ∃ numerator denominator : Nat, 0 < denominator ∧
      (if 0 ≤ place then roundHalfEven n (d * Nat.pow 2 place.toNat)
        else roundHalfEven (n * Nat.pow 2 (-place).toNat) d) =
          roundHalfEven numerator denominator ∧
      ∀ m : Nat,
        ((m : Rat) * 2 ^ place ≤ (n : Rat) / d ↔ m * denominator ≤ numerator) ∧
        ((n : Rat) / d ≤ m * 2 ^ place ↔ numerator ≤ m * denominator) := by
  have hpositive : (0 : Rat) < d := Nat.cast_pos.mpr hd
  split
  · next hsign =>
      obtain ⟨k, rfl⟩ := Int.eq_ofNat_of_zero_le hsign
      rw [Int.toNat_natCast]
      refine ⟨n, d * 2 ^ k, Nat.mul_pos hd (Nat.pow_pos Nat.two_pos), rfl, fun m => ?_⟩
      rw [le_div_iff₀ hpositive, div_le_iff₀ hpositive, zpow_natCast, mul_assoc,
        mul_comm _ (d : Rat)]
      constructor <;> norm_cast
  · next hsign =>
      obtain ⟨k, rfl⟩ : ∃ k : Nat, place = -(k : Int) := ⟨place.natAbs, by omega⟩
      rw [neg_neg, Int.toNat_natCast]
      refine ⟨n * 2 ^ k, d, hd, rfl, fun m => ?_⟩
      rw [zpow_neg, zpow_natCast, ← div_eq_mul_inv, div_le_div_iff₀ (by positivity) hpositive,
        div_le_div_iff₀ hpositive (by positivity)]
      constructor <;> norm_cast

/-- The number nearest to a positive rational is a multiple of a power of two. This power is the
least of all or small against the rational, and its multiples stay on their side of the rational. -/
structure Grid (q : Rat) (place : Int) (rounded : Nat) : Prop where
  value : (ofRat q).value = rounded * (2 : Rat) ^ place
  fine : place = leastExponent ∨ (2 : Rat) ^ (52 + place) ≤ q
  lower : ∀ m : Nat, (m : Rat) * 2 ^ place ≤ q → m ≤ rounded
  upper : ∀ m : Nat, q ≤ (m : Rat) * 2 ^ place → rounded ≤ m

theorem exists_grid {q : Rat} (hq : 0 < q) : ∃ place rounded, Grid q place rounded := by
  have hvalue : ∀ (significand : Nat) (exponent : Int),
      value ⟨false, significand, exponent⟩ = significand * (2 : Rat) ^ exponent := by
    intro significand exponent
    rw [← powerOfTwo_eq_zpow]
    rfl
  have hnum : 0 < q.num.natAbs := Int.natAbs_pos.mpr (Rat.num_ne_zero.mpr hq.ne')
  have hfraction : (q.num.natAbs : Rat) / q.den = q := by
    rw [Nat.cast_natAbs, abs_of_pos (Rat.num_pos.mpr hq), Rat.num_div_den]
  let place := max leastExponent (floorLog2 q.num.natAbs q.den - 52)
  obtain ⟨numerator, denominator, hpositive, hrounded, hscaled⟩ :=
    exists_scaled q.num.natAbs q.den_pos place
  rw [hfraction] at hscaled
  have hround : ofRat q =
      if roundHalfEven numerator denominator = Nat.pow 2 53 then ⟨false, Nat.pow 2 52, place + 1⟩
      else if roundHalfEven numerator denominator = 0 then zero false
      else ⟨false, roundHalfEven numerator denominator, place⟩ := by
    unfold ofRat ofFraction
    rw [if_neg (Nat.pos_iff_ne_zero.mp hnum), decide_eq_false (not_lt.mpr hq.le), ← hrounded]
  refine ⟨place, roundHalfEven numerator denominator, ?_, ?_, ?_, ?_⟩
  · rw [hround]
    split
    · next htop =>
        have hhalf : ((Nat.pow 2 53 : Nat) : Rat) = (Nat.pow 2 52 : Nat) * 2 := by norm_num
        rw [hvalue, htop, zpow_add_one₀ two_ne_zero, hhalf]
        ring
    · split
      · next hzero => simp [hzero, zero, Binary64.value]
      · exact hvalue _ _
  · rcases max_choice leastExponent (floorLog2 q.num.natAbs q.den - 52) with hleast | hlog
    · exact Or.inl hleast
    · refine Or.inr ?_
      have hle := le_of_floorLog2 (d := q.den) hnum
      rw [← le_div_iff₀ (Nat.cast_pos.mpr q.den_pos), hfraction] at hle
      dsimp only [place]
      rwa [hlog, add_sub_cancel]
  · exact fun m hle => le_roundHalfEven hpositive ((hscaled m).1.mp hle)
  · exact fun m hle => roundHalfEven_le_of_le hpositive ((hscaled m).2.mp hle)

/-- A number that double precision has is on the grid of a rational, or below the rational and the
powers of two on this grid that are at most the rational. -/
theorem Grid.on_or_below {q : Rat} {place : Int} {rounded : Nat} (hgrid : Grid q place rounded)
    {significand : Nat} {exponent : Int} (hsignificand : significand < 2 ^ 53)
    (hexponent : leastExponent ≤ exponent) :
    (∃ m : Nat, (significand : Rat) * 2 ^ exponent = m * 2 ^ place) ∨
      ((significand : Rat) * 2 ^ exponent < 2 ^ (52 + place) ∧ (2 : Rat) ^ (52 + place) ≤ q) := by
  by_cases hplace : place ≤ exponent
  · obtain ⟨k, hk⟩ := Int.le.dest hplace
    refine Or.inl ⟨significand * 2 ^ k, ?_⟩
    rw [← hk, zpow_add₀ two_ne_zero, zpow_natCast, Nat.cast_mul, Nat.cast_pow, Nat.cast_ofNat]
    ring
  · rcases hgrid.fine with hleast | hfine
    · omega
    · refine Or.inr ⟨?_, hfine⟩
      calc (significand : Rat) * 2 ^ exponent < 2 ^ (53 : Int) * 2 ^ exponent := by
            apply mul_lt_mul_of_pos_right _ (by positivity)
            exact_mod_cast hsignificand
        _ = 2 ^ (53 + exponent) := (zpow_add₀ two_ne_zero _ _).symm
        _ ≤ 2 ^ (52 + place) := zpow_le_zpow_right₀ one_le_two (by omega)

section Order

variable {q : Rat} (hq : 0 < q) {significand : Nat} {exponent : Int}
  (hsignificand : significand < 2 ^ 53) (hexponent : leastExponent ≤ exponent)

include hq hsignificand hexponent

/-- A number that is at most a rational is at most what the rational is rounded to. -/
theorem le_ofRat_value (hle : (significand : Rat) * 2 ^ exponent ≤ q) :
    (significand : Rat) * 2 ^ exponent ≤ (ofRat q).value := by
  obtain ⟨place, rounded, hgrid⟩ := exists_grid hq
  have hround : ∀ m : Nat, (m : Rat) * 2 ^ place ≤ q → (m : Rat) * 2 ^ place ≤ (ofRat q).value := by
    intro m hm
    rw [hgrid.value]
    apply mul_le_mul_of_nonneg_right _ (by positivity)
    exact_mod_cast hgrid.lower m hm
  rcases hgrid.on_or_below hsignificand hexponent with ⟨m, hm⟩ | ⟨hless, hfine⟩
  · rw [hm] at hle ⊢
    exact hround m hle
  · have hpower : (2 : Rat) ^ (52 + place) = (2 ^ 52 : Nat) * 2 ^ place := by
      rw [zpow_add₀ two_ne_zero]
      norm_cast
    rw [hpower] at hless hfine
    exact hless.le.trans (hround _ hfine)

/-- A number that is at least a rational is at least what the rational is rounded to. -/
theorem ofRat_value_le (hle : q ≤ significand * 2 ^ exponent) :
    (ofRat q).value ≤ significand * 2 ^ exponent := by
  obtain ⟨place, rounded, hgrid⟩ := exists_grid hq
  rcases hgrid.on_or_below hsignificand hexponent with ⟨m, hm⟩ | ⟨hless, hfine⟩
  · rw [hm] at hle ⊢
    rw [hgrid.value]
    apply mul_le_mul_of_nonneg_right _ (by positivity)
    exact_mod_cast hgrid.upper m hle
  · exact absurd (hle.trans_lt hless) (not_lt.mpr hfine)

end Order

theorem ofRat_intCast (z : Int) : ofRat z = ofInt z := by
  unfold ofRat ofInt
  rw [Rat.num_intCast, Rat.den_intCast]
  norm_cast

theorem ofRat_zero_value : (ofRat 0).value = 0 := by
  simp [ofRat, ofFraction, zero, value]

/-- A part of one is rounded to a part of one. -/
theorem ofRat_value_bounds {q : Rat} (hlower : 0 ≤ q) (hupper : q ≤ 1) :
    0 ≤ (ofRat q).value ∧ (ofRat q).value ≤ 1 := by
  rcases hlower.eq_or_lt with rfl | hsome
  · rw [ofRat_zero_value]
    exact ⟨le_rfl, zero_le_one⟩
  · have hzero : ((0 : Nat) : Rat) * 2 ^ (0 : Int) = 0 := by norm_num
    have hone : ((1 : Nat) : Rat) * 2 ^ (0 : Int) = 1 := by norm_num
    constructor
    · rw [← hzero]
      exact le_ofRat_value hsome (by norm_num) (by decide) (hzero.trans_le hlower)
    · rw [← hone]
      exact ofRat_value_le hsome (by norm_num) (by decide) (hupper.trans hone.ge)

/-- A natural number of at most 53 significant bits: all of them are used, or the last one is the
last bit of the number. -/
def Significant (n : Nat) : Prop :=
  ∃ significand place : Nat, n = significand * 2 ^ place ∧ significand < 2 ^ 53 ∧
    (2 ^ 52 ≤ significand ∨ place = 0)

/-- An integer that double precision has is significant. -/
theorem Canonical.significant {x : Binary64} (hx : x.Canonical) {n : Nat}
    (hvalue : |x.value| = n) : Significant n := by
  rw [abs_value, powerOfTwo_eq_zpow] at hvalue
  by_cases hsign : 0 ≤ x.exponent
  · obtain ⟨k, hk⟩ := Int.eq_ofNat_of_zero_le hsign
    rw [hk, zpow_natCast] at hvalue
    refine ⟨x.significand, k, by exact_mod_cast hvalue.symm, hx.significand_lt, ?_⟩
    refine hx.normal.imp_right fun hleast => ?_
    rw [hleast, leastExponent] at hsign
    omega
  · -- The number has places beyond the point, so it is smaller than its significand.
    have hle : n ≤ x.significand := by
      have hpower : (2 : Rat) ^ x.exponent ≤ 1 := zpow_le_one_of_nonpos₀ one_le_two (by omega)
      have hmagnitude : (n : Rat) ≤ x.significand := by
        rw [← hvalue]
        exact mul_le_of_le_one_right (Nat.cast_nonneg _) hpower
      exact_mod_cast hmagnitude
    exact ⟨n, 0, (Nat.mul_one n).symm, hle.trans_lt hx.significand_lt, Or.inr rfl⟩

/-- What is left of one significant number by another one is not too close to the other one. -/
theorem Significant.le_mul_sub_mod {n d : Nat} (hn : Significant n) (hd : Significant d)
    (hpos : 0 < d) : d ≤ 2 ^ 53 * (d - n % d) := by
  have hless : n % d < d := Nat.mod_lt n hpos
  obtain ⟨a, j, rfl, ha, -⟩ := hn
  obtain ⟨b, k, rfl, hb, hfull⟩ := hd
  rcases hfull with hfull | rfl
  · rcases Nat.lt_or_ge j k with hplace | hplace
    · -- The first number is smaller, as its bits are all below those of the second one.
      obtain ⟨l, rfl⟩ : ∃ l, k = j + (l + 1) := ⟨k - j - 1, by omega⟩
      have hlarge : 2 ^ 53 ≤ b * 2 ^ (l + 1) := by
        calc 2 ^ 53 = 2 ^ 52 * 2 ^ 1 := by norm_num
          _ ≤ b * 2 ^ (l + 1) := Nat.mul_le_mul hfull (Nat.pow_le_pow_right Nat.two_pos (by omega))
      have hsplit : b * 2 ^ (j + (l + 1)) = b * 2 ^ (l + 1) * 2 ^ j := by ring
      rw [hsplit, Nat.mul_mod_mul_right, Nat.mod_eq_of_lt (by omega), ← Nat.sub_mul,
        ← Nat.mul_assoc]
      exact Nat.mul_le_mul_right _ (by omega)
    · obtain ⟨l, rfl⟩ := Nat.exists_eq_add_of_le hplace
      have hsplit : a * 2 ^ (k + l) = a * 2 ^ l * 2 ^ k := by ring
      have hrest : a * 2 ^ l % b < b := Nat.mod_lt _ (by omega)
      rw [hsplit, Nat.mul_mod_mul_right, ← Nat.sub_mul, ← Nat.mul_assoc]
      exact Nat.mul_le_mul_right _ (by omega)
  · omega

end SchemaRegistry.Binary64

/-!
Finite double precision numbers, held as a sign, a significand and a power of two, with the exact
rational that each one stands for and the rounding of a rational to the nearest of them.

Nothing here runs on the machine's floating point unit. A comparison of two numbers is a comparison
of two rationals, and an operation that rounds is the exact operation followed by `ofRat`.
-/

namespace SchemaRegistry

/-- The number `±significand · 2 ^ exponent`. The two zeros differ in `negative` only. -/
structure Binary64 where
  negative : Bool
  significand : Nat
  exponent : Int
  deriving DecidableEq, Inhabited

namespace Binary64

def powerOfTwo (exponent : Int) : Rat :=
  if 0 ≤ exponent then (Nat.pow 2 exponent.toNat : Rat) else mkRat 1 (Nat.pow 2 (-exponent).toNat)

/-- The rational that a number stands for. -/
def value (x : Binary64) : Rat :=
  let magnitude := (x.significand : Rat) * powerOfTwo x.exponent
  if x.negative then -magnitude else magnitude

/-- The least exponent, that of the subnormal numbers. -/
def leastExponent : Int := -1074

def zero (negative : Bool) : Binary64 := ⟨negative, 0, leastExponent⟩

/-- The natural number nearest to `n / d`; half way between two, the even one. -/
def roundHalfEven (n d : Nat) : Nat :=
  let q := n / d
  let r := n % d
  if 2 * r < d then q else if d < 2 * r then q + 1 else q + q % 2

/-- The greatest `k` with `2 ^ k ≤ n / d`, for positive `n` and `d`. -/
def floorLog2 (n d : Nat) : Int :=
  let k : Int := (n.log2 : Int) - (d.log2 : Int)
  if powerOfTwo k * (d : Rat) ≤ (n : Rat) then k else k - 1

/-- The number nearest to `± n / d`. Ties go to the even significand. Magnitudes below half the
least subnormal become a zero of the same sign. -/
def ofFraction (negative : Bool) (n d : Nat) : Binary64 :=
  if n = 0 then zero negative
  else
    let exponent := max leastExponent (floorLog2 n d - 52)
    let significand :=
      if 0 ≤ exponent then roundHalfEven n (d * Nat.pow 2 exponent.toNat)
      else roundHalfEven (n * Nat.pow 2 (-exponent).toNat) d
    if significand = Nat.pow 2 53 then ⟨negative, Nat.pow 2 52, exponent + 1⟩
    else if significand = 0 then zero negative
    else ⟨negative, significand, exponent⟩

def ofRat (q : Rat) : Binary64 := ofFraction (q < 0) q.num.natAbs q.den

def ofInt (n : Int) : Binary64 := ofFraction (n < 0) n.natAbs 1

/-- The number nearest to `± digits · 10 ^ exponent`, the value of a decimal token. An exponent that
puts the token far below the least subnormal is answered without writing out the power of ten. -/
def ofDecimal (negative : Bool) (digits : Nat) (exponent : Int) : Binary64 :=
  if 0 ≤ exponent then ofFraction negative (digits * Nat.pow 10 exponent.toNat) 1
  else if exponent + (digits.log2 : Int) < -400 then zero negative
  else ofFraction negative digits (Nat.pow 10 (-exponent).toNat)

/-- The interchange word: sign, biased exponent and fraction from the top bit down. -/
def bits (x : Binary64) : Nat :=
  let sign := if x.negative then Nat.pow 2 63 else 0
  if x.significand < Nat.pow 2 52 then sign + x.significand
  else sign + (x.exponent + 1075).toNat * Nat.pow 2 52 + (x.significand - Nat.pow 2 52)

end Binary64

end SchemaRegistry

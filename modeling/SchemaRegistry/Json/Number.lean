import SchemaRegistry.Binary64

/-!
The numbers of a JSON document. A token without fraction and exponent that fits 64 bits keeps its
exact integer; every other token is the nearest double precision number.

`Number.value` is the rational that a number stands for, and all comparisons go through it, so the
way in which a number was written never decides whether two numbers are equal.
-/

namespace SchemaRegistry

/-- A JSON number, as an exact integer or as a double precision number. -/
inductive Number where
  | integer (value : Int)
  | double (value : Binary64)
  deriving DecidableEq, Inhabited

namespace Number

def value : Number → Rat
  | integer n => n
  | double x => x.value

def toBinary64 : Number → Binary64
  | integer n => .ofInt n
  | double x => x

/-- Holds for numbers without a fractional part, whichever way they are written. -/
def isInteger : Number → Bool
  | integer _ => true
  | double x => x.value.den = 1

/-- The non-negative integer that a number denotes when it is written without a fraction. -/
def toNat? : Number → Option Nat
  | integer (.ofNat n) => some n
  | _ => none

/-- Reads a token `± digits · 10 ^ exponent`. It stays an integer when it was written without
fraction and exponent and lies between `-2 ^ 63` and `2 ^ 64 - 1`. A minus sign in front of zero can
be kept only by a double precision number. -/
def ofToken (negative : Bool) (digits : Nat) (exponent : Int) (plain : Bool) : Number :=
  if plain && !negative && digits < Nat.pow 2 64 then integer digits
  else if plain && negative && 0 < digits && digits ≤ Nat.pow 2 63 then integer (-(digits : Int))
  else double (.ofDecimal negative digits exponent)

end Number

end SchemaRegistry

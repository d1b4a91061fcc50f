/-!
Hexadecimal notation of natural numbers.
-/

namespace SchemaRegistry.Hex

def digit (n : Nat) : Char :=
  if n < 10 then Char.ofNat (48 + n) else Char.ofNat (55 + n)

def value? (c : Char) : Option Nat :=
  let n := c.toNat
  if 48 ≤ n && n ≤ 57 then some (n - 48)
  else if 65 ≤ n && n ≤ 70 then some (n - 55)
  else if 97 ≤ n && n ≤ 102 then some (n - 87)
  else none

def isDigit (c : Char) : Bool := (value? c).isSome

/-- The number that digits of a base of at most sixteen denote. The empty text is zero. -/
def digits? (base : Nat) (text : List Char) : Option Nat :=
  text.foldlM (fun n c => do
    let d ← value? c
    if d < base then some (n * base + d) else none) 0

/-- The number that hexadecimal digits denote; characters that are no digits count as zero. -/
def number (text : List Char) : Nat :=
  text.foldl (fun n c => n * 16 + (value? c).getD 0) 0

theorem value?_digit (n : Nat) (h : n < 16) : value? (digit n) = some n := by
  have : ∀ n < 16, value? (digit n) = some n := by decide
  exact this n h

end SchemaRegistry.Hex

/-!
The ASCII form of a label of a domain name. The basic characters come first, then a hyphen, then one
number in base thirty-six for every other character, which tells how far it lies from the one before
it in the order of code point and position.
-/

namespace SchemaRegistry.Domain.Punycode

/-- The threshold of the digit at a place: digits below it end a number. `place` counts in steps of
thirty-six from thirty-six on. -/
def threshold (place bias : Nat) : Nat :=
  if place ≤ bias + 1 then 1 else if bias + 26 ≤ place then 26 else place - bias

def digit (n : Nat) : Char := if n < 26 then Char.ofNat (97 + n) else Char.ofNat (22 + n)

def digitValue? (c : Char) : Option Nat :=
  let n := c.toNat
  if 97 ≤ n && n ≤ 122 then some (n - 97)
  else if 65 ≤ n && n ≤ 90 then some (n - 65)
  else if 48 ≤ n && n ≤ 57 then some (n - 22)
  else none

/-- Divides by thirty-five until at most 455 is left, counting thirty-six for each division. -/
def scaleDown (delta : Nat) : Nat × Nat :=
  if delta ≤ 455 then (delta, 0)
  else
    let (rest, count) := scaleDown (delta / 35)
    (rest, count + 36)
termination_by delta
decreasing_by omega

/-- The bias for the next number after `delta` was written as the number of character `count`. -/
def adapt (delta count : Nat) (first : Bool) : Nat :=
  let damped := if first then delta / 700 else delta / 2
  let (rest, scale) := scaleDown (damped + damped / count)
  scale + 36 * rest / (rest + 38)

def writeNumber (q place bias : Nat) : List Char :=
  let t := threshold place bias
  if h : q < t then [digit q]
  else digit (t + (q - t) % (36 - t)) :: writeNumber ((q - t) / (36 - t)) (place + 36) bias
termination_by q
decreasing_by
  have ht : 1 ≤ threshold place bias := by unfold threshold; split <;> (try split) <;> omega
  exact Nat.lt_of_le_of_lt (Nat.div_le_self _ _) (by omega)

structure Progress where
  written : List Char
  handled : Nat
  delta : Nat
  bias : Nat

/-- Passes over the text for the code point `n`: earlier ones advance the distance, and each
occurrence of `n` is written. -/
def encodePass (n basic : Nat) (progress : Progress) : List Nat → Progress
  | [] => progress
  | c :: rest =>
    if c < n then encodePass n basic { progress with delta := progress.delta + 1 } rest
    else if c = n then
      let handled := progress.handled + 1
      encodePass n basic
        ⟨progress.written ++ writeNumber progress.delta 36 progress.bias, handled, 0,
          adapt progress.delta handled (progress.handled = basic)⟩ rest
    else encodePass n basic progress rest

def encode (text : List Nat) : List Char :=
  let basic := text.filter (· < 128)
  -- The other characters are written in the order of their code points, in one pass for each.
  let others := ((text.filter (128 ≤ ·)).mergeSort (· ≤ ·)).eraseReps
  let start : Progress :=
    ⟨basic.map Char.ofNat ++ (if basic.isEmpty then [] else ['-']), basic.length, 0, 72⟩
  let step (state : Progress × Nat) (n : Nat) : Progress × Nat :=
    let progress := state.1
    let reached := { progress with
      delta := progress.delta + (n - state.2) * (progress.handled + 1) }
    let after := encodePass n basic.length reached text
    ({ after with delta := after.delta + 1 }, n + 1)
  (others.foldl step (start, 128)).1.written

/-- What the decoder knows between two digits: the text so far, the code point and position reached,
and the number that is being read with its next place and weight. -/
structure Reading where
  text : List Nat
  code : Nat
  position : Nat
  bias : Nat
  sum : Nat
  weight : Nat
  place : Nat

/-- Reads digits to the end. A number that ends outside the code points is refused, and so is a
text that ends inside a number. -/
def readDigits (r : Reading) : List Char → Option (List Nat)
  | [] => if r.place = 36 then some r.text else none
  | c :: rest => do
    let d ← digitValue? c
    let sum := r.sum + d * r.weight
    let t := threshold r.place r.bias
    if d < t then
      let count := r.text.length + 1
      let target := r.position + sum
      let code := r.code + target / count
      let position := target % count
      if 0x10FFFF < code || (0xD800 ≤ code && code ≤ 0xDFFF) then none
      else
        readDigits
          ⟨r.text.take position ++ code :: r.text.drop position, code, position + 1,
            adapt sum count (r.position = 0), 0, 1, 36⟩
          rest
    else readDigits { r with sum := sum, weight := r.weight * (36 - t), place := r.place + 36 } rest

/-- The basic characters and the digits: the text before the last hyphen and the text after it. A
hyphen that nothing precedes belongs to the digits. -/
def splitLastHyphen (text : List Char) : List Char × List Char :=
  let after := (text.reverse.takeWhile (· ≠ '-')).reverse
  if after.length + 1 < text.length then (text.take (text.length - after.length - 1), after)
  else ([], text)

def decode? (text : List Char) : Option (List Nat) :=
  let (basic, digits) := splitLastHyphen text
  if basic.all (·.toNat < 128) then
    readDigits ⟨basic.map Char.toNat, 128, 0, 72, 0, 1, 36⟩ digits
  else none

end SchemaRegistry.Domain.Punycode

import SchemaRegistry.Text.Hex

/-!
Sets of code points as lists of ranges, in increasing order and without touching neighbours. The
tables of this library are written as text, a range as `41-5A` and a single code point as `AA`.
-/

namespace SchemaRegistry

/-- A set of code points, given by the ends of its ranges. -/
structure CodePointSet where
  ranges : List (Nat × Nat)
  deriving DecidableEq, Inhabited

namespace CodePointSet

def greatest : Nat := 0x10FFFF

def empty : CodePointSet := ⟨[]⟩

def full : CodePointSet := ⟨[(0, greatest)]⟩

def single (n : Nat) : CodePointSet := ⟨[(n, n)]⟩

def range (low high : Nat) : CodePointSet := ⟨[(low, high)]⟩

def contains (s : CodePointSet) (n : Nat) : Bool :=
  s.ranges.any fun r => r.1 ≤ n && n ≤ r.2

/-- Joins ranges that overlap or touch, starting with `current`. The ranges are in the order of
their lower ends. -/
def joinTouching (current : Nat × Nat) : List (Nat × Nat) → List (Nat × Nat)
  | [] => [current]
  | next :: rest =>
    if next.1 ≤ current.2 + 1 then joinTouching (current.1, max current.2 next.2) rest
    else current :: joinTouching next rest

def ofRanges (ranges : List (Nat × Nat)) : CodePointSet :=
  match ranges.mergeSort fun a b => a.1 ≤ b.1 with
  | [] => empty
  | first :: rest => ⟨joinTouching first rest⟩

def union (a b : CodePointSet) : CodePointSet := ofRanges (a.ranges ++ b.ranges)

/-- The gaps between ranges from `start` on. -/
def gaps (start : Nat) : List (Nat × Nat) → List (Nat × Nat)
  | [] => if start ≤ greatest then [(start, greatest)] else []
  | (low, high) :: rest =>
    if start < low then (start, low - 1) :: gaps (high + 1) rest else gaps (high + 1) rest

def complement (s : CodePointSet) : CodePointSet := ⟨gaps 0 s.ranges⟩

def inter (a b : CodePointSet) : CodePointSet := (a.complement.union b.complement).complement

def difference (a b : CodePointSet) : CodePointSet := a.inter b.complement

def symmetricDifference (a b : CodePointSet) : CodePointSet :=
  (a.difference b).union (b.difference a)

def readRange (text : String) : Nat × Nat :=
  match (text.splitOn "-").map fun bound => Hex.number bound.toList with
  | [low, high] => (low, high)
  | low :: _ => (low, low)
  | [] => (0, 0)

/-- Reads ranges that are separated by spaces. -/
def ofText (text : String) : CodePointSet :=
  ⟨((text.splitOn " ").filter (· ≠ "")).map readRange⟩

def ofLines (lines : List String) : CodePointSet :=
  ⟨lines.flatMap fun line => (ofText line).ranges⟩

end CodePointSet

end SchemaRegistry

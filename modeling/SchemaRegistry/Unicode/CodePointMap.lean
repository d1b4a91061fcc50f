import SchemaRegistry.Text.Hex

/-!
Maps from code points to sequences of code points. In a table, `41-5A>61` maps a run of code points
to a run that starts at `61`, `100-12E/2>101` does so for every other code point, and `BC>31,2044`
maps a single code point to a sequence.
-/

namespace SchemaRegistry

/-- One line of a map: every `step`-th code point from `low` to `high`. Only a line for a single
code point has more than one target. -/
structure MapEntry where
  low : Nat
  high : Nat
  step : Nat
  targets : List Nat
  deriving DecidableEq, Inhabited

/-- A map, as the list of its entries. -/
structure CodePointMap where
  entries : List MapEntry
  deriving Inhabited

def MapEntry.image? (e : MapEntry) (n : Nat) : Option (List Nat) :=
  if e.low ≤ n && n ≤ e.high && (n - e.low) % e.step = 0 then
    some (e.targets.map (· + (n - e.low)))
  else none

namespace CodePointMap

def image? (m : CodePointMap) (n : Nat) : Option (List Nat) := m.entries.findSome? (·.image? n)

/-- Every code point of the map with the first element of its sequence. -/
def pairs (m : CodePointMap) : List (Nat × Nat) :=
  m.entries.flatMap fun e =>
    (List.range ((e.high - e.low) / e.step + 1)).map fun i =>
      (e.low + i * e.step, e.targets.headD 0 + i * e.step)

def readEntry (text : String) : MapEntry :=
  let (source, targets) := match text.splitOn ">" with
    | [source, targets] => (source, targets)
    | _ => (text, "")
  let (run, step) := match source.splitOn "/" with
    | [run, step] => (run, Hex.number step.toList)
    | _ => (source, 1)
  let targets := (targets.splitOn ",").map fun target => Hex.number target.toList
  match run.splitOn "-" with
  | [low, high] => ⟨Hex.number low.toList, Hex.number high.toList, step, targets⟩
  | _ => ⟨Hex.number run.toList, Hex.number run.toList, step, targets⟩

def ofLines (lines : List String) : CodePointMap :=
  ⟨lines.flatMap fun line => (line.splitOn " ").map readEntry⟩

end CodePointMap

end SchemaRegistry

import SchemaRegistry.Json.Value

/-!
The settings of a validation: how many violations are recorded, how many jumps along references may
be open at once, and the tolerance of `multipleOf`. Settings can be read from a JSON document, in
which every missing entry takes its default.
-/

namespace SchemaRegistry

structure Options where
  maxErrors : Nat
  maxStackDepth : Nat
  epsilon : Binary64
  deriving DecidableEq

namespace Options

def defaultEpsilon : Binary64 := .ofDecimal false 1 (-3)

/-- All violations are recorded, sixty-four jumps may be open, and the tolerance is `10⁻³`. -/
protected def default : Options := ⟨Nat.pow 2 64 - 1, 64, defaultEpsilon⟩

instance : Inhabited Options := ⟨Options.default⟩

/-- Equality of settings as numbers: the sign of a zero tolerance does not count. -/
def agrees (left right : Options) : Bool :=
  left.maxErrors = right.maxErrors && left.maxStackDepth = right.maxStackDepth &&
    left.epsilon.value = right.epsilon.value

/-- A count: a non-negative integer, written as one. -/
def count? : Json → Option Nat
  | .number n => n.toNat?
  | _ => none

/-- A tolerance: any number. -/
def tolerance? : Json → Option Binary64
  | .number n => some n.toBinary64
  | _ => none

/-- Reads an optional entry: absence gives `fallback`, a malformed entry gives nothing. -/
def entry? {α : Type} (read : Json → Option α) (fallback : α) : Option Json → Option α
  | none => some fallback
  | some value => read value

/-- Builds the settings from their three optional entries. -/
def ofEntries? (maxErrors maxStackDepth epsilon : Option Json) : Option Options := do
  let maxErrors ← entry? count? Options.default.maxErrors maxErrors
  let maxStackDepth ← entry? count? Options.default.maxStackDepth maxStackDepth
  let epsilon ← entry? tolerance? Options.default.epsilon epsilon
  return ⟨maxErrors, maxStackDepth, epsilon⟩

/-- Reads settings from an object with named entries, of which unknown ones are ignored, or from an
array that gives at most three entries in order. -/
def ofJson? : Json → Option Options
  | .object members =>
    ofEntries? (Json.member? "maxErrors" members) (Json.member? "maxStackDepth" members)
      (Json.member? "epsilon" members)
  | .array items =>
    if items.length ≤ 3 then ofEntries? items[0]? items[1]? items[2]? else none
  | _ => none

end Options

end SchemaRegistry

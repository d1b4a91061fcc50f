import SchemaRegistry.Compile.Documents
import SchemaRegistry.Options
import SchemaRegistry.Validation.Keywords

/-!
Validating a value against a registry. The recursion ends for two reasons: sub-schemas are stored
before the schemas that hold them, so their indices fall, and only so many frames may be open at
once.
-/

namespace SchemaRegistry

/-- The result of a completed validation: the recorded violations. -/
structure Outcome where
  violations : List Violation
  deriving DecidableEq, Inhabited

def Outcome.isValid (o : Outcome) : Bool := o.violations.isEmpty

namespace Registry

/-- Checks a value against the schema at an index in a frame of its own. -/
def land (r : Registry) (check : Checker) (index : Nat) (value : Json) : Check Unit := do
  modify (Machine.openFrame ((r.uriOf? index).getD defaultBase))
  check index value
  modify Machine.closeFrame

/-- Follows a reference. The frame of the schema at which the validation started is not a jump, so
one frame more than `maxDepth` may be open. -/
def follow (r : Registry) (maxDepth : Nat) (check : Checker) : Follower := fun reference value => do
  if maxDepth < (← get).frames.length then throw (.stackOverflow maxDepth)
  match r.lookup? reference.target with
  | some index => r.land check index value
  | none => throw (.noSuchSchema reference.target.render)

/-- Checks a value against the schema at an index below `bound`, given a way to follow references.
Sub-schemas are at smaller indices, so each takes away from the bound. -/
def checkBelow (r : Registry) (epsilon : Binary64) (jump : Follower) : (bound : Nat) → Checker
  | 0 => fun _ _ => pure ()
  | bound + 1 => fun index value =>
    match r.node? index with
    | some node => node.check epsilon (r.checkBelow epsilon jump bound) jump value
    | none => pure ()

/-- Checks a value against the schema at an index while `jumps` more frames may be opened. Without
any left, following a reference overflows before it gets to a schema. -/
def checkWithin (r : Registry) (epsilon : Binary64) (maxDepth : Nat) : (jumps : Nat) → Checker
  | 0 =>
    r.checkBelow epsilon (r.follow maxDepth fun _ _ => throw (.stackOverflow maxDepth)) r.size
  | jumps + 1 =>
    r.checkBelow epsilon (r.follow maxDepth (r.checkWithin epsilon maxDepth jumps)) r.size

/-- Checks a value against the schema at an index in the innermost frame. The open frames say how
many more may be opened. -/
def exec (r : Registry) (options : Options) : Checker := fun index value m =>
  r.checkWithin options.epsilon options.maxStackDepth
    (options.maxStackDepth + 1 - m.frames.length) index value m

/-- The machine after checking a value against the schema at an index. -/
def run (r : Registry) (options : Options) (capacity : Nat) (index : Nat) (value : Json) :
    Except ValidateError Machine := do
  return (← r.land (r.exec options) index value (Machine.start capacity)).2

def rootIndex (r : Registry) : Except ValidateError Nat :=
  match r.root? with
  | some index => .ok index
  | none => .error (.noSuchSchema defaultBase.render)

/-- The schema that the text of a URL addresses. -/
def indexOf (r : Registry) (uri : String) : Except ValidateError Nat :=
  match Url.parse uri with
  | .error cause => .error (.invalidUri uri cause)
  | .ok url =>
    match r.resolve? url with
    | some index => .ok index
    | none => .error (.noSuchSchema uri)

/-- Validates a value against the schema at an index. -/
def validateAt (r : Registry) (options : Options) (index : Nat) (value : Json) :
    Except ValidateError Outcome := do
  return ⟨(← r.run options options.maxErrors index value).entries.toList⟩

/-- Validates a value against the first document. -/
def validate (r : Registry) (options : Options) (value : Json) : Except ValidateError Outcome := do
  r.validateAt options (← r.rootIndex) value

/-- Validates a value against the schema at a URL. -/
def validateUri (r : Registry) (options : Options) (uri : String) (value : Json) :
    Except ValidateError Outcome := do
  r.validateAt options (← r.indexOf uri) value

/-- Whether a value satisfies the first document. No violation is recorded, so the answer does not
depend on how many may be. -/
def isValid (r : Registry) (options : Options) (value : Json) : Except ValidateError Bool := do
  return (← r.run options 0 (← r.rootIndex) value).clean

end Registry

end SchemaRegistry

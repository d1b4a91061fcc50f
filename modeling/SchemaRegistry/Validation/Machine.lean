import SchemaRegistry.Schema.Location

/-!
What a validation carries along. A machine stands at a place in the instance and, for every schema
that it was sent to, at a place below that schema; every descent takes it there and back. Every
failed check is counted, and is recorded as long as there is room. Checks can be run on the side
with a count and a record of their own, which are then dropped or handed over.
-/

namespace SchemaRegistry

/-- A failed check: where the value lies in the instance, and where the keyword lies below the
schema that was last jumped to. -/
structure Violation where
  instancePath : JsonPointer
  schemaPath : JsonPointer
  schemaUri : Url
  deriving DecidableEq, Inhabited

def Violation.message (v : Violation) : String :=
  "'" ++ v.instancePath.render ++ "' is invalid against '" ++ v.schemaUri.render ++ "' at '" ++
    v.schemaPath.render ++ "'"

/-- The reasons for which a validation has no result. -/
inductive ValidateError where
  /-- No schema has the location. -/
  | noSuchSchema (uri : String)
  /-- The text is not an absolute URL. -/
  | invalidUri (uri : String) (cause : UrlError)
  /-- More jumps along references are open than allowed. -/
  | stackOverflow (maxDepth : Nat)
  deriving DecidableEq

def ValidateError.message : ValidateError → String
  | noSuchSchema uri => "No schema with URI '" ++ uri ++ "'"
  | invalidUri uri cause => "Invalid schema URI '" ++ uri ++ "': " ++ cause.message
  | stackOverflow maxDepth => "Maximum stack depth of " ++ toString maxDepth ++ " exceeded"

/-- A schema that is being checked, and the way from there to the current keyword. -/
structure Frame where
  uri : Url
  path : JsonPointer
  deriving DecidableEq, Inhabited

/-- A validation under way: the place in the instance, the open frames with the innermost first, and
the failed checks. All of them are counted, and the first of them are recorded up to a capacity. -/
@[ext]
structure Machine where
  instancePath : JsonPointer
  frames : List Frame
  capacity : Nat
  violations : Nat
  entries : Array Violation
  deriving DecidableEq, Inhabited

namespace Machine

def start (capacity : Nat) : Machine := ⟨.root, [], capacity, 0, #[]⟩

/-- The number of violations that can still be recorded. -/
def room (m : Machine) : Nat := m.capacity - m.entries.size

def clean (m : Machine) : Bool := m.violations = 0

def openFrame (uri : Url) (m : Machine) : Machine := { m with frames := ⟨uri, .root⟩ :: m.frames }

def closeFrame (m : Machine) : Machine := { m with frames := m.frames.tail }

/-- Moves the innermost frame to the keyword `token`. -/
def enterKeyword (token : String) (m : Machine) : Machine :=
  { m with frames := m.frames.modifyHead fun frame => { frame with path := frame.path.push token } }

/-- Moves the innermost frame back by one token. -/
def leaveKeyword (m : Machine) : Machine :=
  { m with frames := m.frames.modifyHead fun frame => { frame with path := frame.path.pop.2 } }

def enterItem (token : String) (m : Machine) : Machine :=
  { m with instancePath := m.instancePath.push token }

def leaveItem (m : Machine) : Machine := { m with instancePath := m.instancePath.pop.2 }

/-- Counts a violation at the current place and records it if there is room. -/
def record (m : Machine) : Machine :=
  { m with
    violations := m.violations + 1
    entries := match m.frames with
      | frame :: _ =>
        if m.entries.size < m.capacity then
          m.entries.push ⟨m.instancePath, frame.path, frame.uri⟩
        else m.entries
      | [] => m.entries }

/-- Counts one violation and records as many of the given entries as there is room for. -/
def recordAll (entries : Array Violation) (m : Machine) : Machine :=
  { m with
    violations := m.violations + 1
    entries := m.entries ++ entries.take m.room }

end Machine

abbrev Check := StateT Machine (Except ValidateError)

namespace Check

def report : Check Unit := modify Machine.record

def keyword {α : Type} (token : String) (check : Check α) : Check α := do
  modify (Machine.enterKeyword token)
  let result ← check
  modify Machine.leaveKeyword
  return result

def item {α : Type} (token : String) (check : Check α) : Check α := do
  modify (Machine.enterItem token)
  let result ← check
  modify Machine.leaveItem
  return result

/-- Reports that the keyword `token` failed unless `ok` holds. -/
def require (ok : Bool) (token : String) : Check Unit :=
  if ok then pure () else keyword token report

/-- Runs a check on the side with room for `capacity` violations, and gives its verdict and what it
recorded. The count and the record of the machine are put back afterwards. -/
def speculate (capacity : Nat) (check : Check Unit) : Check (Bool × Array Violation) := fun m =>
  match check { m with capacity, violations := 0, entries := #[] } with
  | .ok (_, inner) =>
    .ok ((inner.clean, inner.entries),
      { inner with capacity := m.capacity, violations := m.violations, entries := m.entries })
  | .error e => .error e

/-- The verdict of a check of which nothing is recorded. -/
def probe (check : Check Unit) : Check Bool := do
  return (← speculate 0 check).1

/-- The verdict of a check and as many of its violations as there is room for. -/
def attempt (check : Check Unit) : Check (Bool × Array Violation) := fun m =>
  speculate m.room check m

end Check

end SchemaRegistry

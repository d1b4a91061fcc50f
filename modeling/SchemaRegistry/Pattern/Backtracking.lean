import SchemaRegistry.Pattern.Program

/-!
Running programs by trial. A run goes on along one alternative, keeps the others on a stack, and
returns to the last of them when it fails. A run that fails too often, or that has too many
alternatives, is given up.
-/

namespace SchemaRegistry.Pattern.Program

/-- A run between two instructions: the next instruction, the place in the text, the contents of
the slots, and how many alternatives there were when the atomic expressions began, the innermost
first. -/
structure State where
  instruction : Nat
  place : Nat
  slots : Array (Option Nat)
  heights : List Nat
  deriving Inhabited

namespace State

def goto (s : State) (offset : Int) : State :=
  { s with instruction := (s.instruction + offset).toNat }

def next (s : State) : State := { s with instruction := s.instruction + 1 }

def nextAt (s : State) (place : Nat) : State := { s.next with place }

def slot? (s : State) (slot : Nat) : Option Nat := s.slots.getD slot none

def fill (s : State) (slot n : Nat) : State :=
  { s with slots := s.slots.setIfInBounds slot (some n) }

/-- Fills or clears the slots of groups as a match remembers them. -/
def fillGroups (s : State) (groups : List Nat) (places : List (Nat × Nat)) : State :=
  { s with
    slots := groups.foldl (fun slots group =>
      (slots.setIfInBounds (2 * group) (places.lookup (2 * group))).setIfInBounds (2 * group + 1)
        (places.lookup (2 * group + 1))) s.slots }

end State

/-- What an instruction does to a run. -/
inductive Effect where
  | proceed (s : State)
  | branch (s alternative : State)
  /-- The run goes on with only so many of its alternatives. -/
  | cut (height : Nat) (s : State)
  | fail
  /-- The run fails, and so do its alternatives up to the last one at an instruction. -/
  | failBefore (instruction : Nat)
  | accept

def Effect.require (condition : Bool) (s : State) : Effect :=
  if condition then proceed s else fail

/-- Enters a loop and leaves it, in the order of preference, when it may be left. -/
def Effect.loop (greedy mayLeave : Bool) (inside outside : State) : Effect :=
  if !mayLeave then proceed inside
  else if greedy then branch inside outside
  else branch outside inside

/-- Whether the characters between two places stand at a third one. -/
def repeatsAt (text : Array Char) (start stop place : Nat) : Bool :=
  place + (stop - start) ≤ text.size &&
    (List.range (stop - start)).all fun i => text[start + i]? == text[place + i]?

/-- What the next instruction does. `height` is the number of alternatives. -/
def effect (p : Program) (text : Array Char) (height : Nat) (s : State) : Effect :=
  match p.instructions[s.instruction]? with
  | none => .accept
  | some (.test members) =>
    match text[s.place]? with
    | some c => .require (members.contains c.toNat) (s.nextAt (s.place + 1))
    | none => .fail
  | some (.check a) => .require (a.holds text s.place) s.next
  | some (.match r groups) =>
    match r.matchAt? text s.place with
    | some (stop, places) => .proceed ((s.nextAt stop).fillGroups groups places)
    | none => .fail
  | some (.fork first second) => .branch (s.goto first) (s.goto second)
  | some (.jump offset) => .proceed (s.goto offset)
  | some (.save slot) => .proceed (s.next.fill slot s.place)
  | some (.restore slot) => .proceed (s.nextAt ((s.slot? slot).getD 0))
  | some (.startCount slot) => .proceed (s.next.fill slot 0)
  | some (.countedLoop greedy low high exit slot) =>
    let count := (s.slot? slot).getD 0
    if high = some count then .proceed (s.goto exit)
    else
      let counted := s.fill slot (count + 1)
      .loop greedy (low ≤ count) counted.next (counted.goto exit)
  | some (.advancingLoop greedy low exit slot start) =>
    let count := (s.slot? slot).getD 0
    -- A round after one that has matched no characters would only repeat it.
    if 0 < count && s.slot? start = some s.place then .fail
    else
      let counted := s.fill slot (count + 1)
      let counted := if low ≤ count then counted.fill start s.place else counted
      .loop greedy (low ≤ count) counted.next (counted.goto exit)
  -- The fork before what is looked for goes on behind this instruction if nothing is found.
  | some .refuse => .failBefore (s.instruction + 1)
  | some (.goBack count) => .require (count ≤ s.place) (s.nextAt (s.place - count))
  | some (.reference group) =>
    match s.slot? (2 * group), s.slot? (2 * group + 1) with
    | some start, some stop =>
      .require (repeatsAt text start stop s.place) (s.nextAt (s.place + (stop - start)))
    | _, _ => .fail
  | some (.hasMatched group) => .require (s.slot? (2 * group)).isSome s.next
  | some .beginAtomic => .proceed { s.next with heights := height :: s.heights }
  | some .endAtomic =>
    match s.heights with
    | height :: heights => .cut height { s.next with heights }
    | [] => .proceed s.next
  | some .searchStart => .require (s.place = 0) s.next

def failureLimit : Nat := 1000000

def heightLimit : Nat := 1000000

def instructionLimit : Nat := Nat.pow 2 62

/-- Drops the alternatives of a failed run up to the last one at an instruction, and counts the rest
down. -/
def dropThrough (instruction : Nat) : List State → Nat → List State × Nat
  | [], height => ([], height)
  | s :: stack, height =>
    if s.instruction = instruction then (stack, height - 1)
    else dropThrough instruction stack (height - 1)

/-- Runs a program. `failures` counts how often it failed so far, and `height` is the number of
alternatives on the stack. -/
def run (p : Program) (text : Array Char) :
    (fuel failures height : Nat) → (stack : List State) → State → Bool
  | 0, _, _, _, _ => false
  | fuel + 1, failures, height, stack, s =>
    match p.effect text height s with
    | .accept => true
    | .proceed s => p.run text fuel failures height stack s
    | .cut kept s => p.run text fuel failures kept (stack.drop (height - kept)) s
    | .branch s alternative =>
      if height < heightLimit then
        p.run text fuel failures (height + 1) (alternative :: stack) s
      else false
    | .fail =>
      match stack with
      | s :: stack =>
        if failures < failureLimit then p.run text fuel (failures + 1) (height - 1) stack s
        else false
      | [] => false
    | .failBefore instruction =>
      match dropThrough instruction stack height with
      | (s :: stack, height) =>
        if failures < failureLimit then p.run text fuel (failures + 1) (height - 1) stack s
        else false
      | ([], _) => false

def occursIn (p : Program) (text : Array Char) : Bool :=
  p.run text instructionLimit 0 0 [] ⟨0, 0, Array.replicate p.slots none, []⟩

end SchemaRegistry.Pattern.Program

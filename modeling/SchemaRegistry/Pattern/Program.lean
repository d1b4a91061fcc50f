import SchemaRegistry.Pattern.Regular

/-!
Programs for matching by trial. The parts of an expression that are regular expressions and from
which no second match can be needed are run by themselves, as single instructions.
-/

namespace SchemaRegistry.Pattern

/-- An instruction. A run that gets past the last one has matched. The numbers that it remembers,
places and counts, are kept in slots. -/
inductive Instruction where
  | test (members : CodePointSet)
  | check (a : Assertion)
  /-- Goes over the preferred match of a regular expression with groups. -/
  | match (r : Regular) (groups : List Nat)
  /-- Goes on in the first place, and if that fails in the second. -/
  | fork (first second : Int)
  | jump (offset : Int)
  | save (slot : Nat)
  | restore (slot : Nat)
  | startCount (slot : Nat)
  /-- Counts a repetition and enters it, or leaves the loop. -/
  | countedLoop (greedy : Bool) (low : Nat) (high : Option Nat) (exit : Int) (count : Nat)
  /-- Does so unless the repetition before it matched no characters. -/
  | advancingLoop (greedy : Bool) (low : Nat) (exit : Int) (count start : Nat)
  /-- Fails together with all alternatives since the fork to the instruction after it. -/
  | refuse
  | goBack (count : Nat)
  | reference (group : Nat)
  | hasMatched (group : Nat)
  /-- Notes which alternatives there are. -/
  | beginAtomic
  /-- Drops the alternatives that were not there at the last such note. -/
  | endAtomic
  | searchStart
  deriving Inhabited

instance : Branching Instruction := ⟨Instruction.fork, Instruction.jump⟩

/-- What emits code and chooses slots for it. It fails if a part of the expression cannot be run. -/
abbrev Emitter := StateT Nat Option

namespace Emitter

def freshSlot : Emitter Nat := modifyGet fun slot => (slot, slot + 1)

def setOf? : Expression → Option CodePointSet
  | .set members _ => some members
  | _ => none

/-- Code for parts without alternatives outside of them. -/
def regular (parts : List Expression) : Emitter (List Instruction) := do
  if Expression.nestLimit < Expression.rowNesting parts then failure
  match parts.mapM setOf? with
  | some sets => return sets.map .test
  | none =>
    let e := Expression.ofParts parts
    let some r := Regular.ofExpression? e | failure
    return [.match r e.groups]

/-- Code that repeats a code which matches at least `least` characters. -/
def loop (code : List Instruction) (least low : Nat) (high : Option Nat) (greedy : Bool) :
    Emitter (List Instruction) := do
  let back : Instruction := .jump (-(code.length + 1))
  let exit : Int := code.length + 2
  match low, high, least with
  | 0, some 1, _ => return Code.optional greedy code
  | low, none, 0 =>
    let count ← freshSlot
    let start ← freshSlot
    return .startCount count :: .advancingLoop greedy low exit count start :: code ++ [back]
  | 0, none, _ + 1 => return Code.anyNumber greedy code
  | 1, none, _ + 1 => return Code.oneOrMore greedy code
  | low, high, _ =>
    let count ← freshSlot
    return .startCount count :: .countedLoop greedy low high exit count :: code ++ [back]

/-- Code that looks to some side, given the code for what is looked for and what that demands.
Looking back takes a fixed number of characters. -/
def look (kind : Look) (demand : Expression.Demand) (code : List Instruction) :
    Emitter (List Instruction) := do
  if kind.isBehind && !demand.fixed then failure
  let code := if kind.isBehind then .goBack demand.least :: code else code
  if kind.isNegative then
    return .fork 1 (code.length + 2) :: code ++ [.refuse]
  else
    let slot ← freshSlot
    return .save slot :: code ++ [.restore slot]

def conditional (condition yes no : List Instruction) : List Instruction :=
  .beginAtomic :: .fork 1 (condition.length + yes.length + 3) :: condition ++ .endAtomic :: yes ++
    .jump (no.length + 1) :: no

/-- How the parts of a sequence are run: the number of parts at its beginning that are run by
themselves, and the number of those after them that are not. The others are at its end. -/
def division (demands : List Expression.Demand) (mayBacktrack : Bool) : Nat × Nat :=
  let first := (demands.takeWhile fun d => d.fixed && !d.hard).length
  let last := (demands.drop first).reverse.takeWhile fun d => !d.hard && (d.fixed || !mayBacktrack)
  (first, demands.length - first - last.length)

def sameLength (choices : List Expression.Demand) : Bool := (Expression.Demand.choice choices).fixed

mutual

/-- Code for an expression. `mayBacktrack` says whether what comes after it may need another match
of the expression. -/
def code (referenced : List Nat) (mayBacktrack : Bool) (e : Expression) :
    Emitter (List Instruction) :=
  if !mayBacktrack && !(e.demand referenced).hard then regular [e]
  else
    match e with
    | .empty => return []
    | .set _ _ => regular [e]
    | .assertion a => return [.check a]
    | .sequence parts => do
      let (first, middle) := division (Expression.demands referenced parts) mayBacktrack
      let before ← regular (parts.take first)
      let between ← codes referenced true first middle parts
      let after ← regular (parts.drop (first + middle))
      return before ++ between.flatten ++ after
    | .choice choices =>
      Code.oneOf <$> codes referenced mayBacktrack 0 choices.length choices
    | .group number body => do
      let inner ← code referenced mayBacktrack body
      return .save (2 * number) :: inner ++ [.save (2 * number + 1)]
    | .look kind body =>
      let whole := do look kind (body.demand referenced) (← code referenced false body)
      match body with
      | .choice choices =>
        -- Choices of several lengths are looked for one by one, each as far back as it is long.
        if kind.isBehind && !sameLength (Expression.demands referenced choices) then do
          let all ← looks referenced kind choices
          return if kind.isNegative then all.flatten else Code.oneOf all
        else whole
      | _ => whole
    | .repetition body low high greedy => do
      let inner ← code referenced (mayBacktrack || !(low = 0 && high = some 1)) body
      loop inner (body.demand referenced).least low high greedy
    | .reference group => return [.reference group]
    | .atomic body => return .beginAtomic :: (← code referenced false body) ++ [.endAtomic]
    | .keepOut => return [.save 0]
    | .searchStart => return [.searchStart]
    | .hasMatched group => return [.hasMatched group]
    | .conditional condition yes no => do
      return conditional (← code referenced mayBacktrack condition)
        (← code referenced mayBacktrack yes) (← code referenced mayBacktrack no)

/-- Codes for `count` expressions of a list after the first `skip` ones. -/
def codes (referenced : List Nat) (mayBacktrack : Bool) (skip count : Nat) :
    List Expression → Emitter (List (List Instruction))
  | [] => return []
  | e :: rest =>
    match skip, count with
    | skip + 1, count => codes referenced mayBacktrack skip count rest
    | 0, 0 => return []
    | 0, count + 1 => do
      let first ← code referenced mayBacktrack e
      return first :: (← codes referenced mayBacktrack 0 count rest)

def looks (referenced : List Nat) (kind : Look) :
    List Expression → Emitter (List (List Instruction))
  | [] => return []
  | e :: rest => do
    let first ← look kind (e.demand referenced) (← code referenced false e)
    return first :: (← looks referenced kind rest)

end

end Emitter

/-- A program, and the number of slots that it uses. -/
structure Program where
  instructions : Array Instruction
  slots : Nat
  deriving Inhabited

namespace Program

/-- Code that looks for a match at every place, from left to right. -/
def search (code : List Instruction) : List Instruction :=
  .fork 3 1 :: .test .full :: .jump (-2) :: .save 0 :: code ++ [.save 1]

def ofExpression? (e : Expression) (groups : Nat) (referenced : List Nat) : Option Program := do
  let (code, slots) ← (Emitter.code referenced true e).run (2 * (groups + 1))
  return ⟨(search code).toArray, slots⟩

end Program

end SchemaRegistry.Pattern

import SchemaRegistry.Pattern.Code
import SchemaRegistry.Pattern.Expression

/-!
Regular expressions, run in lockstep. All threads of a run advance over the text together, in the
order of their priority, and of two threads at the same step only the first is kept; a run therefore
takes time proportional to the length of the text.
-/

namespace SchemaRegistry.Pattern

/-- A step of a regular expression. A run that gets past the last step has matched. -/
inductive Step where
  | test (members : CodePointSet)
  | check (a : Assertion)
  /-- Goes on in two places; the first has priority. -/
  | fork (first second : Int)
  | jump (offset : Int)
  | save (slot : Nat)
  deriving Inhabited

instance : Branching Step := ⟨Step.fork, Step.jump⟩

namespace Step

/-- Code that runs any number of times. Code that can match no characters runs as an optional loop,
since the way out of a plain one would come before what follows such a match. -/
def anyNumber (greedy canBeEmpty : Bool) (code : List Step) : List Step :=
  if canBeEmpty then Code.optional greedy (Code.oneOrMore greedy code)
  else Code.anyNumber greedy code

def between (greedy canBeEmpty : Bool) (code : List Step) (low : Nat) : Option Nat → List Step
  | some high => Code.exactly low code ++ Code.atMost greedy code (high - low)
  | none =>
    match low with
    | 0 => anyNumber greedy canBeEmpty code
    | low + 1 => Code.exactly low code ++ Code.oneOrMore greedy code

end Step

namespace Expression

def repetitionBound : Nat := Nat.pow 2 32

def boundsOk (low : Nat) : Option Nat → Bool
  | some high => low ≤ high && high < repetitionBound
  | none => low < repetitionBound

mutual

/-- The steps of an expression, if it is a regular one. -/
def steps? : Expression → Option (List Step)
  | empty => some []
  | set members _ => some [.test members]
  | assertion a => some [.check a]
  | sequence parts => (stepsOf? parts).map List.flatten
  | choice choices => (stepsOf? choices).map Code.oneOf
  | group number body =>
    (steps? body).map fun code => .save (2 * number) :: code ++ [.save (2 * number + 1)]
  | repetition body low high greedy =>
    if boundsOk low high then
      (steps? body).map fun code => Step.between greedy ((body.demand []).least = 0) code low high
    else none
  | look _ _ | reference _ | atomic _ | keepOut | searchStart | hasMatched _
  | conditional _ _ _ => none

def stepsOf? : List Expression → Option (List (List Step))
  | [] => some []
  | e :: rest => do
    let code ← steps? e
    return code :: (← stepsOf? rest)

end

/-- How many bytes one state of an automaton takes. -/
def stateWeight : Nat := 32

def forkWeight : Nat := stateWeight + 8

/-- How much room a set takes: a state for each byte of a single character, and for other sets room
for each range, more of it where characters have several bytes. -/
def setWeight (members : CodePointSet) : Nat :=
  match members.ranges with
  | [(low, high)] =>
    if low = high then stateWeight * (Char.ofNat low).utf8Size else rangesWeight members.ranges
  | ranges => rangesWeight ranges
where
  rangesWeight (ranges : List (Nat × Nat)) : Nat :=
    if ranges.all fun r => r.2 < 128 then 2 * stateWeight + 8 * ranges.length
    else 10 * stateWeight + 64 * ranges.length

/-- How deep the text of an assertion is nested: those about lines are groups with a flag. -/
def assertionNesting : Assertion → Nat
  | .startOfLine | .endOfLine => 1
  | _ => 0

mutual

/-- How deep an expression is nested when it is written out for the engine. Parts of a sequence,
choices and bodies of repetitions lie one deeper than the whole, and so do bodies of groups.
`binding` says what stands around the expression: nothing, a choice, a sequence or a repetition. An
expression that binds less than that is written as a group. -/
def nesting (binding : Nat) : Expression → Nat
  | set _ nesting => nesting
  | assertion a => assertionNesting a
  | sequence parts => nestings 2 parts + (if 1 < binding then 2 else 1)
  | choice choices => nestings 1 choices + (if 0 < binding then 2 else 1)
  | group _ body => body.nesting 0 + 1
  | repetition body _ _ _ => body.nesting 3 + (if 2 < binding then 2 else 1)
  | empty | look _ _ | reference _ | atomic _ | keepOut | searchStart | hasMatched _
  | conditional _ _ _ => 0

def nestings (binding : Nat) : List Expression → Nat
  | [] => 0
  | e :: rest => max (e.nesting binding) (nestings binding rest)

end

/-- Expressions that are nested deeper are refused before an automaton is built. -/
def nestLimit : Nat := 250

/-- The parts of an expression that is written without parentheses in a row of others. -/
def partsInRow : Expression → List Expression
  | sequence parts => parts
  | e => [e]

def rowNesting (row : List Expression) : Nat :=
  match row.flatMap partsInRow with
  | [] => 0
  | [e] => e.nesting 1
  | parts => nestings 2 parts + 1

mutual

/-- How many bytes the automaton of an expression takes, about. The engine builds an automaton over
the bytes of UTF-8 from an expression, with a copy of the body for each repetition that is counted,
and measures the states that it has built; here they are estimated from the expression. -/
def weight : Expression → Nat
  | set members _ => setWeight members
  | sequence parts => weights parts
  | choice choices => weights choices + forkWeight * choices.length
  | group _ body => body.weight + 2 * stateWeight
  | repetition body low high _ =>
    match high with
    | some high => high * body.weight + (high - low) * forkWeight
    | none => max low 1 * body.weight + 2 * forkWeight
  | look _ body => body.weight
  | atomic body => body.weight
  | conditional condition yes no => condition.weight + yes.weight + no.weight
  | empty | assertion _ | reference _ | keepOut | searchStart | hasMatched _ => stateWeight

def weights : List Expression → Nat
  | [] => 0
  | e :: rest => e.weight + weights rest

end

end Expression

structure Regular where
  steps : Array Step
  deriving Inhabited

namespace Regular

/-- Expressions whose automata take more than ten mebibytes are refused, as the engine does unless
it is told otherwise. -/
def weightLimit : Nat := 10 * Nat.pow 2 20

def ofExpression? (e : Expression) : Option Regular :=
  if e.weight ≤ weightLimit then e.steps?.map fun code => ⟨code.toArray⟩ else none

/-- A thread of a run: the step at which it is, and the places that it remembers, the last one
first. -/
structure Thread where
  step : Nat
  places : List (Nat × Nat)

def Thread.move (t : Thread) (offset : Int) : Thread := { t with step := (t.step + offset).toNat }

/-- Lets threads run up to their next test of a character, or to the end. `pending` are the threads
that have yet to run and `waiting` the ones that have run, the last one first. A thread at the end
is the last one, since it makes the others pointless. Every step is run once, so the number of
threads and twice the number of steps bound the `fuel`. -/
def settle (r : Regular) (text : Array Char) (place : Nat) :
    (fuel : Nat) → (pending : List Thread) → (seen : Array Bool) → (waiting : List Thread) →
    List Thread
  | 0, _, _, waiting => waiting
  | _ + 1, [], _, waiting => waiting
  | fuel + 1, t :: pending, seen, waiting =>
    if seen.getD t.step false then r.settle text place fuel pending seen waiting
    else
      let seen := seen.setIfInBounds t.step true
      match r.steps[t.step]? with
      | none => t :: waiting
      | some (.test _) => r.settle text place fuel pending seen (t :: waiting)
      | some (.check a) =>
        if a.holds text place then
          r.settle text place fuel (t.move 1 :: pending) seen waiting
        else r.settle text place fuel pending seen waiting
      | some (.fork first second) =>
        r.settle text place fuel (t.move first :: t.move second :: pending) seen waiting
      | some (.jump offset) => r.settle text place fuel (t.move offset :: pending) seen waiting
      | some (.save slot) =>
        let t := { t.move 1 with places := (slot, place) :: t.places }
        r.settle text place fuel (t :: pending) seen waiting

/-- The threads that wait for a character at a place, the last one first, and the thread that has
come to the end, if one has. -/
def settled (r : Regular) (text : Array Char) (place : Nat) (pending : List Thread) :
    List Thread × Option Thread :=
  let seen := Array.replicate r.steps.size false
  match r.settle text place (pending.length + 2 * r.steps.size) pending seen [] with
  | t :: waiting =>
    if t.step < r.steps.size then (t :: waiting, none) else (waiting, some t)
  | [] => ([], none)

def goesOver (r : Regular) (step : Nat) (c : Char) : Bool :=
  match r.steps[step]? with
  | some (.test members) => members.contains c.toNat
  | _ => false

def advance (r : Regular) (c : Char) (waiting : List Thread) : List Thread :=
  waiting.foldl (fun moved t => if r.goesOver t.step c then t.move 1 :: moved else moved) []

/-- The end of the preferred match of a run, and the places that it remembers. `best` is the
preferred one of the matches that ended before. -/
def run (r : Regular) (text : Array Char) (best : Option (Nat × List (Nat × Nat)))
    (place : Nat) (pending : List Thread) : Option (Nat × List (Nat × Nat)) :=
  let (waiting, ended) := r.settled text place pending
  let best := (ended.map fun t => (place, t.places)) <|> best
  if h : place < text.size then
    match r.advance text[place] waiting with
    | [] => best
    | pending => r.run text best (place + 1) pending
  else best
termination_by text.size - place

def matchAt? (r : Regular) (text : Array Char) (place : Nat) : Option (Nat × List (Nat × Nat)) :=
  r.run text none place [⟨0, []⟩]

/-- Whether a match starts at a place or after it, or belongs to one of the threads. -/
def occursFrom (r : Regular) (text : Array Char) (place : Nat) (pending : List Thread) : Bool :=
  let (waiting, ended) := r.settled text place (pending ++ [⟨0, []⟩])
  if ended.isSome then true
  else if h : place < text.size then
    r.occursFrom text (place + 1) (r.advance text[place] waiting)
  else false
termination_by text.size - place

def occursIn (r : Regular) (text : Array Char) : Bool := r.occursFrom text 0 []

end Regular

end SchemaRegistry.Pattern

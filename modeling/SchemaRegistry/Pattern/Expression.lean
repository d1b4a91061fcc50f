import SchemaRegistry.Pattern.Assertion

/-!
Expressions that patterns are read into, and what can be said of an expression before it is run: how
few characters it matches, whether that number is fixed, and whether matching it takes more than a
regular expression does.
-/

namespace SchemaRegistry.Pattern

/-- The ways of looking around a place. -/
inductive Look where
  | ahead
  | notAhead
  | behind
  | notBehind
  deriving DecidableEq, Inhabited

def Look.isBehind : Look → Bool
  | behind | notBehind => true
  | ahead | notAhead => false

/-- Whether the look succeeds where its expression does not match. -/
def Look.isNegative : Look → Bool
  | notAhead | notBehind => true
  | ahead | behind => false

/-- A pattern as a tree. Of several choices the first that lets the whole pattern match is taken. -/
inductive Expression where
  | empty
  /-- Matches one character of a set, which was read from something nested this deep. -/
  | set (members : CodePointSet) (nesting : Nat)
  | assertion (a : Assertion)
  | sequence (parts : List Expression)
  | choice (choices : List Expression)
  | group (number : Nat) (body : Expression)
  | look (kind : Look) (body : Expression)
  | repetition (body : Expression) (low : Nat) (high : Option Nat) (greedy : Bool)
  | reference (group : Nat)
  /-- Takes the first way in which its body matches and no other. -/
  | atomic (body : Expression)
  /-- Leaves what has been matched so far out of the match. -/
  | keepOut
  /-- Matches no characters at the place where the search began. -/
  | searchStart
  | hasMatched (group : Nat)
  /-- Matches `yes` after the condition, and `no` where the condition does not match. -/
  | conditional (condition yes no : Expression)
  deriving Inhabited

namespace Expression

def isEmpty : Expression → Bool
  | empty => true
  | _ => false

def isGroupTest : Expression → Bool
  | hasMatched _ => true
  | _ => false

def isRepeatable : Expression → Bool
  | look _ _ | empty | assertion _ => false
  | _ => true

/-- One of several choices; a single choice is itself. -/
def ofChoices : List Expression → Expression
  | [e] => e
  | choices => choice choices

/-- Several parts in sequence; a single part is itself. -/
def ofParts : List Expression → Expression
  | [] => empty
  | [e] => e
  | parts => sequence parts

/-- What an expression demands of a matcher: the least number of characters in a match, whether all
matches have that many, and whether it is more than a regular expression. -/
structure Demand where
  least : Nat
  fixed : Bool
  hard : Bool
  deriving DecidableEq, Inhabited

def Demand.sequence (parts : List Demand) : Demand :=
  ⟨parts.foldl (fun total part => total + part.least) 0, parts.all Demand.fixed,
    parts.any Demand.hard⟩

def Demand.choice (choices : List Demand) : Demand :=
  match choices with
  | [] => ⟨0, true, false⟩
  | first :: _ =>
    ⟨choices.foldl (fun least d => min least d.least) first.least,
      choices.all fun d => d.fixed && d.least = first.least, choices.any Demand.hard⟩

mutual

/-- What an expression demands. A group in `referenced` is hard, since a reference to it can force
another of its matches. -/
def demand (referenced : List Nat) : Expression → Demand
  | empty => ⟨0, true, false⟩
  | set _ _ => ⟨1, true, false⟩
  | assertion a => ⟨0, true, a.aboutWords⟩
  | sequence parts => .sequence (demands referenced parts)
  | choice choices => .choice (demands referenced choices)
  | group number body =>
    let d := body.demand referenced
    { d with hard := d.hard || referenced.contains number }
  | look _ _ => ⟨0, true, true⟩
  | repetition body low high _ =>
    let d := body.demand referenced
    ⟨d.least * low, d.fixed && high = some low, d.hard⟩
  | reference _ => ⟨0, false, true⟩
  | atomic body => { body.demand referenced with hard := true }
  | keepOut => ⟨0, true, true⟩
  | searchStart => ⟨0, true, true⟩
  | hasMatched _ => ⟨0, true, true⟩
  | conditional condition yes no =>
    let c := condition.demand referenced
    let y := yes.demand referenced
    let n := no.demand referenced
    ⟨c.least + min y.least n.least,
      c.fixed && y.fixed && n.fixed && c.least + y.least = n.least, true⟩

def demands (referenced : List Nat) : List Expression → List Demand
  | [] => []
  | e :: rest => e.demand referenced :: demands referenced rest

end

mutual

def groups : Expression → List Nat
  | sequence parts => groupsOf parts
  | choice choices => groupsOf choices
  | group number body => number :: body.groups
  | look _ body => body.groups
  | repetition body _ _ _ => body.groups
  | atomic body => body.groups
  | conditional condition yes no => condition.groups ++ yes.groups ++ no.groups
  | empty | set _ _ | assertion _ | reference _ | keepOut | searchStart | hasMatched _ => []

def groupsOf : List Expression → List Nat
  | [] => []
  | e :: rest => e.groups ++ groupsOf rest

end

end Expression

end SchemaRegistry.Pattern

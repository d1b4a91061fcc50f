import SchemaRegistry.Pattern.Escape

/-!
The grammar of patterns. A pattern is one or more branches, a branch a row of pieces, and a piece an
atom that can be repeated. Atoms hold whole patterns again, in groups of many kinds; the readers of
groups are given the reader of the patterns in them, so that the depth of the groups can be bounded.
-/

namespace SchemaRegistry.Pattern

/-- A pattern that has been read: its expression, the number of its groups, and the groups that it
refers to. -/
structure Parsed where
  expression : Expression
  groups : Nat
  referenced : List Nat

namespace Reader

/-- Reads the least and the greatest number of repetitions in braces. The greatest number there is
means that there is no bound. -/
def braces : Reader (Nat × Option Nat) := do
  expect ['\x7b']
  skipBlanks
  let low ← if (← peek?) = some ',' then pure 0 else number
  skipBlanks
  let mut high := some low
  if ← accept [','] then
    skipBlanks
    high ← some <$> number <|> pure none
    skipBlanks
  expect ['\x7d']
  return (low, high.filter (· + 1 < numberBound))

/-- Reads the number of repetitions of the atom before it, if it is repeated. Braces that hold no
such number stand for themselves. -/
def repetitions? : Reader (Option (Nat × Option Nat)) := do
  match ← peek? with
  | some '?' => skip 1; return some (0, some 1)
  | some '*' => skip 1; return some (0, none)
  | some '+' => skip 1; return some (1, none)
  | some '\x7b' => some <$> braces <|> pure none
  | _ => return none

def repeated (body : Expression) (low : Nat) (high : Option Nat) : Reader Expression := do
  unless body.isRepeatable do failure
  skipBlanks
  let reluctant ← accept ['?']
  let e := .repetition body low high (reluctant == (← flags).swapGreed)
  return if ← accept ['+'] then .atomic e else e

def look (kind : Look) (inner : Reader Expression) : Reader Expression := do
  let body ← inner
  close
  return .look kind body

def atomicGroup (inner : Reader Expression) : Reader Expression := do
  let body ← inner
  close
  return .atomic body

def capture (inner : Reader Expression) : Reader Expression := do
  let number ← openGroup
  let body ← inner
  close
  return .group number body

def namedCapture (inner : Reader Expression) : Reader Expression := do
  let number ← openGroup
  nameGroup (← name ['<'] ['>']) number
  let body ← inner
  close
  return .group number body

/-- A condition: a reference tests whether its group has matched. -/
def asCondition : Expression → Expression
  | .reference group => .hasMatched group
  | e => e

def condition (inner : Reader Expression) : Reader Expression := do
  let e ← match ← peek? with
    | some '\'' => return .hasMatched (← openedGroup (← groupBetween ['\''] ['\'']))
    | some '<' => return .hasMatched (← openedGroup (← groupBetween ['<'] ['>']))
    | some c =>
      if c.isDigit then return .hasMatched (← openedGroup (← groupNumber)) else inner
    | none => failure
  return asCondition e

def branchesOf : Expression → Expression × Expression
  | .choice (first :: others) => (first, .ofChoices others)
  | e => (e, .empty)

/-- Reads the rest of a conditional expression. Without branches it is a condition by itself, which
has to be one about a group. -/
def conditional (inner : Reader Expression) : Reader Expression := do
  let test ← condition inner
  close
  let before ← remaining
  let body ← inner
  let isBare := (← remaining) = before
  close
  if isBare then
    unless test.isGroupTest do failure
    return test
  let (yes, no) := branchesOf body
  return if yes.isEmpty && no.isEmpty then test else .conditional test yes no

/-- Reads letters that switch flags, up to a closing parenthesis or a colon. Returns whether it was
a colon. `before` is how much there was to read before the letters. -/
def flagLetters (before : Nat) (negated : Bool) : (steps : Nat) → Reader Bool
  | 0 => failure
  | steps + 1 => do
    skipBlanks
    let used := before - (← remaining)
    match ← next with
    | '-' =>
      if negated then failure
      flagLetters before true steps
    | ')' =>
      if used = 0 || negated && used = 1 then failure
      return false
    | ':' =>
      if negated && used = 1 then failure
      return true
    | c =>
      let some flags := (← flags).switch? (!negated) c | failure
      modify fun s => { s with flags }
      flagLetters before negated steps

/-- Reads flags. They hold for what follows them, or for the group that they open. -/
def flagGroup (inner : Reader Expression) : Reader Expression := do
  let before ← remaining
  let old ← flags
  if ← flagLetters before false (before + 1) then
    let body ← inner
    expect [')']
    modify fun s => { s with flags := old }
    return body
  else
    return .empty

def group (inner : Reader Expression) : Reader Expression := do
  skipBlanks
  if ← accept "?=".toList then look .ahead inner
  else if ← accept "?!".toList then look .notAhead inner
  else if ← accept "?<=".toList then look .behind inner
  else if ← accept "?<!".toList then look .notBehind inner
  else if ← accept "?P=".toList then reference (← groupNamed [] [')'])
  else if ← accept "?P".toList then namedCapture inner
  else if ← accept "?>".toList then atomicGroup inner
  else if ← accept "?(".toList then conditional inner
  else if "?<".toList.isPrefixOf (← get).rest then
    skip 1
    namedCapture inner
  else if ← accept "?".toList then flagGroup inner
  else capture inner

/-- Reads an atom. `inner?` reads the pattern in a group if there can be groups here. -/
def atom (inner? : Option (Reader Expression)) : Reader Expression := do
  skipBlanks
  let flags ← flags
  let some c ← peek? | return .empty
  if ['+', '*', '?', '|', ')'].contains c then return .empty
  skip 1
  match c with
  | '.' =>
    return if flags.dotMatchesAll then .set .full 1
      else .set (CodePointSet.single '\n'.toNat).complement 0
  | '^' => return .assertion (if flags.multiLine then .startOfLine else .startOfText)
  | '$' => return .assertion (if flags.multiLine then .endOfLine else .endOfText)
  | '(' =>
    let some inner := inner? | failure
    group inner
  | '\\' => escaped
  | '[' => bracket
  | c => return oneOf flags.ignoreCase c

def piece (inner? : Option (Reader Expression)) : Reader Expression := do
  let body ← atom inner?
  skipBlanks
  match ← repetitions? with
  | some (low, high) => repeated body low high
  | none => return body

/-- Reads pieces as long as there are any. `steps` bounds their number. -/
def pieces (inner? : Option (Reader Expression)) : (steps : Nat) → Reader (List Expression)
  | 0 => return []
  | steps + 1 => do
    let before ← remaining
    let e ← piece inner?
    if (← remaining) = before then return []
    let others ← pieces inner? steps
    return if e.isEmpty then others else e :: others

def branch (inner? : Option (Reader Expression)) : Reader Expression := do
  let parts ← pieces inner? (← remaining)
  skipBlanks
  return .ofParts parts

def otherBranches (inner? : Option (Reader Expression)) : (steps : Nat) → Reader (List Expression)
  | 0 => return []
  | steps + 1 => do
    if ← accept ['|'] then
      let e ← branch inner?
      return e :: (← otherBranches inner? steps)
    else
      return []

/-- Reads a pattern. One without a choice of branches cannot refer to groups by number when groups
have names. -/
def pattern (inner? : Option (Reader Expression)) : Reader Expression := do
  let first ← branch inner?
  match ← otherBranches inner? (← remaining) with
  | [] =>
    let s ← get
    if s.numbered && !s.names.isEmpty then failure
    return first
  | others => return .choice (first :: others)

def patternWithin : (depth : Nat) → Reader Expression
  | 0 => pattern none
  | depth + 1 => pattern (some (patternWithin depth))

def maxDepth : Nat := 63

end Reader

def Parsed.ofChars? (text : List Char) : Option Parsed := do
  let bytes := text.foldl (fun total c => total + c.utf8Size) 0
  let (expression, s) ← (Reader.patternWithin Reader.maxDepth).run
    { rest := text, numberLimit := bytes / 2 }
  if s.rest.isEmpty then some ⟨expression, s.opened, s.referenced⟩ else none

end SchemaRegistry.Pattern

import SchemaRegistry.Pattern.Backtracking
import SchemaRegistry.Pattern.Dialect
import SchemaRegistry.Pattern.Grammar

/-!
Patterns of schemas. A pattern matches a text if it matches some part of it.
-/

namespace SchemaRegistry

/-- The ways in which a pattern is run: regular expressions in lockstep, all others by trial. -/
inductive Pattern.Matcher where
  | regular (r : Pattern.Regular)
  | program (p : Pattern.Program)
  deriving Inhabited

/-- A pattern: the text that it was read from, and what runs it. -/
structure Pattern where
  source : String
  matcher : Pattern.Matcher
  deriving Inhabited

namespace Pattern

/-- What runs an expression that has been read, if it can be run. -/
def Matcher.ofParsed? (p : Parsed) : Option Matcher :=
  -- The regular parts of a program are held against the limit one by one.
  if (p.expression.demand p.referenced).hard then
    (Program.ofExpression? p.expression p.groups p.referenced).map program
  else if Expression.nestLimit < p.expression.nesting 0 then none
  else (Regular.ofExpression? p.expression).map regular

def Matcher.occursIn (text : Array Char) : Matcher → Bool
  | regular r => r.occursIn text
  | program p => p.occursIn text

def ofString? (source : String) : Option Pattern := do
  let parsed ← Parsed.ofChars? (Dialect.expand source.toList)
  return ⟨source, ← Matcher.ofParsed? parsed⟩

end Pattern

def Pattern.matches (p : Pattern) (text : String) : Bool := p.matcher.occursIn text.toList.toArray

end SchemaRegistry

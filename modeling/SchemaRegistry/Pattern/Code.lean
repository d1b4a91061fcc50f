/-!
Code with relative jumps. The target of a jump is given by its distance, so the code of a whole is
put together from the code of its parts wherever that stands. The forks built here prefer another
round of a loop if it is greedy, and the way out of it if it is not.
-/

namespace SchemaRegistry.Pattern

/-- Kinds of instructions among which there are jumps and forks. Of the two places of a fork the
first is preferred. -/
class Branching (α : Type) where
  fork (first second : Int) : α
  jump (offset : Int) : α

namespace Code

variable {α : Type} [Branching α]

/-- Goes on at the next instruction or at an exit. -/
def enter (greedy : Bool) (exit : Int) : α :=
  if greedy then Branching.fork 1 exit else Branching.fork exit 1

/-- Goes back or on to the next instruction. -/
def again (greedy : Bool) (back : Int) : α :=
  if greedy then Branching.fork back 1 else Branching.fork 1 back

def optional (greedy : Bool) (code : List α) : List α := enter greedy (code.length + 1) :: code

def oneOrMore (greedy : Bool) (code : List α) : List α := code ++ [again greedy (-code.length)]

def anyNumber (greedy : Bool) (code : List α) : List α :=
  enter greedy (code.length + 2) :: code ++ [Branching.jump (-(code.length + 1))]

def exactly (n : Nat) (code : List α) : List α := (List.replicate n code).flatten

def atMost (greedy : Bool) (code : List α) : Nat → List α
  | 0 => []
  | n + 1 => optional greedy (code ++ atMost greedy code n)

/-- Code that runs one of several codes, the first that is possible. -/
def oneOf : List (List α) → List α
  | [] => []
  | [code] => code
  | code :: others =>
    let rest := oneOf others
    Branching.fork 1 (code.length + 2) :: code ++ Branching.jump (rest.length + 1) :: rest

end Code

end SchemaRegistry.Pattern

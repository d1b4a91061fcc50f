import SchemaRegistry.Text.Percent

/-!
JSON Pointers: sequences of tokens that locate a value inside a document. In the written form a
token is preceded by `/`, its own `/` is written `~1`, and its own `~` is written `~0`. A pointer is
read from the fragment of a URI, so percent-encoding is undone first.
-/

namespace SchemaRegistry

/-- A sequence of unescaped tokens, the outermost first. The empty one addresses the whole
document. -/
structure JsonPointer where
  tokens : List String
  deriving DecidableEq, Inhabited

/-- The reasons for which a text is not a pointer. -/
inductive PointerError where
  /-- The decoded text is not empty and does not start with a slash. -/
  | missingLeadingSlash (decoded : String)
  /-- The percent-decoded bytes are not UTF-8. -/
  | invalidPercentEncoding (raw : String)
  deriving DecidableEq

def PointerError.message : PointerError → String
  | missingLeadingSlash decoded => "JSON Pointer '" ++ decoded ++ "' does not start with '/'"
  | invalidPercentEncoding raw =>
    "JSON Pointer '" ++ raw ++ "' contains invalid percent-encoded data"

namespace JsonPointer

def root : JsonPointer := ⟨[]⟩

/-- The pointer to the member or item `token` of the value at `p`. -/
def push (p : JsonPointer) (token : String) : JsonPointer := ⟨p.tokens ++ [token]⟩

/-- The last token and the pointer without it; the empty pointer has no last token. -/
def pop (p : JsonPointer) : Option String × JsonPointer := (p.tokens.getLast?, ⟨p.tokens.dropLast⟩)

def escape : List Char → List Char
  | [] => []
  | '~' :: rest => '~' :: '0' :: escape rest
  | '/' :: rest => '~' :: '1' :: escape rest
  | c :: rest => c :: escape rest

/-- Reads one token. A `~` that is followed by neither `0` nor `1` is kept together with the
character after it, which is not looked at again. -/
def unescape : List Char → List Char
  | '~' :: '1' :: rest => '/' :: unescape rest
  | '~' :: '0' :: rest => '~' :: unescape rest
  | '~' :: c :: rest => '~' :: c :: unescape rest
  | c :: rest => c :: unescape rest
  | [] => []

/-- The written form as a list of characters. -/
def written (p : JsonPointer) : List Char :=
  p.tokens.flatMap fun token => '/' :: escape token.toList

/-- The written form: every token escaped and preceded by a slash. -/
def render (p : JsonPointer) : String := String.ofList p.written

def segments : List Char → List (List Char)
  | [] => [[]]
  | '/' :: rest => [] :: segments rest
  | c :: rest =>
    match segments rest with
    | [] => [[c]]
    | first :: others => (c :: first) :: others

/-- Reads a text from which percent-encoding has been removed. -/
def ofDecoded : List Char → Except PointerError JsonPointer
  | [] => .ok root
  | '/' :: rest => .ok ⟨(segments rest).map fun segment => String.ofList (unescape segment)⟩
  | other => .error (.missingLeadingSlash (String.ofList other))

/-- Reads a pointer from a fragment, which may be percent-encoded. -/
def parse (fragment : String) : Except PointerError JsonPointer :=
  match Percent.decode? fragment.toList with
  | some decoded => ofDecoded decoded
  | none => .error (.invalidPercentEncoding fragment)

end JsonPointer

end SchemaRegistry

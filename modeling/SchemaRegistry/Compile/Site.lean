import SchemaRegistry.Registry
import SchemaRegistry.Schema.Error

/-!
Reading the keywords of one schema object that hold no other schemas. A site is the object together
with the scopes that are open at it; every reader gives the value of a keyword, nothing when the
keyword is absent, or the error that names the keyword and the location of the object.
-/

namespace SchemaRegistry

/-- A schema object and the scopes at its place. -/
structure Site where
  scopes : Scopes
  members : List (String × Json)

/-- Whether a value has the form of a schema. -/
def Json.isSchema : Json → Bool
  | .object _ => true
  | .bool _ => true
  | _ => false

namespace Site

def keyword? (s : Site) (keyword : String) : Option Json := Json.member? keyword s.members

def fail {α : Type} (s : Site) (keyword : String) (kind : SchemaErrorKind) :
    Except CompileError α :=
  .error (.schema keyword s.scopes.uri kind)

/-- Reads a URL reference against the base of the site. -/
def resolve (s : Site) (keyword reference : String) : Except CompileError Url :=
  match Url.resolve s.scopes.base reference with
  | .ok uri => .ok uri
  | .error _ => s.fail keyword .invalidUri

def id? (s : Site) : Except CompileError (Option Url) :=
  match s.keyword? "$id" with
  | none => .ok none
  | some (.string reference) => do
    let id ← s.resolve "$id" reference
    if id.fragment.any (· ≠ "") then s.fail "$id" .idWithFragment
    else return some id.withoutFragment
  | some _ => s.fail "$id" .idNotString

def reference? (s : Site) : Except CompileError (Option Reference) :=
  match s.keyword? "$ref" with
  | none => .ok none
  | some (.string reference) => do
    let uri ← s.resolve "$ref" reference
    match uri.pointer with
    | .ok pointer =>
      let base := uri.withoutFragment
      return some ⟨location base pointer, base, pointer⟩
    | .error _ => s.fail "$ref" .invalidPointer
  | some _ => s.fail "$ref" .refNotString

def typeName (s : Site) : Json → Except CompileError PrimitiveType
  | .string name =>
    match PrimitiveType.ofName? name with
    | some type => .ok type
    | none => s.fail "type" .invalidTypeValue
  | _ => s.fail "type" .invalidTypeValue

/-- The types that `type` admits: one name, or the names in an array that is not empty. -/
def types? (s : Site) : Except CompileError (Option TypeSet) :=
  match s.keyword? "type" with
  | none => .ok none
  | some (.array []) => s.fail "type" .invalidTypeValue
  | some (.array names) => do
    let types ← names.mapM s.typeName
    return some (types.foldl TypeSet.insert TypeSet.empty)
  | some name => do
    let type ← s.typeName name
    return some (TypeSet.empty.insert type)

/-- A number, rounded to double precision. -/
def number? (s : Site) (keyword : String) : Except CompileError (Option Binary64) :=
  match s.keyword? keyword with
  | none => .ok none
  | some (.number n) => .ok (some n.toBinary64)
  | some _ => s.fail keyword .invalidNumberValue

/-- A number above zero. -/
def divisor? (s : Site) (keyword : String) : Except CompileError (Option Binary64) := do
  match ← s.number? keyword with
  | some divisor =>
    if divisor.value ≤ 0 then s.fail keyword .invalidNumberValue else return some divisor
  | none => return none

/-- A count. Integral double precision numbers count too; those beyond 64 bits stand for the
greatest count. -/
def natural? (s : Site) (keyword : String) : Except CompileError (Option Nat) :=
  match s.keyword? keyword with
  | none => .ok none
  | some (.number (.integer n)) =>
    if 0 ≤ n then .ok (some n.toNat) else s.fail keyword .invalidNaturalValue
  | some (.number (.double x)) =>
    if x.value.den = 1 && 0 ≤ x.value.num then .ok (some (min x.value.num.toNat (Nat.pow 2 64 - 1)))
    else s.fail keyword .invalidNaturalValue
  | some _ => s.fail keyword .invalidNaturalValue

/-- A flag, which is off when it is absent. -/
def flag (s : Site) (keyword : String) : Except CompileError Bool :=
  match s.keyword? keyword with
  | none => .ok false
  | some (.bool value) => .ok value
  | some _ => s.fail keyword .invalidBoolValue

def regexp (s : Site) (keyword source : String) : Except CompileError Pattern :=
  match Pattern.ofString? source with
  | some pattern => .ok pattern
  | none => s.fail keyword .invalidRegexpValue

def pattern? (s : Site) (keyword : String) : Except CompileError (Option Pattern) :=
  match s.keyword? keyword with
  | none => .ok none
  | some (.string source) => some <$> s.regexp keyword source
  | some _ => s.fail keyword .invalidRegexpValue

/-- The strings of an array, which may be empty. -/
def strings (s : Site) (keyword : String) : Json → Except CompileError (List String)
  | .array items => items.mapM fun
    | .string item => .ok item
    | _ => s.fail keyword .invalidStringValue
  | _ => s.fail keyword .invalidArrayValue

def required (s : Site) : Except CompileError (List String) :=
  match s.keyword? "required" with
  | none => .ok []
  | some value => s.strings "required" value

/-- The values that `enum` lists, of which there is at least one. -/
def enum? (s : Site) : Except CompileError (Option (List Json)) :=
  match s.keyword? "enum" with
  | none => .ok none
  | some (.array []) => s.fail "enum" .invalidArrayValue
  | some (.array options) => .ok (some options)
  | some _ => s.fail "enum" .invalidArrayValue

/-- The members of the object that a keyword holds; none when the keyword is absent. -/
def table (s : Site) (keyword : String) : Except CompileError (List (String × Json)) :=
  match s.keyword? keyword with
  | none => .ok []
  | some (.object members) => .ok members
  | some _ => s.fail keyword .invalidObjectValue

/-- The items of the array that a keyword holds, of which there is at least one; none when the
keyword is absent. -/
def list (s : Site) (keyword : String) : Except CompileError (List Json) :=
  match s.keyword? keyword with
  | none => .ok []
  | some (.array (first :: rest)) => .ok (first :: rest)
  | some _ => s.fail keyword .invalidArrayValue

end Site

end SchemaRegistry

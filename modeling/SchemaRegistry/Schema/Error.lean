import SchemaRegistry.Schema.Location

/-!
The reasons for which documents do not compile, and their wording.
-/

namespace SchemaRegistry

/-- What is wrong with the value of a keyword. -/
inductive SchemaErrorKind where
  | invalidTypeValue
  | schemaNotObject
  | invalidArrayValue
  | invalidNumberValue
  | invalidNaturalValue
  | invalidRegexpValue
  | invalidBoolValue
  | invalidStringValue
  | invalidObjectValue
  | idNotString
  | idWithFragment
  | refNotString
  | invalidUri
  | invalidPointer
  deriving DecidableEq

def SchemaErrorKind.message : SchemaErrorKind → String
  | invalidTypeValue => "expected a type name or a non-empty array of type names"
  | schemaNotObject => "expected a schema (object or boolean)"
  | invalidArrayValue => "expected a non-empty array"
  | invalidNumberValue => "expected a number"
  | invalidNaturalValue => "expected a non-negative integer"
  | invalidRegexpValue => "expected a valid regular expression"
  | invalidBoolValue => "expected a boolean"
  | invalidStringValue => "expected a string"
  | invalidObjectValue => "expected an object"
  | idNotString => "\x60$id\x60 must be a string"
  | idWithFragment => "\x60$id\x60 must not have a non-empty fragment"
  | refNotString => "\x60$ref\x60 must be a string"
  | invalidUri => "expected a valid URI reference"
  | invalidPointer => "URI fragment is not a JSON Pointer"

/-- A reason for which documents do not compile. -/
inductive CompileError where
  /-- A keyword of the schema at `location` holds a malformed value. -/
  | schema (keyword : String) (location : Url) (kind : SchemaErrorKind)
  /-- References that no document defines, in the order in which they were first met. -/
  | unresolvedReferences (uris : List Url)
  /-- Two different schemas have the same location. -/
  | conflictingDefinition (uri : Url)
  deriving DecidableEq

def CompileError.message : CompileError → String
  | schema keyword location kind =>
    "Invalid \x60" ++ keyword ++ "\x60 in schema at '" ++ location.render ++ "': " ++ kind.message
  | unresolvedReferences uris =>
    "Unresolved references: " ++ ", ".intercalate (uris.map Url.render)
  | conflictingDefinition uri => "Conflicting definitions for '" ++ uri.render ++ "'"

end SchemaRegistry

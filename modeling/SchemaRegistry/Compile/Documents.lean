import SchemaRegistry.Compile.Keywords

/-!
Compiling a list of documents into a registry. The first malformed keyword ends the compilation, and
so does a schema that differs from an earlier one at the same location. Once all documents are
stored, every reference must have a target.
-/

namespace SchemaRegistry

/-- Stores a schema and gives its place. -/
def register (entry : Entry) : Compile Nat := fun draft =>
  match draft.conflict? entry.raw entry.locations with
  | some uri => .error (.conflictingDefinition uri)
  | none => .ok (draft.entries.size, draft.push entry)

/-- Compiles a schema object at a place. The scopes change before its keywords are read if it
declares a base. -/
def compileObject (child : Compiler) (scopes : Scopes) (members : List (String × Json)) :
    Compile Nat := do
  let id ← Site.id? ⟨scopes, members⟩
  let inside := match id with
    | some base => scopes.declare base
    | none => scopes
  let keywords ← Site.keywords ⟨inside, members⟩ child
  register {
    node := ⟨inside.uri, id, .keywords keywords⟩
    raw := .object members
    locations := inside.locations
    -- The root of a document is a resource also without a base of its own.
    resource := if scopes.atRoot || id.isSome then some inside.base.withoutFragment else none }

/-- Compiles a schema at a place. An object takes one of the `levels` of nesting that are left. -/
def compileSchema : (levels : Nat) → Compiler
  | _, scopes, .bool accepts =>
    register {
      node := ⟨scopes.uri, none, .constant accepts⟩
      raw := .bool accepts
      locations := scopes.locations
      resource := none }
  | levels + 1, scopes, .object members => compileObject (compileSchema levels) scopes members
  | _, scopes, _ => throw (.schema "schema" scopes.uri .schemaNotObject)

/-- Compiles a document, which has as many levels as it is high. -/
def compileDocument (document : Json) : Compile Nat :=
  compileSchema document.height .document document

def compileDocuments (documents : List Json) : Compile (List Nat) :=
  documents.mapM compileDocument

/-- The registry of some documents in which every reference has a target. -/
def compile (documents : List Json) : Except CompileError Registry := do
  let (roots, draft) ← compileDocuments documents .empty
  let registry : Registry := ⟨draft.toStore, roots⟩
  match registry.unresolved with
  | [] => return registry
  | missing => throw (.unresolvedReferences missing)

end SchemaRegistry

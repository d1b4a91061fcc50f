import SchemaRegistry.Pointer
import SchemaRegistry.Url.Parse

/-!
The location of a schema: the URL of its document with a pointer as the fragment. All characters of
a pointer that a fragment would not keep are percent-encoded, and so is `%`, so that no two pointers
share a location.
-/

namespace SchemaRegistry

/-- The characters of a pointer that are percent-encoded in a location, besides control
characters. -/
def locationEscapes : List Char := Url.fragmentEscapes ++ ['%']

/-- The location of the value at `pointer` in the document at `base`. The document itself is
addressed without a fragment. -/
def location (base : Url) (pointer : JsonPointer) : Url :=
  if pointer.tokens.isEmpty then base.withoutFragment
  else base.withFragment (Percent.encode locationEscapes pointer.written)

/-- The pointer in the fragment of a URL. A URL without fragment addresses the whole document. -/
def Url.pointer (u : Url) : Except PointerError JsonPointer :=
  JsonPointer.parse (u.fragment.getD "")

/-- The base URL of documents that do not name one. -/
def defaultBase : Url := ⟨none, .segments "/", none, some ⟨"", "", "", none⟩, "json-schema"⟩

/-- A base URL that is in force at a place in a document, and the way from where it was declared to
that place. -/
structure Scope where
  base : Url
  pointer : JsonPointer
  deriving DecidableEq, Inhabited

/-- The location of the place within the scope. -/
def Scope.location (s : Scope) : Url := SchemaRegistry.location s.base s.pointer

/-- The scopes that are open at a place: the one declared last, and those around it from the inside
out. -/
structure Scopes where
  inner : Scope
  outer : List Scope
  deriving DecidableEq, Inhabited

namespace Scopes

/-- The scope of a document that has not declared a base. -/
def document : Scopes := ⟨⟨defaultBase, .root⟩, []⟩

def toList (s : Scopes) : List Scope := s.inner :: s.outer

/-- The base URL against which references are resolved. -/
def base (s : Scopes) : Url := s.inner.base

/-- The location that names a place: the one in the innermost scope. -/
def uri (s : Scopes) : Url := s.inner.location

/-- The locations of a place in all open scopes, the innermost first. -/
def locations (s : Scopes) : List Url := s.toList.map Scope.location

/-- Whether the place is the root of a document. -/
def atRoot (s : Scopes) : Bool := s.outer.isEmpty && s.inner.pointer.tokens.isEmpty

/-- The scopes at the member or item `token` of the place. -/
def push (s : Scopes) (token : String) : Scopes :=
  ⟨⟨s.inner.base, s.inner.pointer.push token⟩,
    s.outer.map fun scope => ⟨scope.base, scope.pointer.push token⟩⟩

def descend (s : Scopes) (path : List String) : Scopes := path.foldl push s

/-- Declares a base at the place. At the root of a document it replaces the base of the document;
elsewhere it opens a scope of its own. -/
def declare (s : Scopes) (base : Url) : Scopes :=
  if s.atRoot then ⟨⟨base, s.inner.pointer⟩, s.outer⟩ else ⟨⟨base, .root⟩, s.toList⟩

end Scopes

end SchemaRegistry

import SchemaRegistry.Unicode.Property
import SchemaRegistry.Unicode.ScriptExtension

/-!
Finding a set of code points by name. Case, blanks, hyphens and underscores in a name do not count,
nor does a leading `is`.

Of the properties with several values, the general category, the script and the scripts in which a
code point is used are known here. The version in which a code point was assigned and the properties
about where texts can be broken are not, and a pattern with one of these is refused.
-/

namespace SchemaRegistry.Unicode

def normalizeName (name : List Char) : String :=
  let kept := (name.filter fun c => c.toNat < 128 && c ≠ ' ' && c ≠ '_' && c ≠ '-').map Char.toLower
  let named := (name.take 2).map Char.toLower = ['i', 's']
  let short := if named then kept.drop 2 else kept
  String.ofList (if named && short = ['c'] then kept else short)

/-- The names that stand for a category although properties have them too. -/
def categoryFirst : List String := ["cf", "sc", "lc"]

/-- The set with a name: a property, a general category or a script. -/
def named? (name : List Char) : Option CodePointSet :=
  let name := normalizeName name
  let property := if categoryFirst.contains name then none else property? name
  property <|> category? name <|> script? name

/-- The code points for which a property of several values has the given one. -/
def valued? (property value : List Char) : Option CodePointSet :=
  let property := normalizeName property
  let value := normalizeName value
  if property = "gc" || property = "generalcategory" then category? value
  else if property = "sc" || property = "script" then script? value
  else if property = "scx" || property = "scriptextensions" then scriptExtension? value
  else none

def orComplement (negated : Bool) (s : CodePointSet) : CodePointSet :=
  if negated then s.complement else s

def splitAtMark? (mark : List Char) : List Char → Option (List Char × List Char)
  | [] => none
  | c :: rest =>
    if mark.isPrefixOf (c :: rest) then some ([], (c :: rest).drop mark.length)
    else (splitAtMark? mark rest).map fun (before, after) => (c :: before, after)

/-- The set that the text in the braces of a property escape denotes, with a sign for a negated
test. -/
def query? (text : List Char) : Option (Bool × CodePointSet) :=
  match splitAtMark? ['!', '='] text with
  | some (property, value) => (valued? property value).map (true, ·)
  | none =>
    match splitAtMark? [':'] text <|> splitAtMark? ['='] text with
    | some (property, value) => (valued? property value).map (false, ·)
    | none => (named? text).map (false, ·)

end SchemaRegistry.Unicode

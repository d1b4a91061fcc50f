import SchemaRegistry.Proofs.Addressing.Conflicts
import SchemaRegistry.Proofs.Reports.Assertions
import SchemaRegistry.Proofs.Reports.Visits

/-!
The schema paths of violations. A visit leads from the schema of its frame down to the schema that
fails, by the keywords at which the schemas between them hold each other. As compiled schemas hold
each other at the same places as their texts do, the path of the visit leads through the text of the
frame to the text of the schema that fails, and from there on to what this schema asserts.
-/

namespace SchemaRegistry

/-- What lies in the text of a schema at the path of a sub-schema is the sub-schema. -/
theorem Json.at?_of_subschema {raw value : Json} {path : List String}
    (hdistinct : raw.keysDistinct = true) (hslot : (path, value) ∈ raw.subschemas) :
    raw.at? path = some value := by
  cases raw with
  | object members =>
      obtain ⟨keyword, held, hvalue, hplace⟩ := heldAt_of_subschema hslot
      rcases hplace with hplace | ⟨items, index, rfl, hitem, hpath⟩ |
        ⟨inner, name, rfl, hmember, hpath⟩
      · cases hplace
        simp [hvalue]
      · obtain rfl : path = [keyword, toString index] := hpath
        simp [hvalue, hitem]
      · obtain rfl : path = [keyword, name] := hpath
        have hinner : (object inner).keysDistinct = true := keysDistinct_of_child? hdistinct hvalue
        have hchild := child?_of_mem hinner hmember
        simp [hvalue, hchild]
  | _ => cases hslot

namespace Registry

variable {r : Registry} {options : Options}

/-- A way down from one schema to another, along sub-schemas. -/
inductive Leads (r : Registry) : Nat → List String → Nat → Prop
  | here (index : Nat) : Leads r index [] index
  | down {index held inner : Nat} {node : Node} {slot path : List String}
      (hnode : r.node? index = some node) (hslot : (slot, held) ∈ node.slots)
      (hrest : Leads r held path inner) : Leads r index (slot ++ path) inner

/-- A visit leads from the schema of its frame down to its own. -/
theorem Visits.leads {index : Nat} {value : Json} {visit : Visit}
    (hvisit : r.Visits index value visit) :
    r.Leads (visit.frame.getD index) visit.path visit.schema := by
  induction hvisit with
  | start index value => exact .here index
  | @via index inner value node call visit hnode hcall hlink hvisit ih =>
      obtain ⟨schema, part, item, frame, path, named⟩ := visit
      have hdown : ∀ slot, (slot, inner) ∈ node.slots →
          r.Leads (frame.getD index) (if frame.isNone then slot ++ path else path) schema := by
        intro slot hslot
        cases frame with
        | none => exact .down hnode hslot ih
        | some target => exact ih
      cases hcall with
      | part hslot hpath hpart =>
          cases hlink
          exact hdown _ hslot
      | name hslot hmember =>
          cases hlink
          exact hdown _ hslot
      | target hreference =>
          -- The path starts anew at the target, which is the frame if there is none further on.
          simpa [Visit.via] using ih

/-- A way down leads through the text of the schema at its start. -/
theorem Leads.at?_eq {places : List Position} (harranged : Arranged r.entries places)
    (hdistinct : ∀ p ∈ places, p.raw.keysDistinct = true) {index inner : Nat} {path : List String}
    (hleads : r.Leads index path inner) {last : Entry} (hlast : r.entries[inner]? = some last) :
    ∃ first, r.entries[index]? = some first ∧ first.raw.at? path = some last.raw := by
  induction hleads with
  | here index => exact ⟨last, hlast, rfl⟩
  | @down index held inner node slot path hnode hslot hrest ih =>
      obtain ⟨next, hnext, hat⟩ := ih hlast
      obtain ⟨first, hfirst, rfl⟩ := Option.map_eq_some_iff.mp hnode
      obtain ⟨p, hp⟩ := harranged.exists_position hfirst
      have hcompiled := harranged.compiled index first p hfirst hp
      obtain ⟨-, value, hvalue, hplace⟩ := hcompiled.slots slot held hslot
      have hraw : next.raw = value := (harranged.compiled held next _ hnext hplace).raw
      have hslotted := Json.at?_of_subschema (hdistinct p (List.mem_of_getElem? hp)) hvalue
      refine ⟨first, hfirst, ?_⟩
      rw [hcompiled.raw, Json.at?_append_of_some hslotted, ← hraw]
      exact hat

/-- A validation that starts with a schema does not accept the value, whether it records violations
or only counts them. -/
structure Refuses (r : Registry) (options : Options) (index : Nat) (value : Json) : Prop where
  counted : (r.run options 0 index value).map Machine.clean = .ok false
  recorded : ∀ maxErrors, 1 ≤ maxErrors →
    (r.validateAt { options with maxErrors } index value).map Outcome.isValid = .ok false

theorem refuses_of_judge {index : Nat} {value : Json} {f : Findings}
    (hjudge : r.judge options.epsilon options.maxStackDepth index value = .ok f)
    (hclean : f.clean = false) : r.Refuses options index value := by
  have hcounted : ∀ other : Options, other.epsilon = options.epsilon →
      other.maxStackDepth = options.maxStackDepth →
      (r.run other 0 index value).map Machine.clean = .ok false := by
    intro other hepsilon hdepth
    rw [run_clean_eq]
    unfold judgeFrom
    rw [hepsilon, hdepth, hjudge]
    exact congrArg Except.ok hclean
  refine ⟨hcounted options rfl rfl, fun maxErrors hroom => ?_⟩
  rw [validateAt_isValid_eq hroom]
  exact hcounted _ rfl rfl

end Registry

/-- How a violation comes about. The validation visits a schema `inner`, which lies in the text of
the schema `frame` at the path of the visit. It asserts something there, to which the rest of the
schema path leads, and refuses the value of the visit. This value lies where the instance path says,
or below a schema for names it is the name of the member there. -/
structure Violation.Founded (v : Violation) (r : Registry) (options : Options) (index : Nat)
    (value : Json) (visit : Visit) (frame inner : Entry) (rest : List String) (pointed : Json) :
    Prop where
  visited : r.Visits index value visit
  landed : r.entries[visit.frame.getD index]? = some frame
  stored : r.entries[visit.schema]? = some inner
  leads : r.Leads (visit.frame.getD index) visit.path visit.schema
  uri : v.schemaUri = frame.node.uri
  path : v.schemaPath.tokens = visit.path ++ rest
  subschema : frame.raw.at? visit.path = some inner.raw
  asserts : inner.raw.Asserts rest pointed
  resolves : frame.raw.at? v.schemaPath.tokens = some pointed
  item : v.instancePath.tokens = visit.item
  checked : (visit.named = false ∧ value.at? v.instancePath.tokens = some visit.value) ∨
    (visit.named = true ∧ ∃ name, v.instancePath.tokens.getLast? = some name ∧
      visit.value = .string name)
  refused : r.Refuses options visit.schema visit.value

/-- Whichever schema a validation of a registry starts with, every violation is founded in the text
of the schema that its URL names: its path leads there to a schema that is `false`, to the value of
a keyword, or to a name that is listed under a keyword, and the schema at which it does refuses the
value that was checked. Neither the documents nor the value repeat a key in an object. -/
theorem compile_schemaPaths_founded {documents : List Json} {r : Registry}
    (hcompile : compile documents = .ok r)
    (hdistinct : ∀ raw ∈ documents, raw.keysDistinct = true) (options : Options) (index : Nat)
    {value : Json} (hvalue : value.keysDistinct = true) {outcome : Outcome}
    (hresult : r.validateAt options index value = .ok outcome) :
    ∀ v ∈ outcome.violations, ∃ visit frame inner rest pointed,
      v.Founded r options index value visit frame inner rest pointed := by
  intro v hv
  have harranged := compile_arranged hcompile
  have hkeys : ∀ p ∈ positions documents, p.raw.keysDistinct = true := fun p hp =>
    keysDistinct_of_mem_positions hdistinct hp
  obtain ⟨visit, rest, hvisit, hfails, rfl⟩ :=
    (compile_postOrdered hcompile).exists_visit_of_violation hvalue hresult hv
  obtain ⟨node, hnode, hpath⟩ := hfails.failed
  obtain ⟨f, hjudge, hclean⟩ := hfails.rejected
  obtain ⟨inner, hinner, rfl⟩ := Option.map_eq_some_iff.mp hnode
  obtain ⟨p, hp⟩ := harranged.exists_position hinner
  have hcompiled := harranged.compiled visit.schema inner p hinner hp
  obtain ⟨pointed, hasserts⟩ := hcompiled.asserts (hkeys p (List.mem_of_getElem? hp)) hpath
  rw [← hcompiled.raw] at hasserts
  obtain ⟨frame, hframe, hat⟩ := hvisit.leads.at?_eq harranged hkeys hinner
  refine ⟨visit, frame, inner, rest, pointed, ?_⟩
  constructor
  case visited => exact hvisit
  case landed => exact hframe
  case stored => exact hinner
  case leads => exact hvisit.leads
  case uri => simp [Registry.landing, Registry.uriOf?, Registry.node?, hframe]
  case path => rfl
  case subschema => exact hat
  case asserts => exact hasserts
  case resolves => exact (Json.at?_append_of_some hat rest).trans hasserts.at?_eq
  case item => rfl
  case checked =>
    rcases hvisit.located with hpart | ⟨hnamed, name, held, hlast, hname, -⟩
    · exact Or.inl hpart
    · exact Or.inr ⟨hnamed, name, hlast, hname⟩
  case refused => exact Registry.refuses_of_judge hjudge hclean

/-- A schema with a scope of its own for one member, from where a reference leads to a schema for
names. -/
def reportingDocument : Json :=
  .object [("required", .array [.string "id"]),
    ("dependencies", .object [("a/b", .array [.string "c"])]),
    ("properties", .object [("b", .bool false), ("a/b", .object [("$id", .string "inner.json"),
      ("anyOf", .array [.object [("type", .string "string")],
        .object [("$ref", .string "#/definitions/~1names")]]),
      ("definitions", .object [("/names", .object [("propertyNames",
        .object [("maxLength", .number (.integer 1))])])])])])]

def reportedValue : Json := .object [("a/b", .object [("long", .null)]), ("b", .null)]

/-- A scope inside of a schema leaves the frame as it is, a reference opens another one. -/
theorem schemaPaths_founded_nested :
    ∃ r outcome, compile [reportingDocument] = .ok r ∧
      (∀ raw ∈ [reportingDocument], raw.keysDistinct = true) ∧
      reportedValue.keysDistinct = true ∧
      r.validateAt Options.default 6 reportedValue = .ok outcome ∧
      outcome.violations.map (fun v => (v.schemaUri.render, v.schemaPath.tokens)) =
        [("json-schema:///", ["properties", "a/b", "anyOf", "0", "type"]),
          ("json-schema:///inner.json#/definitions/~1names", ["propertyNames", "maxLength"]),
          ("json-schema:///", ["properties", "b"]), ("json-schema:///", ["required", "0"]),
          ("json-schema:///", ["dependencies", "a/b", "0"])] ∧
      ∀ v ∈ outcome.violations, ∃ visit frame inner rest pointed,
        v.Founded r Options.default 6 reportedValue visit frame inner rest pointed := by
  have hchecked : (compile [reportingDocument]).toOption.map (fun r =>
      (r.validateAt Options.default 6 reportedValue).toOption.map fun outcome =>
        outcome.violations.map fun v => (v.schemaUri.render, v.schemaPath.tokens)) =
      some (some [("json-schema:///", ["properties", "a/b", "anyOf", "0", "type"]),
        ("json-schema:///inner.json#/definitions/~1names", ["propertyNames", "maxLength"]),
        ("json-schema:///", ["properties", "b"]), ("json-schema:///", ["required", "0"]),
        ("json-schema:///", ["dependencies", "a/b", "0"])]) := by decide +kernel
  obtain ⟨r, hcompile, hr⟩ := exists_ok_of_toOption hchecked
  obtain ⟨outcome, hresult, hviolations⟩ := exists_ok_of_toOption hr
  have hdistinct : ∀ raw ∈ [reportingDocument], raw.keysDistinct = true := by decide
  have hvalue : reportedValue.keysDistinct = true := by decide
  exact ⟨r, outcome, hcompile, hdistinct, hvalue, hresult, hviolations,
    compile_schemaPaths_founded hcompile hdistinct Options.default 6 hvalue hresult⟩

end SchemaRegistry

import SchemaRegistry.Proofs.Compile.Layout
import SchemaRegistry.Proofs.Reports.Visits

/-!
The instance paths of violations. Each of them leads to something in the value that was validated:
to the value of the visit at which the violation was found, or for a name to the member that has the
name.
-/

namespace SchemaRegistry

/-- The instance paths of all violations lead to something in the value. -/
def Outcome.Resolves (value : Json) (outcome : Outcome) : Prop :=
  ∀ v ∈ outcome.violations, ∃ held, value.at? v.instancePath.tokens = some held

namespace Registry

theorem PostOrdered.resolves {r : Registry} (hr : r.PostOrdered) {options : Options} {index : Nat}
    {value : Json} (hvalue : value.keysDistinct = true) {outcome : Outcome}
    (hresult : r.validateAt options index value = .ok outcome) : outcome.Resolves value := by
  intro v hv
  obtain ⟨visit, path, hvisit, -, rfl⟩ := hr.exists_visit_of_violation hvalue hresult hv
  rcases hvisit.located with ⟨-, hpart⟩ | ⟨-, name, held, -, -, hheld⟩
  · exact ⟨visit.value, hpart⟩
  · exact ⟨held, hheld⟩

end Registry

/-- Whichever schema a validation starts with, and whatever references and names it comes by, the
instance path of every violation leads to something in the value, which does not repeat a key in an
object. -/
theorem compile_instancePaths_resolve {documents : List Json} {r : Registry}
    (hcompile : compile documents = .ok r) (options : Options) {value : Json}
    (hvalue : value.keysDistinct = true) :
    (∀ index outcome, r.validateAt options index value = .ok outcome → outcome.Resolves value) ∧
    (∀ outcome, r.validate options value = .ok outcome → outcome.Resolves value) ∧
    ∀ uri outcome, r.validateUri options uri value = .ok outcome → outcome.Resolves value := by
  have hat : ∀ index outcome, r.validateAt options index value = .ok outcome →
      outcome.Resolves value := fun index outcome hresult =>
    (compile_postOrdered hcompile).resolves hvalue hresult
  refine ⟨hat, fun outcome hresult => ?_, fun uri outcome hresult => ?_⟩
  · obtain ⟨index, -, hfound⟩ := bind_ok hresult
    exact hat index outcome hfound
  · obtain ⟨index, -, hfound⟩ := bind_ok hresult
    exact hat index outcome hfound

/-- A schema that comes to a member of an additional item by a reference, and to a name inside of
`anyOf` by another one. -/
def namingDocument : Json :=
  .object [("properties", .object [("a/b", .object [
      ("items", .array [.object [("type", .string "string")]]),
      ("additionalItems", .object [("$ref", .string "#/definitions/counted")])])]),
    ("anyOf", .array [.object [("propertyNames",
      .object [("$ref", .string "#/definitions/short")])], .bool false]),
    ("definitions", .object [
      ("counted", .object [("properties", .object [("0", .object [
        ("minimum", .number (.integer 1))])])]),
      ("short", .object [("maxLength", .number (.integer 3))])])]

def namedValue : Json :=
  .object [("a/b", .array [.string "x", .object [("0", .number (.integer 0))]]), ("~long", .null)]

/-- Tokens that look like indices, or would be escaped in writing, lead to members and items. -/
theorem instancePaths_resolve_named :
    ∃ r outcome, compile [namingDocument] = .ok r ∧ namedValue.keysDistinct = true ∧
      r.validate Options.default namedValue = .ok outcome ∧
      outcome.violations.map (·.instancePath.tokens) = [["a/b", "1", "0"], ["~long"], []] ∧
      outcome.Resolves namedValue := by
  have hchecked : (compile [namingDocument]).toOption.map (fun r =>
      (r.validate Options.default namedValue).toOption.map fun outcome =>
        outcome.violations.map (·.instancePath.tokens)) =
      some (some [["a/b", "1", "0"], ["~long"], []]) := by decide +kernel
  obtain ⟨r, hcompile, hr⟩ := exists_ok_of_toOption hchecked
  obtain ⟨outcome, hresult, hpaths⟩ := exists_ok_of_toOption hr
  have hvalue : namedValue.keysDistinct = true := by decide
  exact ⟨r, outcome, hcompile, hvalue, hresult, hpaths,
    (compile_instancePaths_resolve hcompile Options.default hvalue).2.1 outcome hresult⟩

end SchemaRegistry

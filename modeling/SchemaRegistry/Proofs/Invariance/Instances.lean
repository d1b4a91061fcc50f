import SchemaRegistry.Proofs.Invariance.Bisimulation

/-!
Values that are equal as data are not told apart. Every schema is alike to itself, so equality is a
bisimulation of a registry with itself: no keyword looks at the order of members or at the way in
which a number is written, and no order of the checks makes a difference between a verdict and a
lack of jumps.
-/

namespace SchemaRegistry

section Reflexivity

theorem rel_refl {α : Type} {S : α → α → Prop} (hrefl : ∀ a, S a a) (o : Option α) :
    Option.Rel S o o := by
  cases o with
  | none => exact .none
  | some a => exact .some (hrefl a)

theorem Matched.refl {α : Type} {S : α → α → Prop} (hrefl : ∀ a, S a a) (xs : List α) :
    Matched S xs xs :=
  ⟨fun x hx => ⟨x, hx, hrefl x⟩, fun x hx => ⟨x, hx, hrefl x⟩⟩

theorem Conditional.Alike.refl (c : Conditional) : c.Alike Eq c :=
  ⟨rfl, rel_refl (fun _ => rfl) _, rel_refl (fun _ => rfl) _⟩

theorem Items.Alike.refl (items : Items) : items.Alike Eq items := by
  cases items with
  | each schema => exact .each rfl
  | tuple schemas => exact .tuple (List.forall₂_same.mpr fun _ _ => rfl)

theorem Dependency.Alike.refl (dependency : Dependency) : dependency.Alike Eq dependency := by
  cases dependency with
  | keys names => exact .keys names
  | schema schema => exact .schema rfl

theorem ArrayRules.Alike.refl (rules : ArrayRules) : rules.Alike Eq rules where
  items := rel_refl Items.Alike.refl _
  additionalItems := rel_refl (fun _ => rfl) _
  minItems := rfl
  maxItems := rfl
  uniqueItems := rfl
  contains := rel_refl (fun _ => rfl) _

theorem ObjectRules.Alike.refl (rules : ObjectRules) : rules.Alike Eq rules where
  properties _ := rel_refl (fun _ => rfl) _
  patternProperties := Matched.refl (fun _ => ⟨rfl, rfl⟩) _
  additionalProperties := rel_refl (fun _ => rfl) _
  required := rfl
  minProperties := rfl
  maxProperties := rfl
  dependencies := Matched.refl (fun _ => ⟨rfl, Dependency.Alike.refl _⟩) _
  propertyNames := rel_refl (fun _ => rfl) _

theorem Combinators.Alike.refl (c : Combinators) : c.Alike Eq c where
  allOf := List.forall₂_same.mpr fun _ _ => rfl
  anyOf := List.forall₂_same.mpr fun _ _ => rfl
  oneOf := List.forall₂_same.mpr fun _ _ => rfl
  not := rel_refl (fun _ => rfl) _
  conditional := rel_refl Conditional.Alike.refl _

theorem Keywords.Alike.refl (k : Keywords) : k.Alike Eq k where
  reference := rfl
  types := rfl
  numbers := ⟨rfl, rfl, rfl, rfl, rfl⟩
  strings := rfl
  arrays := ArrayRules.Alike.refl _
  objects := ObjectRules.Alike.refl _
  enum hagree := by simp only [hagree.same_right]
  const hagree := by simp only [hagree.same_right]
  combinators := Combinators.Alike.refl _

theorem Node.Alike.refl (n : Node) : n.Alike Eq n := by
  unfold Node.Alike
  cases n.body with
  | constant accepts => exact .constant accepts
  | keywords k => exact .keywords (Keywords.Alike.refl k)

/-- A registry means the same as itself. -/
theorem Bisimulation.refl (r : Registry) : Bisimulation r r Eq where
  nodes := by
    rintro i _ rfl
    exact rel_refl Node.Alike.refl _
  targets := by
    rintro i _ rfl node reference - -
    exact rel_refl (fun _ => rfl) _

end Reflexivity

/-- Validation respects the equality of data. At every schema of a registry, equal values are both
accepted, both rejected, or both too much for the jumps that are allowed. -/
theorem compile_respects_equality {documents : List Json} {r : Registry}
    (hcompile : compile documents = .ok r) (options : Options) {v w : Json} (hv : v.Proper)
    (hw : w.Proper) (hsame : v.same w = true) :
    (∀ capacity index, Registry.EndsWell options (r.run options capacity index v) ∧
      (r.run options capacity index v).map Machine.clean =
        (r.run options capacity index w).map Machine.clean) ∧
      r.isValid options v = r.isValid options w := by
  have hsealed := compile_sealed hcompile
  have hr := compile_postOrdered hcompile
  have hruns : ∀ capacity index, (r.run options capacity index v).map Machine.clean =
      (r.run options capacity index w).map Machine.clean := by
    intro capacity index
    rw [hsealed.run_clean_eq, hsealed.run_clean_eq,
      (Bisimulation.refl r).verdict_eq hr hr _ _ rfl ⟨hv, hw, hsame⟩]
  refine ⟨fun capacity index =>
    ⟨hsealed.run_endsWell options capacity index v, hruns capacity index⟩, ?_⟩
  cases hroot : r.rootIndex with
  | error stop =>
      unfold Registry.isValid
      rw [hroot]
      rfl
  | ok root =>
      rw [Registry.isValid_eq hroot, Registry.isValid_eq hroot]
      exact hruns 0 root

/-- A list of points without repetition, each with an integer as its first coordinate. -/
def pointsSchema : Json :=
  .object [("uniqueItems", .bool true), ("items", .object [
    ("propertyNames", .object [("maxLength", .number (.integer 1))]),
    ("properties", .object [("x", .object [("type", .string "integer"),
      ("minimum", .number (.integer 1))])])])]

def points : Json :=
  .array [.object [("x", .number (.integer 1)), ("y", .number (.integer 2))],
    .object [("x", .number (.integer 1)), ("y", .number (.integer 1))]]

/-- The same points with their coordinates in another order, and each one as a fraction. -/
def rewrittenPoints : Json :=
  .array [.object [("y", .number (.integer 2)), ("x", .number (.double ⟨false, 2 ^ 52, -52⟩))],
    .object [("y", .number (.double ⟨false, 2 ^ 52, -52⟩)),
      ("x", .number (.double ⟨false, 2 ^ 52, -52⟩))]]

/-- A list of points is accepted however it is written. -/
theorem rewritten_points_accepted :
    ∃ r, compile [pointsSchema] = .ok r ∧ points.Proper ∧ rewrittenPoints.Proper ∧
      points.same rewrittenPoints = true ∧
      r.isValid Options.default rewrittenPoints = .ok true := by
  have hchecked : (compile [pointsSchema]).toOption.map (fun r =>
      (r.isValid Options.default points).toOption) = some (some true) := by decide +kernel
  obtain ⟨r, hcompile, hr⟩ := exists_ok_of_toOption hchecked
  have hvalid : r.isValid Options.default points = .ok true := by
    cases hresult : r.isValid Options.default points with
    | error stop => rw [hresult] at hr; cases hr
    | ok valid => rw [hresult] at hr; cases hr; rfl
  have hpoints : points.Proper := by decide +kernel
  have hrewritten : rewrittenPoints.Proper := by decide +kernel
  have hsame : points.same rewrittenPoints = true := by decide +kernel
  obtain ⟨-, hequal⟩ :=
    compile_respects_equality hcompile Options.default hpoints hrewritten hsame
  exact ⟨r, hcompile, hpoints, hrewritten, hsame, hequal.symm.trans hvalid⟩

end SchemaRegistry

import SchemaRegistry.Proofs.Judgement.Evident
import SchemaRegistry.Proofs.Validation.Capacity

/-!
The verdict without a record. One way to the verdict is to count violations and to record none, the
other is to see whether anything was recorded. A judgement that counts a violation has a finding to
record, so the two ways give one verdict as soon as there is room for one violation. How much room
there is beyond that has no part in the count.
-/

namespace SchemaRegistry

namespace Registry

variable {r : Registry} {options : Options}

/-- The count of a run is that of its judgement, whatever the machine records. -/
theorem run_clean_eq (capacity index : Nat) (value : Json) :
    (r.run options capacity index value).map Machine.clean =
      match r.judgeFrom options index value with
      | .ok f => .ok f.clean
      | .error stop => .error (stop.error options.maxStackDepth) := by
  rw [run_eq]
  cases r.judgeFrom options index value with
  | error stop => rfl
  | ok f =>
      change Except.ok (decide (0 + f.violations = 0)) = Except.ok (decide (f.violations = 0))
      rw [Nat.zero_add]

/-- What a run counts does not depend on what it records. -/
theorem run_clean_eq_of_capacity (capacity other index : Nat) (value : Json) :
    (r.run options capacity index value).map Machine.clean =
      (r.run options other index value).map Machine.clean := by
  rw [run_clean_eq, run_clean_eq]

theorem judgeFrom_evident (index : Nat) (value : Json) :
    (r.judgeFrom options index value).Evident :=
  (r.judge_evident options.epsilon options.maxStackDepth index value).map
    (fun _ => rfl) fun _ => List.length_map _

/-- A validation that has room for a violation records one exactly if the run counts one. -/
theorem validateAt_isValid_eq (hroom : 1 ≤ options.maxErrors) (index : Nat) (value : Json) :
    (r.validateAt options index value).map Outcome.isValid =
      (r.run options 0 index value).map Machine.clean := by
  rw [run_clean_eq, validateAt_eq]
  cases hjudge : r.judgeFrom options index value with
  | error stop => rfl
  | ok f =>
      have hevident : f.entries = [] ↔ f.violations = 0 := judgeFrom_evident index value f hjudge
      have hroom : options.maxErrors ≠ 0 := Nat.one_le_iff_ne_zero.mp hroom
      have hrecorded : (f.entries.map (Machine.start 0).locate).take options.maxErrors = [] ↔
          f.violations = 0 := by
        rw [List.take_eq_nil_iff, List.map_eq_nil_iff, or_iff_right hroom, hevident]
      apply congrArg Except.ok
      rw [Bool.eq_iff_iff]
      exact (List.isEmpty_iff.trans hrecorded).trans decide_eq_true_iff.symm

theorem isValid_eq_map_validate (hroom : 1 ≤ options.maxErrors) (value : Json) :
    r.isValid options value = (r.validate options value).map Outcome.isValid := by
  cases hindex : r.rootIndex with
  | error e =>
      unfold isValid validate
      rw [hindex]
      rfl
  | ok index => rw [isValid_eq hindex, validate_eq hindex, validateAt_isValid_eq hroom]

/-- The verdict alone is the verdict of the validation that records: there is one exactly if there
is the other, they are the same, and so are the errors where there is none. It does not change with
the number of violations that may be recorded, also if that is zero, and a run has it whatever its
capacity. -/
theorem isValid_agrees_validate (r : Registry) (options : Options) (value : Json) :
    (1 ≤ options.maxErrors →
      (∀ verdict, r.isValid options value = .ok verdict ↔
        ∃ outcome, r.validate options value = .ok outcome ∧ outcome.isValid = verdict) ∧
      ∀ e, r.isValid options value = .error e ↔ r.validate options value = .error e) ∧
    (∀ maxErrors, r.isValid { options with maxErrors } value = r.isValid options value) ∧
    ∀ index, r.rootIndex = .ok index → ∀ capacity,
      (r.run options capacity index value).map Machine.clean = r.isValid options value := by
  refine ⟨fun hroom => ?_, fun maxErrors => rfl, fun index hindex capacity => ?_⟩
  · rw [isValid_eq_map_validate hroom]
    exact ⟨fun verdict => map_eq_ok_iff, fun e => map_eq_error_iff⟩
  · rw [isValid_eq hindex, run_clean_eq_of_capacity]

/-- Where the only violations lie below nested schemas of `anyOf`, room for one of them is enough,
and with no room at all nothing but the count tells. -/
theorem isValid_agrees_nested :
    ∃ r outcome, compile [.object [("anyOf", .array [.object [("anyOf", .array
        [.bool false, .object [("type", .string "string")]])], .object [("minimum",
          .number (.integer 1))]])]] = .ok r ∧
      1 ≤ ({ Options.default with maxErrors := 1 } : Options).maxErrors ∧
      r.validate { Options.default with maxErrors := 1 } (.number (.integer 0)) = .ok outcome ∧
      outcome.isValid = false ∧
      (r.validate { Options.default with maxErrors := 0 } (.number (.integer 0))).toOption.map
        Outcome.isValid = some true ∧
      r.isValid { Options.default with maxErrors := 1 } (.number (.integer 0)) = .ok false ∧
      r.isValid { Options.default with maxErrors := 0 } (.number (.integer 0)) = .ok false := by
  have hchecked : (compile [.object [("anyOf", .array [.object [("anyOf", .array
      [.bool false, .object [("type", .string "string")]])], .object [("minimum",
        .number (.integer 1))]])]]).toOption.map (fun r =>
          ((r.validate { Options.default with maxErrors := 1 }
            (.number (.integer 0))).toOption.map Outcome.isValid,
          (r.validate { Options.default with maxErrors := 0 }
            (.number (.integer 0))).toOption.map Outcome.isValid)) =
        some (some false, some true) := by decide +kernel
  obtain ⟨r, hcompile, hr⟩ := exists_ok_of_toOption hchecked
  obtain ⟨hrecorded, hunrecorded⟩ := Prod.mk.inj hr
  obtain ⟨outcome, houtcome, hinvalid⟩ := exists_ok_of_toOption hrecorded
  have hroom : 1 ≤ ({ Options.default with maxErrors := 1 } : Options).maxErrors := by decide
  obtain ⟨hagrees, hignored, -⟩ :=
    isValid_agrees_validate r { Options.default with maxErrors := 1 } (.number (.integer 0))
  have hverdict := ((hagrees hroom).1 false).mpr ⟨outcome, houtcome, hinvalid⟩
  exact ⟨r, outcome, hcompile, hroom, houtcome, hinvalid, hunrecorded, hverdict,
    (hignored 0).trans hverdict⟩

end Registry

end SchemaRegistry

import SchemaRegistry.Proofs.Judgement.Run

/-!
The number of violations that may be recorded. It has no part in a judgement, so it decides neither
whether a validation has a result nor what is found, only how much of it is kept.
-/

namespace SchemaRegistry

namespace Registry

/-- A validation reports the findings of its judgement in order until the capacity is reached. -/
theorem validateAt_eq (r : Registry) (options : Options) (index : Nat) (value : Json) :
    r.validateAt options index value =
      match r.judgeFrom options index value with
      | .ok f => .ok ⟨(f.entries.map (Machine.start 0).locate).take options.maxErrors⟩
      | .error stop => .error (stop.error options.maxStackDepth) := by
  unfold validateAt
  rw [run_eq]
  cases r.judgeFrom options index value with
  | error stop => rfl
  | ok f =>
      have hrecorded : ((Machine.start options.maxErrors).absorb f).entries.toList =
          (f.entries.map (Machine.start 0).locate).take options.maxErrors := by
        have hlocate : (Machine.start options.maxErrors).locate = (Machine.start 0).locate := rfl
        have hroom : (Machine.start options.maxErrors).room = options.maxErrors := Nat.sub_zero _
        rw [Machine.entries_absorb, hlocate, hroom]
        simp [Machine.start]
      change Except.ok (Outcome.mk _) = Except.ok (Outcome.mk _)
      rw [hrecorded]

/-- Of two capacities the smaller one gives the same error or the same violations up to it: what is
recorded for it is the beginning of what is recorded for the larger one, however the violations were
collected. -/
theorem validateAt_take_of_le (r : Registry) (options : Options) {few many : Nat} (index : Nat)
    (value : Json) (hcapacity : few ≤ many) :
    r.validateAt { options with maxErrors := few } index value =
      (r.validateAt { options with maxErrors := many } index value).map
        fun outcome => ⟨outcome.violations.take few⟩ := by
  have hsame : r.judgeFrom { options with maxErrors := few } index value =
      r.judgeFrom { options with maxErrors := many } index value := rfl
  rw [validateAt_eq, validateAt_eq, hsame]
  cases r.judgeFrom { options with maxErrors := many } index value with
  | error stop => rfl
  | ok f =>
      have htake : (f.entries.map (Machine.start 0).locate).take few =
          ((f.entries.map (Machine.start 0).locate).take many).take few := by
        rw [List.take_take, Nat.min_eq_left hcapacity]
      change Except.ok (Outcome.mk _) = Except.ok (Outcome.mk _)
      rw [htake]

/-- Of the violations below two schemas of `anyOf` the first is kept. -/
theorem validateAt_take_nested :
    ∃ r, compile [.object [("anyOf", .array [.object [("type", .string "string"),
        ("minimum", .number (.integer 1))], .bool false])]] = .ok r ∧ 1 ≤ 3 ∧
      (r.validateAt { Options.default with maxErrors := 3 } 2 (.number (.integer 0))).toOption.map
        (·.violations.length) = some 3 ∧
      r.validateAt { Options.default with maxErrors := 1 } 2 (.number (.integer 0)) =
        (r.validateAt { Options.default with maxErrors := 3 } 2 (.number (.integer 0))).map
          fun outcome => ⟨outcome.violations.take 1⟩ := by
  have hchecked : (compile [.object [("anyOf", .array [.object [("type", .string "string"),
      ("minimum", .number (.integer 1))], .bool false])]]).toOption.map (fun r =>
        (r.validateAt { Options.default with maxErrors := 3 } 2
          (.number (.integer 0))).toOption.map (·.violations.length)) = some (some 3) := by
    decide +kernel
  obtain ⟨r, hcompile, hcount⟩ := exists_ok_of_toOption hchecked
  have hcapacity : 1 ≤ 3 := by decide
  exact ⟨r, hcompile, hcapacity, hcount,
    r.validateAt_take_of_le Options.default 2 _ hcapacity⟩

end Registry

end SchemaRegistry

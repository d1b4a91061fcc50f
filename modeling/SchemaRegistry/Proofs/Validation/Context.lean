import SchemaRegistry.Proofs.Graph.Recursion

/-!
What a check knows of the machine that runs it. It reads the number of jumps that are left and
nothing else, and it writes nothing but violations, whose paths it completes by those of the
machine. So two machines with the same number of jumps left stay side by side, and following a
reference is the same as validating against its target alone.
-/

namespace SchemaRegistry

/-- Two machines, possibly under different settings, with as many jumps left. Each has a schema
open. -/
structure SameBudget (first second : Options) (m n : Machine) : Prop where
  epsilon : first.epsilon = second.epsilon
  left_open : m.frames ≠ []
  right_open : n.frames ≠ []
  budget : (first.maxStackDepth : Int) - m.frames.length =
    (second.maxStackDepth : Int) - n.frames.length

namespace Machine

/-- The machine `after` stands where `before` stood, and has counted `violations` more and recorded
the findings, seen from there, for which there was room. -/
structure Extends (before after : Machine) (violations : Nat) (findings : List Finding) : Prop where
  instancePath : after.instancePath = before.instancePath
  frames : after.frames = before.frames
  capacity : after.capacity = before.capacity
  violations : after.violations = before.violations + violations
  entries : after.entries.toList =
    before.entries.toList ++ (findings.map before.locate).take before.room

theorem extends_absorb (m : Machine) (f : Findings) :
    m.Extends (m.absorb f) f.violations f.entries where
  instancePath := rfl
  frames := rfl
  capacity := rfl
  violations := rfl
  entries := by rw [entries_absorb, Array.toList_append]

end Machine

/-- The violation seen from a value with the validated one at `path`. -/
def Violation.under (path : JsonPointer) (v : Violation) : Violation :=
  { v with instancePath := ⟨path.tokens ++ v.instancePath.tokens⟩ }

/-- The machine `after` stands where `before` stood, and has counted and recorded what the machine
`alone` did, seen from there. -/
structure Machine.Includes (before after alone : Machine) : Prop where
  instancePath : after.instancePath = before.instancePath
  frames : after.frames = before.frames
  capacity : after.capacity = before.capacity
  violations : after.violations = before.violations + alone.violations
  entries : after.entries.toList =
    before.entries.toList ++ alone.entries.toList.map (Violation.under before.instancePath)

/-- The ends of one check on two machines: both run out of jumps, both miss the same schema, or both
go on with the same findings. -/
inductive SideBySide (first second : Options) (m n : Machine) :
    Except ValidateError (Unit × Machine) → Except ValidateError (Unit × Machine) → Prop
  | overflow :
      SideBySide first second m n (.error (.stackOverflow first.maxStackDepth))
        (.error (.stackOverflow second.maxStackDepth))
  | missing (uri : String) :
      SideBySide first second m n (.error (.noSuchSchema uri)) (.error (.noSuchSchema uri))
  | done {after after' : Machine} {violations : Nat} {findings : List Finding}
      (left : m.Extends after violations findings) (right : n.Extends after' violations findings) :
      SideBySide first second m n (.ok ((), after)) (.ok ((), after'))

/-- The end of a check after a jump, beside that of a validation against the target of the jump. -/
inductive AsAlone (options : Options) (m : Machine) :
    Except ValidateError (Unit × Machine) → Except ValidateError Machine → Prop
  | overflow (maxDepth : Nat) :
      AsAlone options m (.error (.stackOverflow options.maxStackDepth))
        (.error (.stackOverflow maxDepth))
  | missing (uri : String) :
      AsAlone options m (.error (.noSuchSchema uri)) (.error (.noSuchSchema uri))
  | done {after alone : Machine} (includes : m.Includes after alone) :
      AsAlone options m (.ok ((), after)) (.ok alone)

/-- Both machines settle one judgement. -/
theorem SameBudget.settle {first second : Options} {m n : Machine} (j : Judgement) :
    SideBySide first second m n (m.settle first.maxStackDepth j)
      (n.settle second.maxStackDepth j) := by
  cases j with
  | error stop =>
      cases stop with
      | overflow => exact .overflow
      | dangling target => exact .missing target.render
  | ok f => exact .done (m.extends_absorb f) (n.extends_absorb f)

/-- A finding from the far side of a reference depends on the machine only in its instance path. -/
theorem Machine.locate_landed (m : Machine) (capacity : Nat) (uri : Url) (f : Finding) :
    m.locate (f.landed uri) =
      ((Machine.start capacity).locate (f.landed uri)).under m.instancePath := by
  obtain ⟨instancePath, schemaPath, schemaUri⟩ := f
  simp [locate, Finding.landed, Finding.locate, Violation.under, start, JsonPointer.root]

theorem Machine.includes_absorb (m : Machine) (uri : Url) (f : Findings) :
    m.Includes (m.absorb (f.landed uri)) ((Machine.start m.room).absorb (f.landed uri)) where
  instancePath := rfl
  frames := rfl
  capacity := rfl
  violations := by
    change m.violations + f.violations = m.violations + (0 + f.violations)
    rw [Nat.zero_add]
  entries := by
    have hroom : (Machine.start m.room).room = m.room := Nat.sub_zero _
    have hstart : (Machine.start m.room).entries.toList = [] := rfl
    have hlocate : (f.landed uri).entries.map m.locate =
        ((f.landed uri).entries.map (Machine.start m.room).locate).map
          (Violation.under m.instancePath) := by
      simp only [Findings.entries_landed, List.map_map]
      exact List.map_congr_left fun entry _ => m.locate_landed m.room uri entry
    rw [entries_absorb, entries_absorb, Array.toList_append, Array.toList_append, hroom, hstart,
      List.nil_append, hlocate, ← List.map_take]

namespace Registry

variable {r : Registry} {options : Options}

open Check

/-- A reference is judged with one jump less, if its target is. -/
theorem follow_finds_judged {check : Checker} {opened : Nat} {reference : Reference}
    {value : Json}
    (hcheck : opened < options.maxStackDepth → ∀ index, r.lookup? reference.target = some index →
      Finds options.maxStackDepth (opened + 1) (check index value)
        (r.judge options.epsilon (options.maxStackDepth - (opened + 1)) index value)) :
    Finds options.maxStackDepth opened (r.follow options.maxStackDepth check reference value)
      (r.judgeFollow options.epsilon (options.maxStackDepth - opened) reference value) := by
  by_cases hroom : opened < options.maxStackDepth
  · have hjumps : options.maxStackDepth - opened =
        options.maxStackDepth - (opened + 1) + 1 := by omega
    rw [hjumps, judgeFollow_succ]
    exact follow_finds (hcheck hroom) hroom
  · have hjumps : options.maxStackDepth - opened = 0 := by omega
    rw [hjumps]
    exact follow_finds_overflow _ reference value (Nat.le_of_not_lt hroom)

theorem follow_exec_finds (options : Options) (opened : Nat) (reference : Reference)
    (value : Json) :
    Finds options.maxStackDepth opened
      (r.follow options.maxStackDepth (r.exec options) reference value)
      (r.judgeFollow options.epsilon (options.maxStackDepth - opened) reference value) :=
  follow_finds_judged fun _ target _ => exec_finds options (opened + 1) target value

/-- What lies behind a reference is reported as by a validation of its own, with one jump less. -/
theorem follow_asAlone (m : Machine) (reference : Reference) (value : Json) {target : Nat}
    (htarget : r.lookup? reference.target = some target) (hopen : m.frames ≠ [])
    (hroom : m.frames.length ≤ options.maxStackDepth) :
    AsAlone options m (r.follow options.maxStackDepth (r.exec options) reference value m)
      (r.run { options with maxStackDepth := options.maxStackDepth - m.frames.length } m.room target
        value) := by
  obtain ⟨opened, hframes⟩ : ∃ opened, m.frames.length = opened + 1 :=
    Nat.exists_eq_add_one.mpr (List.length_pos_iff.mpr hopen)
  have hjumps : options.maxStackDepth - opened =
      options.maxStackDepth - m.frames.length + 1 := by omega
  rw [follow_exec_finds options opened reference value m hframes, run_eq, hjumps, judgeFollow_succ]
  unfold judgeJump judgeFrom
  rw [htarget]
  dsimp only
  cases r.judge options.epsilon (options.maxStackDepth - m.frames.length) target value with
  | error stop =>
      cases stop with
      | overflow => exact .overflow _
      | dangling uri => exact .missing uri.render
  | ok f => exact .done (m.includes_absorb (r.landing target) f)

/-- Validation does not depend on its context. Under the same tolerance and with the same number of
jumps left, checking a value against a schema ends in the same way on both machines: each is back
where it stood, with the same findings added. And following a reference is the same as validating
the value against the target alone, with one jump less. -/
theorem exec_context_independent (r : Registry) (index : Nat) (value : Json)
    {first second : Options} {m n : Machine} (hbudget : SameBudget first second m n) :
    SideBySide first second m n (r.exec first index value m) (r.exec second index value n) ∧
      ∀ reference target, r.lookup? reference.target = some target →
        if m.frames.length ≤ first.maxStackDepth then
          AsAlone first m (r.follow first.maxStackDepth (r.exec first) reference value m)
            (r.run { first with maxStackDepth := first.maxStackDepth - m.frames.length } m.room
              target value)
        else
          r.follow first.maxStackDepth (r.exec first) reference value m =
            .error (.stackOverflow first.maxStackDepth) := by
  obtain ⟨hepsilon, hm, hn, hjumps⟩ := hbudget
  constructor
  · obtain ⟨opened, hopened⟩ : ∃ opened, m.frames.length = opened + 1 :=
      Nat.exists_eq_add_one.mpr (List.length_pos_iff.mpr hm)
    obtain ⟨opened', hopened'⟩ : ∃ opened, n.frames.length = opened + 1 :=
      Nat.exists_eq_add_one.mpr (List.length_pos_iff.mpr hn)
    have hsame : second.maxStackDepth - opened' = first.maxStackDepth - opened := by omega
    rw [exec_finds first opened index value m hopened,
      exec_finds second opened' index value n hopened', hepsilon, hsame]
    exact SameBudget.settle _
  · intro reference target htarget
    split
    · next hroom => exact follow_asAlone m reference value htarget hm hroom
    · next hfull =>
        rw [follow_apply, if_pos (Nat.lt_of_not_le hfull)]

/-- A reference that may be the last one is checked alike in the first frame and in a frame within
another one, from a place in the instance and with a violation on record. To follow it is to
validate against the schema behind it with no jump left. -/
theorem reference_context_independent :
    ∃ r m n target, compile [.object [("$ref", .string "#/definitions/none"),
        ("definitions", .object [("none", .bool false)])]] = .ok r ∧
      m = (Machine.start 5).openFrame defaultBase ∧
      n = ((((Machine.start 5).openFrame defaultBase).enterItem "x").record).openFrame defaultBase ∧
      target = location defaultBase ⟨["definitions", "none"]⟩ ∧ r.lookup? target = some 0 ∧
      SameBudget { Options.default with maxStackDepth := 1 }
        { Options.default with maxStackDepth := 2 } m n ∧
      SideBySide { Options.default with maxStackDepth := 1 }
        { Options.default with maxStackDepth := 2 } m n
        (r.exec { Options.default with maxStackDepth := 1 } 1 .null m)
        (r.exec { Options.default with maxStackDepth := 2 } 1 .null n) ∧
      AsAlone { Options.default with maxStackDepth := 1 } m
        (r.follow 1 (r.exec { Options.default with maxStackDepth := 1 })
          ⟨target, defaultBase, ⟨["definitions", "none"]⟩⟩ .null m)
        (r.run { Options.default with maxStackDepth := 0 } m.room 0 .null) := by
  have hchecked : (compile [.object [("$ref", .string "#/definitions/none"),
      ("definitions", .object [("none", .bool false)])]]).toOption.map (fun r =>
        r.lookup? (location defaultBase ⟨["definitions", "none"]⟩)) = some (some 0) := by
    decide +kernel
  obtain ⟨r, hcompile, htarget⟩ := exists_ok_of_toOption hchecked
  have hbudget : SameBudget { Options.default with maxStackDepth := 1 }
      { Options.default with maxStackDepth := 2 } ((Machine.start 5).openFrame defaultBase)
      (((((Machine.start 5).openFrame defaultBase).enterItem "x").record).openFrame defaultBase) :=
    ⟨rfl, List.cons_ne_nil _ _, List.cons_ne_nil _ _, rfl⟩
  obtain ⟨hexec, hfollow⟩ := exec_context_independent r 1 .null hbudget
  exact ⟨r, _, _, _, hcompile, rfl, rfl, rfl, htarget, hbudget, hexec,
    hfollow ⟨_, defaultBase, ⟨["definitions", "none"]⟩⟩ 0 htarget⟩

end Registry

end SchemaRegistry

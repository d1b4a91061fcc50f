import SchemaRegistry.Proofs.Judgement.Finding

/-!
Checks as judgements. A check finds a judgement if every machine that runs it with as many frames
open ends as the judgement says: it stands where it stood, and it has absorbed the findings. Every
way of building a check out of others has its counterpart on judgements, so the machine disappears
from everything that follows.
-/

namespace SchemaRegistry

namespace Machine

theorem leaveKeyword_enterKeyword (m : Machine) (token : String) :
    (m.enterKeyword token).leaveKeyword = m := by
  have hframes : ((m.enterKeyword token).leaveKeyword).frames = m.frames := by
    obtain ⟨instancePath, frames, capacity, violations, entries⟩ := m
    cases frames with
    | nil => rfl
    | cons frame rest =>
        simp [enterKeyword, leaveKeyword, JsonPointer.push, JsonPointer.pop]
  exact Machine.ext rfl hframes rfl rfl rfl

theorem leaveItem_enterItem (m : Machine) (token : String) : (m.enterItem token).leaveItem = m := by
  have hpath : ((m.enterItem token).leaveItem).instancePath = m.instancePath := by
    simp [enterItem, leaveItem, JsonPointer.push, JsonPointer.pop]
  exact Machine.ext hpath rfl rfl rfl rfl

/-- A finding below a keyword is one below the schema that has the keyword. -/
theorem locate_enterKeyword (m : Machine) (token : String) (hopen : m.frames ≠ []) :
    (m.enterKeyword token).locate = m.locate ∘ Finding.within [token] := by
  obtain ⟨instancePath, frames, capacity, violations, entries⟩ := m
  cases frames with
  | nil => exact absurd rfl hopen
  | cons frame rest =>
      funext f
      obtain ⟨findingPath, schemaPath, schemaUri⟩ := f
      cases schemaUri with
      | none => simp [enterKeyword, locate, Finding.locate, Finding.within, JsonPointer.push]
      | some uri => rfl

theorem locate_enterItem (m : Machine) (token : String) :
    (m.enterItem token).locate = m.locate ∘ Finding.under [token] := by
  funext f
  obtain ⟨findingPath, schemaPath, schemaUri⟩ := f
  cases schemaUri with
  | none => simp [enterItem, locate, Finding.locate, Finding.under, JsonPointer.push]
  | some uri => simp [enterItem, locate, Finding.locate, Finding.under, JsonPointer.push]

theorem leaveKeyword_absorb (m : Machine) (token : String) (f : Findings) (hopen : m.frames ≠ []) :
    ((m.enterKeyword token).absorb f).leaveKeyword = m.absorb (f.within [token]) := by
  have hframes := congrArg Machine.frames (m.leaveKeyword_enterKeyword token)
  have hentries : (((m.enterKeyword token).absorb f).leaveKeyword).entries =
      (m.absorb (f.within [token])).entries := by
    change m.entries ++ ((f.entries.map (m.enterKeyword token).locate).take m.room).toArray = _
    rw [locate_enterKeyword m token hopen, ← List.map_map]
    rfl
  exact Machine.ext rfl hframes rfl rfl hentries

theorem leaveItem_absorb (m : Machine) (token : String) (f : Findings) :
    ((m.enterItem token).absorb f).leaveItem = m.absorb (f.under [token]) := by
  have hpath := congrArg Machine.instancePath (m.leaveItem_enterItem token)
  have hentries : (((m.enterItem token).absorb f).leaveItem).entries =
      (m.absorb (f.under [token])).entries := by
    change m.entries ++ ((f.entries.map (m.enterItem token).locate).take m.room).toArray = _
    rw [locate_enterItem, ← List.map_map]
    rfl
  exact Machine.ext hpath rfl rfl rfl hentries

/-- A machine in an open frame absorbs a failure where it stands by recording it. -/
theorem absorb_single (m : Machine) (hopen : m.frames ≠ []) : m.absorb .single = m.record := by
  obtain ⟨instancePath, frames, capacity, violations, entries⟩ := m
  cases frames with
  | nil => exact absurd rfl hopen
  | cons frame rest =>
      apply Machine.ext <;> try rfl
      change entries ++ (List.take (capacity - entries.size) _).toArray = _
      simp only [Findings.single, List.map_cons, List.map_nil, record]
      by_cases hroom : entries.size < capacity
      · obtain ⟨room, heq⟩ : ∃ room, capacity - entries.size = room + 1 :=
          ⟨capacity - entries.size - 1, by omega⟩
        rw [heq, if_pos hroom]
        simp [locate, Finding.locate]
      · have heq : capacity - entries.size = 0 := by omega
        rw [heq, if_neg hroom]
        simp

/-- The end of a check that gives a value and leaves the machine as it was. -/
def answer {α : Type} (m : Machine) (maxDepth : Nat) :
    Except Stop α → Except ValidateError (α × Machine)
  | .ok a => .ok (a, m)
  | .error stop => .error (stop.error maxDepth)

end Machine

namespace Check

variable {α β : Type} {maxDepth opened : Nat}

/-- Every machine with `opened` frames besides the first absorbs what the check finds. -/
def Finds (maxDepth opened : Nat) (check : Check Unit) (j : Judgement) : Prop :=
  ∀ m : Machine, m.frames.length = opened + 1 → check m = m.settle maxDepth j

/-- Every machine with `opened` frames besides the first is given the answer and stays as it is. -/
def Tells (maxDepth opened : Nat) (check : Check α) (answer : Except Stop α) : Prop :=
  ∀ m : Machine, m.frames.length = opened + 1 → check m = m.answer maxDepth answer

theorem bind_apply (check : Check α) (next : α → Check β) (m : Machine) :
    (check >>= next) m = match check m with
      | .ok (a, after) => next a after
      | .error e => .error e := by
  change (check m >>= fun out => next out.1 out.2) = _
  cases check m with
  | ok out => rfl
  | error e => rfl

theorem keyword_apply (token : String) (check : Check α) (m : Machine) :
    keyword token check m = match check (m.enterKeyword token) with
      | .ok (a, after) => .ok (a, after.leaveKeyword)
      | .error e => .error e := by
  change (check (m.enterKeyword token) >>= fun out => _) = _
  cases check (m.enterKeyword token) with
  | ok out => rfl
  | error e => rfl

theorem item_apply (token : String) (check : Check α) (m : Machine) :
    item token check m = match check (m.enterItem token) with
      | .ok (a, after) => .ok (a, after.leaveItem)
      | .error e => .error e := by
  change (check (m.enterItem token) >>= fun out => _) = _
  cases check (m.enterItem token) with
  | ok out => rfl
  | error e => rfl

/-- A check that leaves the machine as it was does so at a keyword as well. -/
theorem keyword_answer {check : Check α} {answer : Except Stop α} {m : Machine} (token : String)
    (hcheck : check (m.enterKeyword token) = (m.enterKeyword token).answer maxDepth answer) :
    keyword token check m = m.answer maxDepth answer := by
  rw [keyword_apply, hcheck]
  cases answer with
  | error stop => rfl
  | ok a =>
      change Except.ok (a, (m.enterKeyword token).leaveKeyword) = Except.ok (a, m)
      rw [m.leaveKeyword_enterKeyword]

theorem finds_pure : Finds maxDepth opened (pure ()) (.ok .empty) := by
  intro m _
  change Except.ok ((), m) = Except.ok ((), m.absorb .empty)
  rw [m.absorb_empty]

theorem finds_report : Finds maxDepth opened report (.ok .single) := by
  intro m hframes
  have hopen : m.frames ≠ [] := List.ne_nil_of_length_eq_add_one hframes
  change Except.ok ((), m.record) = Except.ok ((), m.absorb .single)
  rw [m.absorb_single hopen]

theorem Finds.andThen {first second : Check Unit} {j k : Judgement}
    (hfirst : Finds maxDepth opened first j) (hsecond : Finds maxDepth opened second k) :
    Finds maxDepth opened (do first; second) (j.andThen k) := by
  intro m hframes
  rw [bind_apply, hfirst m hframes]
  cases j with
  | error stop => rfl
  | ok f =>
      change second (m.absorb f) = _
      rw [hsecond (m.absorb f) hframes]
      cases k with
      | error stop => rfl
      | ok g =>
          change Except.ok ((), (m.absorb f).absorb g) = Except.ok ((), m.absorb (f ++ g))
          rw [m.absorb_append]

theorem Finds.keyword {check : Check Unit} {j : Judgement} (token : String)
    (hcheck : Finds maxDepth opened check j) :
    Finds maxDepth opened (Check.keyword token check) (j.map (Findings.within [token])) := by
  intro m hframes
  have hopen : m.frames ≠ [] := List.ne_nil_of_length_eq_add_one hframes
  have hinside : (m.enterKeyword token).frames.length = opened + 1 := by
    rw [← hframes]
    exact List.length_modifyHead
  rw [keyword_apply, hcheck _ hinside]
  cases j with
  | error stop => rfl
  | ok f =>
      change Except.ok ((), ((m.enterKeyword token).absorb f).leaveKeyword) = _
      rw [m.leaveKeyword_absorb token f hopen]
      rfl

theorem Finds.item {check : Check Unit} {j : Judgement} (token : String)
    (hcheck : Finds maxDepth opened check j) :
    Finds maxDepth opened (Check.item token check) (j.map (Findings.under [token])) := by
  intro m hframes
  rw [item_apply, hcheck (m.enterItem token) hframes]
  cases j with
  | error stop => rfl
  | ok f =>
      change Except.ok ((), ((m.enterItem token).absorb f).leaveItem) = _
      rw [m.leaveItem_absorb token f]
      rfl

theorem finds_require (ok : Bool) (token : String) :
    Finds maxDepth opened (require ok token)
      (.ok (if ok then .empty else Findings.single.within [token])) := by
  cases ok with
  | true => exact finds_pure
  | false => exact finds_report.keyword token

theorem Tells.bind_finds {check : Check α} {next : α → Check Unit} {answer : Except Stop α}
    {j : α → Judgement} (hcheck : Tells maxDepth opened check answer)
    (hnext : ∀ a, Finds maxDepth opened (next a) (j a)) :
    Finds maxDepth opened (check >>= next) (answer >>= j) := by
  intro m hframes
  rw [bind_apply, hcheck m hframes]
  cases answer with
  | error stop => rfl
  | ok a => exact hnext a m hframes

theorem Tells.bind {check : Check α} {next : α → Check β} {answer : Except Stop α}
    {answers : α → Except Stop β} (hcheck : Tells maxDepth opened check answer)
    (hnext : ∀ a, Tells maxDepth opened (next a) (answers a)) :
    Tells maxDepth opened (check >>= next) (answer >>= answers) := by
  intro m hframes
  rw [bind_apply, hcheck m hframes]
  cases answer with
  | error stop => rfl
  | ok a => exact hnext a m hframes

theorem tells_pure (a : α) : Tells maxDepth opened (pure a) (.ok a) := fun _ _ => rfl

/-- A check on the side leaves no trace in the machine. Its record is what the machine itself would
have recorded with that capacity and nothing recorded before. -/
theorem Finds.speculate_apply {check : Check Unit} {j : Judgement}
    (hcheck : Finds maxDepth opened check j) (capacity : Nat) (m : Machine)
    (hframes : m.frames.length = opened + 1) :
    speculate capacity check m = m.answer maxDepth
      (j.map fun f => (f.clean, ((f.entries.map m.locate).take capacity).toArray)) := by
  have hside := hcheck { m with capacity, violations := 0, entries := #[] } hframes
  unfold speculate
  rw [hside]
  cases j with
  | error stop => rfl
  | ok f =>
      have hlocate :
          ({ m with capacity, violations := 0, entries := #[] } : Machine).locate = m.locate := rfl
      simp [Machine.settle, Machine.absorb, Machine.answer, Machine.room, Machine.clean,
        Findings.clean, Except.map, hlocate]

theorem Finds.probe {check : Check Unit} {j : Judgement} (hcheck : Finds maxDepth opened check j) :
    Tells maxDepth opened (Check.probe check) (j.map Findings.clean) := by
  intro m hframes
  unfold Check.probe
  rw [bind_apply, hcheck.speculate_apply 0 m hframes]
  cases j with
  | error stop => rfl
  | ok f => rfl

theorem Finds.attempt_apply {check : Check Unit} {j : Judgement}
    (hcheck : Finds maxDepth opened check j) (m : Machine)
    (hframes : m.frames.length = opened + 1) :
    attempt check m = m.answer maxDepth
      (j.map fun f => (f.clean, ((f.entries.map m.locate).take m.room).toArray)) :=
  hcheck.speculate_apply m.room m hframes

end Check

end SchemaRegistry

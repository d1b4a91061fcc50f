import SchemaRegistry.Proofs.Graph.Recursion

/-!
Verdicts of judgements. A judgement that ends says whether a value is accepted, and one that stops
says nothing. The verdict of a plan is that of its steps taken together: it does not depend on their
order, nor on how often a step is made.
-/

namespace SchemaRegistry

namespace Judgement

/-- Whether the value is accepted; nothing if the judgement stops, for whatever reason. -/
def verdict (j : Judgement) : Option Bool := j.toOption.map Findings.clean

@[simp] theorem verdict_ok (f : Findings) : verdict (.ok f) = some f.clean := rfl

@[simp] theorem verdict_error (stop : Stop) : verdict (.error stop) = none := rfl

/-- The verdict does not depend on the places of the findings. -/
theorem verdict_map {f : Findings → Findings} (hcount : ∀ g, (f g).violations = g.violations)
    (j : Judgement) : verdict (j.map f) = j.verdict := by
  cases j with
  | error stop => rfl
  | ok g =>
      change some (f g).clean = some g.clean
      unfold Findings.clean
      rw [hcount]

theorem verdict_andThen_eq_none_iff {j k : Judgement} :
    (j.andThen k).verdict = none ↔ j.verdict = none ∨ k.verdict = none := by
  cases j with
  | error stop => exact ⟨fun _ => Or.inl rfl, fun _ => rfl⟩
  | ok f =>
      cases k with
      | error stop => exact ⟨fun _ => Or.inr rfl, fun _ => rfl⟩
      | ok g =>
          change some (f ++ g).clean = none ↔ some f.clean = none ∨ some g.clean = none
          simp

theorem verdict_andThen_eq_true_iff {j k : Judgement} :
    (j.andThen k).verdict = some true ↔ j.verdict = some true ∧ k.verdict = some true := by
  cases j with
  | error stop => exact ⟨fun h => (Option.some_ne_none _ h.symm).elim, fun h => h.1⟩
  | ok f =>
      cases k with
      | error stop => exact ⟨fun h => (Option.some_ne_none _ h.symm).elim, fun h => h.2⟩
      | ok g =>
          have hclean : (f ++ g).clean = (f.clean && g.clean) := Findings.clean_append f g
          change some (f ++ g).clean = some true ↔ some f.clean = some true ∧ _
          rw [hclean]
          simp

end Judgement

variable {child other : Nat → Json → Judgement} {jump leap : Reference → Json → Judgement}

theorem Step.verdict_judge (step : Step) :
    (step.judge child jump).verdict = (step.action.judge child jump).verdict :=
  Judgement.verdict_map (Findings.violations_within step.path) _

theorem verdict_judgeAll_eq_none_iff {steps : List Step} :
    (judgeAll child jump steps).verdict = none ↔
      ∃ step ∈ steps, (step.action.judge child jump).verdict = none := by
  induction steps with
  | nil => simp [Findings.empty, Findings.clean]
  | cons step rest ih =>
      rw [judgeAll_cons, Judgement.verdict_andThen_eq_none_iff, Step.verdict_judge, ih]
      simp

theorem verdict_judgeAll_eq_true_iff {steps : List Step} :
    (judgeAll child jump steps).verdict = some true ↔
      ∀ step ∈ steps, (step.action.judge child jump).verdict = some true := by
  induction steps with
  | nil => simp [Findings.empty, Findings.clean]
  | cons step rest ih =>
      rw [judgeAll_cons, Judgement.verdict_andThen_eq_true_iff, Step.verdict_judge, ih]
      simp

/-- Two verdicts are equal if they are missing together and accept together. -/
theorem verdict_ext {first second : Option Bool} (hnone : first = none ↔ second = none)
    (htrue : first = some true ↔ second = some true) : first = second := by
  rcases first with _ | _ | _ <;> rcases second with _ | _ | _ <;> simp_all

/-- A plan of tests accepts if all of them succeed, and in any case it ends. -/
theorem verdict_judgeAll_tests (tests : List (String × Bool)) :
    (judgeAll child jump (tests.map fun entry => Step.test entry.1 entry.2)).verdict =
      some (tests.all Prod.snd) := by
  have htest : ∀ ok, ((Action.test ok).judge child jump).verdict = some ok := by
    intro ok
    cases ok <;> rfl
  apply verdict_ext
  · rw [verdict_judgeAll_eq_none_iff]
    constructor
    · rintro ⟨step, hstep, hnone⟩
      obtain ⟨entry, -, rfl⟩ := List.mem_map.mp hstep
      cases (htest entry.2).symm.trans hnone
    · intro hnone
      cases hnone
  · rw [verdict_judgeAll_eq_true_iff, List.forall_mem_map, Option.some.injEq, List.all_eq_true]
    refine forall₂_congr fun entry _ => ?_
    change ((Action.test entry.2).judge child jump).verdict = some true ↔ _
    rw [htest, Option.some.injEq]

/-- Plans have the same verdict if each step of the one is matched by a step of the other. -/
theorem verdict_judgeAll_eq {steps others : List Step}
    (hforth : ∀ step ∈ steps, ∃ step' ∈ others,
      (step.action.judge child jump).verdict = (step'.action.judge other leap).verdict)
    (hback : ∀ step' ∈ others, ∃ step ∈ steps,
      (step.action.judge child jump).verdict = (step'.action.judge other leap).verdict) :
    (judgeAll child jump steps).verdict = (judgeAll other leap others).verdict := by
  apply verdict_ext
  · rw [verdict_judgeAll_eq_none_iff, verdict_judgeAll_eq_none_iff]
    constructor
    · rintro ⟨step, hstep, hnone⟩
      obtain ⟨step', hstep', heq⟩ := hforth step hstep
      exact ⟨step', hstep', heq ▸ hnone⟩
    · rintro ⟨step', hstep', hnone⟩
      obtain ⟨step, hstep, heq⟩ := hback step' hstep'
      exact ⟨step, hstep, heq.trans hnone⟩
  · rw [verdict_judgeAll_eq_true_iff, verdict_judgeAll_eq_true_iff]
    constructor
    · intro hall step' hstep'
      obtain ⟨step, hstep, heq⟩ := hback step' hstep'
      exact heq ▸ hall step hstep
    · intro hall step hstep
      obtain ⟨step', hstep', heq⟩ := hforth step hstep
      exact heq.trans (hall step' hstep')

end SchemaRegistry

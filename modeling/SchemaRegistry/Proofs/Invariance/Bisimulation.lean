import SchemaRegistry.Proofs.Compile.Sealed
import SchemaRegistry.Proofs.Invariance.Plans
import SchemaRegistry.Proofs.Judgement.Verdict
import SchemaRegistry.Proofs.Validation.Agreement

/-!
Registries that mean the same. A bisimulation relates schemas of two registries that are alike up to
the relation itself, and whose references lead to related schemas. Related schemas give equal values
the same verdict, and run out of jumps on the same ones. The proof goes down the jumps that are
left, and for one number of jumps down the index of the schema.
-/

namespace SchemaRegistry

/-- Judgements with one verdict both stop, or both end with it. -/
theorem Judgement.cases_of_verdict_eq {j k : Judgement} (hverdict : j.verdict = k.verdict) :
    (∃ stop stop', j = .error stop ∧ k = .error stop') ∨
      ∃ f g, j = .ok f ∧ k = .ok g ∧ f.clean = g.clean := by
  cases j with
  | error stop =>
      cases k with
      | error stop' => exact Or.inl ⟨stop, stop', rfl, rfl⟩
      | ok g => cases hverdict
  | ok f =>
      cases k with
      | error stop' => cases hverdict
      | ok g => exact Or.inr ⟨f, g, rfl, rfl, Option.some.inj hverdict⟩

section Actions

variable {R : Nat → Nat → Prop} {child other : Nat → Json → Judgement}
  {jump leap : Reference → Json → Judgement}

theorem judgeCount_toOption_eq {cs ds : List (Nat × Json)}
    (hcases : List.Forall₂ (fun c d => (child c.1 c.2).verdict = (other d.1 d.2).verdict) cs ds)
    (limit found : Nat) :
    (judgeCount child limit found cs).toOption = (judgeCount other limit found ds).toOption := by
  induction hcases generalizing found with
  | nil => rfl
  | cons hfirst _ ih =>
      unfold judgeCount
      rcases Judgement.cases_of_verdict_eq hfirst with ⟨_, _, hj, hk⟩ | ⟨f, g, hj, hk, hclean⟩
      · rw [hj, hk]
        rfl
      · rw [hj, hk]
        change (if limit ≤ (if f.clean then found + 1 else found) then _ else _ :
          Except Stop Nat).toOption = (if limit ≤ (if g.clean then found + 1 else found) then _
            else _ : Except Stop Nat).toOption
        rw [hclean]
        generalize (if g.clean = true then found + 1 else found) = next
        split
        · rfl
        · exact ih next

theorem judgeAny_isNone_eq {is js : List Nat} {v w : Json}
    (hschemas : List.Forall₂ (fun i j => (child i v).verdict = (other j w).verdict) is js)
    (index : Nat) : (judgeAny child v index is).toOption.map Option.isNone =
      (judgeAny other w index js).toOption.map Option.isNone := by
  have hmap : ∀ (result : Except Stop (Option (List Finding))) (f : List Finding → List Finding),
      (result.bind fun entries => .ok (entries.map f)).toOption.map Option.isNone =
        result.toOption.map Option.isNone := by
    rintro (stop | _ | entries) f <;> rfl
  induction hschemas generalizing index with
  | nil => rfl
  | cons hfirst _ ih =>
      unfold judgeAny
      rcases Judgement.cases_of_verdict_eq hfirst with ⟨_, _, hj, hk⟩ | ⟨f, g, hj, hk, hclean⟩
      · rw [hj, hk]
        rfl
      · rw [hj, hk]
        change Option.map _ (if f.clean then _ else _ : Except Stop _).toOption =
          Option.map _ (if g.clean then _ else _ : Except Stop _).toOption
        rw [hclean]
        split
        · rfl
        · exact (hmap _ _).trans ((ih (index + 1)).trans (hmap _ _).symm)

theorem judgeBranch_verdict_eq {first second : Option Nat} {v w : Json}
    (hbranch : Option.Rel (fun i j => (child i v).verdict = (other j w).verdict) first second)
    (token name : String) :
    (judgeBranch child token v first).verdict = (judgeBranch other name w second).verdict := by
  cases hbranch with
  | none => rfl
  | some hschema =>
      unfold judgeBranch
      rw [Judgement.verdict_map (Findings.violations_within _),
        Judgement.verdict_map (Findings.violations_within _)]
      exact hschema

theorem Action.verdict_count (quota : Quota) (cases : List (Nat × Json)) :
    ((Action.count quota cases).judge child jump).verdict =
      (judgeCount child quota.limit 0 cases).toOption.map quota.met := by
  simp only [Action.judge]
  cases judgeCount child quota.limit 0 cases with
  | error stop => rfl
  | ok found =>
      change some (Findings.clean (if quota.met found then .empty else .single)) = some _
      cases quota.met found <;> rfl

theorem Action.verdict_any (schemas : List Nat) (value : Json) :
    ((Action.any schemas value).judge child jump).verdict =
      (judgeAny child value 0 schemas).toOption.map Option.isNone := by
  simp only [Action.judge]
  rcases judgeAny child value 0 schemas with _ | _ | _ <;> rfl

/-- Alike actions have the same verdict if the schemas that they ask have. -/
theorem Action.Alike.verdict_eq {a b : Action} (halike : a.Alike R b)
    (hchild : ∀ i j v w, (Link.schema i, v) ∈ a.calls → R i j → v.Agree w →
      (child i v).verdict = (other j w).verdict)
    (hjump : ∀ reference v w, (Link.reference reference, v) ∈ a.calls → v.Agree w →
      (jump reference v).verdict = (leap reference w).verdict) :
    (a.judge child jump).verdict = (b.judge other leap).verdict := by
  cases halike with
  | test ok => rfl
  | follow reference hvalue => exact hjump reference _ _ (List.mem_singleton_self _) hvalue
  | descend hschema hvalue =>
      simp only [Action.judge]
      rw [Judgement.verdict_map (Findings.violations_under _),
        Judgement.verdict_map (Findings.violations_under _)]
      exact hchild _ _ _ _ (List.mem_singleton_self _) hschema hvalue
  | @count quota cs ds hcases =>
      have hverdicts : List.Forall₂
          (fun c d => (child c.1 c.2).verdict = (other d.1 d.2).verdict) cs ds := by
        refine (List.forall₂_and_left _ _).mpr ⟨fun _ hc => hc, hcases⟩ |>.imp ?_
        rintro c d ⟨hc, hschema, hvalue⟩
        exact hchild _ _ _ _ (List.mem_map_of_mem hc) hschema hvalue
      rw [Action.verdict_count, Action.verdict_count, judgeCount_toOption_eq hverdicts]
  | @any is js v w hschemas hvalue =>
      have hverdicts : List.Forall₂
          (fun i j => (child i v).verdict = (other j w).verdict) is js := by
        refine (List.forall₂_and_left _ _).mpr ⟨fun _ hi => hi, hschemas⟩ |>.imp ?_
        rintro i j ⟨hi, hschema⟩
        exact hchild _ _ _ _ (List.mem_map_of_mem hi) hschema hvalue
      rw [Action.verdict_any, Action.verdict_any, judgeAny_isNone_eq hverdicts]
  | @choose c d v w hconditional hvalue =>
      have hverdict : ∀ i j, i ∈ c.links → R i j →
          (child i v).verdict = (other j w).verdict := fun i j hi hschema =>
        hchild i j v w (List.mem_map_of_mem hi) hschema hvalue
      have hbranch : ∀ {first second : Option Nat}, (∀ i ∈ first, i ∈ c.links) →
          Option.Rel R first second →
          Option.Rel (fun i j => (child i v).verdict = (other j w).verdict) first second := by
        rintro _ _ hlinks (hschema | _)
        · exact .some (hverdict _ _ (hlinks _ rfl) hschema)
        · exact .none
      have hcondition := hverdict _ _ List.mem_cons_self hconditional.condition
      simp only [Action.judge]
      rcases Judgement.cases_of_verdict_eq hcondition with ⟨_, _, hj, hk⟩ | ⟨f, g, hj, hk, hclean⟩
      · rw [hj, hk]
        rfl
      · rw [hj, hk]
        change Judgement.verdict (if f.clean then _ else _) =
          Judgement.verdict (if g.clean then _ else _)
        rw [hclean]
        split
        · refine judgeBranch_verdict_eq (hbranch (fun i hi => ?_) hconditional.consequent) _ _
          exact List.mem_cons_of_mem _ (List.mem_append_left _ (Option.mem_toList.mpr hi))
        · refine judgeBranch_verdict_eq (hbranch (fun i hi => ?_) hconditional.alternative) _ _
          exact List.mem_cons_of_mem _ (List.mem_append_right _ (Option.mem_toList.mpr hi))

/-- Alike plans have the same verdict if the schemas that they ask have. -/
theorem PlansAlike.verdict_eq {steps others : List Step} (halike : PlansAlike R steps others)
    (hchild : ∀ i j v w, (Link.schema i, v) ∈ callsOf steps → R i j → v.Agree w →
      (child i v).verdict = (other j w).verdict)
    (hjump : ∀ reference v w, (Link.reference reference, v) ∈ callsOf steps → v.Agree w →
      (jump reference v).verdict = (leap reference w).verdict) :
    (judgeAll child jump steps).verdict = (judgeAll other leap others).verdict := by
  have hstep : ∀ step ∈ steps, ∀ step', step.Alike R step' →
      (step.action.judge child jump).verdict = (step'.action.judge other leap).verdict := by
    intro step hmem step' hboth
    have hcalls : ∀ call ∈ step.action.calls, call ∈ callsOf steps :=
      fun call hcall => List.mem_flatMap.mpr ⟨step, hmem, hcall⟩
    exact Action.Alike.verdict_eq hboth (fun i j v w hcall => hchild i j v w (hcalls _ hcall))
      fun reference v w hcall => hjump reference v w (hcalls _ hcall)
  refine verdict_judgeAll_eq (fun step hmem => ?_) fun step' hmem => ?_
  · obtain ⟨step', hmem', hboth⟩ := halike.1 step hmem
    exact ⟨step', hmem', hstep step hmem step' hboth⟩
  · obtain ⟨step, hmem', hboth⟩ := halike.2 step' hmem
    exact ⟨step, hmem', hstep step hmem' step' hboth⟩

end Actions

/-- A relation between the schemas of two registries that neither their content nor their references
lead out of. -/
structure Bisimulation (r s : Registry) (R : Nat → Nat → Prop) : Prop where
  nodes : ∀ i j, R i j → Option.Rel (Node.Alike R) (r.node? i) (s.node? j)
  targets : ∀ i j, R i j → ∀ node reference, r.node? i = some node →
    node.reference? = some reference →
      Option.Rel R (r.lookup? reference.target) (s.lookup? reference.target)

namespace Bisimulation

variable {r s : Registry} {R : Nat → Nat → Prop}

/-- The references of related schemas lead to the same verdict while `jumps` frames may be opened,
if related schemas have the same one while one frame less may be. -/
theorem judgeFollow_verdict_eq (h : Bisimulation r s R) {epsilon : Binary64} {jumps : Nat}
    (hbefore : ∀ fewer < jumps, ∀ {i j : Nat} {v w : Json}, R i j → v.Agree w →
      (r.judge epsilon fewer i v).verdict = (s.judge epsilon fewer j w).verdict)
    {i j : Nat} (hrelated : R i j) {node : Node} {reference : Reference}
    (hnode : r.node? i = some node) (hreference : node.reference? = some reference) {v w : Json}
    (hagree : v.Agree w) :
    (r.judgeFollow epsilon jumps reference v).verdict =
      (s.judgeFollow epsilon jumps reference w).verdict := by
  cases jumps with
  | zero => rfl
  | succ jumps =>
      have htargets := h.targets i j hrelated node reference hnode hreference
      rw [Registry.judgeFollow_succ, Registry.judgeFollow_succ]
      unfold Registry.judgeJump
      generalize r.lookup? reference.target = first, s.lookup? reference.target = second at htargets
      cases htargets with
      | none => rfl
      | some htarget =>
          dsimp only
          rw [Judgement.verdict_map fun g => g.violations_landed _,
            Judgement.verdict_map fun g => g.violations_landed _]
          exact hbefore jumps (Nat.lt_succ_self jumps) htarget hagree

/-- Related schemas give equal values the same verdict. -/
theorem verdict_eq (h : Bisimulation r s R) (hr : r.PostOrdered) (hs : s.PostOrdered)
    (epsilon : Binary64) (jumps : Nat) {i j : Nat} {v w : Json} (hrelated : R i j)
    (hagree : v.Agree w) :
    (r.judge epsilon jumps i v).verdict = (s.judge epsilon jumps j w).verdict := by
  induction jumps using Nat.strong_induction_on generalizing i j v w with
  | _ jumps hjumps =>
    induction i using Nat.strong_induction_on generalizing j v w with
    | _ i hbelow =>
      have hnodes := h.nodes i j hrelated
      cases hfirst : r.node? i with
      | none =>
          have hsecond : s.node? j = none := by
            rw [hfirst] at hnodes
            generalize s.node? j = second at hnodes
            cases hnodes
            rfl
          rw [Registry.judge_of_node?_none hfirst, Registry.judge_of_node?_none hsecond]
      | some n =>
          rw [hfirst] at hnodes
          obtain ⟨m, hsecond, halike⟩ := exists_of_rel_some hnodes
          rw [hr.judge_eq hfirst, hs.judge_eq hsecond]
          refine (halike.plan hagree epsilon).verdict_eq ?_ ?_
          · intro i' j' v' w' hcall hinner hagree'
            exact hbelow i' (hr i n hfirst i' (Node.mem_links_of_call hcall)) hinner hagree'
          · intro reference v' w' hcall hagree'
            have hreference := Node.reference?_of_mem_links (Node.mem_links_of_call hcall)
            exact h.judgeFollow_verdict_eq (fun fewer hless => hjumps fewer hless) hrelated hfirst
              hreference hagree'

end Bisimulation

section Runs

variable {r : Registry} {options : Options}

/-- The result that belongs to a verdict, if the only reason to have none is a lack of jumps. -/
def resultOf (options : Options) (verdict : Option Bool) : Except ValidateError Bool :=
  verdict.elim (.error (.stackOverflow options.maxStackDepth)) .ok

namespace Registry

/-- A run in a sealed store ends with the verdict of the judgement. -/
theorem Sealed.run_clean_eq (hsealed : r.Sealed) (capacity index : Nat) (value : Json) :
    (r.run options capacity index value).map Machine.clean =
      resultOf options (r.judge options.epsilon options.maxStackDepth index value).verdict := by
  rw [Registry.run_clean_eq]
  unfold judgeFrom
  cases hjudge : r.judge options.epsilon options.maxStackDepth index value with
  | error stop =>
      rw [hsealed.stop_eq_overflow hjudge]
      rfl
  | ok f => rfl

/-- A validation that has room for a violation ends with the verdict of the judgement. -/
theorem Sealed.validateAt_isValid_eq (hsealed : r.Sealed) (hroom : 0 < options.maxErrors)
    (index : Nat) (value : Json) :
    (r.validateAt options index value).map Outcome.isValid =
      resultOf options (r.judge options.epsilon options.maxStackDepth index value).verdict := by
  rw [Registry.validateAt_isValid_eq hroom, hsealed.run_clean_eq]

end Registry

end Runs

end SchemaRegistry

import SchemaRegistry.Proofs.Judgement.Run

/-!
The number of jumps that may be open. Running out of jumps is never taken for an answer: it ends
every check in which it happens, also a check on the side. So a validation with a result has not run
out of jumps anywhere, and with more of them it has the same result.
-/

namespace SchemaRegistry

/-- If the first computation has a result, then the second one has the same result. -/
def Approximates {α : Type} (x y : Except Stop α) : Prop := ∀ a, x = .ok a → y = .ok a

namespace Approximates

variable {α β : Type}

theorem refl (x : Except Stop α) : Approximates x x := fun _ hok => hok

theorem of_error (stop : Stop) (y : Except Stop α) : Approximates (.error stop) y := by
  intro a hok
  cases hok

theorem bind {x y : Except Stop α} {f g : α → Except Stop β} (hfirst : Approximates x y)
    (hnext : ∀ a, Approximates (f a) (g a)) : Approximates (x >>= f) (y >>= g) := by
  intro b hok
  obtain ⟨a, hx, hf⟩ := bind_ok hok
  rw [hfirst a hx]
  exact hnext a b hf

theorem map {x y : Except Stop α} (f : α → β) (hxy : Approximates x y) :
    Approximates (x.map f) (y.map f) := by
  intro b hok
  cases x with
  | error stop => cases hok
  | ok a =>
      rw [hxy a rfl]
      exact hok

end Approximates

section Judging

variable {child other : Nat → Json → Judgement} {jump leap : Reference → Json → Judgement}
  (hchild : ∀ index value, Approximates (child index value) (other index value))

include hchild

theorem judgeCount_approximates (limit found : Nat) (cases : List (Nat × Json)) :
    Approximates (judgeCount child limit found cases) (judgeCount other limit found cases) := by
  induction cases generalizing found with
  | nil => exact .refl _
  | cons first rest ih =>
      unfold judgeCount
      refine (hchild first.1 first.2).bind fun f => ?_
      dsimp only
      generalize (if f.clean = true then found + 1 else found) = next
      split
      · exact .refl _
      · exact ih next

theorem judgeAny_approximates (value : Json) (index : Nat) (schemas : List Nat) :
    Approximates (judgeAny child value index schemas) (judgeAny other value index schemas) := by
  induction schemas generalizing index with
  | nil => exact .refl _
  | cons schema rest ih =>
      unfold judgeAny
      refine (hchild schema value).bind fun f => ?_
      split
      · exact .refl _
      · exact (ih (index + 1)).bind fun found => .refl _

theorem judgeBranch_approximates (token : String) (value : Json) (branch : Option Nat) :
    Approximates (judgeBranch child token value branch)
      (judgeBranch other token value branch) := by
  cases branch with
  | none => exact .refl _
  | some schema => exact (hchild schema value).map _

variable (hjump : ∀ reference value, Approximates (jump reference value) (leap reference value))

include hjump

theorem Action.judge_approximates (action : Action) :
    Approximates (action.judge child jump) (action.judge other leap) := by
  cases action with
  | test ok => exact .refl _
  | follow reference value => exact hjump reference value
  | descend item schema value => exact (hchild schema value).map _
  | count quota cases =>
      exact (judgeCount_approximates hchild quota.limit 0 cases).bind fun found => .refl _
  | any schemas value =>
      exact (judgeAny_approximates hchild value 0 schemas).bind fun found => .refl _
  | choose conditional value =>
      refine (hchild conditional.condition value).bind fun f => ?_
      split
      · exact judgeBranch_approximates hchild "then" value conditional.consequent
      · exact judgeBranch_approximates hchild "else" value conditional.alternative

/-- A plan keeps its result when the schemas and references that it asks keep theirs. -/
theorem judgeAll_approximates (steps : List Step) :
    Approximates (judgeAll child jump steps) (judgeAll other leap steps) := by
  induction steps with
  | nil => exact .refl _
  | cons step rest ih =>
      have hstep : Approximates (step.judge child jump) (step.judge other leap) :=
        (step.action.judge_approximates hchild hjump).map _
      rw [judgeAll_cons, judgeAll_cons]
      exact hstep.bind fun f => ih.bind fun g => .refl _

end Judging

namespace Registry

variable (r : Registry) (epsilon : Binary64)

theorem judgeBelow_approximates {jump leap : Reference → Json → Judgement}
    (hjump : ∀ reference value, Approximates (jump reference value) (leap reference value))
    (bound index : Nat) (value : Json) :
    Approximates (r.judgeBelow epsilon jump bound index value)
      (r.judgeBelow epsilon leap bound index value) := by
  induction bound generalizing index value with
  | zero => exact .refl _
  | succ bound ih =>
      unfold judgeBelow
      cases r.node? index with
      | none => exact .refl _
      | some node => exact judgeAll_approximates ih hjump (node.plan epsilon value)

theorem judgeJump_approximates {check other : Nat → Json → Judgement}
    (hcheck : ∀ index value, Approximates (check index value) (other index value))
    (reference : Reference) (value : Json) :
    Approximates (r.judgeJump check reference value) (r.judgeJump other reference value) := by
  unfold judgeJump
  cases r.lookup? reference.target with
  | none => exact .refl _
  | some index => exact (hcheck index value).map _

theorem judgeFollow_approximates {jumps more : Nat} (hjumps : jumps ≤ more)
    (reference : Reference) (value : Json) :
    Approximates (r.judgeFollow epsilon jumps reference value)
      (r.judgeFollow epsilon more reference value) := by
  induction jumps generalizing more reference value with
  | zero => exact .of_error _ _
  | succ jumps ih =>
      obtain ⟨rest, rfl⟩ : ∃ rest, more = rest + 1 := ⟨more - 1, by omega⟩
      have hrest : jumps ≤ rest := Nat.le_of_succ_le_succ hjumps
      exact r.judgeJump_approximates
        (r.judgeBelow_approximates epsilon (ih hrest) r.size) reference value

/-- A judgement with a result has the same result with more jumps. -/
theorem judge_approximates {jumps more : Nat} (hjumps : jumps ≤ more) (index : Nat)
    (value : Json) :
    Approximates (r.judge epsilon jumps index value) (r.judge epsilon more index value) :=
  r.judgeBelow_approximates epsilon (r.judgeFollow_approximates epsilon hjumps) r.size index value

variable {r} {options : Options} {depth deeper : Nat}

theorem run_deeper (hdepth : depth ≤ deeper) {capacity index : Nat} {value : Json} {m : Machine}
    (hrun : r.run { options with maxStackDepth := depth } capacity index value = .ok m) :
    r.run { options with maxStackDepth := deeper } capacity index value = .ok m := by
  rw [run_eq] at hrun ⊢
  unfold judgeFrom at hrun ⊢
  dsimp only at hrun ⊢
  cases hjudge : r.judge options.epsilon depth index value with
  | error stop =>
      rw [hjudge] at hrun
      cases hrun
  | ok f =>
      rw [hjudge] at hrun
      rw [r.judge_approximates options.epsilon hdepth index value f hjudge]
      exact hrun

theorem validateAt_deeper (hdepth : depth ≤ deeper) {index : Nat} {value : Json}
    {outcome : Outcome}
    (hresult : r.validateAt { options with maxStackDepth := depth } index value = .ok outcome) :
    r.validateAt { options with maxStackDepth := deeper } index value = .ok outcome := by
  obtain ⟨m, hrun, hdone⟩ := bind_ok hresult
  unfold validateAt
  rw [run_deeper hdepth hrun]
  exact hdone

/-- A result that a validation has with some number of jumps it has with every greater number: the
same violations in the same order, and the same verdict. -/
theorem results_persist_deeper (r : Registry) (options : Options) {depth deeper : Nat}
    (hdepth : depth ≤ deeper) (value : Json) :
    (∀ capacity index m,
      r.run { options with maxStackDepth := depth } capacity index value = .ok m →
        r.run { options with maxStackDepth := deeper } capacity index value = .ok m) ∧
      (∀ index outcome,
        r.validateAt { options with maxStackDepth := depth } index value = .ok outcome →
          r.validateAt { options with maxStackDepth := deeper } index value = .ok outcome) ∧
      (∀ outcome, r.validate { options with maxStackDepth := depth } value = .ok outcome →
        r.validate { options with maxStackDepth := deeper } value = .ok outcome) ∧
      (∀ uri outcome,
        r.validateUri { options with maxStackDepth := depth } uri value = .ok outcome →
          r.validateUri { options with maxStackDepth := deeper } uri value = .ok outcome) ∧
      ∀ verdict, r.isValid { options with maxStackDepth := depth } value = .ok verdict →
        r.isValid { options with maxStackDepth := deeper } value = .ok verdict := by
  refine ⟨fun capacity index m => run_deeper hdepth,
    fun index outcome => validateAt_deeper hdepth, ?_, ?_, ?_⟩
  · intro outcome hresult
    obtain ⟨index, hroot, hat⟩ := bind_ok hresult
    rw [validate_eq hroot]
    exact validateAt_deeper hdepth hat
  · intro uri outcome hresult
    obtain ⟨index, hindex, hat⟩ := bind_ok hresult
    rw [validateUri_eq hindex]
    exact validateAt_deeper hdepth hat
  · intro verdict hresult
    obtain ⟨index, hroot, hchecked⟩ := bind_ok hresult
    obtain ⟨m, hrun, hdone⟩ := bind_ok hchecked
    rw [isValid_eq hroot, run_deeper hdepth hrun]
    exact hdone

/-- A check on the side that needs two jumps has no result with one, and the same result with two
and with five. -/
theorem probe_persists_deeper :
    ∃ r outcome, compile [.object [("not", .object [("$ref", .string "#/definitions/a")]),
        ("minimum", .number (.integer 1)), ("definitions", .object [
          ("a", .object [("$ref", .string "#/definitions/b")]),
          ("b", .object [("type", .string "string")])])]] = .ok r ∧
      2 ≤ 5 ∧
      (r.validate { Options.default with maxStackDepth := 1 } (.number (.integer 0))).toOption =
        none ∧
      r.validate { Options.default with maxStackDepth := 2 } (.number (.integer 0)) = .ok outcome ∧
      outcome.isValid = false ∧
      r.validate { Options.default with maxStackDepth := 5 } (.number (.integer 0)) =
        .ok outcome := by
  have hchecked : (compile [.object [("not", .object [("$ref", .string "#/definitions/a")]),
      ("minimum", .number (.integer 1)), ("definitions", .object [
        ("a", .object [("$ref", .string "#/definitions/b")]),
        ("b", .object [("type", .string "string")])])]]).toOption.map (fun r =>
          ((r.validate { Options.default with maxStackDepth := 1 } (.number (.integer 0))).toOption,
          (r.validate { Options.default with maxStackDepth := 2 }
            (.number (.integer 0))).toOption.map Outcome.isValid)) =
        some (none, some false) := by decide +kernel
  obtain ⟨r, hcompile, hr⟩ := exists_ok_of_toOption hchecked
  obtain ⟨hoverflow, hresult⟩ := Prod.mk.inj hr
  obtain ⟨outcome, houtcome, hinvalid⟩ := exists_ok_of_toOption hresult
  have hdepth : 2 ≤ 5 := by decide
  exact ⟨r, outcome, hcompile, hdepth, hoverflow, houtcome, hinvalid,
    (results_persist_deeper r Options.default hdepth _).2.2.1 outcome houtcome⟩

end Registry

end SchemaRegistry

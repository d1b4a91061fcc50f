import Mathlib.Logic.Relation
import SchemaRegistry.Proofs.Compile.Sealed

/-!
Recursion that never gets to a part of the value. Of the schemas that a schema may ask, it asks some
whatever the value is, and about the value itself. A judgement with a result needs results of all of
them, each with fewer jumps or at a smaller index; along a cycle this would go on for ever. So from
a schema that leads to such a cycle no validation has a result.
-/

namespace SchemaRegistry

/-- The links along which a schema passes on every value: the reference, all schemas of `allOf`, the
first ones of `anyOf` and `oneOf`, and those of `not` and `if`. -/
def Node.always (n : Node) : List Link :=
  match n.body with
  | .constant _ => []
  | .keywords k =>
    k.reference.toList.map .reference ++
      (k.combinators.allOf ++ (k.combinators.anyOf.head?.toList ++
        (k.combinators.oneOf.head?.toList ++ (k.combinators.not.toList ++
          k.combinators.conditional.toList.map (·.condition))))).map .schema

/-- What an action asks before anything else. -/
def Action.firstCall? : Action → Option (Link × Json)
  | test _ => none
  | follow reference value => some (.reference reference, value)
  | descend _ schema value => some (.schema schema, value)
  | count _ cases => cases.head?.map fun c => (.schema c.1, c.2)
  | any schemas value => schemas.head?.map (.schema ·, value)
  | choose conditional value => some (.schema conditional.condition, value)

theorem Action.mem_calls_of_firstCall {action : Action} {call : Link × Json}
    (hcall : action.firstCall? = some call) : call ∈ action.calls := by
  cases action with
  | test ok => cases hcall
  | follow reference value => exact List.mem_singleton.mpr (Option.some.inj hcall).symm
  | descend item schema value => exact List.mem_singleton.mpr (Option.some.inj hcall).symm
  | count quota cases =>
      obtain ⟨first, hfirst, rfl⟩ := Option.map_eq_some_iff.mp hcall
      exact List.mem_map_of_mem (List.mem_of_head? hfirst)
  | any schemas value =>
      obtain ⟨first, hfirst, rfl⟩ := Option.map_eq_some_iff.mp hcall
      exact List.mem_map_of_mem (List.mem_of_head? hfirst)
  | choose conditional value =>
      cases hcall
      exact List.mem_cons_self

/-- Some step of a plan asks this before anything else. -/
def Asks (steps : List Step) (call : Link × Json) : Prop :=
  ∃ step ∈ steps, step.action.firstCall? = some call

section Judging

variable {child : Nat → Json → Judgement} {jump : Reference → Json → Judgement}

/-- An action with a result has one for what it asks first. -/
theorem Action.firstCall_ok {action : Action} {f : Findings}
    (hok : action.judge child jump = .ok f) {call : Link × Json}
    (hcall : action.firstCall? = some call) : ∃ g, judgeLink child jump call.1 call.2 = .ok g := by
  cases action with
  | test ok => cases hcall
  | follow reference value =>
      cases hcall
      exact ⟨f, hok⟩
  | descend item schema value =>
      cases hcall
      obtain ⟨g, hg, -⟩ := map_eq_ok_iff.mp hok
      exact ⟨g, hg⟩
  | count quota cases =>
      obtain ⟨first, hfirst, rfl⟩ := Option.map_eq_some_iff.mp hcall
      obtain ⟨rest, rfl⟩ := List.head?_eq_some_iff.mp hfirst
      obtain ⟨found, hcount, -⟩ := bind_ok hok
      obtain ⟨g, hg, -⟩ := bind_ok hcount
      exact ⟨g, hg⟩
  | any schemas value =>
      obtain ⟨first, hfirst, rfl⟩ := Option.map_eq_some_iff.mp hcall
      obtain ⟨rest, rfl⟩ := List.head?_eq_some_iff.mp hfirst
      obtain ⟨found, hany, -⟩ := bind_ok hok
      obtain ⟨g, hg, -⟩ := bind_ok hany
      exact ⟨g, hg⟩
  | choose conditional value =>
      cases hcall
      obtain ⟨g, hg, -⟩ := bind_ok hok
      exact ⟨g, hg⟩

/-- A plan with a result carries out all of its steps: each has a result for what it asks first. -/
theorem judgeAll_asks_ok {steps : List Step} {f : Findings}
    (hok : judgeAll child jump steps = .ok f) {call : Link × Json} (hasks : Asks steps call) :
    ∃ g, judgeLink child jump call.1 call.2 = .ok g := by
  obtain ⟨step, hstep, hcall⟩ := hasks
  induction steps generalizing f with
  | nil => exact absurd hstep List.not_mem_nil
  | cons first rest ih =>
      rw [judgeAll_cons] at hok
      obtain ⟨g, hfirst, hothers⟩ := bind_ok hok
      obtain ⟨h, hrest, -⟩ := bind_ok hothers
      rcases List.mem_cons.mp hstep with rfl | hlater
      · obtain ⟨found, haction, -⟩ := map_eq_ok_iff.mp hfirst
        exact Action.firstCall_ok haction hcall
      · exact ih hrest hlater

end Judging

theorem Asks.mem_callsOf {steps : List Step} {call : Link × Json} (hasks : Asks steps call) :
    call ∈ callsOf steps := by
  obtain ⟨step, hstep, hcall⟩ := hasks
  exact List.mem_flatMap.mpr ⟨step, hstep, Action.mem_calls_of_firstCall hcall⟩

theorem Asks.left {first second : List Step} {call : Link × Json} (hasks : Asks first call) :
    Asks (first ++ second) call := by
  obtain ⟨step, hstep, hcall⟩ := hasks
  exact ⟨step, List.mem_append_left _ hstep, hcall⟩

theorem Asks.right {first second : List Step} {call : Link × Json} (hasks : Asks second call) :
    Asks (first ++ second) call := by
  obtain ⟨step, hstep, hcall⟩ := hasks
  exact ⟨step, List.mem_append_right _ hstep, hcall⟩

theorem Combinators.asks_planAll {value : Json} {index schema : Nat} {schemas : List Nat}
    (hschema : schema ∈ schemas) :
    Asks ((planAll value index schemas).map (Step.within "allOf")) (.schema schema, value) := by
  induction schemas generalizing index with
  | nil => exact absurd hschema List.not_mem_nil
  | cons first rest ih =>
      rcases List.mem_cons.mp hschema with rfl | hrest
      · exact ⟨_, List.mem_cons_self, rfl⟩
      · obtain ⟨step, hstep, hcall⟩ := ih hrest
        exact ⟨step, List.mem_cons_of_mem _ hstep, hcall⟩

theorem Combinators.asks_plan (c : Combinators) {value : Json} {schema : Nat}
    (hschema : schema ∈ c.allOf ++ (c.anyOf.head?.toList ++ (c.oneOf.head?.toList ++
      (c.not.toList ++ c.conditional.toList.map (·.condition))))) :
    Asks (c.plan value) (.schema schema, value) := by
  simp only [List.mem_append, Option.mem_toList, List.mem_map] at hschema
  unfold plan
  rcases hschema with hall | hany | hone | hnot | ⟨conditional, hconditional, rfl⟩
  · exact (asks_planAll hall).left
  · refine Asks.right (Asks.left ?_)
    obtain ⟨rest, hrest⟩ := List.head?_eq_some_iff.mp hany
    rw [hrest]
    exact ⟨_, List.mem_singleton_self _, rfl⟩
  · refine Asks.right (Asks.right (Asks.left ?_))
    obtain ⟨rest, hrest⟩ := List.head?_eq_some_iff.mp hone
    rw [hrest]
    exact ⟨_, List.mem_singleton_self _, rfl⟩
  · refine Asks.right (Asks.right (Asks.right (Asks.left ?_)))
    rw [hnot]
    exact ⟨_, List.mem_singleton_self _, rfl⟩
  · refine Asks.right (Asks.right (Asks.right (Asks.right ?_)))
    rw [hconditional]
    exact ⟨_, List.mem_singleton_self _, rfl⟩

/-- Whatever the value is, the plan of a schema asks about it along these links. -/
theorem Node.asks_plan (n : Node) (epsilon : Binary64) (value : Json) {link : Link}
    (hlink : link ∈ n.always) : Asks (n.plan epsilon value) (link, value) := by
  unfold always at hlink
  unfold plan
  cases hbody : n.body with
  | constant accepts =>
      rw [hbody] at hlink
      exact absurd hlink List.not_mem_nil
  | keywords k =>
      rw [hbody] at hlink
      dsimp only at hlink ⊢
      unfold Keywords.plan
      rcases List.mem_append.mp hlink with hreference | hcombinators
      · obtain ⟨reference, hrules, rfl⟩ := List.mem_map.mp hreference
        refine Asks.left ?_
        unfold Keywords.planReference
        rw [Option.mem_toList.mp hrules]
        exact ⟨_, List.mem_singleton_self _, rfl⟩
      · obtain ⟨schema, hschema, rfl⟩ := List.mem_map.mp hcombinators
        exact Asks.right (Asks.right (Asks.right (Asks.right (k.combinators.asks_plan hschema))))

namespace Registry

/-- The schemas to which the schema at an index passes on every value. -/
def alwaysAsked (r : Registry) (index : Nat) : List Nat :=
  ((r.node? index).toList.flatMap Node.always).filterMap r.linked?

/-- One schema passes on every value to another. -/
def Passes (r : Registry) (source target : Nat) : Prop := target ∈ r.alwaysAsked source

/-- Every value is passed on from one schema to another until it goes round in a circle. -/
def ReachesCycle (r : Registry) (start : Nat) : Prop :=
  ∃ index, Relation.ReflTransGen r.Passes start index ∧ Relation.TransGen r.Passes index index

variable {r : Registry} {epsilon : Binary64}

theorem ReachesCycle.step {start : Nat} (hcycle : r.ReachesCycle start) :
    ∃ next, r.Passes start next ∧ r.ReachesCycle next := by
  obtain ⟨index, hpath, hround⟩ := hcycle
  rcases hpath.cases_head with rfl | ⟨next, hnext, hrest⟩
  · obtain ⟨next, hnext, hback⟩ := Relation.TransGen.head'_iff.mp hround
    exact ⟨next, hnext, start, hback, hround⟩
  · exact ⟨next, hnext, index, hrest, hround⟩

/-- A result of a schema needs one of every schema to which it passes on the value, either with a
jump less or at a smaller index. -/
theorem PostOrdered.passes_ok (hr : r.PostOrdered) {source target jumps : Nat} {value : Json}
    {f : Findings} (hok : r.judge epsilon jumps source value = .ok f)
    (hpasses : r.Passes source target) :
    ∃ rest g, r.judge epsilon rest target value = .ok g ∧
      (rest < jumps ∨ rest = jumps ∧ target < source) := by
  obtain ⟨link, hmem, htarget⟩ := List.mem_filterMap.mp hpasses
  obtain ⟨node, hnode, hlink⟩ := List.mem_flatMap.mp hmem
  rw [Option.mem_toList] at hnode
  have hasks := node.asks_plan epsilon value hlink
  rw [hr.judge_eq hnode] at hok
  obtain ⟨g, hg⟩ := judgeAll_asks_ok hok hasks
  cases link with
  | schema inner =>
      cases htarget
      have hinner : target < source :=
        hr source node hnode target (Node.mem_links_of_call hasks.mem_callsOf)
      exact ⟨jumps, g, hg, Or.inr ⟨rfl, hinner⟩⟩
  | reference reference =>
      cases jumps with
      | zero => cases hg
      | succ rest =>
          change r.judgeJump (r.judge epsilon rest) reference value = .ok g at hg
          unfold judgeJump at hg
          change r.lookup? reference.target = some target at htarget
          rw [htarget] at hg
          obtain ⟨h, hh, -⟩ := map_eq_ok_iff.mp hg
          exact ⟨rest, h, hh, Or.inl (Nat.lt_succ_self rest)⟩

/-- On the way to a cycle there is no result, with however many jumps. -/
theorem PostOrdered.not_ok_of_reachesCycle (hr : r.PostOrdered) (jumps : Nat) {start : Nat}
    (hcycle : r.ReachesCycle start) (value : Json) (f : Findings) :
    r.judge epsilon jumps start value ≠ .ok f := by
  intro hok
  -- The cycle stays ahead, while the jumps and the index fall; so the descent never ends.
  obtain ⟨next, hpasses, hnext⟩ := hcycle.step
  obtain ⟨rest, g, hrest, hless⟩ := hr.passes_ok hok hpasses
  exact hr.not_ok_of_reachesCycle rest hnext value g hrest
termination_by (jumps, start)
decreasing_by
  rcases hless with hjump | ⟨rfl, hinner⟩
  · exact Prod.Lex.left _ _ hjump
  · exact Prod.Lex.right _ hinner

/-- On the way to a cycle a sealed store runs out of jumps. -/
theorem Sealed.run_of_reachesCycle (hsealed : r.Sealed) (hr : r.PostOrdered) {start : Nat}
    (hcycle : r.ReachesCycle start) (options : Options) (capacity : Nat) (value : Json) :
    r.run options capacity start value = .error (.stackOverflow options.maxStackDepth) := by
  rw [run_eq]
  unfold judgeFrom
  cases hjudge : r.judge options.epsilon options.maxStackDepth start value with
  | ok f => exact absurd hjudge (hr.not_ok_of_reachesCycle _ hcycle value f)
  | error stop =>
      rw [hsealed.stop_eq_overflow hjudge]
      rfl

/-- Recursion without a guard always overflows. If every value is passed on from a schema until it
goes round in a circle, then no validation from this schema ends with a result: whatever the value,
the number of jumps and the number of violations to record, it runs out of jumps. -/
theorem overflows_of_reachesCycle {documents : List Json} {r : Registry}
    (hcompile : compile documents = .ok r) {start : Nat} (hcycle : r.ReachesCycle start)
    (options : Options) (value : Json) :
    (∀ capacity,
        r.run options capacity start value = .error (.stackOverflow options.maxStackDepth)) ∧
      r.validateAt options start value = .error (.stackOverflow options.maxStackDepth) ∧
      (r.root? = some start →
        r.validate options value = .error (.stackOverflow options.maxStackDepth) ∧
          r.isValid options value = .error (.stackOverflow options.maxStackDepth)) ∧
      ∀ text, r.indexOf text = .ok start →
        r.validateUri options text value = .error (.stackOverflow options.maxStackDepth) := by
  have hrun (capacity : Nat) :
      r.run options capacity start value = .error (.stackOverflow options.maxStackDepth) :=
    (compile_sealed hcompile).run_of_reachesCycle (compile_postOrdered hcompile) hcycle options
      capacity value
  have hvalidate :
      r.validateAt options start value = .error (.stackOverflow options.maxStackDepth) := by
    unfold validateAt
    rw [hrun]
    rfl
  refine ⟨hrun, hvalidate, fun hroot => ?_, fun text hindex => ?_⟩
  · have hindex : r.rootIndex = .ok start := by
      unfold rootIndex
      rw [hroot]
    rw [validate_eq hindex, isValid_eq hindex, hrun]
    exact ⟨hvalidate, rfl⟩
  · rw [validateUri_eq hindex]
    exact hvalidate

/-- A schema that is the negation of itself, as the first of two alternatives. The second one
accepts every value, but it is never asked. -/
theorem own_negation_overflows :
    ∃ r, compile [.object [("anyOf", .array [.object [("not", .object [("$ref", .string "#")])],
        .bool true])]] = .ok r ∧ r.root? = some 3 ∧ r.ReachesCycle 3 ∧
      r.validate Options.default .null = .error (.stackOverflow Options.default.maxStackDepth) ∧
      r.isValid Options.default .null = .error (.stackOverflow Options.default.maxStackDepth) := by
  have hchecked : (compile [.object [("anyOf", .array [.object [("not",
      .object [("$ref", .string "#")])], .bool true])]]).toOption.map (fun r =>
        (r.root?, r.alwaysAsked 3, r.alwaysAsked 1, r.alwaysAsked 0)) =
          some (some 3, [1], [0], [3]) := by decide +kernel
  obtain ⟨r, hcompile, hr⟩ := exists_ok_of_toOption hchecked
  simp only [Prod.mk.injEq] at hr
  obtain ⟨hroot, hwhole, hnegation, hreference⟩ := hr
  have hround : Relation.TransGen r.Passes 3 3 :=
    .tail (.tail (.single (hwhole ▸ List.mem_singleton_self 1 : 1 ∈ r.alwaysAsked 3))
      (hnegation ▸ List.mem_singleton_self 0 : 0 ∈ r.alwaysAsked 1))
      (hreference ▸ List.mem_singleton_self 3 : 3 ∈ r.alwaysAsked 0)
  have hcycle : r.ReachesCycle 3 := ⟨3, .refl, hround⟩
  obtain ⟨-, -, hfirst, -⟩ := overflows_of_reachesCycle hcompile hcycle Options.default .null
  exact ⟨r, hcompile, hroot, hcycle, hfirst hroot⟩

end Registry

end SchemaRegistry

import SchemaRegistry.Proofs.Compile.Layout
import SchemaRegistry.Proofs.Semantics.Fixpoint
import SchemaRegistry.Proofs.Semantics.Holds

/-!
The verdict of a validation is what the schemas mean. A judgement leaves out checks whose outcome
does not matter any more, so a clean judgement has to be a reason to accept and any other a reason
to reject, whatever the checks that were left out would have said. The induction is on the number of
jumps, and for equally many jumps on the index of the schema.
-/

namespace SchemaRegistry

/-- A judgement that ends is a reason for one of two answers. -/
def Judgement.Decides (j : Judgement) (accepted rejected : Prop) : Prop :=
  ∀ f, j = .ok f → (f.clean = true → accepted) ∧ (f.clean = false → rejected)

/-- The answer at the end of a link. -/
def Link.Answers (r : Registry) (answer : Nat → Json → Prop) (link : Link) (value : Json) : Prop :=
  ∃ target, r.linked? link = some target ∧ answer target value

section Deciding

variable {r : Registry} {accepts rejects : Nat → Json → Prop} {child : Nat → Json → Judgement}
  {jump : Reference → Json → Judgement}

theorem Judgement.Decides.map {j : Judgement} {accepted rejected : Prop} {f : Findings → Findings}
    (hdecides : j.Decides accepted rejected) (hcount : ∀ g, (f g).violations = g.violations) :
    Judgement.Decides (j.map f) accepted rejected := by
  intro found hfound
  cases j with
  | error stop => cases hfound
  | ok g =>
      cases hfound
      have hclean : (f g).clean = g.clean := by
        unfold Findings.clean
        rw [hcount]
      rw [hclean]
      exact hdecides g rfl

theorem Judgement.Decides.weaken {j : Judgement} {accepted accepted' rejected rejected' : Prop}
    (hdecides : j.Decides accepted rejected) (haccepted : accepted → accepted')
    (hrejected : rejected → rejected') : j.Decides accepted' rejected' := fun f hf =>
  ⟨fun hclean => haccepted ((hdecides f hf).1 hclean),
    fun hclean => hrejected ((hdecides f hf).2 hclean)⟩

theorem judgeCount_cons_ok {limit found result : Nat} {c : Nat × Json} {rest : List (Nat × Json)}
    (hcount : judgeCount child limit found (c :: rest) = .ok result) :
    ∃ f next, child c.1 c.2 = .ok f ∧ next = (if f.clean then found + 1 else found) ∧
      (limit ≤ next ∧ result = next ∨
        next < limit ∧ judgeCount child limit next rest = .ok result) := by
  unfold judgeCount at hcount
  obtain ⟨f, hfirst, hrest⟩ := bind_ok hcount
  refine ⟨f, _, hfirst, rfl, ?_⟩
  dsimp only at hrest
  generalize (if f.clean = true then found + 1 else found) = next at hrest
  split at hrest
  · next hlimit =>
      cases hrest
      exact Or.inl ⟨hlimit, rfl⟩
  · next hlimit => exact Or.inr ⟨Nat.lt_of_not_le hlimit, hrest⟩

/-- A count that ends at the next success finds one or is a reason to reject all cases. -/
theorem judgeCount_next {cases : List (Nat × Json)} {found result : Nat}
    (hchild : ∀ c ∈ cases, (child c.1 c.2).Decides (accepts c.1 c.2) (rejects c.1 c.2))
    (hcount : judgeCount child (found + 1) found cases = .ok result) :
    (result = found → ∀ c ∈ cases, rejects c.1 c.2) ∧
      (result ≠ found → ∃ c ∈ cases, accepts c.1 c.2) := by
  induction cases with
  | nil =>
      cases hcount
      simp
  | cons c rest ih =>
      obtain ⟨f, next, hfirst, hnext, hends⟩ := judgeCount_cons_ok hcount
      obtain ⟨haccepted, hrejected⟩ := hchild c List.mem_cons_self f hfirst
      cases hclean : f.clean with
      | true =>
          rw [if_pos hclean] at hnext
          refine ⟨fun hsame => ?_, fun _ => ⟨c, List.mem_cons_self, haccepted hclean⟩⟩
          omega
      | false =>
          rw [hclean, if_neg Bool.false_ne_true] at hnext
          subst hnext
          rcases hends with ⟨hlimit, -⟩ | ⟨-, hcount⟩
          · omega
          · obtain ⟨hnone, hsome⟩ := ih (fun c hc => hchild c (List.mem_cons_of_mem _ hc)) hcount
            refine ⟨fun hsame => ?_, fun hother => ?_⟩
            · exact List.forall_mem_cons.mpr ⟨hrejected hclean, hnone hsame⟩
            · obtain ⟨d, hd, hanother⟩ := hsome hother
              exact ⟨d, List.mem_cons_of_mem _ hd, hanother⟩

/-- A case among others is the only one that succeeds if the others are rejected. -/
theorem exactlyOne_cons_iff {c : Nat × Json} {rest : List (Nat × Json)} :
    ExactlyOne accepts rejects (c :: rest) ↔
      (accepts c.1 c.2 ∧ ∀ other ∈ rest, rejects other.1 other.2) ∨
        (rejects c.1 c.2 ∧ ExactlyOne accepts rejects rest) := by
  constructor
  · rintro ⟨before, d, after, hcases, haccepted, hothers⟩
    cases before with
    | nil =>
        cases hcases
        exact Or.inl ⟨haccepted, hothers⟩
    | cons first before =>
        cases hcases
        obtain ⟨hfirst, hothers⟩ := List.forall_mem_cons.mp hothers
        exact Or.inr ⟨hfirst, before, d, after, rfl, haccepted, hothers⟩
  · rintro (⟨haccepted, hothers⟩ | ⟨hrejected, before, d, after, hcases, haccepted, hothers⟩)
    · exact ⟨[], c, rest, rfl, haccepted, hothers⟩
    · subst hcases
      exact ⟨c :: before, d, after, rfl, haccepted, List.forall_mem_cons.mpr ⟨hrejected, hothers⟩⟩

/-- A count that ends at the second success tells whether exactly one case succeeds. -/
theorem judgeCount_exactly {cases : List (Nat × Json)} {found : Nat}
    (hchild : ∀ c ∈ cases, (child c.1 c.2).Decides (accepts c.1 c.2) (rejects c.1 c.2))
    (hcount : judgeCount child 2 0 cases = .ok found) :
    (found = 1 → ExactlyOne accepts rejects cases) ∧
      (found ≠ 1 → ¬ ExactlyOne (fun schema value => ¬ rejects schema value)
        (fun schema value => ¬ accepts schema value) cases) := by
  induction cases with
  | nil =>
      cases hcount
      refine ⟨fun hzero => by omega, ?_⟩
      rintro - ⟨before, c, after, hcases, -⟩
      simp at hcases
  | cons c rest ih =>
      obtain ⟨f, next, hfirst, hnext, hends⟩ := judgeCount_cons_ok hcount
      obtain ⟨haccepted, hrejected⟩ := hchild c List.mem_cons_self f hfirst
      have hothers : ∀ c ∈ rest, (child c.1 c.2).Decides (accepts c.1 c.2) (rejects c.1 c.2) :=
        fun c hc => hchild c (List.mem_cons_of_mem _ hc)
      simp only [exactlyOne_cons_iff]
      cases hclean : f.clean with
      | true =>
          rw [if_pos hclean] at hnext
          subst hnext
          rcases hends with ⟨hlimit, -⟩ | ⟨-, hcount⟩
          · omega
          · -- Two accepted cases stand in each other's way, whichever is taken for the only one.
            obtain ⟨hone, hother⟩ := judgeCount_next hothers hcount
            refine ⟨fun hfound => Or.inl ⟨haccepted hclean, hone hfound⟩, fun hfound => ?_⟩
            obtain ⟨d, hd, hanother⟩ := hother hfound
            rintro (⟨-, hnone⟩ | ⟨hnot, -⟩)
            · exact hnone d hd hanother
            · exact hnot (haccepted hclean)
      | false =>
          rw [hclean, if_neg Bool.false_ne_true] at hnext
          subst hnext
          rcases hends with ⟨hlimit, -⟩ | ⟨-, hcount⟩
          · omega
          · obtain ⟨hone, hother⟩ := ih hothers hcount
            refine ⟨fun hfound => Or.inr ⟨hrejected hclean, hone hfound⟩, fun hfound => ?_⟩
            rintro (⟨hnot, -⟩ | ⟨-, hrest⟩)
            · exact hnot (hrejected hclean)
            · exact hother hfound hrest

/-- Checking until one schema is satisfied finds one or is a reason to reject all of them. -/
theorem judgeAny_decides {value : Json} {index : Nat} {schemas : List Nat}
    {result : Option (List Finding)}
    (hchild : ∀ schema ∈ schemas,
      (child schema value).Decides (accepts schema value) (rejects schema value))
    (hany : judgeAny child value index schemas = .ok result) :
    (result = none → ∃ schema ∈ schemas, accepts schema value) ∧
      (result ≠ none → ∀ schema ∈ schemas, rejects schema value) := by
  induction schemas generalizing index result with
  | nil =>
      cases hany
      simp
  | cons schema rest ih =>
      unfold judgeAny at hany
      obtain ⟨f, hfirst, hrest⟩ := bind_ok hany
      obtain ⟨haccepted, hrejected⟩ := hchild schema List.mem_cons_self f hfirst
      split at hrest
      · next hclean =>
          cases hrest
          exact ⟨fun _ => ⟨schema, List.mem_cons_self, haccepted hclean⟩, fun hsome =>
            absurd rfl hsome⟩
      · next hunclean =>
          have hclean : f.clean = false := Bool.eq_false_iff.mpr hunclean
          obtain ⟨found, hlater, hdone⟩ := bind_ok hrest
          cases hdone
          obtain ⟨hnone, hsome⟩ := ih (fun c hc => hchild c (List.mem_cons_of_mem _ hc)) hlater
          refine ⟨fun hmap => ?_, fun hmap => ?_⟩
          · obtain ⟨other, hother, hfound⟩ := hnone (Option.map_eq_none_iff.mp hmap)
            exact ⟨other, List.mem_cons_of_mem _ hother, hfound⟩
          · have hentries : found ≠ none := fun hfound => hmap (Option.map_eq_none_iff.mpr hfound)
            exact List.forall_mem_cons.mpr ⟨hrejected hclean, hsome hentries⟩

theorem judgeBranch_decides {token : String} {value : Json} {branch : Option Nat}
    (hchild : ∀ schema ∈ branch.toList,
      (child schema value).Decides (accepts schema value) (rejects schema value)) :
    (judgeBranch child token value branch).Decides (∀ schema ∈ branch, accepts schema value)
      (∃ schema ∈ branch, rejects schema value) := by
  cases branch with
  | none =>
      intro f hf
      cases hf
      refine ⟨fun _ schema hschema => absurd hschema (Option.not_mem_none schema), fun hclean => ?_⟩
      cases hclean
  | some schema =>
      have hschema := hchild schema (List.mem_singleton_self schema)
      refine (hschema.map (Findings.violations_within [token])).weaken ?_ ?_
      · intro haccepted other hother
        cases hother
        exact haccepted
      · intro hrejected
        exact ⟨schema, rfl, hrejected⟩

variable (r accepts rejects) in
/-- An action fails if it cannot hold, however the open answers turn out. -/
def Action.Fails (action : Action) : Prop :=
  ¬ action.Holds r (fun index value => ¬ rejects index value)
    (fun index value => ¬ accepts index value)

theorem Judgement.decides_ok (ok : Bool) {accepted rejected : Prop} {f : Findings}
    (hunclean : f.clean = false) (haccepted : ok = true → accepted)
    (hrejected : ok = false → rejected) :
    Judgement.Decides (.ok (if ok then .empty else f)) accepted rejected := by
  intro g hg
  cases hg
  cases ok with
  | true => exact ⟨fun _ => haccepted rfl, fun hclean => by cases hclean⟩
  | false =>
      exact ⟨fun hclean => absurd (hclean.symm.trans hunclean) (by decide),
        fun _ => hrejected rfl⟩

theorem count_decides {quota : Quota} {cases : List (Nat × Json)}
    (hcases : ∀ c ∈ cases, (child c.1 c.2).Decides (accepts c.1 c.2) (rejects c.1 c.2)) :
    ((Action.count quota cases).judge child jump).Decides
      ((Action.count quota cases).Holds r accepts rejects)
      ((Action.count quota cases).Fails r accepts rejects) := by
  intro f hf
  obtain ⟨found, hcount, hdone⟩ := bind_ok hf
  refine Judgement.decides_ok (quota.met found) rfl ?_ ?_ f hdone
  · intro hmet
    cases quota with
    | atLeastOne =>
        have hsome : found ≠ 0 := by simpa [Quota.met, Nat.pos_iff_ne_zero] using hmet
        exact (judgeCount_next hcases hcount).2 hsome
    | exactlyOne =>
        have hone : found = 1 := by simpa [Quota.met] using hmet
        exact (judgeCount_exactly hcases hcount).1 hone
    | never =>
        have hnone : found = 0 := by simpa [Quota.met] using hmet
        exact (judgeCount_next hcases hcount).1 hnone
  · intro hmet
    cases quota with
    | atLeastOne =>
        have hnone : found = 0 := by simpa [Quota.met] using hmet
        rintro ⟨c, hc, hopen⟩
        exact hopen ((judgeCount_next hcases hcount).1 hnone c hc)
    | exactlyOne =>
        have hother : found ≠ 1 := by simpa [Quota.met] using hmet
        exact (judgeCount_exactly hcases hcount).2 hother
    | never =>
        have hsome : found ≠ 0 := by simpa [Quota.met] using hmet
        obtain ⟨c, hc, haccepted⟩ := (judgeCount_next hcases hcount).2 hsome
        exact fun hopen => hopen c hc haccepted

theorem any_decides {schemas : List Nat} {value : Json}
    (hschemas : ∀ schema ∈ schemas,
      (child schema value).Decides (accepts schema value) (rejects schema value)) :
    ((Action.any schemas value).judge child jump).Decides
      ((Action.any schemas value).Holds r accepts rejects)
      ((Action.any schemas value).Fails r accepts rejects) := by
  intro f hf
  obtain ⟨result, hany, hdone⟩ := bind_ok hf
  obtain ⟨hnone, hsome⟩ := judgeAny_decides hschemas hany
  cases result with
  | none =>
      cases hdone
      exact ⟨fun _ => hnone rfl, fun hclean => by cases hclean⟩
  | some entries =>
      cases hdone
      constructor
      · intro hclean
        cases hclean
      · rintro - ⟨schema, hschema, hopen⟩
        exact hopen (hsome (Option.some_ne_none _) schema hschema)

theorem choose_decides {conditional : Conditional} {value : Json}
    (hlinks : ∀ schema ∈ conditional.links,
      (child schema value).Decides (accepts schema value) (rejects schema value)) :
    ((Action.choose conditional value).judge child jump).Decides
      ((Action.choose conditional value).Holds r accepts rejects)
      ((Action.choose conditional value).Fails r accepts rejects) := by
  intro f hf
  obtain ⟨g, hcondition, hbranch⟩ := bind_ok hf
  obtain ⟨haccepted, hrejected⟩ := hlinks _ List.mem_cons_self g hcondition
  -- The branch that is not chosen is ruled out by the answer of the condition.
  split at hbranch
  · next hclean =>
      obtain ⟨hholds, hfails⟩ := judgeBranch_decides (fun schema hschema =>
        hlinks schema (List.mem_cons_of_mem _ (List.mem_append_left _ hschema))) f hbranch
      refine ⟨fun hend => Or.inl ⟨haccepted hclean, hholds hend⟩, fun hend => ?_⟩
      obtain ⟨schema, hschema, hrefused⟩ := hfails hend
      rintro (⟨-, hopen⟩ | ⟨hopen, -⟩)
      · exact hopen schema hschema hrefused
      · exact hopen (haccepted hclean)
  · next hunclean =>
      have hclean : g.clean = false := Bool.eq_false_iff.mpr hunclean
      obtain ⟨hholds, hfails⟩ := judgeBranch_decides (fun schema hschema =>
        hlinks schema (List.mem_cons_of_mem _ (List.mem_append_right _ hschema))) f hbranch
      refine ⟨fun hend => Or.inr ⟨hrejected hclean, hholds hend⟩, fun hend => ?_⟩
      obtain ⟨schema, hschema, hrefused⟩ := hfails hend
      rintro (⟨hopen, -⟩ | ⟨-, hopen⟩)
      · exact hopen (hrejected hclean)
      · exact hopen schema hschema hrefused

/-- The judgement of an action is a reason for the action to hold or to fail. -/
theorem Action.judge_decides {action : Action}
    (hcalls : ∀ call ∈ action.calls, (judgeLink child jump call.1 call.2).Decides
      (call.1.Answers r accepts call.2) (call.1.Answers r rejects call.2)) :
    (action.judge child jump).Decides (action.Holds r accepts rejects)
      (action.Fails r accepts rejects) := by
  have hchild : ∀ schema value, (Link.schema schema, value) ∈ action.calls →
      (child schema value).Decides (accepts schema value) (rejects schema value) := by
    intro schema value hcall
    refine (hcalls _ hcall).weaken ?_ ?_
    · rintro ⟨target, htarget, hanswer⟩
      cases htarget
      exact hanswer
    · rintro ⟨target, htarget, hanswer⟩
      cases htarget
      exact hanswer
  cases action with
  | test ok =>
      exact Judgement.decides_ok ok rfl id fun hfalse htrue =>
        absurd (hfalse.symm.trans htrue) Bool.false_ne_true
  | follow reference value =>
      refine (hcalls _ (List.mem_singleton_self _)).weaken id ?_
      rintro ⟨target, htarget, hrejected⟩ ⟨other, hother, hopen⟩
      cases htarget.symm.trans hother
      exact hopen hrejected
  | descend item schema value =>
      have hschema := hchild schema value (List.mem_singleton_self _)
      exact (hschema.map (Findings.violations_under item)).weaken id
        fun hrejected hopen => hopen hrejected
  | count quota cases =>
      exact count_decides fun c hc => hchild c.1 c.2 (List.mem_map_of_mem hc)
  | any schemas value =>
      exact any_decides fun schema hschema => hchild schema value (List.mem_map_of_mem hschema)
  | choose conditional value =>
      exact choose_decides fun schema hschema => hchild schema value (List.mem_map_of_mem hschema)

/-- The judgement of a plan is a reason for all its actions to hold or for one of them to fail. -/
theorem judgeAll_decides {steps : List Step}
    (hcalls : ∀ call ∈ callsOf steps, (judgeLink child jump call.1 call.2).Decides
      (call.1.Answers r accepts call.2) (call.1.Answers r rejects call.2)) :
    (judgeAll child jump steps).Decides (HoldsAll r accepts rejects steps)
      (∃ step ∈ steps, step.action.Fails r accepts rejects) := by
  induction steps with
  | nil =>
      intro f hf
      cases hf
      exact ⟨fun _ => holdsAll_nil.mpr trivial, fun hclean => by cases hclean⟩
  | cons step rest ih =>
      have hstep : (step.judge child jump).Decides (step.action.Holds r accepts rejects)
          (step.action.Fails r accepts rejects) :=
        (Action.judge_decides fun call hcall =>
          hcalls call (List.mem_append_left _ hcall)).map (Findings.violations_within step.path)
      have hrest := ih fun call hcall => hcalls call (List.mem_append_right _ hcall)
      intro f hf
      obtain ⟨g, hg, hsecond⟩ := bind_ok hf
      obtain ⟨h, hh, hdone⟩ := bind_ok hsecond
      cases hdone
      obtain ⟨hholds, hfails⟩ := hstep g hg
      obtain ⟨hholdsRest, hfailsRest⟩ := hrest h hh
      rw [Findings.clean_append]
      constructor
      · intro hboth
        obtain ⟨hfirst, hlast⟩ := Bool.and_eq_true_iff.mp hboth
        exact (holdsAll_cons step rest).mpr ⟨hholds hfirst, hholdsRest hlast⟩
      · intro heither
        rcases Bool.and_eq_false_iff.mp heither with hfirst | hlast
        · exact ⟨step, List.mem_cons_self, hfails hfirst⟩
        · obtain ⟨other, hother, hfailed⟩ := hfailsRest hlast
          exact ⟨other, List.mem_cons_of_mem _ hother, hfailed⟩

end Deciding

namespace Registry

variable {r : Registry}

theorem judgeFollow_decides {epsilon : Binary64} {jumps : Nat} {accepts rejects : Nat → Json → Prop}
    (hjudge : ∀ rest, jumps = rest + 1 → ∀ index < r.size, ∀ value,
      (r.judge epsilon rest index value).Decides (accepts index value) (rejects index value))
    (reference : Reference) (value : Json) :
    (r.judgeFollow epsilon jumps reference value).Decides
      ((Link.reference reference).Answers r accepts value)
      ((Link.reference reference).Answers r rejects value) := by
  cases jumps with
  | zero =>
      intro f hf
      cases hf
  | succ rest =>
      rw [judgeFollow_succ]
      unfold judgeJump
      cases htarget : r.lookup? reference.target with
      | none =>
          intro f hf
          cases hf
      | some target =>
          have hbehind := hjudge rest rfl target (lookup?_lt htarget) value
          exact (hbehind.map (Findings.violations_landed (r.landing target))).weaken
            (fun haccepted => ⟨target, htarget, haccepted⟩)
            (fun hrejected => ⟨target, htarget, hrejected⟩)

theorem PostOrdered.judge_decides_step (hr : r.PostOrdered) {epsilon : Binary64} {jumps : Nat}
    (hfollow : ∀ reference value, (r.judgeFollow epsilon jumps reference value).Decides
      ((Link.reference reference).Answers r (r.Accepts epsilon) value)
      ((Link.reference reference).Answers r (r.Rejects epsilon) value))
    {index : Nat} (hindex : index < r.size) (value : Json) :
    (r.judge epsilon jumps index value).Decides (r.Accepts epsilon index value)
      (r.Rejects epsilon index value) := by
  induction index using Nat.strongRecOn generalizing value with
  | ind index ih =>
      obtain ⟨node, hnode⟩ := exists_node_of_lt hindex
      have hcalls : ∀ call ∈ callsOf (node.plan epsilon value),
          (judgeLink (r.judge epsilon jumps) (r.judgeFollow epsilon jumps) call.1 call.2).Decides
            (call.1.Answers r (r.Accepts epsilon) call.2)
            (call.1.Answers r (r.Rejects epsilon) call.2) := by
        rintro ⟨link, part⟩ hcall
        cases link with
        | reference reference => exact hfollow reference part
        | schema inner =>
            have hinner : inner < index :=
              hr index node hnode inner (Node.mem_links_of_call hcall)
            exact (ih inner hinner (Nat.lt_trans hinner hindex) part).weaken
              (fun haccepted => ⟨inner, rfl, haccepted⟩)
              (fun hrejected => ⟨inner, rfl, hrejected⟩)
      rw [hr.judge_eq hnode]
      refine (judgeAll_decides hcalls).weaken ?_ ?_
      · intro hholds
        exact (accepts_iff hnode value).mpr ((node.holds_plan_iff epsilon value).mp hholds)
      · rintro ⟨step, hstep, hfails⟩
        refine (rejects_iff hnode value).mpr fun hadmits => ?_
        exact hfails ((node.holds_plan_iff epsilon value).mpr hadmits step hstep)

/-- The judgement of a schema is a reason for the schema to accept or to reject the value. -/
theorem PostOrdered.judge_decides (hr : r.PostOrdered) (epsilon : Binary64) (jumps : Nat)
    {index : Nat} (hindex : index < r.size) (value : Json) :
    (r.judge epsilon jumps index value).Decides (r.Accepts epsilon index value)
      (r.Rejects epsilon index value) := by
  induction jumps generalizing index value with
  | zero =>
      refine hr.judge_decides_step (judgeFollow_decides fun rest hzero => ?_) hindex value
      cases hzero
  | succ jumps ih =>
      refine hr.judge_decides_step (judgeFollow_decides fun rest hrest => ?_) hindex value
      cases hrest
      exact fun index hindex value => ih hindex value

/-- The verdict of a validation is the meaning of the schema: a validation with a result counts no
violation if and only if the schema accepts the value, and some if and only if it rejects it. What
the schema accepts is what its keywords admit, given what other schemas accept and reject, and no
answer to all questions says anything else. -/
theorem verdict_is_meaning {documents : List Json} {r : Registry}
    (hcompile : compile documents = .ok r) {index : Nat} {node : Node}
    (hnode : r.node? index = some node) {options : Options} {capacity : Nat} {value : Json}
    {m : Machine} (hrun : r.run options capacity index value = .ok m) :
    (m.clean = true ↔ r.Accepts options.epsilon index value) ∧
      (m.clean = false ↔ r.Rejects options.epsilon index value) ∧
      (r.Accepts options.epsilon index value ↔
        node.Admits r options.epsilon (r.Accepts options.epsilon) (r.Rejects options.epsilon)
          value) ∧
      ∀ meaning, r.IsMeaning options.epsilon meaning →
        (m.clean = true ↔ meaning index value) := by
  have hdecides := (compile_postOrdered hcompile).judge_decides options.epsilon
    options.maxStackDepth (node?_lt hnode) value
  obtain ⟨f, hjudge, hclean⟩ := judge_of_run hrun
  rw [hclean]
  obtain ⟨haccepts, hrejects⟩ := hdecides f hjudge
  cases hverdict : f.clean with
  | true =>
      have haccepted := haccepts hverdict
      have hunrejected := not_rejects_of_accepts haccepted
      refine ⟨by simp [haccepted], by simp [hunrejected], accepts_iff hnode value, ?_⟩
      intro meaning hmeaning
      simp [(hmeaning.agrees index value).1 haccepted]
  | false =>
      have hrejected := hrejects hverdict
      have hunaccepted : ¬ r.Accepts options.epsilon index value := fun haccepted =>
        not_rejects_of_accepts haccepted hrejected
      refine ⟨by simp [hunaccepted], by simp [hrejected], accepts_iff hnode value, ?_⟩
      intro meaning hmeaning
      simp [(hmeaning.agrees index value).2 hrejected]

/-- A schema that forbids what is never allowed accepts `null`. -/
theorem not_false_accepts_null :
    ∃ r node m,
      compile [.object [("not", .object [("$ref", .string "#/definitions/none")]),
        ("definitions", .object [("none", .bool false)])]] = .ok r ∧
      r.node? 2 = some node ∧ r.run Options.default 0 2 .null = .ok m ∧ m.clean = true ∧
      r.Accepts Options.defaultEpsilon 2 .null ∧
      node.Admits r Options.defaultEpsilon (r.Accepts Options.defaultEpsilon)
        (r.Rejects Options.defaultEpsilon) .null := by
  have hchecked : (compile [.object [("not", .object [("$ref", .string "#/definitions/none")]),
      ("definitions", .object [("none", .bool false)])]]).toOption.map (fun r =>
        ((r.node? 2).isSome, (r.run Options.default 0 2 .null).toOption.map Machine.clean)) =
          some (true, some true) := by decide +kernel
  obtain ⟨r, hcompile, hr⟩ := exists_ok_of_toOption hchecked
  obtain ⟨hsome, hresult⟩ := Prod.mk.inj hr
  obtain ⟨node, hnode⟩ := Option.isSome_iff_exists.mp hsome
  obtain ⟨m, hrun, hclean⟩ := exists_ok_of_toOption hresult
  obtain ⟨haccepts, -, hadmits, -⟩ := verdict_is_meaning hcompile hnode hrun
  have haccepted := haccepts.mp hclean
  exact ⟨r, node, m, hcompile, hnode, hrun, hclean, haccepted, hadmits.mp haccepted⟩

end Registry

end SchemaRegistry

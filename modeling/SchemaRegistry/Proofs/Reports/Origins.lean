import SchemaRegistry.Proofs.Graph.Recursion

/-!
Where findings come from. A step of a plan either fails itself, and is then found at its own path,
or hands on what a schema or the target of a reference finds. Schemas that are only counted or that
are asked for a condition hand on nothing.
-/

namespace SchemaRegistry

/-- A link from which findings are handed on, with the ways to it and to the value that it gets. -/
structure Report where
  path : List String
  item : List String
  link : Link
  value : Json

def Report.within (path : List String) (call : Report) : Report :=
  { call with path := path ++ call.path }

/-- The schema at `token`, if there is one. -/
def Report.branch (token : String) (value : Json) (schema : Option Nat) : List Report :=
  schema.toList.map fun schema => ⟨[token], [], .schema schema, value⟩

/-- The links whose findings an action hands on. -/
def Action.reports : Action → List Report
  | test _ => []
  | follow reference value => [⟨[], [], .reference reference, value⟩]
  | descend item schema value => [⟨[], item, .schema schema, value⟩]
  | count _ _ => []
  | any schemas value =>
    schemas.zipIdx.map fun entry => ⟨[toString entry.2], [], .schema entry.1, value⟩
  | choose conditional value =>
    Report.branch "then" value conditional.consequent ++
      Report.branch "else" value conditional.alternative

/-- Whether an action may fail itself. -/
def Action.mayFail : Action → Bool
  | test ok => !ok
  | count _ _ => true
  | _ => false

/-- The links whose findings a plan hands on. -/
def reportsOf (steps : List Step) : List Report :=
  steps.flatMap fun step => step.action.reports.map (Report.within step.path)

/-- The paths of the steps that may fail themselves. -/
def failuresOf (steps : List Step) : List (List String) :=
  (steps.filter fun step => step.action.mayFail).map Step.path

section Lists

@[simp] theorem reportsOf_nil : reportsOf [] = [] := rfl

@[simp] theorem reportsOf_cons (step : Step) (rest : List Step) : reportsOf (step :: rest) =
    step.action.reports.map (Report.within step.path) ++ reportsOf rest := rfl

@[simp] theorem reportsOf_append (first second : List Step) :
    reportsOf (first ++ second) = reportsOf first ++ reportsOf second := List.flatMap_append

@[simp] theorem reports_test (token : String) (ok : Bool) :
    (Step.test token ok).action.reports = [] := rfl

@[simp] theorem reportsOf_flatMap {α : Type} (f : α → List Step) (items : List α) :
    reportsOf (items.flatMap f) = items.flatMap fun item => reportsOf (f item) :=
  List.flatMap_assoc

theorem mem_reportsOf {steps : List Step} {call : Report} :
    call ∈ reportsOf steps ↔
      ∃ step ∈ steps, ∃ inner ∈ step.action.reports, inner.within step.path = call := by
  simp [reportsOf]

theorem Report.within_within (outer inner : List String) (call : Report) :
    (call.within inner).within outer = call.within (outer ++ inner) := by
  simp [within]

@[simp] theorem reportsOf_within (token : String) (steps : List Step) :
    reportsOf (steps.map (Step.within token)) = (reportsOf steps).map (Report.within [token]) := by
  induction steps with
  | nil => rfl
  | cons step rest ih =>
      simp [ih, Step.within, Function.comp_def, Report.within_within]

@[simp] theorem failuresOf_nil : failuresOf [] = [] := rfl

theorem failuresOf_cons (step : Step) (rest : List Step) : failuresOf (step :: rest) =
    (if step.action.mayFail then [step.path] else []) ++ failuresOf rest := by
  unfold failuresOf
  rw [List.filter_cons]
  split <;> rfl

@[simp] theorem failuresOf_append (first second : List Step) :
    failuresOf (first ++ second) = failuresOf first ++ failuresOf second := by
  simp [failuresOf]

@[simp] theorem mem_failuresOf_test {token : String} {ok : Bool} {rest : List Step}
    {path : List String} : path ∈ failuresOf (Step.test token ok :: rest) ↔
      (ok = false ∧ path = [token]) ∨ path ∈ failuresOf rest := by
  rw [failuresOf_cons, List.mem_append]
  cases ok <;> simp [Step.test, Action.mayFail]

@[simp] theorem failuresOf_within (token : String) (steps : List Step) :
    failuresOf (steps.map (Step.within token)) = (failuresOf steps).map (token :: ·) := by
  unfold failuresOf
  rw [List.filter_map, List.map_map, List.map_map]
  rfl

theorem mem_failuresOf {steps : List Step} {path : List String} :
    path ∈ failuresOf steps ↔ ∃ action, action.mayFail = true ∧ ⟨path, action⟩ ∈ steps := by
  unfold failuresOf
  constructor
  · intro hpath
    obtain ⟨step, hstep, rfl⟩ := List.mem_map.mp hpath
    exact ⟨step.action, (List.mem_filter.mp hstep).2, (List.mem_filter.mp hstep).1⟩
  · rintro ⟨action, hfails, hstep⟩
    exact List.mem_map.mpr ⟨_, List.mem_filter.mpr ⟨hstep, hfails⟩, rfl⟩

end Lists

/-- The ways in which a plan comes to a finding. -/
inductive Finding.Arises (child : Nat → Json → Judgement) (jump : Reference → Json → Judgement)
    (steps : List Step) : Finding → Prop
  | failed (path : List String) (hpath : path ∈ failuresOf steps) :
      Arises child jump steps ⟨[], path, none⟩
  | reported (call : Report) (f : Findings) (inner : Finding) (hcall : call ∈ reportsOf steps)
      (hjudge : judgeLink child jump call.link call.value = .ok f) (hinner : inner ∈ f.entries) :
      Arises child jump steps ((inner.under call.item).within call.path)

section Judging

variable {child : Nat → Json → Judgement} {jump : Reference → Json → Judgement}

/-- What is found by trying schemas is what one of them finds, at its position. -/
theorem mem_of_judgeAny {value : Json} {index : Nat} {schemas : List Nat} {entries : List Finding}
    (hany : judgeAny child value index schemas = .ok (some entries)) {x : Finding}
    (hx : x ∈ entries) :
    ∃ entry ∈ schemas.zipIdx index, ∃ f inner, child entry.1 value = .ok f ∧ inner ∈ f.entries ∧
      x = inner.within [toString entry.2] := by
  induction schemas generalizing index entries with
  | nil =>
      cases hany
      cases hx
  | cons schema rest ih =>
      unfold judgeAny at hany
      obtain ⟨f, hf, hrest⟩ := bind_ok hany
      split at hrest
      · cases hrest
      · obtain ⟨others, hothers, hdone⟩ := bind_ok hrest
        cases others with
        | none => cases hdone
        | some later =>
            cases hdone
            rw [List.zipIdx_cons]
            rcases List.mem_append.mp hx with hfirst | hlater
            · obtain ⟨inner, hinner, rfl⟩ := List.mem_map.mp hfirst
              exact ⟨(schema, index), List.mem_cons_self, f, inner, hf, hinner, rfl⟩
            · obtain ⟨entry, hentry, hfound⟩ := ih hothers hlater
              exact ⟨entry, List.mem_cons_of_mem _ hentry, hfound⟩

theorem mem_of_judgeBranch {token : String} {value : Json} {branch : Option Nat} {f : Findings}
    (hbranch : judgeBranch child token value branch = .ok f) {x : Finding} (hx : x ∈ f.entries) :
    ∃ call ∈ Report.branch token value branch, ∃ g inner,
      judgeLink child jump call.link call.value = .ok g ∧ inner ∈ g.entries ∧
        x = (inner.under call.item).within call.path := by
  cases branch with
  | none =>
      cases hbranch
      cases hx
  | some schema =>
      obtain ⟨g, hg, rfl⟩ := map_eq_ok_iff.mp hbranch
      obtain ⟨inner, hinner, rfl⟩ := List.mem_map.mp hx
      exact ⟨_, List.mem_singleton_self _, g, inner, hg, hinner, rfl⟩

/-- A finding of a step arises at the step. -/
theorem Step.arises {step : Step} {f : Findings} (hjudge : step.judge child jump = .ok f)
    {x : Finding} (hx : x ∈ f.entries) : x.Arises child jump [step] := by
  obtain ⟨path, action⟩ := step
  obtain ⟨found, hfound, rfl⟩ := map_eq_ok_iff.mp hjudge
  obtain ⟨y, hy, rfl⟩ := List.mem_map.mp hx
  have hfailed : action.mayFail = true → y = ⟨[], [], none⟩ →
      (y.within path).Arises child jump [⟨path, action⟩] := by
    rintro hfails rfl
    have hown : Finding.Arises child jump [⟨path, action⟩] ⟨[], path, none⟩ :=
      .failed path (mem_failuresOf.mpr ⟨action, hfails, List.mem_singleton_self _⟩)
    simpa [Finding.within] using hown
  have hreported : ∀ (call : Report) g inner, call ∈ action.reports →
      judgeLink child jump call.link call.value = .ok g → inner ∈ g.entries →
      y = (inner.under call.item).within call.path →
      (y.within path).Arises child jump [⟨path, action⟩] := by
    rintro call g inner hcall hg hinner rfl
    have hmem : call.within path ∈ reportsOf [⟨path, action⟩] := by
      simpa using List.mem_map_of_mem hcall
    rw [Finding.within_within]
    exact .reported _ g inner hmem hg hinner
  cases action with
  | test ok =>
      cases ok with
      | true =>
          cases hfound
          cases hy
      | false =>
          cases hfound
          exact hfailed rfl (List.mem_singleton.mp hy)
  | follow reference value =>
      exact hreported _ found y (List.mem_singleton_self _) hfound hy (Finding.within_nil _).symm
  | descend item schema value =>
      obtain ⟨g, hg, rfl⟩ := map_eq_ok_iff.mp hfound
      obtain ⟨inner, hinner, rfl⟩ := List.mem_map.mp hy
      exact hreported _ g inner (List.mem_singleton_self _) hg hinner (Finding.within_nil _).symm
  | count quota cases =>
      obtain ⟨satisfied, -, hdone⟩ := bind_ok hfound
      split at hdone
      · cases hdone
        cases hy
      · cases hdone
        exact hfailed rfl (List.mem_singleton.mp hy)
  | any schemas value =>
      obtain ⟨entries, hentries, hdone⟩ := bind_ok hfound
      cases entries with
      | none =>
          cases hdone
          cases hy
      | some entries =>
          cases hdone
          obtain ⟨entry, hentry, g, inner, hg, hinner, rfl⟩ := mem_of_judgeAny hentries hy
          exact hreported _ g inner (List.mem_map_of_mem hentry) hg hinner rfl
  | choose conditional value =>
      obtain ⟨g, -, hchosen⟩ := bind_ok hfound
      split at hchosen
      · obtain ⟨call, hcall, g, inner, hg, hinner, hy⟩ := mem_of_judgeBranch hchosen hy
        exact hreported call g inner (List.mem_append_left _ hcall) hg hinner hy
      · obtain ⟨call, hcall, g, inner, hg, hinner, hy⟩ := mem_of_judgeBranch hchosen hy
        exact hreported call g inner (List.mem_append_right _ hcall) hg hinner hy

theorem Finding.Arises.mono {steps more : List Step} {x : Finding}
    (hx : x.Arises child jump steps) (hsubset : steps ⊆ more) : x.Arises child jump more := by
  cases hx with
  | failed path hpath =>
      obtain ⟨action, hfails, hstep⟩ := mem_failuresOf.mp hpath
      exact .failed path (mem_failuresOf.mpr ⟨action, hfails, hsubset hstep⟩)
  | reported call f inner hcall hjudge hinner =>
      obtain ⟨step, hstep, hreports⟩ := List.mem_flatMap.mp hcall
      exact .reported call f inner (List.mem_flatMap.mpr ⟨step, hsubset hstep, hreports⟩) hjudge
        hinner

/-- Every finding of a plan arises in one of the two ways. -/
theorem judgeAll_arises {steps : List Step} {f : Findings}
    (hjudge : judgeAll child jump steps = .ok f) {x : Finding} (hx : x ∈ f.entries) :
    x.Arises child jump steps := by
  induction steps generalizing f with
  | nil =>
      cases hjudge
      cases hx
  | cons step rest ih =>
      obtain ⟨first, hfirst, hothers⟩ := bind_ok hjudge
      obtain ⟨others, hrest, hdone⟩ := bind_ok hothers
      cases hdone
      rcases List.mem_append.mp hx with hhead | htail
      · apply (Step.arises hfirst hhead).mono
        simp
      · exact (ih hrest htail).mono (List.subset_cons_self _ _)

end Judging

end SchemaRegistry

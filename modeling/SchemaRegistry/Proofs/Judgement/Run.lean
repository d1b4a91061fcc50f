import SchemaRegistry.Proofs.Judgement.Keywords
import SchemaRegistry.Validation.Run

/-!
Judgements of the schemas of a registry. The machine counts its open frames; a judgement is given
the number of frames that may still be opened, which is all that it needs to know about the machine.
A validation is then a judgement whose findings are absorbed by a machine without a past.
-/

namespace SchemaRegistry

namespace Machine

/-- A finding from the far side of a reference is found there in a frame without a path. -/
theorem locate_openFrame (m : Machine) (uri : Url) :
    (m.openFrame uri).locate = m.locate ∘ Finding.landed uri := by
  funext f
  obtain ⟨findingPath, schemaPath, schemaUri⟩ := f
  cases schemaUri with
  | none => rfl
  | some inner => rfl

theorem closeFrame_absorb (m : Machine) (uri : Url) (f : Findings) :
    ((m.openFrame uri).absorb f).closeFrame = m.absorb (f.landed uri) := by
  have hentries : (((m.openFrame uri).absorb f).closeFrame).entries =
      (m.absorb (f.landed uri)).entries := by
    change m.entries ++ ((f.entries.map (m.openFrame uri).locate).take m.room).toArray = _
    rw [locate_openFrame, ← List.map_map]
    rfl
  exact Machine.ext rfl rfl rfl rfl hentries

end Machine

namespace Registry

variable (r : Registry) (epsilon : Binary64)

/-- The location that a frame for the schema at an index has. -/
def landing (index : Nat) : Url := (r.uriOf? index).getD defaultBase

/-- The judgement of the schema at an index below `bound`, given those of references. -/
def judgeBelow (jump : Reference → Json → Judgement) : (bound : Nat) → Nat → Json → Judgement
  | 0 => fun _ _ => .ok .empty
  | bound + 1 => fun index value =>
    match r.node? index with
    | some node => judgeAll (judgeBelow jump bound) jump (node.plan epsilon value)
    | none => .ok .empty

/-- The judgement of a reference, given those of schemas. -/
def judgeJump (check : Nat → Json → Judgement) (reference : Reference) (value : Json) : Judgement :=
  match r.lookup? reference.target with
  | some index => (check index value).map (Findings.landed (r.landing index))
  | none => .error (.dangling reference.target)

/-- The judgement of a reference while `jumps` more frames may be opened. -/
def judgeFollow : (jumps : Nat) → Reference → Json → Judgement
  | 0 => fun _ _ => .error .overflow
  | jumps + 1 => r.judgeJump (r.judgeBelow epsilon (judgeFollow jumps) r.size)

/-- The judgement of the schema at an index while `jumps` more frames may be opened. -/
def judge (jumps : Nat) : Nat → Json → Judgement :=
  r.judgeBelow epsilon (r.judgeFollow epsilon jumps) r.size

theorem judgeFollow_succ (jumps : Nat) :
    r.judgeFollow epsilon (jumps + 1) = r.judgeJump (r.judge epsilon jumps) := rfl

section Finding

open Check

variable {r epsilon} {maxDepth opened : Nat}

theorem land_apply {check : Checker} {judgement : Nat → Json → Judgement} {index : Nat}
    {value : Json} (hcheck : Finds maxDepth opened (check index value) (judgement index value))
    (m : Machine) (hframes : m.frames.length = opened) :
    r.land check index value m =
      m.settle maxDepth ((judgement index value).map (Findings.landed (r.landing index))) := by
  have hopened : (m.openFrame (r.landing index)).frames.length = opened + 1 :=
    congrArg (· + 1) hframes
  unfold land
  rw [bind_apply]
  change (do check index value; modify Machine.closeFrame : Check Unit)
    (m.openFrame (r.landing index)) = _
  rw [bind_apply, hcheck _ hopened]
  cases judgement index value with
  | error stop => rfl
  | ok f =>
      change Except.ok ((), ((m.openFrame (r.landing index)).absorb f).closeFrame) = _
      rw [m.closeFrame_absorb]
      rfl

theorem follow_apply (maxDepth : Nat) (check : Checker) (reference : Reference) (value : Json)
    (m : Machine) :
    r.follow maxDepth check reference value m =
      if maxDepth < m.frames.length then .error (.stackOverflow maxDepth)
      else match r.lookup? reference.target with
        | some index => r.land check index value m
        | none => .error (.noSuchSchema reference.target.render) := by
  unfold follow
  rw [bind_apply]
  change (if maxDepth < m.frames.length then _ else _ : Check Unit) m = _
  split
  · rfl
  · cases r.lookup? reference.target with
    | none => rfl
    | some index => rfl

theorem follow_finds_overflow (check : Checker) (reference : Reference) (value : Json)
    (hfull : maxDepth ≤ opened) :
    Finds maxDepth opened (r.follow maxDepth check reference value) (.error .overflow) := by
  intro m hframes
  have hover : maxDepth < m.frames.length := by omega
  rw [follow_apply, if_pos hover]
  rfl

/-- Of all checks, only the one against the target of the reference matters. -/
theorem follow_finds {check : Checker} {judgement : Nat → Json → Judgement}
    {reference : Reference} {value : Json}
    (hcheck : ∀ index, r.lookup? reference.target = some index →
      Finds maxDepth (opened + 1) (check index value) (judgement index value))
    (hroom : opened < maxDepth) :
    Finds maxDepth opened (r.follow maxDepth check reference value)
      (r.judgeJump judgement reference value) := by
  intro m hframes
  have hfits : ¬ maxDepth < m.frames.length := by omega
  rw [follow_apply, if_neg hfits]
  unfold judgeJump
  cases htarget : r.lookup? reference.target with
  | none => rfl
  | some index => exact land_apply (hcheck index htarget) m hframes

theorem checkBelow_finds {jump : Follower} {judgeJump : Reference → Json → Judgement}
    (hjump : ∀ reference value,
      Finds maxDepth opened (jump reference value) (judgeJump reference value))
    (bound index : Nat) (value : Json) :
    Finds maxDepth opened (r.checkBelow epsilon jump bound index value)
      (r.judgeBelow epsilon judgeJump bound index value) := by
  induction bound generalizing index value with
  | zero => exact finds_pure
  | succ bound ih =>
      unfold checkBelow judgeBelow
      cases r.node? index with
      | none => exact finds_pure
      | some node => exact node.check_finds ih hjump epsilon value

theorem checkWithin_finds (jumps : Nat) (hopened : jumps = maxDepth - opened) (index : Nat)
    (value : Json) :
    Finds maxDepth opened (r.checkWithin epsilon maxDepth jumps index value)
      (r.judge epsilon jumps index value) := by
  induction jumps generalizing opened index value with
  | zero =>
      have hfull : maxDepth ≤ opened := by omega
      exact checkBelow_finds (fun reference value =>
        follow_finds_overflow _ reference value hfull) r.size index value
  | succ jumps ih =>
      have hroom : opened < maxDepth := by omega
      have hnext : jumps = maxDepth - (opened + 1) := by omega
      exact checkBelow_finds (fun reference value =>
        follow_finds (fun target _ => ih hnext target value) hroom) r.size index value

/-- Checking a value against a schema finds the judgement of the schema with as many jumps as the
machine has left. -/
theorem exec_finds (options : Options) (opened index : Nat) (value : Json) :
    Finds options.maxStackDepth opened (r.exec options index value)
      (r.judge options.epsilon (options.maxStackDepth - opened) index value) := by
  intro m hframes
  have hjumps : options.maxStackDepth + 1 - m.frames.length = options.maxStackDepth - opened := by
    omega
  unfold exec
  rw [hjumps]
  exact checkWithin_finds _ rfl index value m hframes

end Finding

/-- The judgement of a validation, with the locations of the schema at which it starts. -/
def judgeFrom (options : Options) (index : Nat) (value : Json) : Judgement :=
  (r.judge options.epsilon options.maxStackDepth index value).map
    (Findings.landed (r.landing index))

/-- A validation is its judgement, absorbed by a machine without a past. -/
theorem run_eq (options : Options) (capacity index : Nat) (value : Json) :
    r.run options capacity index value =
      ((Machine.start capacity).settle options.maxStackDepth
        (r.judgeFrom options index value)).map Prod.snd := by
  have hland : r.land (r.exec options) index value (Machine.start capacity) =
      (Machine.start capacity).settle options.maxStackDepth (r.judgeFrom options index value) :=
    land_apply (exec_finds options 0 index value) (Machine.start capacity) rfl
  unfold run
  rw [hland]
  rfl

section Start

variable {r : Registry} {options : Options} {index : Nat}

/-- A validation against the first document is one against its schema. -/
theorem validate_eq (hindex : r.rootIndex = .ok index) (value : Json) :
    r.validate options value = r.validateAt options index value := by
  unfold validate
  rw [hindex]
  rfl

/-- A text addresses a schema if it is a URL that the store resolves. -/
theorem indexOf_eq {text : String} {uri : Url} {index : Nat} (hparse : Url.parse text = .ok uri)
    (hresolve : r.resolve? uri = some index) : r.indexOf text = .ok index := by
  unfold indexOf
  rw [hparse]
  dsimp only
  rw [hresolve]

theorem validateUri_eq {text : String} (hindex : r.indexOf text = .ok index) (value : Json) :
    r.validateUri options text value = r.validateAt options index value := by
  unfold validateUri
  rw [hindex]
  rfl

theorem isValid_eq (hindex : r.rootIndex = .ok index) (value : Json) :
    r.isValid options value = (r.run options 0 index value).map Machine.clean := by
  unfold isValid
  rw [hindex]
  rfl

end Start

/-- A run with a result has the verdict of its judgement. -/
theorem judge_of_run {r : Registry} {options : Options} {capacity index : Nat} {value : Json}
    {m : Machine} (hrun : r.run options capacity index value = .ok m) :
    ∃ f, r.judge options.epsilon options.maxStackDepth index value = .ok f ∧ m.clean = f.clean := by
  rw [run_eq] at hrun
  unfold judgeFrom at hrun
  cases hjudge : r.judge options.epsilon options.maxStackDepth index value with
  | error stop =>
      rw [hjudge] at hrun
      cases hrun
  | ok f =>
      rw [hjudge] at hrun
      cases hrun
      refine ⟨f, rfl, ?_⟩
      change decide (0 + f.violations = 0) = decide (f.violations = 0)
      rw [Nat.zero_add]

end Registry

end SchemaRegistry

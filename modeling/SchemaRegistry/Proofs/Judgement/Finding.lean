import SchemaRegistry.Validation.Machine

/-!
What a check finds, apart from the machine that carries it out. A finding is a violation whose paths
start at the value and at the schema that were checked, and a judgement is either a count of
violations with the findings or the reason why there is none. A machine that receives the findings
of a check completes their paths by its own and records as many as it has room for.
-/

namespace SchemaRegistry

/-- A violation seen from the checked value and schema. Below a reference the schema path starts at
the schema that was jumped to, whose location is then given. -/
structure Finding where
  instancePath : List String
  schemaPath : List String
  schemaUri : Option Url
  deriving DecidableEq

namespace Finding

/-- The finding seen from a schema with this one at `path`. -/
def within (path : List String) (f : Finding) : Finding :=
  match f.schemaUri with
  | none => { f with schemaPath := path ++ f.schemaPath }
  | some _ => f

/-- The finding seen from a value with this one at `path`. -/
def under (path : List String) (f : Finding) : Finding :=
  { f with instancePath := path ++ f.instancePath }

/-- The finding seen from a reference to the schema at `uri`. -/
def landed (uri : Url) (f : Finding) : Finding :=
  { f with schemaUri := some (f.schemaUri.getD uri) }

/-- The violation that is found from a place in the instance and a frame. -/
def locate (instancePath : JsonPointer) (frame : Frame) (f : Finding) : Violation :=
  match f.schemaUri with
  | none =>
      ⟨⟨instancePath.tokens ++ f.instancePath⟩, ⟨frame.path.tokens ++ f.schemaPath⟩, frame.uri⟩
  | some uri => ⟨⟨instancePath.tokens ++ f.instancePath⟩, ⟨f.schemaPath⟩, uri⟩

@[simp] theorem under_nil (f : Finding) : f.under [] = f := rfl

@[simp] theorem within_nil (f : Finding) : f.within [] = f := by
  unfold within
  split <;> rfl

theorem within_within (outer inner : List String) (f : Finding) :
    (f.within inner).within outer = f.within (outer ++ inner) := by
  obtain ⟨instancePath, schemaPath, schemaUri⟩ := f
  cases schemaUri with
  | none => simp [within]
  | some uri => rfl

end Finding

/-- The number of violations of a check, and those of them that it would record. -/
@[ext]
structure Findings where
  violations : Nat
  entries : List Finding
  deriving DecidableEq

namespace Findings

def empty : Findings := ⟨0, []⟩

/-- The findings of a check that fails where it stands. -/
def single : Findings := ⟨1, [⟨[], [], none⟩]⟩

instance : Append Findings := ⟨fun f g => ⟨f.violations + g.violations, f.entries ++ g.entries⟩⟩

/-- Whether every check succeeded. -/
def clean (f : Findings) : Bool := f.violations = 0

/-- The findings seen from a schema with the checked one at `path`. -/
def within (path : List String) (f : Findings) : Findings :=
  ⟨f.violations, f.entries.map (Finding.within path)⟩

/-- The findings seen from a value with the checked one at `path`. -/
def under (path : List String) (f : Findings) : Findings :=
  ⟨f.violations, f.entries.map (Finding.under path)⟩

/-- The findings seen from a reference to the checked schema, which is at `uri`. -/
def landed (uri : Url) (f : Findings) : Findings :=
  ⟨f.violations, f.entries.map (Finding.landed uri)⟩

@[simp] theorem violations_append (f g : Findings) :
    (f ++ g).violations = f.violations + g.violations := rfl

@[simp] theorem entries_append (f g : Findings) : (f ++ g).entries = f.entries ++ g.entries := rfl

theorem clean_append (f g : Findings) : (f ++ g).clean = (f.clean && g.clean) := by
  unfold clean
  rw [violations_append, ← Bool.decide_and]
  exact decide_eq_decide.mpr Nat.add_eq_zero_iff

@[simp] theorem violations_within (path : List String) (f : Findings) :
    (f.within path).violations = f.violations := rfl

@[simp] theorem violations_under (path : List String) (f : Findings) :
    (f.under path).violations = f.violations := rfl

@[simp] theorem violations_landed (uri : Url) (f : Findings) :
    (f.landed uri).violations = f.violations := rfl

@[simp] theorem entries_within (path : List String) (f : Findings) :
    (f.within path).entries = f.entries.map (Finding.within path) := rfl

@[simp] theorem entries_under (path : List String) (f : Findings) :
    (f.under path).entries = f.entries.map (Finding.under path) := rfl

@[simp] theorem entries_landed (uri : Url) (f : Findings) :
    (f.landed uri).entries = f.entries.map (Finding.landed uri) := rfl

@[simp] theorem empty_append (f : Findings) : empty ++ f = f :=
  Findings.ext (Nat.zero_add _) (List.nil_append _)

@[simp] theorem append_empty (f : Findings) : f ++ empty = f :=
  Findings.ext (Nat.add_zero _) (List.append_nil _)

theorem append_assoc (f g h : Findings) : f ++ g ++ h = f ++ (g ++ h) :=
  Findings.ext (Nat.add_assoc _ _ _) (List.append_assoc _ _ _)

theorem within_append (f : Findings) (path : List String) (g : Findings) :
    (f ++ g).within path = f.within path ++ g.within path :=
  Findings.ext rfl List.map_append

theorem within_within (outer inner : List String) (f : Findings) :
    (f.within inner).within outer = f.within (outer ++ inner) := by
  have hentry : Finding.within outer ∘ Finding.within inner = Finding.within (outer ++ inner) :=
    funext (Finding.within_within outer inner)
  apply Findings.ext
  · rfl
  · rw [entries_within, entries_within, List.map_map, hentry, entries_within]

@[simp] theorem within_nil (f : Findings) : f.within [] = f := by
  have hentry : Finding.within [] = id := funext Finding.within_nil
  apply Findings.ext
  · rfl
  · rw [entries_within, hentry, List.map_id]

end Findings

/-- The reasons for which a check has no findings. -/
inductive Stop where
  /-- No frame is left for a reference. -/
  | overflow
  /-- A reference has no target. -/
  | dangling (target : Url)
  deriving DecidableEq

/-- The error of a validation that may open `maxDepth` frames besides the first. -/
def Stop.error (maxDepth : Nat) : Stop → ValidateError
  | overflow => .stackOverflow maxDepth
  | dangling target => .noSuchSchema target.render

theorem bind_error {ε α β : Type} {x : Except ε α} {f : α → Except ε β} {e : ε}
    (herror : (x >>= f) = .error e) : x = .error e ∨ ∃ a, x = .ok a ∧ f a = .error e := by
  cases x with
  | error inner =>
      cases herror
      exact Or.inl rfl
  | ok a => exact Or.inr ⟨a, rfl, herror⟩

theorem bind_ok {ε α β : Type} {x : Except ε α} {f : α → Except ε β} {b : β}
    (hok : (x >>= f) = .ok b) : ∃ a, x = .ok a ∧ f a = .ok b := by
  cases x with
  | error e => cases hok
  | ok a => exact ⟨a, rfl, hok⟩

theorem map_eq_ok_iff {ε α β : Type} {x : Except ε α} {f : α → β} {b : β} :
    x.map f = .ok b ↔ ∃ a, x = .ok a ∧ f a = b := by
  cases x with
  | error e => exact ⟨nofun, nofun⟩
  | ok a =>
      change Except.ok (f a) = Except.ok b ↔ _
      simp

theorem map_eq_error_iff {ε α β : Type} {x : Except ε α} {f : α → β} {e : ε} :
    x.map f = .error e ↔ x = .error e := by
  cases x with
  | error inner =>
      change Except.error inner = Except.error e ↔ _
      simp
  | ok a => exact ⟨nofun, nofun⟩

theorem exists_ok_of_toOption {ε α β : Type} {x : Except ε α} {f : α → β} {b : β}
    (hsome : x.toOption.map f = some b) : ∃ a, x = .ok a ∧ f a = b := by
  cases x with
  | error e => cases hsome
  | ok a => exact ⟨a, rfl, Option.some.inj hsome⟩

abbrev Judgement := Except Stop Findings

def Judgement.andThen (first second : Judgement) : Judgement := do
  let f ← first
  let g ← second
  return f ++ g

namespace Judgement

@[simp] theorem empty_andThen (j : Judgement) : andThen (.ok .empty) j = j := by
  cases j with
  | error stop => rfl
  | ok f => exact congrArg Except.ok f.empty_append

@[simp] theorem andThen_empty (j : Judgement) : j.andThen (.ok .empty) = j := by
  cases j with
  | error stop => rfl
  | ok f => exact congrArg Except.ok f.append_empty

theorem andThen_assoc (j k l : Judgement) : (j.andThen k).andThen l = j.andThen (k.andThen l) := by
  cases j with
  | error stop => rfl
  | ok f =>
      cases k with
      | error stop => rfl
      | ok g =>
          cases l with
          | error stop => rfl
          | ok h => exact congrArg Except.ok (f.append_assoc g h)

theorem map_within (path : List String) (j k : Judgement) :
    Judgement.andThen (j.map (Findings.within path)) (k.map (Findings.within path)) =
      (j.andThen k).map (Findings.within path) := by
  cases j with
  | error stop => rfl
  | ok f =>
      cases k with
      | error stop => rfl
      | ok g => exact congrArg Except.ok (f.within_append path g).symm

end Judgement

namespace Machine

/-- The violation of a finding at the place of the machine. -/
def locate (m : Machine) (f : Finding) : Violation :=
  f.locate m.instancePath (m.frames.headD default)

/-- The machine after a check with the given findings. -/
def absorb (m : Machine) (f : Findings) : Machine :=
  { m with
    violations := m.violations + f.violations
    entries := m.entries ++ ((f.entries.map m.locate).take m.room).toArray }

/-- The end of a check with the given judgement. -/
def settle (m : Machine) (maxDepth : Nat) : Judgement → Except ValidateError (Unit × Machine)
  | .ok f => .ok ((), m.absorb f)
  | .error stop => .error (stop.error maxDepth)

@[simp] theorem locate_absorb (m : Machine) (f : Findings) : (m.absorb f).locate = m.locate := rfl

theorem entries_absorb (m : Machine) (f : Findings) :
    (m.absorb f).entries = m.entries ++ ((f.entries.map m.locate).take m.room).toArray := rfl

@[simp] theorem absorb_empty (m : Machine) : m.absorb .empty = m := by
  simp [absorb, Findings.empty]

theorem room_absorb (m : Machine) (f : Findings) :
    (m.absorb f).room = m.room - f.entries.length := by
  simp only [room, absorb, Array.size_append, List.size_toArray, List.length_take, List.length_map]
  omega

/-- The capacity is applied to each of two checks; this is the same as applying it once to the
findings of both. -/
theorem absorb_append (m : Machine) (f g : Findings) :
    m.absorb (f ++ g) = (m.absorb f).absorb g := by
  have hentries : (m.absorb (f ++ g)).entries = ((m.absorb f).absorb g).entries := by
    apply Array.toList_inj.mp
    simp only [entries_absorb, locate_absorb, room_absorb, Findings.entries_append, List.map_append,
      List.take_append, List.length_map, Array.toList_append, List.append_assoc]
  exact Machine.ext rfl rfl rfl (Nat.add_assoc _ _ _).symm hentries

end Machine

end SchemaRegistry

import SchemaRegistry.Proofs.Addressing.Location
import SchemaRegistry.Proofs.Compile.Positions

/-!
The ways down into documents. A trail names one schema after the other, each held by the one before
it. The scopes that are open at the end of a trail can be read off from it: the one of the document
and one for each `$id` on the way, with what is left of the way from there as the pointer. These are
the scopes of the position at the end of the trail.
-/

namespace SchemaRegistry

/-- The base that a schema declares by `$id`, read against the base around it. -/
def Json.declared? (around : Url) : Json → Option Url
  | .object members =>
    match Json.member? "$id" members with
    | some (.string reference) =>
      match Url.resolve around reference with
      | .ok uri => if uri.fragment.any (· ≠ "") then none else some uri.withoutFragment
      | .error _ => none
    | _ => none
  | _ => none

/-- The base of a document. -/
def Json.documentBase (document : Json) : Url := (document.declared? defaultBase).getD defaultBase

/-- Schemas on a way down, with the path from each to the next. -/
abbrev Trail := Slots Json

namespace Trail

/-- Whether each schema of the trail is held by the one before it, and the first one by `raw`. -/
def Below (raw : Json) : Trail → Prop
  | [] => True
  | slot :: rest => slot ∈ raw.subschemas ∧ Below slot.2 rest

/-- The whole way. -/
def path (trail : Trail) : List String := trail.flatMap Prod.fst

/-- The schema at the end. -/
def last (raw : Json) : Trail → Json
  | [] => raw
  | slot :: rest => last slot.2 rest

/-- The scopes that are opened on the trail, the outermost first, with the ways from there on. -/
def opened (around : Url) : Trail → List Scope
  | [] => []
  | slot :: rest =>
    match slot.2.declared? around with
    | some base => ⟨base, ⟨path rest⟩⟩ :: opened base rest
    | none => opened around rest

/-- The scopes that are open at the end of a trail in a document, the outermost first. -/
def openScopes (document : Json) (trail : Trail) : List Scope :=
  ⟨document.documentBase, ⟨trail.path⟩⟩ :: opened document.documentBase trail

theorem below_append {raw : Json} {first second : Trail} :
    Below raw (first ++ second) ↔ Below raw first ∧ Below (last raw first) second := by
  induction first generalizing raw with
  | nil => simp [Below, last]
  | cons slot rest ih => simp [Below, last, ih, and_assoc]

@[simp] theorem path_nil : path [] = [] := rfl

@[simp] theorem path_cons (slot : List String × Json) (rest : Trail) :
    path (slot :: rest) = slot.1 ++ path rest := List.flatMap_cons ..

end Trail

/-- The scope further down. -/
def Scope.extend (path : List String) (s : Scope) : Scope := ⟨s.base, ⟨s.pointer.tokens ++ path⟩⟩

@[simp] theorem Scope.extend_nil (s : Scope) : s.extend [] = s := by
  unfold extend
  rw [List.append_nil]

theorem Scope.extend_extend (first second : List String) (s : Scope) :
    (s.extend first).extend second = s.extend (first ++ second) := by
  unfold extend
  rw [List.append_assoc]

theorem Json.isBase_of_declared? {around base : Url} {raw : Json}
    (hdeclared : raw.declared? around = some base) : base.IsBase := by
  unfold declared? at hdeclared
  repeat' split at hdeclared
  all_goals cases hdeclared
  exact Url.isBase_withoutFragment _

theorem Json.isBase_documentBase (document : Json) : document.documentBase.IsBase := by
  unfold documentBase
  cases hdeclared : document.declared? defaultBase with
  | none => rfl
  | some base => exact isBase_of_declared? hdeclared

namespace Trail

theorem isBase_of_mem_opened {around : Url} {trail : Trail} {s : Scope}
    (hs : s ∈ opened around trail) : s.base.IsBase := by
  induction trail generalizing around with
  | nil => exact absurd hs List.not_mem_nil
  | cons slot rest ih =>
      unfold opened at hs
      split at hs
      · next base hdeclared =>
          rcases List.mem_cons.mp hs with rfl | hrest
          · exact Json.isBase_of_declared? hdeclared
          · exact ih hrest
      · exact ih hs

/-- All open scopes have bases without a fragment. -/
theorem isBase_of_mem_openScopes {document : Json} {trail : Trail} {s : Scope}
    (hs : s ∈ openScopes document trail) : s.base.IsBase := by
  rcases List.mem_cons.mp hs with rfl | hopened
  · exact document.isBase_documentBase
  · exact isBase_of_mem_opened hopened

theorem exists_opening_of_mem_opened {around : Url} {trail : Trail} {s : Scope}
    (hs : s ∈ opened around trail) : ∃ first second, trail = first ++ second ∧
      s.pointer = ⟨path second⟩ ∧ ⟨s.base, .root⟩ ∈ opened around first := by
  induction trail generalizing around with
  | nil => exact absurd hs List.not_mem_nil
  | cons slot rest ih =>
      unfold opened at hs
      split at hs
      · next base hdeclared =>
          rcases List.mem_cons.mp hs with rfl | hrest
          · refine ⟨[slot], rest, rfl, rfl, ?_⟩
            unfold opened
            rw [hdeclared]
            exact List.mem_cons_self
          · obtain ⟨first, second, rfl, hpointer, hopened⟩ := ih hrest
            refine ⟨slot :: first, second, rfl, hpointer, ?_⟩
            unfold opened
            rw [hdeclared]
            exact List.mem_cons_of_mem _ hopened
      · next hdeclared =>
          obtain ⟨first, second, rfl, hpointer, hopened⟩ := ih hs
          refine ⟨slot :: first, second, rfl, hpointer, ?_⟩
          unfold opened
          rw [hdeclared]
          exact hopened

/-- An open scope was opened by some schema on the trail, and its pointer is the way from there. -/
theorem exists_opening {document : Json} {trail : Trail} {s : Scope}
    (hs : s ∈ openScopes document trail) : ∃ first second, trail = first ++ second ∧
      s.pointer = ⟨path second⟩ ∧ ⟨s.base, .root⟩ ∈ openScopes document first := by
  rcases List.mem_cons.mp hs with rfl | hinner
  · exact ⟨[], trail, rfl, rfl, List.mem_cons_self⟩
  · obtain ⟨first, second, rfl, hpointer, hopened⟩ := exists_opening_of_mem_opened hinner
    exact ⟨first, second, rfl, hpointer, List.mem_cons_of_mem _ hopened⟩

end Trail

namespace Json

/-- A schema lies at a keyword itself, or is an item or a member of what lies there. -/
def HeldAt (members : List (String × Json)) (slot : List String × Json) : Prop :=
  ∃ keyword value, member? keyword members = some value ∧ (slot = ([keyword], value) ∨
    (∃ (items : List Json) (index : Nat), value = .array items ∧ items[index]? = some slot.2 ∧
      slot.1 = [keyword, toString index]) ∨
    ∃ inner name, value = .object inner ∧ (name, slot.2) ∈ inner ∧ slot.1 = [keyword, name])

/-- The path to a schema starts with the keyword that it lies at. -/
theorem HeldAt.exists_member {members : List (String × Json)} {keyword : String}
    {path : List String} {value : Json} (hheld : HeldAt members (keyword :: path, value)) :
    ∃ pointed, member? keyword members = some pointed := by
  obtain ⟨other, pointed, hvalue, hpath⟩ := hheld
  have hsame : keyword = other := by
    rcases hpath with hpath | ⟨items, index, -, -, hpath⟩ | ⟨inner, name, -, -, hpath⟩ <;>
      cases hpath <;> rfl
  exact ⟨pointed, hsame ▸ hvalue⟩

variable {members : List (String × Json)} {slot : List String × Json} {keyword : String}

theorem heldAt_one (hslot : slot ∈ Slots.one keyword (member? keyword members)) :
    HeldAt members slot := by
  obtain ⟨value, hvalue, rfl⟩ := List.mem_map.mp hslot
  exact ⟨keyword, value, Option.mem_toList.mp hvalue, Or.inl rfl⟩

theorem heldAt_list (hslot : slot ∈ Slots.list keyword 0 (itemsOf (member? keyword members))) :
    HeldAt members slot := by
  obtain ⟨⟨value, index⟩, hentry, rfl⟩ := List.mem_map.mp hslot
  unfold itemsOf at hentry
  split at hentry
  · next items hmember =>
      have hitem := List.mem_zipIdx_iff_getElem?.mp hentry
      exact ⟨keyword, _, hmember, Or.inr (Or.inl ⟨items, index, rfl, hitem, rfl⟩)⟩
  · exact absurd hentry List.not_mem_nil

theorem heldAt_member {member : String × Json}
    (hmember : member ∈ membersOf (member? keyword members)) :
    HeldAt members ([keyword, member.1], member.2) := by
  unfold membersOf at hmember
  split at hmember
  · next inner hheld =>
      exact ⟨keyword, _, hheld, Or.inr (Or.inr ⟨inner, member.1, rfl, hmember, rfl⟩)⟩
  · exact absurd hmember List.not_mem_nil

theorem heldAt_named (hslot : slot ∈ Slots.named keyword (membersOf (member? keyword members))) :
    HeldAt members slot := by
  obtain ⟨member, hmember, rfl⟩ := List.mem_map.mp hslot
  exact heldAt_member hmember

theorem heldAt_of_subschema (hslot : slot ∈ (Json.object members).subschemas) :
    HeldAt members slot := by
  unfold subschemas arraySchemas objectSchemas combinedSchemas at hslot
  simp only [List.mem_append] at hslot
  rcases hslot with (hitems | hadditional | hcontains) |
    (hproperties | hpatterns | hadditional | hdependencies | hnames) |
    (hall | hany | hone | hnot | hif | hthen | helse) | hdefinitions
  · unfold itemSchemas at hitems
    split at hitems
    · next schemas hmember =>
        have hlist : slot ∈ Slots.list "items" 0 (itemsOf (member? "items" members)) := by
          rw [hmember]
          exact hitems
        exact heldAt_list hlist
    · exact heldAt_one hitems
  · exact heldAt_one hadditional
  · exact heldAt_one hcontains
  · exact heldAt_named hproperties
  · exact heldAt_named hpatterns
  · exact heldAt_one hadditional
  · obtain ⟨entry, hentry, hdependency⟩ := List.mem_flatMap.mp hdependencies
    unfold dependencySchemas at hdependency
    split at hdependency
    · exact absurd hdependency List.not_mem_nil
    · rw [List.mem_singleton.mp hdependency]
      exact heldAt_member hentry
  · exact heldAt_one hnames
  · exact heldAt_list hall
  · exact heldAt_list hany
  · exact heldAt_list hone
  · exact heldAt_one hnot
  · exact heldAt_one hif
  · exact heldAt_one hthen
  · exact heldAt_one helse
  · exact heldAt_named hdefinitions

theorem path_ne_nil_of_subschema {raw : Json} (hslot : slot ∈ raw.subschemas) : slot.1 ≠ [] := by
  cases raw with
  | object members =>
      obtain ⟨keyword, value, -, rfl | ⟨items, index, -, -, hpath⟩ | ⟨inner, name, -, -, hpath⟩⟩ :=
        heldAt_of_subschema hslot
      · exact List.cons_ne_nil _ _
      · rw [hpath]
        exact List.cons_ne_nil _ _
      · rw [hpath]
        exact List.cons_ne_nil _ _
  | _ => exact absurd hslot List.not_mem_nil

end Json

theorem Site.declared?_eq (s : Site) : (Json.object s.members).declared? s.scopes.base =
    match s.id? with
    | .ok id => id
    | .error _ => none := by
  unfold Json.declared? id? keyword?
  dsimp only
  cases Json.member? "$id" s.members with
  | none => rfl
  | some value =>
      cases value with
      | string reference =>
          dsimp only
          unfold resolve
          cases Url.resolve s.scopes.base reference with
          | error e => rfl
          | ok uri =>
              change _ = match (if uri.fragment.any (· ≠ "") then s.fail "$id" .idWithFragment
                else Except.ok (some uri.withoutFragment)) with
                | .ok id => id
                | .error _ => none
              dsimp only
              split
              · rfl
              · rfl
      | _ => rfl

namespace Scopes

theorem enter_eq (scopes : Scopes) (raw : Json) :
    scopes.enter raw = match raw.declared? scopes.base with
      | some base => scopes.declare base
      | none => scopes := by
  cases raw with
  | object members =>
      have hdeclared := Site.declared?_eq ⟨scopes, members⟩
      unfold enter
      dsimp only at hdeclared ⊢
      rw [hdeclared]
      cases Site.id? ⟨scopes, members⟩ with
      | error e => rfl
      | ok id => cases id <;> rfl
  | _ => rfl

theorem toList_push (scopes : Scopes) (token : String) :
    (scopes.push token).toList = scopes.toList.map (Scope.extend [token]) := rfl

theorem toList_descend (scopes : Scopes) (path : List String) :
    (scopes.descend path).toList = scopes.toList.map (Scope.extend path) := by
  unfold descend
  induction path generalizing scopes with
  | nil =>
      have hsame : Scope.extend [] = id := funext Scope.extend_nil
      rw [hsame, List.map_id]
      rfl
  | cons token rest ih =>
      rw [List.foldl_cons, ih, toList_push, List.map_map]
      have hcomp : Scope.extend rest ∘ Scope.extend [token] = Scope.extend (token :: rest) :=
        funext fun s => Scope.extend_extend [token] rest s
      rw [hcomp]

theorem inner_descend (scopes : Scopes) (path : List String) :
    (scopes.descend path).inner = scopes.inner.extend path := by
  have hlist := toList_descend scopes path
  exact (List.cons.inj hlist).1

theorem base_descend (scopes : Scopes) (path : List String) :
    (scopes.descend path).base = scopes.base := by
  unfold base
  rw [inner_descend]
  rfl

/-- Only the root of a document is at the root. -/
theorem atRoot_descend (scopes : Scopes) {path : List String} (hpath : path ≠ []) :
    (scopes.descend path).atRoot = false := by
  unfold atRoot
  rw [inner_descend]
  unfold Scope.extend
  simp [hpath]

end Scopes

namespace Position

/-- The position at the end of a trail. -/
def along (p : Position) : Trail → Position
  | [] => p
  | slot :: rest => (p.inner slot.1 slot.2).along rest

/-- The positions inside a schema are the ends of the trails in it. -/
theorem mem_postOrder_iff {p q : Position} :
    q ∈ p.postOrder ↔ ∃ trail, Trail.Below p.raw trail ∧ q = p.along trail := by
  induction p using postOrder_induction with
  | hstep p ih =>
      rw [postOrder_eq, List.mem_append, List.mem_singleton]
      constructor
      · rintro (hinside | rfl)
        · obtain ⟨slot, hslot, hmem⟩ := List.mem_flatMap.mp hinside
          obtain ⟨trail, hbelow, rfl⟩ := (ih slot hslot).mp hmem
          exact ⟨slot :: trail, ⟨hslot, hbelow⟩, rfl⟩
        · exact ⟨[], trivial, rfl⟩
      · rintro ⟨trail, hbelow, rfl⟩
        cases trail with
        | nil => exact Or.inr rfl
        | cons slot rest =>
            obtain ⟨hslot, hrest⟩ := hbelow
            have hmem := (ih slot hslot).mpr ⟨rest, hrest, rfl⟩
            exact Or.inl (List.mem_flatMap.mpr ⟨slot, hslot, hmem⟩)

theorem raw_along (p : Position) (trail : Trail) :
    (p.along trail).raw = Trail.last p.raw trail := by
  induction trail generalizing p with
  | nil => rfl
  | cons slot rest ih => exact ih _

/-- Inside a schema that another one holds, the scope that it declares is open in front of those
around it. -/
theorem scopes_inner (p : Position) {slot : List String × Json} (hslot : slot ∈ p.raw.subschemas) :
    (p.inner slot.1 slot.2).scopes = match slot.2.declared? p.scopes.base with
      | some base => ⟨⟨base, .root⟩, p.scopes.toList.map (Scope.extend slot.1)⟩
      | none => p.scopes.descend slot.1 := by
  have hbase := p.scopes.base_descend slot.1
  have hroot := p.scopes.atRoot_descend (Json.path_ne_nil_of_subschema hslot)
  change (p.scopes.descend slot.1).enter slot.2 = _
  rw [Scopes.enter_eq, hbase]
  cases slot.2.declared? p.scopes.base with
  | none => rfl
  | some base =>
      change (p.scopes.descend slot.1).declare base = _
      unfold Scopes.declare
      rw [hroot, Scopes.toList_descend]
      rfl

/-- The scopes at the end of a trail: those opened on it, in front of those at its start. -/
theorem scopes_along (p : Position) {trail : Trail} (hbelow : Trail.Below p.raw trail) :
    (p.along trail).scopes.toList = (Trail.opened p.scopes.base trail).reverse ++
      p.scopes.toList.map (Scope.extend trail.path) := by
  induction trail generalizing p with
  | nil =>
      have hsame : Scope.extend [] = id := funext Scope.extend_nil
      rw [Trail.path_nil, hsame, List.map_id]
      rfl
  | cons slot rest ih =>
      obtain ⟨hslot, hrest⟩ := hbelow
      have hcomp : Scope.extend (Trail.path rest) ∘ Scope.extend slot.1 =
          Scope.extend (slot.1 ++ Trail.path rest) :=
        funext fun s => Scope.extend_extend slot.1 (Trail.path rest) s
      have hinner := scopes_inner p hslot
      rw [Trail.path_cons, ← hcomp, ← List.map_map]
      change ((p.inner slot.1 slot.2).along rest).scopes.toList = _
      rw [ih _ hrest, Trail.opened]
      cases hdeclared : slot.2.declared? p.scopes.base with
      | none =>
          rw [hdeclared] at hinner
          dsimp only at hinner ⊢
          have hbase : (p.inner slot.1 slot.2).scopes.base = p.scopes.base := by
            rw [hinner, Scopes.base_descend]
          rw [hbase, hinner, Scopes.toList_descend]
      | some base =>
          rw [hdeclared] at hinner
          dsimp only at hinner ⊢
          have hbase : (p.inner slot.1 slot.2).scopes.base = base := by
            rw [hinner]
            rfl
          rw [hbase, hinner, List.reverse_cons, List.append_assoc]
          rfl

theorem scopes_root (number : Nat) (raw : Json) :
    (root number raw).scopes = ⟨⟨raw.documentBase, .root⟩, []⟩ := by
  change Scopes.document.enter raw = _
  rw [Scopes.enter_eq]
  change (match raw.declared? defaultBase with
    | some base => Scopes.document.declare base
    | none => Scopes.document) = _
  unfold Json.documentBase
  cases raw.declared? defaultBase with
  | none => rfl
  | some base => rfl

/-- The scopes of a position are those that are open at the end of the trail to it, the innermost
first. -/
theorem scopes_root_along (number : Nat) {raw : Json} {trail : Trail}
    (hbelow : Trail.Below raw trail) :
    ((root number raw).along trail).scopes.toList = (Trail.openScopes raw trail).reverse := by
  rw [scopes_along _ hbelow, scopes_root]
  unfold Trail.openScopes
  rw [List.reverse_cons]
  rfl

end Position

/-- The schema at an index lies at the end of a trail in a document. -/
def LeadsTo (documents : List Json) (document : Json) (trail : Trail) (index : Nat) : Prop :=
  ∃ number, documents[number]? = some document ∧ Trail.Below document trail ∧
    (positions documents)[index]? = some ((Position.root number document).along trail)

theorem mem_positionsFrom_iff {first : Nat} {documents : List Json} {p : Position} :
    p ∈ positionsFrom first documents ↔ ∃ number raw, documents[number]? = some raw ∧
      p ∈ (Position.root (first + number) raw).postOrder := by
  induction documents generalizing first with
  | nil => simp [positionsFrom]
  | cons raw rest ih =>
      rw [positionsFrom, List.mem_append, ih]
      constructor
      · rintro (hfirst | ⟨number, other, hother, hmem⟩)
        · exact ⟨0, raw, rfl, hfirst⟩
        · refine ⟨number + 1, other, hother, ?_⟩
          rwa [Nat.add_comm number, ← Nat.add_assoc]
      · rintro ⟨number, other, hother, hmem⟩
        cases number with
        | zero =>
            cases hother
            exact Or.inl hmem
        | succ number =>
            refine Or.inr ⟨number, other, hother, ?_⟩
            rwa [Nat.add_assoc, Nat.add_comm 1]

/-- The positions of some documents are the ends of the trails in them. -/
theorem mem_positions_iff {documents : List Json} {p : Position} :
    p ∈ positions documents ↔ ∃ number raw trail, documents[number]? = some raw ∧
      Trail.Below raw trail ∧ p = (Position.root number raw).along trail := by
  unfold positions
  rw [mem_positionsFrom_iff]
  simp only [Nat.zero_add, Position.mem_postOrder_iff]
  constructor
  · rintro ⟨number, raw, hraw, trail, hbelow, rfl⟩
    exact ⟨number, raw, trail, hraw, hbelow, rfl⟩
  · rintro ⟨number, raw, trail, hraw, hbelow, rfl⟩
    exact ⟨number, raw, hraw, trail, hbelow, rfl⟩

end SchemaRegistry

import SchemaRegistry.Compile.Documents
import SchemaRegistry.Proofs.Graph.Links

/-!
Where the schemas of some documents lie. A schema object holds schemas at its keywords, and these
hold others; read from the inside out they are in post-order, in which a schema comes after all
schemas inside it. The schemas that a compiled node refers to are listed here with the ways to them
too, so that the two can be compared keyword by keyword.
-/

namespace SchemaRegistry

/-- Values in a schema object, with the ways to them. -/
abbrev Slots (α : Type) := List (List String × α)

namespace Slots

variable {α : Type}

/-- The value of a keyword. -/
def one (keyword : String) (value : Option α) : Slots α := value.toList.map ([keyword], ·)

/-- The items at a keyword, the first at the position `index`. -/
def list (keyword : String) (index : Nat) (items : List α) : Slots α :=
  (items.zipIdx index).map fun entry => ([keyword, toString entry.2], entry.1)

/-- The members at a keyword. -/
def named (keyword : String) (members : List (String × α)) : Slots α :=
  members.map fun member => ([keyword, member.1], member.2)

/-- Whether a schema, with a condition or without, refers to what it holds at a path. What is
under `definitions` is for references only; `then` and `else` mean nothing without a condition. -/
def linkable (conditional : Bool) (path : List String) : Bool :=
  path.head? ≠ some "definitions" &&
    (conditional || (path.head? ≠ some "then" && path.head? ≠ some "else"))

/-- What a schema refers to of what it holds. -/
def linked (conditional : Bool) (slots : Slots α) : Slots α :=
  slots.filter fun slot => linkable conditional slot.1

end Slots

namespace Json

def itemsOf : Option Json → List Json
  | some (.array items) => items
  | _ => []

def membersOf : Option Json → List (String × Json)
  | some (.object members) => members
  | _ => []

/-- What `items` holds: one schema for all items, or one for each of the first items. -/
def itemSchemas : Option Json → Slots Json
  | some (.array schemas) => .list "items" 0 schemas
  | schema => .one "items" schema

/-- The schemas for the items of arrays. -/
def arraySchemas (members : List (String × Json)) : Slots Json :=
  itemSchemas (member? "items" members) ++
  (Slots.one "additionalItems" (member? "additionalItems" members) ++
    Slots.one "contains" (member? "contains" members))

/-- What a member requires of the object, if that is a schema. -/
def dependencySchemas (entry : String × Json) : Slots Json :=
  match entry.2 with
  | .array _ => []
  | schema => [(["dependencies", entry.1], schema)]

/-- The schemas for objects, their members and the names of these. -/
def objectSchemas (members : List (String × Json)) : Slots Json :=
  Slots.named "properties" (membersOf (member? "properties" members)) ++
    (Slots.named "patternProperties" (membersOf (member? "patternProperties" members)) ++
    (Slots.one "additionalProperties" (member? "additionalProperties" members) ++
    ((membersOf (member? "dependencies" members)).flatMap dependencySchemas ++
    Slots.one "propertyNames" (member? "propertyNames" members))))

/-- The schemas that apply to the same value. -/
def combinedSchemas (members : List (String × Json)) : Slots Json :=
  Slots.list "allOf" 0 (itemsOf (member? "allOf" members)) ++
    (Slots.list "anyOf" 0 (itemsOf (member? "anyOf" members)) ++
    (Slots.list "oneOf" 0 (itemsOf (member? "oneOf" members)) ++
    (Slots.one "not" (member? "not" members) ++
    (Slots.one "if" (member? "if" members) ++
    (Slots.one "then" (member? "then" members) ++
    Slots.one "else" (member? "else" members))))))

/-- The schemas that a schema holds, in the order in which its keywords are read. -/
def subschemas : Json → Slots Json
  | .object members =>
    arraySchemas members ++ (objectSchemas members ++ (combinedSchemas members ++
      Slots.named "definitions" (membersOf (member? "definitions" members))))
  | _ => []

/-- Whether a schema has a condition. -/
def conditional : Json → Bool
  | .object members => (member? "if" members).isSome
  | _ => false

section Height

theorem height_of_member? {key : String} {members : List (String × Json)} {value : Json}
    (hmember : member? key members = some value) : value.height < heightMembers members := by
  induction members with
  | nil => cases hmember
  | cons first rest ih =>
      obtain ⟨name, inner⟩ := first
      unfold member? at hmember
      rw [heightMembers]
      split at hmember
      · cases hmember
        omega
      · have hrest := ih hmember
        omega

theorem height_of_one {keyword : String} {members : List (String × Json)}
    {slot : List String × Json} (hslot : slot ∈ Slots.one keyword (member? keyword members)) :
    slot.2.height < heightMembers members := by
  obtain ⟨value, hvalue, rfl⟩ := List.mem_map.mp hslot
  exact height_of_member? (Option.mem_toList.mp hvalue)

theorem height_of_itemsOf {keyword : String} {members : List (String × Json)} {item : Json}
    (hitem : item ∈ itemsOf (member? keyword members)) : item.height < heightMembers members := by
  unfold itemsOf at hitem
  split at hitem
  · next items hmember =>
      have hinner : item.height < (Json.array items).height := height_lt_heightItems hitem
      exact Nat.lt_trans hinner (height_of_member? hmember)
  · exact absurd hitem List.not_mem_nil

theorem height_of_list {keyword : String} {members : List (String × Json)}
    {slot : List String × Json}
    (hslot : slot ∈ Slots.list keyword 0 (itemsOf (member? keyword members))) :
    slot.2.height < heightMembers members := by
  obtain ⟨entry, hentry, rfl⟩ := List.mem_map.mp hslot
  exact height_of_itemsOf (List.fst_mem_of_mem_zipIdx hentry)

theorem height_of_membersOf {keyword : String} {members : List (String × Json)}
    {member : String × Json} (hmember : member ∈ membersOf (member? keyword members)) :
    member.2.height < heightMembers members := by
  unfold membersOf at hmember
  split at hmember
  · next inner hheld =>
      have hinner : member.2.height < (Json.object inner).height := height_lt_heightMembers hmember
      exact Nat.lt_trans hinner (height_of_member? hheld)
  · exact absurd hmember List.not_mem_nil

theorem height_of_named {keyword : String} {members : List (String × Json)}
    {slot : List String × Json}
    (hslot : slot ∈ Slots.named keyword (membersOf (member? keyword members))) :
    slot.2.height < heightMembers members := by
  obtain ⟨member, hmember, rfl⟩ := List.mem_map.mp hslot
  exact height_of_membersOf hmember

theorem height_of_arraySchemas {members : List (String × Json)} {slot : List String × Json}
    (hslot : slot ∈ arraySchemas members) : slot.2.height < heightMembers members := by
  unfold arraySchemas at hslot
  simp only [List.mem_append] at hslot
  rcases hslot with hitems | hadditional | hcontains
  · unfold itemSchemas at hitems
    split at hitems
    · next schemas hmember =>
        have hlist : slot ∈ Slots.list "items" 0 (itemsOf (member? "items" members)) := by
          rw [hmember]
          exact hitems
        exact height_of_list hlist
    · exact height_of_one hitems
  · exact height_of_one hadditional
  · exact height_of_one hcontains

theorem height_of_objectSchemas {members : List (String × Json)} {slot : List String × Json}
    (hslot : slot ∈ objectSchemas members) : slot.2.height < heightMembers members := by
  unfold objectSchemas at hslot
  simp only [List.mem_append] at hslot
  rcases hslot with hproperties | hpatterns | hadditional | hdependencies | hnames
  · exact height_of_named hproperties
  · exact height_of_named hpatterns
  · exact height_of_one hadditional
  · obtain ⟨entry, hentry, hslot⟩ := List.mem_flatMap.mp hdependencies
    unfold dependencySchemas at hslot
    split at hslot
    · exact absurd hslot List.not_mem_nil
    · obtain rfl := List.mem_singleton.mp hslot
      exact height_of_membersOf hentry
  · exact height_of_one hnames

theorem height_of_combinedSchemas {members : List (String × Json)} {slot : List String × Json}
    (hslot : slot ∈ combinedSchemas members) : slot.2.height < heightMembers members := by
  unfold combinedSchemas at hslot
  simp only [List.mem_append] at hslot
  rcases hslot with hall | hany | hone | hnot | hif | hthen | helse
  · exact height_of_list hall
  · exact height_of_list hany
  · exact height_of_list hone
  · exact height_of_one hnot
  · exact height_of_one hif
  · exact height_of_one hthen
  · exact height_of_one helse

/-- A schema is higher than the schemas that it holds. -/
theorem height_of_subschema {raw : Json} {slot : List String × Json}
    (hslot : slot ∈ raw.subschemas) : slot.2.height < raw.height := by
  cases raw with
  | object members =>
      simp only [subschemas, List.mem_append] at hslot
      rcases hslot with harray | hobject | hcombined | hdefinitions
      · exact height_of_arraySchemas harray
      · exact height_of_objectSchemas hobject
      · exact height_of_combinedSchemas hcombined
      · exact height_of_named hdefinitions
  | _ => exact absurd hslot List.not_mem_nil

end Height

end Json

section Held

def Items.slots : Items → Slots Nat
  | each schema => .one "items" (some schema)
  | tuple schemas => .list "items" 0 schemas

def ArrayRules.slots (rules : ArrayRules) : Slots Nat :=
  rules.items.toList.flatMap Items.slots ++
  (Slots.one "additionalItems" rules.additionalItems ++ Slots.one "contains" rules.contains)

def Dependency.slots (key : String) : Dependency → Slots Nat
  | keys _ => []
  | schema index => [(["dependencies", key], index)]

def ObjectRules.slots (rules : ObjectRules) : Slots Nat :=
  Slots.named "properties" rules.properties ++
    (Slots.named "patternProperties" (rules.patternProperties.map fun entry =>
      (entry.1.source, entry.2)) ++
    (Slots.one "additionalProperties" rules.additionalProperties ++
    (rules.dependencies.flatMap (fun entry => entry.2.slots entry.1) ++
    Slots.one "propertyNames" rules.propertyNames)))

def Conditional.slots (conditional : Conditional) : Slots Nat :=
  Slots.one "if" (some conditional.condition) ++
    (Slots.one "then" conditional.consequent ++ Slots.one "else" conditional.alternative)

def Combinators.slots (c : Combinators) : Slots Nat :=
  Slots.list "allOf" 0 c.allOf ++
    (Slots.list "anyOf" 0 c.anyOf ++
    (Slots.list "oneOf" 0 c.oneOf ++
    (Slots.one "not" c.not ++ c.conditional.toList.flatMap Conditional.slots)))

def Keywords.slots (k : Keywords) : Slots Nat :=
  k.arrays.slots ++ (k.objects.slots ++ k.combinators.slots)

/-- The schemas that a compiled schema refers to, with the ways to them. -/
def Node.slots (n : Node) : Slots Nat :=
  match n.body with
  | .constant _ => []
  | .keywords k => k.slots

namespace Slots

variable {α : Type}

@[simp] theorem map_snd_one (keyword : String) (value : Option α) :
    (one keyword value).map Prod.snd = value.toList := by
  cases value <;> rfl

@[simp] theorem map_snd_list (keyword : String) (index : Nat) (items : List α) :
    (list keyword index items).map Prod.snd = items := by
  unfold list
  rw [List.map_map]
  exact List.zipIdx_map_fst index items

@[simp] theorem map_snd_named (keyword : String) (members : List (String × α)) :
    (named keyword members).map Prod.snd = members.map Prod.snd := List.map_map ..

end Slots

theorem ArrayRules.map_snd_slots (rules : ArrayRules) : rules.slots.map Prod.snd = rules.links := by
  unfold slots links
  simp only [List.map_append, Slots.map_snd_one]
  cases rules.items with
  | none => rfl
  | some items =>
      cases items with
      | each schema => rfl
      | tuple schemas => simp [Items.slots]

theorem ObjectRules.mem_slots_iff (rules : ObjectRules) (inner : Nat) :
    inner ∈ rules.slots.map Prod.snd ↔ inner ∈ rules.dependencyLinks ++ rules.links := by
  have hdependency : ∀ entry : String × Dependency,
      inner ∈ (entry.2.slots entry.1).map Prod.snd ↔ entry.2.link? = some inner := by
    rintro ⟨name, dependency⟩
    cases dependency with
    | keys names => simp [Dependency.slots, Dependency.link?]
    | schema schema => simp [Dependency.slots, Dependency.link?, eq_comm]
  unfold slots dependencyLinks links
  simp only [List.map_append, Slots.map_snd_one, Slots.map_snd_named, List.map_flatMap,
    List.mem_append, List.mem_flatMap, hdependency, List.mem_filterMap, List.map_map]
  grind

theorem Combinators.map_snd_slots (c : Combinators) : c.slots.map Prod.snd = c.links := by
  unfold slots links
  simp only [List.map_append, Slots.map_snd_list, Slots.map_snd_one]
  cases c.conditional with
  | none => rfl
  | some conditional => simp [Conditional.slots, Conditional.links]

/-- The slots of a schema are its links to other schemas. -/
theorem Node.mem_slots_iff (n : Node) (inner : Nat) :
    inner ∈ n.slots.map Prod.snd ↔ Link.schema inner ∈ n.staying ++ n.descending := by
  unfold slots staying descending
  cases n.body with
  | constant accepts => simp
  | keywords k =>
      have hobjects := k.objects.mem_slots_iff inner
      simp only [Keywords.slots, List.map_append, ArrayRules.map_snd_slots,
        Combinators.map_snd_slots, List.mem_append, List.mem_map, reduceCtorEq, and_false,
        exists_false, Link.schema.injEq, exists_eq_right, false_or] at hobjects ⊢
      grind

end Held

namespace Scopes

/-- The scopes inside a schema: those around it, and the one that it declares. -/
def enter (scopes : Scopes) : Json → Scopes
  | .object members =>
    match Site.id? ⟨scopes, members⟩ with
    | .ok (some base) => scopes.declare base
    | _ => scopes
  | _ => scopes

end Scopes

/-- The place of a schema: its document, the way to it from there, and the scopes around it. -/
structure Position where
  document : Nat
  path : List String
  outer : Scopes
  raw : Json

namespace Position

/-- The position of a whole document. -/
def root (document : Nat) (raw : Json) : Position := ⟨document, [], .document, raw⟩

/-- The scopes that are open inside the schema. -/
def scopes (p : Position) : Scopes := p.outer.enter p.raw

/-- The position of a schema that the schema at this one holds. -/
def inner (p : Position) (path : List String) (raw : Json) : Position :=
  ⟨p.document, p.path ++ path, p.scopes.descend path, raw⟩

/-- The positions of the schema at this one and of all schemas inside it, from the inside out. -/
def postOrder (p : Position) : List Position :=
  (p.raw.subschemas.attach.flatMap fun slot => (p.inner slot.1.1 slot.1.2).postOrder) ++ [p]
termination_by p.raw.height
decreasing_by exact Json.height_of_subschema slot.2

/-- The positions inside some of the schemas that the schema at this one holds. -/
def inside (p : Position) (slots : Slots Json) : List Position :=
  slots.flatMap fun slot => (p.inner slot.1 slot.2).postOrder

theorem postOrder_eq (p : Position) : p.postOrder = p.inside p.raw.subschemas ++ [p] := by
  rw [postOrder, List.flatMap_subtype (g := fun slot => (p.inner slot.1 slot.2).postOrder)]
  · rw [List.unattach_attach]
    rfl
  · intro slot hslot
    rfl

theorem postOrder_induction {motive : Position → Prop}
    (hstep : ∀ p, (∀ slot ∈ p.raw.subschemas, motive (p.inner slot.1 slot.2)) → motive p)
    (p : Position) : motive p :=
  hstep p fun slot _ => postOrder_induction hstep (p.inner slot.1 slot.2)
termination_by p.raw.height
decreasing_by exact Json.height_of_subschema ‹_›

/-- All positions in a document have its number. -/
theorem document_of_mem_postOrder {p q : Position} (hmem : q ∈ p.postOrder) :
    q.document = p.document := by
  induction p using postOrder_induction with
  | hstep p ih =>
      rw [postOrder_eq] at hmem
      rcases List.mem_append.mp hmem with hinside | hself
      · obtain ⟨slot, hslot, hinner⟩ := List.mem_flatMap.mp hinside
        exact ih slot hslot hinner
      · rw [List.mem_singleton.mp hself]

end Position

/-- The positions in documents of which the first has the number `document`. -/
def positionsFrom (document : Nat) : List Json → List Position
  | [] => []
  | raw :: rest => (Position.root document raw).postOrder ++ positionsFrom (document + 1) rest

/-- The positions of all schemas in some documents. -/
def positions (documents : List Json) : List Position := positionsFrom 0 documents

theorem positionsFrom_append (document : Nat) (first second : List Json) :
    positionsFrom document (first ++ second) =
      positionsFrom document first ++ positionsFrom (document + first.length) second := by
  induction first generalizing document with
  | nil => rfl
  | cons raw rest ih =>
      have hnumber : document + 1 + rest.length = document + (raw :: rest).length := by
        rw [List.length_cons]
        omega
      rw [List.cons_append, positionsFrom, ih, hnumber, positionsFrom, List.append_assoc]

theorem document_of_mem_positionsFrom {document : Nat} {documents : List Json} {p : Position}
    (hmem : p ∈ positionsFrom document documents) :
    document ≤ p.document ∧ p.document < document + documents.length := by
  induction documents generalizing document with
  | nil => exact absurd hmem List.not_mem_nil
  | cons raw rest ih =>
      rw [List.length_cons]
      rcases List.mem_append.mp hmem with hfirst | hrest
      · rw [Position.document_of_mem_postOrder hfirst]
        exact ⟨Nat.le_refl _, by unfold Position.root; dsimp only; omega⟩
      · have hbounds := ih hrest
        omega

end SchemaRegistry

import SchemaRegistry.Proofs.Acceptance.Shapes
import SchemaRegistry.Proofs.Addressing.Resolution
import SchemaRegistry.Proofs.Compile.Sealed

/-!
Which bases and references a store knows. A document opens the scope of its base, and every other
schema that declares `$id` one of its own; the store knows the bases that objects open, and the
references of all objects, in the order of the schemas. A document that is just `true` or `false`
can be addressed, but its base is not known to the store.
-/

namespace SchemaRegistry

/-- What `$ref` refers to, read against the base in force. -/
def Json.referred? (base : Url) : Json → Option Reference
  | .object members =>
    match Json.member? "$ref" members with
    | some (.string reference) =>
      match Url.resolve base reference with
      | .ok uri =>
        match uri.pointer with
        | .ok pointer => some ⟨location uri.withoutFragment pointer, uri.withoutFragment, pointer⟩
        | .error _ => none
      | .error _ => none
    | _ => none
  | _ => none

theorem Json.isBase_of_referred? {base : Url} {raw : Json} {reference : Reference}
    (hreferred : raw.referred? base = some reference) :
    reference.base.IsBase ∧ reference.target = location reference.base reference.pointer := by
  unfold referred? at hreferred
  repeat' split at hreferred
  all_goals cases hreferred
  exact ⟨Url.isBase_withoutFragment _, rfl⟩

theorem Site.referred?_eq {s : Site} {reference : Option Reference}
    (hread : s.reference? = .ok reference) :
    (Json.object s.members).referred? s.scopes.base = reference := by
  unfold Json.referred?
  unfold reference? keyword? at hread
  dsimp only
  cases hvalue : Json.member? "$ref" s.members with
  | none =>
      rw [hvalue] at hread
      cases hread
      rfl
  | some value =>
      rw [hvalue] at hread
      cases value with
      | string text =>
          dsimp only at hread ⊢
          obtain ⟨uri, hresolve, hpointed⟩ := bind_ok hread
          unfold resolve at hresolve
          cases hparsed : Url.resolve s.scopes.base text with
          | error e =>
              rw [hparsed] at hresolve
              cases hresolve
          | ok found =>
              rw [hparsed] at hresolve
              cases hresolve
              dsimp only
              cases hpointer : uri.pointer with
              | error e =>
                  rw [hpointer] at hpointed
                  cases hpointed
              | ok pointer =>
                  rw [hpointer] at hpointed
                  cases hpointed
                  rfl
      | _ => cases hread

namespace Compile

variable {α β : Type} {Q : β → Prop}

/-- Every result of a compilation is as described. -/
def Yields (compilation : Compile β) (Q : β → Prop) : Prop :=
  ∀ entries b after, compilation entries = .ok (b, after) → Q b

theorem Yields.pure {b : β} (hb : Q b) : Yields (Pure.pure b) Q := by
  intro entries b' after hrun
  cases hrun
  exact hb

theorem Yields.bind {compilation : Compile α} {next : α → Compile β}
    (hnext : ∀ a, Yields (next a) Q) : Yields (compilation >>= next) Q := by
  intro entries b after hrun
  obtain ⟨a, middle, -, hrest⟩ := bind_apply_ok hrun
  exact hnext a middle b after hrest

theorem Yields.andThen {compilation : Compile α} {next : α → Compile β} {P : α → Prop}
    (hfirst : Yields compilation P) (hnext : ∀ a, P a → Yields (next a) Q) :
    Yields (compilation >>= next) Q := by
  intro entries b after hrun
  obtain ⟨a, middle, hcompilation, hrest⟩ := bind_apply_ok hrun
  exact hnext a (hfirst entries a middle hcompilation) middle b after hrest

theorem Yields.read {reading : Except CompileError α} {next : α → Compile β}
    (hnext : ∀ a, reading = .ok a → Yields (next a) Q) :
    Yields ((liftM reading : Compile α) >>= next) Q := by
  intro entries b after hrun
  cases reading with
  | error e => cases hrun
  | ok a => exact hnext a rfl entries b after hrun

theorem Yields.mapM {compilation : α → Compile β} {Q : α → β → Prop} {items : List α}
    (hitem : ∀ item ∈ items, Yields (compilation item) (Q item)) :
    Yields (items.mapM compilation) (List.Forall₂ Q items) := by
  induction items with
  | nil =>
      rw [List.mapM_nil]
      exact .pure .nil
  | cons item rest ih =>
      rw [List.mapM_cons]
      refine (hitem item List.mem_cons_self).andThen fun b hb => ?_
      refine (ih fun other hother => hitem other (List.mem_cons_of_mem _ hother)).andThen ?_
      exact fun bs hbs => .pure (.cons hb hbs)

end Compile

/-- The reference that compiled keywords hold is the one that the schema has. -/
theorem Site.keywords_yields (s : Site) (child : Compiler) :
    Compile.Yields (s.keywords child) fun k => s.reference? = .ok k.reference := by
  unfold keywords
  refine Compile.Yields.read fun reference hreference => ?_
  iterate 9 refine Compile.Yields.bind fun _ => ?_
  exact Compile.Yields.pure hreference

namespace Position

/-- The `$ref` of the schema. -/
def reference? (p : Position) : Option Reference := p.raw.referred? p.scopes.base

/-- The base of the scope that the schema opens: a document opens one in any case. -/
def opens? (p : Position) : Option Url :=
  if p.path = [] then some p.scopes.base else p.raw.declared? p.outer.base

theorem along_append (p : Position) (first second : Trail) :
    p.along (first ++ second) = (p.along first).along second := by
  induction first generalizing p with
  | nil => rfl
  | cons slot rest ih => exact ih _

/-- A position is the root of a document, or it is held by another one. -/
theorem root_or_inner {documents : List Json} {p : Position} (hp : p ∈ positions documents) :
    (∃ number raw, documents[number]? = some raw ∧ p = root number raw) ∨
      ∃ q ∈ positions documents, ∃ slot ∈ q.raw.subschemas, p = q.inner slot.1 slot.2 := by
  obtain ⟨number, raw, trail, hraw, hbelow, rfl⟩ := mem_positions_iff.mp hp
  cases trail using List.reverseRecOn with
  | nil => exact Or.inl ⟨number, raw, hraw, rfl⟩
  | append_singleton first slot =>
      obtain ⟨hfirst, hslot⟩ := Trail.below_append.mp hbelow
      refine Or.inr ⟨(root number raw).along first,
        mem_positions_iff.mpr ⟨number, raw, first, hraw, hfirst, rfl⟩, slot, ?_, ?_⟩
      · rw [raw_along]
        exact hslot.1
      · rw [along_append]
        rfl

theorem path_inner_ne_nil (p : Position) {slot : List String × Json}
    (hslot : slot ∈ p.raw.subschemas) : (p.inner slot.1 slot.2).path ≠ [] :=
  fun hnil => Json.path_ne_nil_of_subschema hslot (List.append_eq_nil_iff.mp hnil).2

/-- The schemas in a scope's own root are those that open a scope. -/
theorem mem_scopes_root_iff {documents : List Json} {p : Position} (hp : p ∈ positions documents)
    (base : Url) : ⟨base, .root⟩ ∈ p.scopes.toList ↔ p.opens? = some base := by
  rcases root_or_inner hp with ⟨number, raw, -, rfl⟩ | ⟨q, -, slot, hslot, rfl⟩
  · have hopens : (root number raw).opens? = some raw.documentBase := by
      unfold opens?
      rw [scopes_root]
      rfl
    rw [hopens, scopes_root]
    unfold Scopes.toList
    simp [eq_comm]
  · have hpath : slot.1 ≠ [] := Json.path_ne_nil_of_subschema hslot
    have houtside : ⟨base, .root⟩ ∉ q.scopes.toList.map (Scope.extend slot.1) := by
      intro hmem
      obtain ⟨s, -, heq⟩ := List.mem_map.mp hmem
      have htokens : s.pointer.tokens ++ slot.1 = [] :=
        congrArg (fun s => s.pointer.tokens) heq
      exact hpath (List.append_eq_nil_iff.mp htokens).2
    have hbase := q.scopes.base_descend slot.1
    have hopens : (q.inner slot.1 slot.2).opens? = slot.2.declared? q.scopes.base := by
      unfold opens?
      rw [if_neg (q.path_inner_ne_nil hslot), ← hbase]
      rfl
    rw [hopens, scopes_inner q hslot]
    cases slot.2.declared? q.scopes.base with
    | none =>
        dsimp only
        rw [Scopes.toList_descend]
        simp [houtside]
    | some inner =>
        change _ ∈ _ :: _ ↔ _
        rw [List.mem_cons, or_iff_left houtside]
        simp [eq_comm]

theorem isBase_scopes {documents : List Json} {p : Position} (hp : p ∈ positions documents) :
    p.scopes.base.IsBase := by
  obtain ⟨index, hindex⟩ := List.mem_iff_getElem?.mp hp
  exact isBase_of_mem_scopes hindex List.mem_cons_self

theorem atRoot_outer_iff {documents : List Json} {p : Position} (hp : p ∈ positions documents) :
    p.outer.atRoot = true ↔ p.path = [] := by
  rcases root_or_inner hp with ⟨number, raw, -, rfl⟩ | ⟨q, -, slot, hslot, rfl⟩
  · exact ⟨fun _ => rfl, fun _ => rfl⟩
  · have houter : (q.inner slot.1 slot.2).outer.atRoot = false :=
      q.scopes.atRoot_descend (Json.path_ne_nil_of_subschema hslot)
    rw [houter]
    constructor
    · intro hroot
      cases hroot
    · exact fun hnil => absurd hnil (q.path_inner_ne_nil hslot)

/-- An open scope was opened by the schema itself or by one around it, and its pointer is the way
from there. -/
theorem exists_opener {documents : List Json} {p : Position} (hp : p ∈ positions documents)
    {s : Scope} (hs : s ∈ p.scopes.toList) :
    ∃ q ∈ positions documents, q.opens? = some s.base ∧
      ∃ trail, Trail.Below q.raw trail ∧ p = q.along trail ∧ s.pointer = ⟨trail.path⟩ := by
  obtain ⟨number, raw, trail, hraw, hbelow, rfl⟩ := mem_positions_iff.mp hp
  rw [scopes_root_along number hbelow, List.mem_reverse] at hs
  obtain ⟨first, second, rfl, hpointer, hopened⟩ := Trail.exists_opening hs
  obtain ⟨hfirst, hsecond⟩ := Trail.below_append.mp hbelow
  have hq : (root number raw).along first ∈ positions documents :=
    mem_positions_iff.mpr ⟨number, raw, first, hraw, hfirst, rfl⟩
  refine ⟨_, hq, ?_, second, ?_, along_append _ _ _, hpointer⟩
  · rw [← mem_scopes_root_iff hq, scopes_root_along number hfirst, List.mem_reverse]
    exact hopened
  · rw [raw_along]
    exact hsecond

theorem along_mem {documents : List Json} {p : Position} (hp : p ∈ positions documents)
    {trail : Trail} (hbelow : Trail.Below p.raw trail) : p.along trail ∈ positions documents := by
  obtain ⟨number, raw, first, hraw, hfirst, rfl⟩ := mem_positions_iff.mp hp
  rw [raw_along] at hbelow
  rw [← along_append]
  exact mem_positions_iff.mpr
    ⟨number, raw, _, hraw, Trail.below_append.mpr ⟨hfirst, hbelow⟩, rfl⟩

/-- A scope stays open further down from the schema that opened it. -/
theorem mem_scopes_along {documents : List Json} {p : Position} (hp : p ∈ positions documents)
    {base : Url} (hopens : p.opens? = some base) {trail : Trail}
    (hbelow : Trail.Below p.raw trail) : ⟨base, ⟨trail.path⟩⟩ ∈ (p.along trail).scopes.toList := by
  rw [scopes_along p hbelow]
  refine List.mem_append_right _ (List.mem_map.mpr ⟨⟨base, .root⟩, ?_, rfl⟩)
  exact (mem_scopes_root_iff hp base).mpr hopens

/-- A schema that opens a scope has the base of the scope as a location. -/
theorem base_mem_locations {documents : List Json} {p : Position} (hp : p ∈ positions documents)
    {base : Url} (hopens : p.opens? = some base) : base.IsBase ∧ base ∈ p.scopes.locations := by
  have hscope := (mem_scopes_root_iff hp base).mpr hopens
  obtain ⟨index, hindex⟩ := List.mem_iff_getElem?.mp hp
  have hbase : base.IsBase := isBase_of_mem_scopes hindex hscope
  exact ⟨hbase, List.mem_map.mpr ⟨_, hscope, hbase⟩⟩

/-- The resource that compilation stores for an object, a root or not, is the base that it opens. -/
theorem resource_eq {documents : List Json} {p : Position} (hp : p ∈ positions documents)
    {members : List (String × Json)} (hraw : p.raw = .object members) {id : Option Url}
    (hid : Site.id? ⟨p.outer, members⟩ = .ok id) :
    (if p.outer.atRoot || id.isSome then some p.scopes.base.withoutFragment else none) =
      p.opens? := by
  have hdeclared : p.raw.declared? p.outer.base = id := by
    rw [hraw, Site.declared?_eq ⟨p.outer, members⟩, hid]
  have hbase : p.scopes.base = id.getD p.outer.base := by
    rw [p.base_scopes, Json.baseIn, hdeclared]
  have hfragment : p.scopes.base.withoutFragment = p.scopes.base := isBase_scopes hp
  unfold opens?
  rw [hdeclared, hfragment]
  cases id with
  | none =>
      rw [Option.isSome_none, Bool.or_false]
      simp only [atRoot_outer_iff hp]
  | some base =>
      rw [Option.isSome_some, Bool.or_true, if_pos rfl, hbase, Option.getD_some, ite_self]

end Position

/-- What compilation makes of the schema at a position: an entry for a constant, or one with the
keywords that are compiled in the scopes inside. -/
theorem Entry.MadeAt.constant_or_keywords {entry : Entry} {index : Nat} {p : Position}
    (hmade : entry.MadeAt index p) :
    (∃ accepts, p.raw = .bool accepts ∧ entry =
      ⟨⟨p.outer.uri, none, .constant accepts⟩, .bool accepts, p.outer.locations, none⟩) ∨
    ∃ members id k levels before middle, p.raw = .object members ∧
      Site.id? ⟨p.outer, members⟩ = .ok id ∧
      Site.keywords ⟨p.scopes, members⟩ (compileSchema levels) before = .ok (k, middle) ∧
      entry = ⟨⟨p.scopes.uri, id, .keywords k⟩, p.raw, p.scopes.locations,
        if p.outer.atRoot || id.isSome then some p.scopes.base.withoutFragment else none⟩ := by
  obtain ⟨levels, before, after, hrun, hentry⟩ := hmade
  have hstored : ∀ {made : Entry} {middle : Draft},
      register made middle = .ok (index, after) → entry = made := by
    intro made middle hregister
    obtain ⟨rfl, rfl⟩ := register_ok hregister
    rw [Draft.entries_push, Array.getElem?_push_size] at hentry
    exact (Option.some.inj hentry).symm
  cases hraw : p.raw with
  | bool accepts =>
      rw [hraw] at hrun
      refine Or.inl ⟨accepts, rfl, ?_⟩
      cases levels <;> exact hstored hrun
  | object members =>
      cases levels with
      | zero =>
          rw [hraw] at hrun
          cases hrun
      | succ levels =>
          rw [hraw] at hrun
          obtain ⟨id, k, middle, hid, hkeywords, hregister⟩ := compileObject_ok hraw hrun
          rw [hraw] at hregister
          exact Or.inr
            ⟨members, id, k, levels, before, middle, rfl, hid, hkeywords, hstored hregister⟩
  | _ =>
      rw [hraw] at hrun
      cases levels <;> cases hrun

/-- What compilation makes of the schema at a position has its reference, and the base that it opens
if it is an object. -/
theorem Entry.MadeAt.reads {entry : Entry} {index : Nat} {p : Position}
    (hmade : entry.MadeAt index p) {documents : List Json} (hp : p ∈ positions documents) :
    entry.node.reference? = p.reference? ∧
      entry.resource = if p.raw.isObject then p.opens? else none := by
  unfold Position.reference?
  rcases hmade.constant_or_keywords with ⟨accepts, hraw, rfl⟩ |
    ⟨members, id, k, levels, before, middle, hraw, hid, hkeywords, rfl⟩
  · rw [hraw]
    exact ⟨rfl, rfl⟩
  · have hreferred := Site.referred?_eq (Site.keywords_yields _ _ before k middle hkeywords)
    rw [hraw]
    exact ⟨hreferred.symm, Position.resource_eq hp hraw hid⟩

section Store

variable {documents : List Json} {r : Registry}

/-- The references of a store are those of the schemas, in their order. -/
theorem Arranged.references (harranged : Arranged r.entries (positions documents)) :
    r.references = (positions documents).filterMap Position.reference? := by
  have hmap : r.entries.toList.map (fun entry => entry.node.reference?) =
      (positions documents).map Position.reference? := by
    refine List.ext_getElem ?_ fun index hentry hposition => ?_
    · rw [List.length_map, List.length_map, Array.length_toList, harranged.size]
    · rw [List.getElem_map, List.getElem_map]
      rw [List.length_map] at hentry hposition
      have hp := List.getElem?_eq_getElem hposition
      have hmade := (harranged.compiled index _ _ (Array.getElem?_eq_getElem hentry) hp).made
      exact (hmade.reads (List.mem_of_getElem? hp)).1
  have hjoined := congrArg (List.filterMap id) hmap
  rwa [List.filterMap_map, List.filterMap_map] at hjoined

/-- A store knows the bases that the objects in the documents open. -/
theorem Arranged.hasBase_iff (harranged : Arranged r.entries (positions documents)) (base : Url) :
    r.hasBase base = true ↔
      ∃ p ∈ positions documents, p.raw.isObject = true ∧ p.opens? = some base := by
  have hresource : ∀ (index : Nat) (entry : Entry) (p : Position),
      r.entries[index]? = some entry → (positions documents)[index]? = some p →
        (entry.resource = some base ↔ p.raw.isObject = true ∧ p.opens? = some base) := by
    intro index entry p hentry hp
    have hmade := (harranged.compiled index entry p hentry hp).made
    rw [(hmade.reads (List.mem_of_getElem? hp)).2]
    cases p.raw.isObject <;> simp
  rw [r.hasBase_iff_exists]
  constructor
  · rintro ⟨entry, hmem, hentry⟩
    obtain ⟨index, hfound⟩ := Array.mem_iff_getElem?.mp hmem
    obtain ⟨p, hp⟩ := harranged.exists_position hfound
    exact ⟨p, List.mem_of_getElem? hp, (hresource index entry p hfound hp).mp hentry⟩
  · rintro ⟨p, hp, hopens⟩
    obtain ⟨index, entry, hindex, hentry, -⟩ := harranged.exists_entry hp
    exact ⟨entry, Array.mem_of_getElem? hentry, (hresource index entry p hentry hindex).mpr hopens⟩

end Store

end SchemaRegistry

import SchemaRegistry.Proofs.Acceptance.Rejection
import SchemaRegistry.Proofs.Addressing.Overlays
import SchemaRegistry.Proofs.Addressing.Resolution

/-!
When documents conflict. A schema is compared with the first one that has one of its locations, and
with no other. As equality of schemas is an equivalence, that is enough: what is stored has no two
different schemas at one place, and two different ones that share a place are never both stored.
-/

namespace SchemaRegistry

/-- Two different schemas in some documents have the given place. -/
def Contested (documents : List Json) (place : Scope) : Prop :=
  ∃ document ∈ documents, ∃ trail, Trail.Below document trail ∧
    ∃ other ∈ documents, ∃ way, Trail.Below other way ∧
      place ∈ Trail.openScopes document trail ∧ place ∈ Trail.openScopes other way ∧
        (Trail.last document trail).same (Trail.last other way) = false

section Places

variable {documents : List Json}

theorem contested_iff {place : Scope} : Contested documents place ↔
    ∃ p ∈ positions documents, ∃ q ∈ positions documents, place ∈ p.scopes.toList ∧
      place ∈ q.scopes.toList ∧ p.raw.same q.raw = false := by
  constructor
  · rintro ⟨document, hdocument, trail, hbelow, other, hother, way, hbelow', hplace, hplace', hne⟩
    obtain ⟨number, hnumber⟩ := List.mem_iff_getElem?.mp hdocument
    obtain ⟨number', hnumber'⟩ := List.mem_iff_getElem?.mp hother
    refine ⟨_, mem_positions_iff.mpr ⟨number, document, trail, hnumber, hbelow, rfl⟩, _,
      mem_positions_iff.mpr ⟨number', other, way, hnumber', hbelow', rfl⟩, ?_, ?_, ?_⟩
    · rwa [Position.scopes_root_along number hbelow, List.mem_reverse]
    · rwa [Position.scopes_root_along number' hbelow', List.mem_reverse]
    · rwa [Position.raw_along, Position.raw_along]
  · rintro ⟨p, hp, q, hq, hplace, hplace', hne⟩
    obtain ⟨number, document, trail, hnumber, hbelow, rfl⟩ := mem_positions_iff.mp hp
    obtain ⟨number', other, way, hnumber', hbelow', rfl⟩ := mem_positions_iff.mp hq
    rw [Position.scopes_root_along number hbelow, List.mem_reverse] at hplace
    rw [Position.scopes_root_along number' hbelow', List.mem_reverse] at hplace'
    rw [Position.raw_along, Position.raw_along] at hne
    exact ⟨document, List.mem_of_getElem? hnumber, trail, hbelow, other,
      List.mem_of_getElem? hnumber', way, hbelow', hplace, hplace', hne⟩

theorem keysDistinct_of_mem_positions (hdistinct : ∀ raw ∈ documents, raw.keysDistinct = true)
    {p : Position} (hp : p ∈ positions documents) : p.raw.keysDistinct = true := by
  obtain ⟨number, raw, trail, hraw, hbelow, rfl⟩ := mem_positions_iff.mp hp
  rw [Position.raw_along]
  exact Trail.keysDistinct_last (hdistinct raw (List.mem_of_getElem? hraw)) hbelow

/-- What is stored is equal to the first schema with any of its locations. -/
theorem Arranged.same_first {entries : Array Entry} {places : List Position}
    (harranged : Arranged entries places) (hagreeing : Agreeing entries)
    (hdistinct : ∀ p ∈ places, p.raw.keysDistinct = true) {p : Position} (hp : p ∈ places)
    {uri : Url} (huri : uri ∈ p.scopes.locations) :
    ∃ first, firstWith? entries uri = some first ∧ first.raw.same p.raw = true := by
  obtain ⟨index, entry, -, hentry, hcompiled⟩ := harranged.exists_entry hp
  rw [← hcompiled.locations] at huri
  rw [← hcompiled.raw]
  rcases hagreeing index entry uri hentry huri with hfirst | ⟨first, hfind, hsame⟩
  · refine ⟨entry, firstWith?_of_findLocation? hfirst hentry, Json.same_refl ?_⟩
    rw [hcompiled.raw]
    exact hdistinct p hp
  · exact ⟨first, hfind, hsame⟩

/-- Any two stored schemas with one location are equal. -/
theorem Arranged.same_of_shared {entries : Array Entry} {places : List Position}
    (harranged : Arranged entries places) (hagreeing : Agreeing entries)
    (hdistinct : ∀ p ∈ places, p.raw.keysDistinct = true) {p q : Position} (hp : p ∈ places)
    (hq : q ∈ places) {uri : Url} (hpuri : uri ∈ p.scopes.locations)
    (hquri : uri ∈ q.scopes.locations) : p.raw.same q.raw = true := by
  obtain ⟨first, hfind, hfirst⟩ := harranged.same_first hagreeing hdistinct hp hpuri
  obtain ⟨first', hfind', hsecond⟩ := harranged.same_first hagreeing hdistinct hq hquri
  obtain rfl := Option.some.inj (hfind.symm.trans hfind')
  obtain ⟨index, hindex, rfl⟩ := Array.getElem_of_mem (Array.mem_of_find?_eq_some hfind)
  have hentry := Array.getElem?_eq_getElem hindex
  obtain ⟨f, hf⟩ := harranged.exists_position hentry
  have hraw := (harranged.compiled index _ f hentry hf).raw
  rw [hraw] at hfirst hsecond
  have hfdistinct := hdistinct f (List.mem_of_getElem? hf)
  exact Json.same_trans (Json.same_symm hfdistinct (hdistinct p hp) hfirst) hsecond

end Places

section Stored

variable {documents : List Json} {roots : List Nat} {draft : Draft}

/-- All schemas with one location are equal, whichever of them is the first. -/
theorem same_of_shared_location (hstored : compileDocuments documents .empty = .ok (roots, draft))
    (hdistinct : ∀ raw ∈ documents, raw.keysDistinct = true) {p q : Position}
    (hp : p ∈ positions documents) (hq : q ∈ positions documents) {uri : Url}
    (hpuri : uri ∈ p.scopes.locations) (hquri : uri ∈ q.scopes.locations) :
    p.raw.same q.raw = true := by
  have harranged := (compileDocuments_arranges 0 documents .empty hstored).1
  exact harranged.same_of_shared (stored_agreeing hstored)
    (fun _ hmem => keysDistinct_of_mem_positions hdistinct hmem) hp hq hpuri hquri

/-- Documents that are stored have no two different schemas at one place. -/
theorem not_contested_of_stored
    (hstored : compileDocuments documents .empty = .ok (roots, draft))
    (hdistinct : ∀ raw ∈ documents, raw.keysDistinct = true) (place : Scope) :
    ¬ Contested documents place := by
  intro hcontested
  obtain ⟨p, hp, q, hq, hplace, hplace', hne⟩ := contested_iff.mp hcontested
  have hsame := same_of_shared_location hstored hdistinct hp hq
    (List.mem_map_of_mem hplace) (List.mem_map_of_mem hplace')
  exact Bool.false_ne_true (hne.symm.trans hsame)

end Stored

section Conflicts

variable {documents : List Json}

/-- A clash of two schemas at a location is one at a place. -/
theorem Clash.contested {uri : Url} (hclash : Clash (positions documents) uri) :
    ∃ place : Scope, place.base.IsBase ∧ place.location = uri ∧ Contested documents place := by
  obtain ⟨before, q, after, hsplit, -, -, hquri, p, hbefore, hpuri, hne⟩ := hclash
  have hp : p ∈ positions documents := by
    rw [hsplit]
    exact List.mem_append_left _ hbefore
  have hq : q ∈ positions documents := by
    rw [hsplit]
    exact List.mem_append_right _ List.mem_cons_self
  obtain ⟨place, hplace, rfl⟩ := List.mem_map.mp hpuri
  obtain ⟨first, hfirst⟩ := List.mem_iff_getElem?.mp hp
  obtain ⟨second, hsecond⟩ := List.mem_iff_getElem?.mp hq
  have hbase := isBase_of_mem_scopes hfirst hplace
  -- The location tells the place, so the second schema has the same place in one of its scopes.
  have hplace' := (mem_locations_iff hsecond place.base place.pointer).mp hquri
  rw [hbase.bare_location] at hplace'
  exact ⟨place, hbase, rfl, contested_iff.mpr ⟨p, hp, q, hq, hplace, hplace', hne⟩⟩

/-- A reported conflict is one. -/
theorem exists_contested_of_error {uri : Url}
    (herror : compile documents = .error (.conflictingDefinition uri)) :
    ∃ place : Scope, place.base.IsBase ∧ place.location = uri ∧ Contested documents place := by
  rcases compile_error herror with hblames | ⟨roots, draft, -, -, heq⟩
  · rcases hblames with ⟨p, -, keyword, location, kind, heq, -⟩ | ⟨found, heq, hclash⟩
    · cases heq
    · cases heq
      exact hclash.contested
  · cases heq

/-- Locations tell places apart. -/
theorem Scope.eq_of_location {s t : Scope} (hs : s.base.IsBase) (ht : t.base.IsBase)
    (heq : s.location = t.location) : s = t := by
  have hplace := (Scope.location_eq_iff hs t.base t.pointer).mp heq
  rwa [ht.bare_location] at hplace

/-- Conflicts are detected exactly. Well-formed documents are rejected for a conflict if and only if
two different schemas in them, of one document or of two, have a place in common, where each of the
scopes around a schema gives it a place. The location that is reported is that of such a place, and
never one of a place whose schemas are all equal. That no object of a document has a key twice is so
of every parsed JSON value. -/
theorem compile_conflicts_exactly (hformed : ∀ raw ∈ documents, raw.WellFormed defaultBase)
    (hdistinct : ∀ raw ∈ documents, raw.keysDistinct = true) :
    ((∃ uri, compile documents = .error (.conflictingDefinition uri)) ↔
        ∃ place, Contested documents place) ∧
      (∀ uri, compile documents = .error (.conflictingDefinition uri) →
        ∃ place : Scope, place.location = uri ∧ Contested documents place) ∧
      ∀ place : Scope, place.base.IsBase → ¬ Contested documents place →
        compile documents ≠ .error (.conflictingDefinition place.location) := by
  refine ⟨⟨?_, ?_⟩, ?_, ?_⟩
  · rintro ⟨uri, herror⟩
    obtain ⟨place, -, -, hcontested⟩ := exists_contested_of_error herror
    exact ⟨place, hcontested⟩
  · rintro ⟨place, hcontested⟩
    cases hcompile : compile documents with
    | ok r =>
        obtain ⟨roots, draft, hstored, -⟩ := compile_ok hcompile
        exact absurd hcontested (not_contested_of_stored hstored hdistinct place)
    | error e =>
        rcases compile_error hcompile with hblames | ⟨roots, draft, hstored, -⟩
        · rcases hblames with ⟨p, hp, keyword, location, kind, -, hrejects⟩ | ⟨uri, rfl, -⟩
          · exact absurd hrejects (accepts_of_wellFormed hformed p hp keyword location)
          · exact ⟨uri, rfl⟩
        · exact absurd hcontested (not_contested_of_stored hstored hdistinct place)
  · intro uri herror
    obtain ⟨place, -, hlocation, hcontested⟩ := exists_contested_of_error herror
    exact ⟨place, hlocation, hcontested⟩
  · intro place hbase hfree herror
    obtain ⟨other, hbase', hlocation, hcontested⟩ := exists_contested_of_error herror
    rw [Scope.eq_of_location hbase hbase' hlocation.symm] at hfree
    exact hfree hcontested

end Conflicts

/-- The location with which a compilation fails for a conflict. -/
def conflictOf : Except CompileError Registry → Option Url
  | .error (.conflictingDefinition uri) => some uri
  | _ => none

theorem eq_error_of_conflictOf {result : Except CompileError Registry} {uri : Url}
    (hconflict : conflictOf result = some uri) : result = .error (.conflictingDefinition uri) := by
  unfold conflictOf at hconflict
  split at hconflict
  · cases hconflict
    rfl
  · cases hconflict

theorem wellFormed_of_compiles {raw : Json} (hcompiles : (compile [raw]).toOption.isSome = true) :
    raw.WellFormed defaultBase := by
  cases hcompile : compile [raw] with
  | ok r =>
      obtain ⟨roots, draft, hstored, -⟩ := compile_ok hcompile
      exact compileDocuments_wellFormed hstored raw (List.mem_singleton_self raw)
  | error e =>
      rw [hcompile] at hcompiles
      cases hcompiles

/-- A document with a scope inside, in which a schema is nested. -/
def scopedDocument (required : Json) : Json :=
  .object [("items", .object [("$id", .string "a:/shared"),
    ("not", .object [("required", required)])])]

/-- Two documents with a scope of one base and different schemas in it conflict there. -/
theorem scopes_conflict :
    ∃ uri place, Url.parse "a:/shared#/not" = .ok uri ∧
      (∀ raw ∈ [scopedDocument (.array []), .object [("not", scopedDocument (.array [.string "a"])),
        ("$id", .string "a:/second")]], raw.WellFormed defaultBase ∧ raw.keysDistinct = true) ∧
      compile [scopedDocument (.array []), .object [("not", scopedDocument (.array [.string "a"])),
        ("$id", .string "a:/second")]] = .error (.conflictingDefinition uri) ∧
      Scope.location place = uri ∧
      Contested [scopedDocument (.array []),
        .object [("not", scopedDocument (.array [.string "a"])), ("$id", .string "a:/second")]]
        place := by
  have hchecked : (Url.parse "a:/shared#/not").toOption.map (fun uri =>
      decide (conflictOf (compile [scopedDocument (.array []),
        .object [("not", scopedDocument (.array [.string "a"])), ("$id", .string "a:/second")]]) =
          some uri)) = some true := by decide +kernel
  have hfirst : (compile [scopedDocument (.array [])]).toOption.isSome = true := by decide +kernel
  have hsecond : (compile [.object [("not", scopedDocument (.array [.string "a"])),
      ("$id", .string "a:/second")]]).toOption.isSome = true := by decide +kernel
  have hformed : ∀ raw ∈ [scopedDocument (.array []),
      .object [("not", scopedDocument (.array [.string "a"])), ("$id", .string "a:/second")]],
      raw.WellFormed defaultBase := by
    intro raw hraw
    simp only [List.mem_cons, List.not_mem_nil, or_false] at hraw
    rcases hraw with rfl | rfl
    · exact wellFormed_of_compiles hfirst
    · exact wellFormed_of_compiles hsecond
  have hdistinct : ∀ raw ∈ [scopedDocument (.array []),
      .object [("not", scopedDocument (.array [.string "a"])), ("$id", .string "a:/second")]],
      raw.keysDistinct = true := by decide
  obtain ⟨uri, hparse, hconflict⟩ := exists_ok_of_toOption hchecked
  have herror := eq_error_of_conflictOf (of_decide_eq_true hconflict)
  obtain ⟨place, hlocation, hcontested⟩ :=
    (compile_conflicts_exactly hformed hdistinct).2.1 uri herror
  exact ⟨uri, place, hparse, fun raw hraw => ⟨hformed raw hraw, hdistinct raw hraw⟩, herror,
    hlocation, hcontested⟩

end SchemaRegistry

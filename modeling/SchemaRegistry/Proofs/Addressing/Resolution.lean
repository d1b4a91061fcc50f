import SchemaRegistry.Proofs.Addressing.Trails
import SchemaRegistry.Proofs.Compile.Layout

/-!
Which schema a URL addresses. A schema is found under each place that it has in the scopes around
it, and under no other; the first one that has the place is found, and all others that have it are
equal to this one, since two different schemas at one place do not compile.
-/

namespace SchemaRegistry

namespace Compile

variable {α : Type}

/-- A property of the store that holds after a compilation if it held before. -/
def Keeps (P : Draft → Prop) (compilation : Compile α) : Prop :=
  ∀ draft a after, P draft → compilation draft = .ok (a, after) → P after

theorem Keeps.mapM {β : Type} {P : Draft → Prop} {compilation : α → Compile β}
    {items : List α} (hitem : ∀ item ∈ items, Keeps P (compilation item)) :
    Keeps P (items.mapM compilation) := by
  induction items with
  | nil =>
      intro draft bs after hdraft hrun
      rw [List.mapM_nil] at hrun
      cases hrun
      exact hdraft
  | cons item rest ih =>
      intro draft bs after hdraft hrun
      rw [List.mapM_cons] at hrun
      obtain ⟨b, middle, hfirst, hothers⟩ := bind_apply_ok hrun
      obtain ⟨others, last, hrest, hdone⟩ := bind_apply_ok hothers
      cases hdone
      have hmiddle := hitem item List.mem_cons_self draft b middle hdraft hfirst
      exact ih (fun other hother => hitem other (List.mem_cons_of_mem _ hother)) middle others after
        hmiddle hrest

variable {P : Draft → Prop}

theorem keeps_visit {s : Site} {child : Compiler}
    (hchild : ∀ scopes raw, Keeps P (child scopes raw)) (slot : List String × Json) :
    Keeps P (s.visit child slot) := by
  intro draft placed after hdraft hrun
  obtain ⟨index, middle, hcompiled, hplaced⟩ := bind_apply_ok hrun
  cases hplaced
  exact hchild _ _ draft index after hdraft hcompiled

theorem keeps_compileObject (hregister : ∀ entry, Keeps P (register entry)) {child : Compiler}
    (hchild : ∀ scopes raw, Keeps P (child scopes raw)) (scopes : Scopes)
    (members : List (String × Json)) : Keeps P (compileObject child scopes members) := by
  intro draft index after hdraft hrun
  obtain ⟨id, k, middle, -, hkeywords, hstored⟩ :=
    compileObject_ok (p := ⟨0, [], scopes, .object members⟩) rfl hrun
  obtain ⟨placed, hplaced, -⟩ := Site.keywords_visits draft k middle hkeywords
  have hmiddle : P middle :=
    Keeps.mapM (fun slot _ => keeps_visit hchild slot) draft placed middle hdraft hplaced
  exact hregister _ middle index after hmiddle hstored

/-- What every storing of a schema keeps is kept by a compilation. -/
theorem keeps_compileSchema (hregister : ∀ entry, Keeps P (register entry)) (levels : Nat)
    (scopes : Scopes) (raw : Json) : Keeps P (compileSchema levels scopes raw) := by
  induction levels generalizing scopes raw with
  | zero =>
      cases raw with
      | bool accepts => exact hregister _
      | _ =>
          intro draft index after hdraft hrun
          cases hrun
  | succ levels ih =>
      cases raw with
      | bool accepts => exact hregister _
      | object members => exact keeps_compileObject hregister ih scopes members
      | _ =>
          intro draft index after hdraft hrun
          cases hrun

theorem keeps_compileDocuments (hregister : ∀ entry, Keeps P (register entry))
    (documents : List Json) : Keeps P (compileDocuments documents) :=
  Keeps.mapM fun document _ => keeps_compileSchema hregister document.height .document document

end Compile

section Agreement

variable {entries : Array Entry}

/-- Schemas with the same location are equal to the first that has it. -/
def Agreeing (entries : Array Entry) : Prop :=
  ∀ (index : Nat) (entry : Entry) (uri : Url), entries[index]? = some entry →
    uri ∈ entry.locations → findLocation? entries uri = some index ∨
      ∃ earlier, firstWith? entries uri = some earlier ∧ earlier.raw.same entry.raw

/-- A schema that is stored has no conflict with an earlier one. -/
theorem register_agrees {entry : Entry} {draft after : Draft} {index : Nat}
    (hrun : register entry draft = .ok (index, after)) {uri : Url} (huri : uri ∈ entry.locations)
    {earlier : Entry} (hearlier : firstWith? draft.entries uri = some earlier) :
    earlier.raw.same entry.raw = true := by
  unfold register at hrun
  cases hconflict : draft.conflict? entry.raw entry.locations with
  | some found =>
      rw [hconflict] at hrun
      cases hrun
  | none =>
      have hfree := List.find?_eq_none.mp hconflict uri huri
      rw [draft.seen_first, hearlier] at hfree
      simpa using hfree

theorem keeps_agreeing (entry : Entry) :
    Compile.Keeps (fun draft => Agreeing draft.entries) (register entry) := by
  intro draft stored after hdraft hrun
  have hagrees : ∀ uri ∈ entry.locations, ∀ earlier,
      firstWith? draft.entries uri = some earlier → earlier.raw.same entry.raw = true :=
    fun uri huri earlier hearlier => register_agrees hrun huri hearlier
  obtain ⟨-, rfl⟩ := register_ok hrun
  intro index found uri hfound huri
  rw [Draft.entries_push, findLocation?_push, firstWith?_push]
  rw [Draft.entries_push, Array.getElem?_push] at hfound
  split at hfound
  · next hlast =>
      cases hfound
      cases hfind : firstWith? draft.entries uri with
      | some earlier => exact Or.inr ⟨earlier, rfl, hagrees uri huri earlier hfind⟩
      | none =>
          have hnone : findLocation? draft.entries uri = none :=
            Array.findIdx?_eq_none_iff.mpr fun other hother =>
              Bool.eq_false_iff.mpr (Array.find?_eq_none.mp hfind other hother)
          rw [hnone, List.contains_iff_mem.mpr huri, hlast]
          exact Or.inl rfl
  · rcases hdraft index found uri hfound huri with hfirst | ⟨earlier, hfind, hsame⟩
    · rw [hfirst]
      exact Or.inl rfl
    · rw [hfind]
      exact Or.inr ⟨earlier, rfl, hsame⟩

theorem findLocation?_eq_some_iff {uri : Url} {index : Nat} :
    findLocation? entries uri = some index ↔
      (∃ entry, entries[index]? = some entry ∧ uri ∈ entry.locations) ∧
        ∀ earlier < index, ∀ entry, entries[earlier]? = some entry → uri ∉ entry.locations := by
  unfold findLocation?
  rw [Array.findIdx?_eq_some_iff_getElem]
  constructor
  · rintro ⟨hindex, hcontains, hbefore⟩
    have hentry := Array.getElem?_eq_getElem hindex
    refine ⟨⟨entries[index], hentry, List.contains_iff_mem.mp hcontains⟩, ?_⟩
    intro earlier hearlier entry hentry hmem
    have hsome := hbefore earlier hearlier
    rw [Array.getElem?_eq_getElem (Nat.lt_trans hearlier hindex)] at hentry
    rw [Option.some.inj hentry] at hsome
    exact hsome (List.contains_iff_mem.mpr hmem)
  · rintro ⟨⟨entry, hentry, hmem⟩, hbefore⟩
    obtain ⟨hindex, rfl⟩ := Array.getElem?_eq_some_iff.mp hentry
    refine ⟨hindex, List.contains_iff_mem.mpr hmem, ?_⟩
    intro earlier hearlier hcontains
    have hless := Nat.lt_trans hearlier hindex
    exact hbefore earlier hearlier entries[earlier] (Array.getElem?_eq_getElem hless)
      (List.contains_iff_mem.mp hcontains)

theorem firstWith?_of_findLocation? {uri : Url} {index : Nat} {entry : Entry}
    (hfirst : findLocation? entries uri = some index) (hentry : entries[index]? = some entry) :
    firstWith? entries uri = some entry := by
  obtain ⟨⟨found, hfound, hmem⟩, hbefore⟩ := findLocation?_eq_some_iff.mp hfirst
  obtain rfl := Option.some.inj (hentry.symm.trans hfound)
  obtain ⟨hindex, rfl⟩ := Array.getElem?_eq_some_iff.mp hentry
  refine Array.find?_eq_some_iff_getElem.mpr
    ⟨List.contains_iff_mem.mpr hmem, index, hindex, rfl, ?_⟩
  intro earlier hearlier
  have hless := Nat.lt_trans hearlier hindex
  have hnone := hbefore earlier hearlier entries[earlier] (Array.getElem?_eq_getElem hless)
  simpa using hnone

end Agreement

/-- The schema at an index has the given place: one of the scopes around it has this base, and this
pointer leads from there to the schema. -/
def LiesAt (documents : List Json) (place : Scope) (index : Nat) : Prop :=
  ∃ document trail, LeadsTo documents document trail index ∧ place ∈ trail.openScopes document

/-- The schema at an index is the first that has the given place. -/
def FirstAt (documents : List Json) (place : Scope) (index : Nat) : Prop :=
  LiesAt documents place index ∧ ∀ earlier < index, ¬ LiesAt documents place earlier

section Places

variable {documents : List Json}

theorem exists_leadsTo {index : Nat} {p : Position} (hp : (positions documents)[index]? = some p) :
    ∃ document trail, LeadsTo documents document trail index ∧
      p.raw = Trail.last document trail ∧
      p.scopes.toList = (Trail.openScopes document trail).reverse := by
  obtain ⟨number, document, trail, hdocument, hbelow, rfl⟩ :=
    mem_positions_iff.mp (List.mem_of_getElem? hp)
  exact ⟨document, trail, ⟨number, hdocument, hbelow, hp⟩, Position.raw_along _ _,
    Position.scopes_root_along number hbelow⟩

theorem LeadsTo.position {document : Json} {trail : Trail} {index : Nat}
    (hleads : LeadsTo documents document trail index) :
    ∃ p, (positions documents)[index]? = some p ∧ p.raw = Trail.last document trail ∧
      p.scopes.toList = (Trail.openScopes document trail).reverse := by
  obtain ⟨number, -, hbelow, hp⟩ := hleads
  exact ⟨_, hp, Position.raw_along _ _, Position.scopes_root_along number hbelow⟩

theorem isBase_of_mem_scopes {index : Nat} {p : Position}
    (hp : (positions documents)[index]? = some p) {s : Scope} (hs : s ∈ p.scopes.toList) :
    s.base.IsBase := by
  obtain ⟨document, trail, -, -, hscopes⟩ := exists_leadsTo hp
  rw [hscopes, List.mem_reverse] at hs
  exact Trail.isBase_of_mem_openScopes hs

theorem liesAt_iff {place : Scope} {index : Nat} : LiesAt documents place index ↔
    ∃ p, (positions documents)[index]? = some p ∧ place ∈ p.scopes.toList := by
  constructor
  · rintro ⟨document, trail, hleads, hplace⟩
    obtain ⟨p, hp, -, hscopes⟩ := hleads.position
    exact ⟨p, hp, by rwa [hscopes, List.mem_reverse]⟩
  · rintro ⟨p, hp, hplace⟩
    obtain ⟨document, trail, hleads, -, hscopes⟩ := exists_leadsTo hp
    rw [hscopes, List.mem_reverse] at hplace
    exact ⟨document, trail, hleads, hplace⟩

/-- A schema has a location exactly if it has the place that the location tells. -/
theorem mem_locations_iff {index : Nat} {p : Position}
    (hp : (positions documents)[index]? = some p) (u : Url) (pointer : JsonPointer) :
    location u pointer ∈ p.scopes.locations ↔
      ⟨(location u pointer).bare, pointer⟩ ∈ p.scopes.toList := by
  unfold Scopes.locations
  rw [List.mem_map]
  constructor
  · rintro ⟨s, hs, heq⟩
    rwa [← (Scope.location_eq_iff (isBase_of_mem_scopes hp hs) u pointer).mp heq]
  · intro hs
    exact ⟨_, hs, (Scope.location_eq_iff (isBase_of_mem_scopes hp hs) u pointer).mpr rfl⟩

theorem mem_entry_locations_iff {r : Registry} (hcompile : compile documents = .ok r) {index : Nat}
    (u : Url) (pointer : JsonPointer) :
    (∃ entry, r.entries[index]? = some entry ∧ location u pointer ∈ entry.locations) ↔
      LiesAt documents ⟨(location u pointer).bare, pointer⟩ index := by
  have harranged := compile_arranged hcompile
  rw [liesAt_iff]
  constructor
  · rintro ⟨entry, hentry, hmem⟩
    obtain ⟨p, hp⟩ := harranged.exists_position hentry
    rw [(harranged.compiled index entry p hentry hp).locations] at hmem
    exact ⟨p, hp, (mem_locations_iff hp u pointer).mp hmem⟩
  · rintro ⟨p, hp, hs⟩
    obtain ⟨entry, hentry, hcompiled⟩ := harranged.exists_entry_at hp
    refine ⟨entry, hentry, ?_⟩
    rw [hcompiled.locations]
    exact (mem_locations_iff hp u pointer).mpr hs

theorem lookup?_location_iff {r : Registry} (hcompile : compile documents = .ok r) (u : Url)
    (pointer : JsonPointer) (index : Nat) :
    r.lookup? (location u pointer) = some index ↔
      FirstAt documents ⟨(location u pointer).bare, pointer⟩ index := by
  unfold FirstAt
  rw [r.lookup?_eq_findLocation?, findLocation?_eq_some_iff, mem_entry_locations_iff hcompile]
  refine and_congr_right fun _ => forall_congr' fun earlier => imp_congr_right fun _ => ?_
  rw [← mem_entry_locations_iff hcompile, not_exists]
  exact forall_congr' fun entry => not_and.symm

/-- What a URL addresses, whatever it is. -/
theorem resolve?_iff {r : Registry} (hcompile : compile documents = .ok r) (u : Url) (index : Nat) :
    r.resolve? u = some index ↔ ∃ pointer, u.pointer = .ok pointer ∧
      FirstAt documents ⟨(location u pointer).bare, pointer⟩ index := by
  unfold Registry.resolve?
  cases hpointer : u.pointer with
  | error e => simp
  | ok pointer =>
      dsimp only
      rw [lookup?_location_iff hcompile]
      simp

theorem bare_location_of_removes {u : Url} (hremoves : u.withoutFragment = u.bare)
    (pointer : JsonPointer) : (location u pointer).bare = u.bare := by
  rw [bare_location]
  split
  · exact hremoves
  · rfl

theorem exists_firstAt {place : Scope} {index : Nat} (hlies : LiesAt documents place index) :
    ∃ first ≤ index, FirstAt documents place first := by
  induction index using Nat.strong_induction_on with
  | _ index ih =>
      by_cases hearlier : ∃ earlier < index, LiesAt documents place earlier
      · obtain ⟨earlier, hless, hlies'⟩ := hearlier
        obtain ⟨first, hfirst, hfirst'⟩ := ih earlier hless hlies'
        exact ⟨first, by omega, hfirst'⟩
      · refine ⟨index, Nat.le_refl _, hlies, fun earlier hless hlies' => ?_⟩
        exact hearlier ⟨earlier, hless, hlies'⟩

theorem stored_agreeing {roots : List Nat} {draft : Draft}
    (hstored : compileDocuments documents .empty = .ok (roots, draft)) :
    Agreeing draft.entries := by
  refine Compile.keeps_compileDocuments keeps_agreeing documents .empty roots draft ?_ hstored
  intro index entry uri hentry
  cases hentry

theorem compile_agreeing {r : Registry} (hcompile : compile documents = .ok r) :
    Agreeing r.entries := by
  obtain ⟨roots, draft, hstored, rfl, -⟩ := compile_ok hcompile
  exact stored_agreeing hstored

/-- Schemas that have one place are equal to the first that has it. -/
theorem same_of_firstAt {r : Registry} (hcompile : compile documents = .ok r) {place : Scope}
    {first other : Nat} (hfirst : FirstAt documents place first)
    (hother : LiesAt documents place other) (hne : first ≠ other) {p q : Position}
    (hp : (positions documents)[first]? = some p) (hq : (positions documents)[other]? = some q) :
    p.raw.same q.raw = true := by
  have harranged := compile_arranged hcompile
  obtain ⟨q', hq', hplace⟩ := liesAt_iff.mp hother
  obtain rfl := Option.some.inj (hq.symm.trans hq')
  have hbase := isBase_of_mem_scopes hq hplace
  have hbare : (location place.base place.pointer).bare = place.base :=
    hbase.bare_location place.pointer
  have hlookup : findLocation? r.entries (location place.base place.pointer) = some first := by
    rw [← r.lookup?_eq_findLocation?, lookup?_location_iff hcompile, hbare]
    exact hfirst
  obtain ⟨entry, hentry, hmem⟩ : ∃ entry, r.entries[other]? = some entry ∧
      location place.base place.pointer ∈ entry.locations := by
    rw [mem_entry_locations_iff hcompile, hbare]
    exact hother
  obtain ⟨found, hfound, hcompiled⟩ := harranged.exists_entry_at hp
  rcases compile_agreeing hcompile other entry _ hentry hmem with
    hsame | ⟨earlier, hfind, hsame⟩
  · exact absurd (Option.some.inj (hlookup.symm.trans hsame)) hne
  · obtain rfl := Option.some.inj ((firstWith?_of_findLocation? hlookup hfound).symm.trans hfind)
    rwa [hcompiled.raw, (harranged.compiled other entry q hentry hq).raw] at hsame

end Places

/-- How the schemas of some documents are addressed in a store. Each schema lies at the end of a
trail and is named by its location in the scope opened last. A URL whose fragment is a pointer
addresses the first schema that has this place, where the base is what is left of the URL without
the fragment. A URL that loses nothing else with its fragment has itself as the base. -/
structure Registry.Addresses (r : Registry) (documents : List Json) : Prop where
  reached : ∀ index < r.size, ∃ document trail, LeadsTo documents document trail index
  named : ∀ document trail index, LeadsTo documents document trail index →
    r.uriOf? index = (Trail.openScopes document trail).getLast?.map Scope.location
  found : ∀ u index, r.resolve? u = some index ↔ ∃ pointer, u.pointer = .ok pointer ∧
    FirstAt documents ⟨(location u pointer).bare, pointer⟩ index
  based : ∀ u, u.withoutFragment = u.bare →
    ((r.resolve? u).isSome ↔ ∃ pointer index, u.pointer = .ok pointer ∧
      LiesAt documents ⟨u.bare, pointer⟩ index) ∧
    ∀ index, r.resolve? u = some index ↔ ∃ pointer, u.pointer = .ok pointer ∧
      FirstAt documents ⟨u.bare, pointer⟩ index
  same : ∀ place first other p q, FirstAt documents place first → LiesAt documents place other →
    first ≠ other → (positions documents)[first]? = some p →
    (positions documents)[other]? = some q → p.raw.same q.raw = true

/-- What `compile` gives addresses each schema by its places, the first one of several equal ones,
and nothing else. -/
theorem compile_addresses {documents : List Json} {r : Registry}
    (hcompile : compile documents = .ok r) : r.Addresses documents where
  reached index hindex := by
    have hsize : index < (positions documents).length := by
      rw [← (compile_arranged hcompile).size]
      exact hindex
    obtain ⟨document, trail, hleads, -, -⟩ := exists_leadsTo (List.getElem?_eq_getElem hsize)
    exact ⟨document, trail, hleads⟩
  named document trail index hleads := by
    have harranged := compile_arranged hcompile
    obtain ⟨p, hp, -, hscopes⟩ := hleads.position
    have hindex : index < r.entries.size := by
      rw [harranged.size]
      exact (List.getElem?_eq_some_iff.mp hp).1
    have hentry := Array.getElem?_eq_getElem hindex
    have hlast : (Trail.openScopes document trail).getLast? = some p.scopes.inner := by
      rw [← List.head?_reverse, ← hscopes]
      rfl
    unfold Registry.uriOf? Registry.node?
    rw [hlast, hentry, Option.map_some, Option.map_some, Option.map_some,
      (harranged.compiled index _ p hentry hp).uri]
    rfl
  found := resolve?_iff hcompile
  based u hremoves := by
    have hfound : ∀ index, r.resolve? u = some index ↔ ∃ pointer, u.pointer = .ok pointer ∧
        FirstAt documents ⟨u.bare, pointer⟩ index := by
      intro index
      rw [resolve?_iff hcompile]
      simp only [bare_location_of_removes hremoves]
    refine ⟨?_, hfound⟩
    rw [Option.isSome_iff_exists]
    constructor
    · rintro ⟨index, hindex⟩
      obtain ⟨pointer, hpointer, hfirst⟩ := (hfound index).mp hindex
      exact ⟨pointer, index, hpointer, hfirst.1⟩
    · rintro ⟨pointer, index, hpointer, hlies⟩
      obtain ⟨first, -, hfirst⟩ := exists_firstAt hlies
      exact ⟨first, (hfound first).mpr ⟨pointer, hpointer, hfirst⟩⟩
  same _ _ _ _ _ hfirst hother hne hp hq := same_of_firstAt hcompile hfirst hother hne hp hq

/-- A schema inside a nested scope, which is addressed from there and from the document. -/
theorem nested_scope_addresses :
    ∃ r inner outer, compile [.object [("$id", .string "a:/root"),
        ("items", .object [("$id", .string "item"),
          ("properties", .object [("a", .object [])])])]] = .ok r ∧
      Url.parse "a:/item#/properties/a" = .ok inner ∧ inner.withoutFragment = inner.bare ∧
      Url.parse "a:/root#/items/properties/a" = .ok outer ∧
      r.resolve? inner = some 0 ∧ r.resolve? outer = some 0 ∧
      (∃ pointer, inner.pointer = .ok pointer ∧
        FirstAt [.object [("$id", .string "a:/root"), ("items", .object [("$id", .string "item"),
          ("properties", .object [("a", .object [])])])]] ⟨inner.bare, pointer⟩ 0) := by
  have hchecked : (compile [.object [("$id", .string "a:/root"),
      ("items", .object [("$id", .string "item"),
        ("properties", .object [("a", .object [])])])]]).toOption.map (fun r =>
          ((Url.parse "a:/item#/properties/a").toOption.map
              (fun u => (r.resolve? u, decide (u.withoutFragment = u.bare))),
            (Url.parse "a:/root#/items/properties/a").toOption.map r.resolve?)) =
              some (some (some 0, true), some (some 0)) := by decide +kernel
  obtain ⟨r, hcompile, hr⟩ := exists_ok_of_toOption hchecked
  obtain ⟨hfirst, hsecond⟩ := Prod.mk.inj hr
  obtain ⟨inner, hinner, hresolved⟩ := exists_ok_of_toOption hfirst
  obtain ⟨outer, houter, hresolved'⟩ := exists_ok_of_toOption hsecond
  obtain ⟨hindex, hremoves⟩ := Prod.mk.inj hresolved
  have hbased := (compile_addresses hcompile).based inner (of_decide_eq_true hremoves)
  exact ⟨r, inner, outer, hcompile, hinner, of_decide_eq_true hremoves, houter, hindex, hresolved',
    (hbased.2 0).mp hindex⟩

end SchemaRegistry

import SchemaRegistry.Proofs.Acceptance.Keywords
import SchemaRegistry.Proofs.Compile.Layout

/-!
Which documents compile. If all of them are well-formed, then no keyword is ever blamed; if one is
not, then there is no result: the error names a keyword that has not the value that it has to have
and the schema that holds it, unless two different schemas at one location have been met before.
-/

namespace SchemaRegistry

/-- The schema at a position does not compile for a keyword, and is named by a location. A schema
that declares an improper base is named by the location that it has without it. -/
def Position.Rejects (p : Position) (keyword : String) (location : Url) : Prop :=
  match p.raw with
  | .object members =>
    sound p.outer.base p.scopes.base members keyword = false ∧
      location = if keyword = "$id" then p.outer.uri else p.scopes.uri
  | .bool _ => False
  | _ => p.path = [] ∧ keyword = "schema" ∧ location = p.outer.uri

theorem Position.rejects_object_iff {p : Position} {members : List (String × Json)}
    (hraw : p.raw = .object members) (keyword : String) (location : Url) :
    p.Rejects keyword location ↔
      sound p.outer.base p.scopes.base members keyword = false ∧
        location = if keyword = "$id" then p.outer.uri else p.scopes.uri := by
  unfold Rejects
  rw [hraw]

/-- The schema at a position compiles for all its keywords. -/
def Position.Accepts (p : Position) : Prop := ∀ keyword location, ¬ p.Rejects keyword location

/-- Two different schemas have a location. They and all schemas before the second one compile for
all their keywords. -/
def Clash (places : List Position) (uri : Url) : Prop :=
  ∃ before q after, places = before ++ q :: after ∧ (∀ p ∈ before, p.Accepts) ∧ q.Accepts ∧
    uri ∈ q.scopes.locations ∧ ∃ p ∈ before, uri ∈ p.scopes.locations ∧ p.raw.same q.raw = false

/-- The reason for an error is found among the schemas at some positions. -/
def Blames (places : List Position) (e : CompileError) : Prop :=
  (∃ p ∈ places, ∃ keyword location kind, e = .schema keyword location kind ∧
    p.Rejects keyword location) ∨
  ∃ uri, e = .conflictingDefinition uri ∧ Clash places uri

theorem Blames.append {places : List Position} {e : CompileError} (hblames : Blames places e)
    (more : List Position) : Blames (places ++ more) e := by
  rcases hblames with ⟨p, hp, hrejects⟩ | ⟨uri, he, before, q, after, rfl, hclash⟩
  · exact Or.inl ⟨p, List.mem_append_left _ hp, hrejects⟩
  · refine Or.inr ⟨uri, he, before, q, after ++ more, ?_, hclash⟩
    rw [List.append_assoc, List.cons_append]

theorem Shape.of?_keyword {keyword : String} {shape : Shape} (hshape : of? keyword = some shape) :
    keyword ∈ "$id" :: Site.innerKeywords := by
  unfold of? at hshape
  obtain ⟨before, after, heq, -⟩ := List.lookup_eq_some_iff.mp hshape
  have hmem : keyword ∈ recognised.map Prod.fst := by
    rw [heq]
    simp
  have hall : ∀ known ∈ recognised.map Prod.fst, known ∈ "$id" :: Site.innerKeywords := by decide
  exact hall keyword hmem

/-- It does not matter inside of which base the declaration of a base is tested. -/
theorem sound_id (around base other : Url) (members : List (String × Json)) :
    sound around base members "$id" = sound around other members "$id" := by
  have hid : Shape.of? "$id" = some .id := rfl
  unfold sound
  rw [hid]
  cases Json.member? "$id" members with
  | none => rfl
  | some value => cases value <;> rfl

section Tested

variable {child : Compiler} {p : Position} {members : List (String × Json)}

/-- When the base and the keywords of a schema have been read, all of them are sound. -/
theorem sound_of_read {id : Option Url} {k : Keywords} {draft middle : Draft}
    (hid : Site.id? ⟨p.outer, members⟩ = .ok id)
    (hkeywords : Site.keywords ⟨p.scopes, members⟩ child draft = .ok (k, middle))
    (keyword : String) : sound p.outer.base p.scopes.base members keyword = true := by
  cases hshape : Shape.of? keyword with
  | none =>
      unfold sound
      rw [hshape]
  | some shape =>
      rcases List.mem_cons.mp (Shape.of?_keyword hshape) with rfl | hinner
      · have hread := Site.id?_reads (s := ⟨p.outer, members⟩)
        unfold Site.Reads at hread
        rw [hid] at hread
        rw [sound_id _ _ p.outer.base]
        exact hread
      · have hchecks : Site.Checks ⟨p.scopes, members⟩ child
            (Site.verdicts ⟨p.scopes, members⟩ p.outer.base Site.innerKeywords)
            (Json.object members).subschemas (Site.keywords ⟨p.scopes, members⟩ child) :=
          Site.keywords_checks
        have hpassed := hchecks draft
        rw [hkeywords] at hpassed
        exact hpassed _ (List.mem_map.mpr ⟨keyword, hinner, rfl⟩)

theorem accepts_of_sound (hraw : p.raw = .object members)
    (hsound : ∀ keyword, sound p.outer.base p.scopes.base members keyword = true) : p.Accepts := by
  intro keyword location hrejects
  obtain ⟨hunsound, -⟩ := (Position.rejects_object_iff hraw _ _).mp hrejects
  exact Bool.false_ne_true (hunsound.symm.trans (hsound keyword))

theorem accepts_of_bool {accepts : Bool} (hraw : p.raw = .bool accepts) : p.Accepts := by
  intro keyword location hrejects
  unfold Position.Rejects at hrejects
  rw [hraw] at hrejects
  exact hrejects

/-- Each of the schemas that are compiled one after the other is compiled. -/
theorem exists_run_of_visits {s : Site} {slots : Slots Json} {placed : Slots Nat}
    {draft after : Draft}
    (hrun : (slots.mapM (s.visit child)) draft = .ok (placed, after))
    {slot : List String × Json} (hslot : slot ∈ slots) :
    ∃ before out, child (s.scopes.descend slot.1) slot.2 before = .ok out := by
  induction slots generalizing draft placed with
  | nil => exact absurd hslot List.not_mem_nil
  | cons first rest ih =>
      rw [List.mapM_cons] at hrun
      obtain ⟨visited, middle, hfirst, hothers⟩ := Compile.bind_apply_ok hrun
      obtain ⟨others, last, hrest, hdone⟩ := Compile.bind_apply_ok hothers
      cases hdone
      rcases List.mem_cons.mp hslot with rfl | hlater
      · obtain ⟨index, draft', hcompiled, -⟩ := Compile.bind_apply_ok hfirst
        exact ⟨draft, _, hcompiled⟩
      · exact ih hrest hlater

end Tested

/-- What compiles is well-formed. -/
theorem compileSchema_wellFormed {levels : Nat} {p : Position} {draft : Draft}
    {out : Nat × Draft} (hrun : compileSchema levels p.outer p.raw draft = .ok out) :
    p.raw.WellFormed p.outer.base := by
  obtain ⟨index, after⟩ := out
  induction levels generalizing p draft index after with
  | zero =>
      cases hraw : p.raw with
      | bool accepts => exact .bool _ accepts
      | _ =>
          rw [hraw] at hrun
          cases hrun
  | succ levels ih =>
      cases hraw : p.raw with
      | bool accepts => exact .bool _ accepts
      | object members =>
          rw [hraw] at hrun
          change compileObject (compileSchema levels) p.outer members draft = _ at hrun
          obtain ⟨id, k, middle, hid, hkeywords, -⟩ := compileObject_ok hraw hrun
          have hbase : p.scopes.base = (Json.object members).baseIn p.outer.base := by
            rw [p.base_scopes, hraw]
          obtain ⟨placed, hplaced, -⟩ := Site.keywords_visits draft k middle hkeywords
          refine .object _ members ?_ fun slot hslot => ?_
          · rw [← hbase]
            exact sound_of_read hid hkeywords
          · obtain ⟨before, ⟨inner, after'⟩, hinner⟩ := exists_run_of_visits hplaced hslot
            rw [← hbase, ← p.scopes.base_descend slot.1]
            exact ih (p := p.inner slot.1 slot.2) inner after' hinner
      | _ =>
          rw [hraw] at hrun
          cases hrun

theorem Json.WellFormed.accepts {p : Position} (hformed : p.raw.WellFormed p.outer.base) :
    ∀ q ∈ p.postOrder, q.Accepts := by
  induction p using Position.postOrder_induction with
  | hstep p ih =>
      intro q hq
      rw [Position.postOrder_eq] at hq
      have hbase := p.base_scopes
      cases hraw : p.raw with
      | bool accepts =>
          rw [hraw] at hq
          rw [List.mem_singleton.mp hq]
          exact accepts_of_bool hraw
      | object members =>
          rw [hraw] at hformed hbase
          cases hformed with
          | object _ _ hsound hinside =>
              rw [← hbase] at hsound hinside
              rcases List.mem_append.mp hq with hinner | hself
              · obtain ⟨slot, hslot, hmem⟩ := List.mem_flatMap.mp hinner
                refine ih slot hslot ?_ q hmem
                have hformed := hinside slot (hraw ▸ hslot)
                rwa [← p.scopes.base_descend slot.1] at hformed
              · rw [List.mem_singleton.mp hself]
                exact accepts_of_sound hraw hsound
      | _ =>
          rw [hraw] at hformed
          cases hformed

theorem Position.mem_postOrder_self (p : Position) : p ∈ p.postOrder := by
  rw [postOrder_eq]
  exact List.mem_append_right _ (List.mem_singleton_self p)

theorem Arranged.accepts {entries : Array Entry} {places : List Position}
    (harranged : Arranged entries places) : ∀ p ∈ places, p.Accepts := by
  intro p hp
  obtain ⟨index, entry, -, -, hcompiled⟩ := harranged.exists_entry hp
  obtain ⟨levels, before, after, hrun, -⟩ := hcompiled.made
  exact (compileSchema_wellFormed hrun).accepts p p.mem_postOrder_self

namespace Compile

theorem bind_apply_error {α β : Type} {compilation : Compile α} {next : α → Compile β}
    {draft : Draft} {e : CompileError} (hrun : (compilation >>= next) draft = .error e) :
    compilation draft = .error e ∨
      ∃ a middle, compilation draft = .ok (a, middle) ∧ next a middle = .error e := by
  cases hfirst : compilation draft with
  | error found =>
      have herror : (compilation >>= next) draft = .error found := by
        change (compilation draft >>= fun out => next out.1 out.2) = _
        rw [hfirst]
        rfl
      rw [herror] at hrun
      cases hrun
      exact Or.inl rfl
  | ok out =>
      rw [bind_apply_eq hfirst] at hrun
      exact Or.inr ⟨out.1, out.2, rfl, hrun⟩

end Compile

section Reasons

variable {p : Position} {draft : Draft} {places : List Position} {e : CompileError}

/-- A schema that is not stored clashes with an earlier one. -/
theorem clash_of_register (harranged : Arranged draft.entries places) (haccepts : p.Accepts)
    {entry : Entry} (hraw : entry.raw = p.raw) (hlocations : entry.locations = p.scopes.locations)
    (hrun : register entry draft = .error e) : Blames (places ++ [p]) e := by
  unfold register at hrun
  split at hrun
  · next uri hconflict =>
      cases hrun
      have huri := List.mem_of_find?_eq_some hconflict
      have hdiffers := List.find?_some hconflict
      split at hdiffers
      · next text hseen =>
          rw [draft.seen_first] at hseen
          obtain ⟨earlier, hfind, rfl⟩ := Option.map_eq_some_iff.mp hseen
          obtain ⟨hcontains, index, hindex, heq, -⟩ := Array.find?_eq_some_iff_getElem.mp hfind
          have hentry := Array.getElem?_eq_getElem hindex
          rw [heq] at hentry
          obtain ⟨q, hq⟩ := harranged.exists_position hentry
          have hcompiled := harranged.compiled index earlier q hentry hq
          rw [hcompiled.locations] at hcontains
          rw [hcompiled.raw, hraw] at hdiffers
          rw [hlocations] at huri
          exact Or.inr ⟨uri, rfl, places, p, [], rfl, harranged.accepts, haccepts, huri, q,
            List.mem_of_getElem? hq, List.contains_iff_mem.mp hcontains,
            (Bool.not_eq_true' _).mp hdiffers⟩
      · cases hdiffers
  · cases hrun

/-- Where the compilation of a schema object can fail. -/
theorem compileObject_error {child : Compiler} {members : List (String × Json)}
    (hraw : p.raw = .object members)
    (hrun : compileObject child p.outer members draft = .error e) :
    Site.id? ⟨p.outer, members⟩ = .error e ∨
      ∃ id, Site.id? ⟨p.outer, members⟩ = .ok id ∧
        (Site.keywords ⟨p.scopes, members⟩ child draft = .error e ∨
          ∃ k middle, Site.keywords ⟨p.scopes, members⟩ child draft = .ok (k, middle) ∧
            register ⟨⟨p.scopes.uri, id, .keywords k⟩, p.raw, p.scopes.locations,
              if p.outer.atRoot || id.isSome then some p.scopes.base.withoutFragment else none⟩
              middle = .error e) := by
  unfold compileObject at hrun
  unfold Position.scopes Scopes.enter
  rw [hraw]
  dsimp only
  cases hid : Site.id? ⟨p.outer, members⟩ with
  | error found =>
      rw [hid] at hrun
      cases hrun
      exact Or.inl rfl
  | ok id =>
      rw [hid] at hrun
      refine Or.inr ⟨id, rfl, ?_⟩
      cases id with
      | none => exact Compile.bind_apply_error hrun
      | some base => exact Compile.bind_apply_error hrun

/-- A failure in a schema has its reason in this schema or in an earlier one. -/
def Explains (child : Compiler) (levels : Nat) : Prop :=
  ∀ (p : Position) draft places e, p.raw.height ≤ levels →
    (p.path = [] ∨ p.raw.isSchema = true) → Arranged draft.entries places →
      child p.outer p.raw draft = .error e → Blames (places ++ p.postOrder) e

theorem id_blames {members : List (String × Json)} (hraw : p.raw = .object members)
    (hid : Site.id? ⟨p.outer, members⟩ = .error e) : Blames (places ++ p.postOrder) e := by
  have hread := Site.id?_reads (s := ⟨p.outer, members⟩)
  unfold Site.Reads at hread
  rw [hid] at hread
  obtain ⟨hsound, kind, rfl⟩ := hread
  refine Or.inl ⟨p, List.mem_append_right _ p.mem_postOrder_self, "$id", p.outer.uri, kind, rfl, ?_⟩
  exact (Position.rejects_object_iff hraw _ _).mpr ⟨(sound_id _ _ _ _).trans hsound, rfl⟩

/-- Reading the keywords fails at one of them or in a schema that the object holds. -/
theorem keywords_blames {levels : Nat} (hchild : Explains (compileSchema levels) levels)
    {members : List (String × Json)} (hraw : p.raw = .object members)
    (hlevels : p.raw.height ≤ levels + 1) (harranged : Arranged draft.entries places)
    (hkeywords : Site.keywords ⟨p.scopes, members⟩ (compileSchema levels) draft = .error e) :
    Blames (places ++ p.postOrder) e := by
  have hchecks : Site.Checks ⟨p.scopes, members⟩ (compileSchema levels)
      (Site.verdicts ⟨p.scopes, members⟩ p.outer.base Site.innerKeywords)
      (Json.object members).subschemas
      (Site.keywords ⟨p.scopes, members⟩ (compileSchema levels)) := Site.keywords_checks
  have hfailed := hchecks draft
  rw [hkeywords] at hfailed
  rcases hfailed with ⟨keyword, kind, hmem, rfl⟩ |
    ⟨before, slot, after, placed, middle, hsplit, hbefore, hschema, herror⟩
  · obtain ⟨known, hknown, heq⟩ := List.mem_map.mp hmem
    obtain ⟨rfl, hsound⟩ := Prod.mk.inj heq
    have hid : known ≠ "$id" := by
      rintro rfl
      exact absurd hknown (by decide)
    refine Or.inl ⟨p, List.mem_append_right _ p.mem_postOrder_self, known, p.scopes.uri, kind,
      rfl, ?_⟩
    exact (Position.rejects_object_iff hraw _ _).mpr ⟨hsound, (if_neg hid).symm⟩
  · have hslot : slot ∈ p.raw.subschemas := by
      rw [hraw, hsplit]
      exact List.mem_append_right _ List.mem_cons_self
    have hheight : slot.2.height < p.raw.height := Json.height_of_subschema hslot
    obtain ⟨hmiddle, -, -⟩ :=
      (compileSchema_arranges levels).visits (p := p) rfl harranged hbefore
    have hblames := hchild (p.inner slot.1 slot.2) middle _ e
      (show slot.2.height ≤ levels by omega) (Or.inr hschema) hmiddle herror
    have hwhole : places ++ p.postOrder = places ++ p.inside before ++
        (p.inner slot.1 slot.2).postOrder ++ (p.inside after ++ [p]) := by
      rw [Position.postOrder_eq, hraw, hsplit]
      unfold Position.inside
      simp only [List.flatMap_append, List.flatMap_cons, List.append_assoc]
    rw [hwhole]
    exact hblames.append _

theorem compileObject_blames {levels : Nat} (hchild : Explains (compileSchema levels) levels)
    {members : List (String × Json)} (hraw : p.raw = .object members)
    (hlevels : p.raw.height ≤ levels + 1) (harranged : Arranged draft.entries places)
    (hrun : compileObject (compileSchema levels) p.outer members draft = .error e) :
    Blames (places ++ p.postOrder) e := by
  rcases compileObject_error hraw hrun with
    hid | ⟨id, hid, hkeywords | ⟨k, middle, hkeywords, hstored⟩⟩
  · exact id_blames hraw hid
  · exact keywords_blames hchild hraw hlevels harranged hkeywords
  · obtain ⟨placed, hplaced, -⟩ := Site.keywords_visits draft k middle hkeywords
    obtain ⟨hmiddle, -, -⟩ := (compileSchema_arranges levels).visits (p := p) rfl harranged hplaced
    have haccepts := accepts_of_sound hraw (sound_of_read hid hkeywords)
    rw [Position.postOrder_eq, hraw, ← List.append_assoc]
    exact clash_of_register hmiddle haccepts rfl rfl hstored

theorem compileBool_blames {levels : Nat} {accepts : Bool} (hraw : p.raw = .bool accepts)
    (harranged : Arranged draft.entries places)
    (hrun : compileSchema levels p.outer p.raw draft = .error e) :
    Blames (places ++ p.postOrder) e := by
  have hregister : register
      ⟨⟨p.outer.uri, none, .constant accepts⟩, .bool accepts, p.outer.locations, none⟩ draft =
        .error e := by
    rw [hraw] at hrun
    cases levels <;> exact hrun
  have hscopes : p.scopes = p.outer := by
    unfold Position.scopes
    rw [hraw]
    rfl
  have hpostOrder : p.postOrder = [p] := by
    rw [Position.postOrder_eq, hraw]
    rfl
  rw [hpostOrder]
  refine clash_of_register harranged (accepts_of_bool hraw) hraw.symm ?_ hregister
  rw [hscopes]

/-- Only a document can be something that is not a schema. -/
theorem blames_of_not_isSchema {levels : Nat} (hplace : p.path = [] ∨ p.raw.isSchema = true)
    (hschema : p.raw.isSchema = false)
    (hrun : compileSchema levels p.outer p.raw draft = .error e) :
    Blames (places ++ p.postOrder) e := by
  have hpath : p.path = [] :=
    hplace.resolve_right fun h => Bool.false_ne_true (hschema.symm.trans h)
  have hrejects : e = .schema "schema" p.outer.uri .schemaNotObject ∧
      p.Rejects "schema" p.outer.uri := by
    unfold Position.Rejects
    cases hraw : p.raw with
    | bool accepts =>
        rw [hraw] at hschema
        cases hschema
    | object members =>
        rw [hraw] at hschema
        cases hschema
    | _ =>
        rw [hraw] at hrun
        cases levels <;> cases hrun <;> exact ⟨rfl, hpath, rfl, rfl⟩
  exact Or.inl ⟨p, List.mem_append_right _ p.mem_postOrder_self, _, _, _, hrejects⟩

theorem compileSchema_explains (levels : Nat) : Explains (compileSchema levels) levels := by
  induction levels with
  | zero =>
      intro p draft places e hlevels hplace harranged hrun
      cases hraw : p.raw with
      | bool accepts => exact compileBool_blames hraw harranged hrun
      | object members =>
          have hpositive := Json.heightMembers_pos members
          rw [hraw, Json.height] at hlevels
          omega
      | _ =>
          refine blames_of_not_isSchema hplace ?_ hrun
          rw [hraw]
          rfl
  | succ levels ih =>
      intro p draft places e hlevels hplace harranged hrun
      cases hraw : p.raw with
      | bool accepts => exact compileBool_blames hraw harranged hrun
      | object members =>
          refine compileObject_blames ih hraw hlevels harranged ?_
          rw [hraw] at hrun
          exact hrun
      | _ =>
          refine blames_of_not_isSchema hplace ?_ hrun
          rw [hraw]
          rfl

theorem compileDocuments_blames (document : Nat) (documents : List Json)
    (harranged : Arranged draft.entries places)
    (hrun : compileDocuments documents draft = .error e) :
    Blames (places ++ positionsFrom document documents) e := by
  unfold compileDocuments at hrun
  induction documents generalizing document draft places with
  | nil =>
      rw [List.mapM_nil] at hrun
      cases hrun
  | cons raw rest ih =>
      rw [List.mapM_cons] at hrun
      have hsplit : places ++ positionsFrom document (raw :: rest) =
          places ++ (Position.root document raw).postOrder ++ positionsFrom (document + 1) rest :=
        (List.append_assoc ..).symm
      rw [hsplit]
      rcases Compile.bind_apply_error hrun with hfirst | ⟨root, middle, hfirst, hothers⟩
      · have hblames := compileSchema_explains raw.height (.root document raw) draft places e
          (Nat.le_refl _) (Or.inl rfl) harranged hfirst
        exact hblames.append _
      · obtain ⟨hmiddle, -⟩ := compileSchema_arranges raw.height (.root document raw) draft
          places root middle harranged hfirst
        rcases Compile.bind_apply_error hothers with hrest | ⟨others, last, hrest, hdone⟩
        · exact ih (document + 1) hmiddle hrest
        · cases hdone

theorem compileDocuments_wellFormed {documents : List Json} {out : List Nat × Draft}
    (hrun : compileDocuments documents draft = .ok out) :
    ∀ raw ∈ documents, raw.WellFormed defaultBase := by
  unfold compileDocuments at hrun
  obtain ⟨roots, after⟩ := out
  induction documents generalizing draft roots with
  | nil => exact fun raw hraw => absurd hraw List.not_mem_nil
  | cons first rest ih =>
      rw [List.mapM_cons] at hrun
      obtain ⟨root, middle, hfirst, hothers⟩ := Compile.bind_apply_ok hrun
      obtain ⟨others, last, hrest, hdone⟩ := Compile.bind_apply_ok hothers
      cases hdone
      intro raw hraw
      rcases List.mem_cons.mp hraw with rfl | hlater
      · exact compileSchema_wellFormed (p := .root 0 raw) hfirst
      · exact ih others hrest raw hlater

end Reasons

section Documents

variable {documents : List Json}

/-- What compilation makes of documents that it has stored. -/
theorem compile_of_stored {roots : List Nat} {draft : Draft}
    (hstored : compileDocuments documents .empty = .ok (roots, draft)) :
    compile documents =
      if Registry.unresolved ⟨draft.toStore, roots⟩ = [] then .ok ⟨draft.toStore, roots⟩
      else .error (.unresolvedReferences (Registry.unresolved ⟨draft.toStore, roots⟩)) := by
  unfold compile
  rw [hstored]
  cases hunresolved : Registry.unresolved ⟨draft.toStore, roots⟩ with
  | nil => simp only [bind, Except.bind, hunresolved, if_pos, pure, Except.pure]
  | cons first rest =>
      simp only [bind, Except.bind, hunresolved]
      rfl

/-- A compilation fails while it stores the documents, or when it looks for targets. -/
theorem compile_error {e : CompileError} (herror : compile documents = .error e) :
    Blames (positions documents) e ∨ ∃ roots draft,
      compileDocuments documents .empty = .ok (roots, draft) ∧
        Arranged draft.entries (positions documents) ∧
          e = .unresolvedReferences (Registry.unresolved ⟨draft.toStore, roots⟩) := by
  cases hrun : compileDocuments documents .empty with
  | error found =>
      unfold compile at herror
      rw [hrun] at herror
      cases herror
      exact Or.inl (compileDocuments_blames 0 documents .empty hrun)
  | ok out =>
      obtain ⟨roots, draft⟩ := out
      rw [compile_of_stored hrun] at herror
      refine Or.inr ⟨roots, draft, rfl, (compileDocuments_arranges 0 documents .empty hrun).1, ?_⟩
      split at herror
      · cases herror
      · cases herror
        rfl

/-- Documents that miss something are stored. -/
theorem exists_stored_of_unresolved {uris : List Url}
    (herror : compile documents = .error (.unresolvedReferences uris)) :
    ∃ roots draft, compileDocuments documents .empty = .ok (roots, draft) ∧
      Arranged draft.entries (positions documents) ∧
        uris = Registry.unresolved ⟨draft.toStore, roots⟩ := by
  rcases compile_error herror with hblames | ⟨roots, draft, hstored, harranged, heq⟩
  · rcases hblames with ⟨p, -, keyword, location, kind, heq, -⟩ | ⟨uri, heq, -⟩
    · cases heq
    · cases heq
  · exact ⟨roots, draft, hstored, harranged, CompileError.unresolvedReferences.inj heq⟩

theorem accepts_of_wellFormed (hformed : ∀ raw ∈ documents, raw.WellFormed defaultBase) :
    ∀ p ∈ positions documents, p.Accepts := by
  intro p hp
  obtain ⟨number, raw, hraw, hmem⟩ := mem_positionsFrom_iff.mp hp
  have hroot := hformed raw (List.mem_of_getElem? hraw)
  exact Json.WellFormed.accepts (p := .root (0 + number) raw) hroot p hmem

/-- Compilation accepts exactly the well-formed schemas. If all documents are well-formed, no error
blames a keyword. If one is not, there is no result: either the error names a keyword that does not
have the value that it has to have, and the schema that holds it; or two different schemas have one
location, and neither they nor any schema before them is to blame. -/
theorem compile_accepts_wellFormed (documents : List Json) :
    ((∀ raw ∈ documents, raw.WellFormed defaultBase) →
      ∀ keyword location kind, compile documents ≠ .error (.schema keyword location kind)) ∧
    ((∃ raw ∈ documents, ¬ raw.WellFormed defaultBase) →
      (∃ keyword location kind, compile documents = .error (.schema keyword location kind) ∧
        ∃ p ∈ positions documents, p.Rejects keyword location) ∨
      ∃ uri, compile documents = .error (.conflictingDefinition uri) ∧
        Clash (positions documents) uri) := by
  constructor
  · intro hformed keyword location kind herror
    rcases compile_error herror with hblames | ⟨roots, draft, -, -, heq⟩
    · rcases hblames with ⟨p, hp, keyword', location', kind', heq, hrejects⟩ | ⟨uri, heq, -⟩
      · exact accepts_of_wellFormed hformed p hp keyword' location' hrejects
      · cases heq
    · cases heq
  · rintro ⟨raw, hraw, hmalformed⟩
    have hfails : ∀ out, compileDocuments documents .empty ≠ .ok out :=
      fun out hrun => hmalformed (compileDocuments_wellFormed hrun raw hraw)
    cases hcompile : compile documents with
    | ok r =>
        obtain ⟨roots, draft, hstored, -⟩ := compile_ok hcompile
        exact absurd hstored (hfails _)
    | error e =>
        rcases compile_error hcompile with hblames | ⟨roots, draft, hrun, -⟩
        · rcases hblames with ⟨p, hp, keyword, location, kind, rfl, hrejects⟩ | ⟨uri, rfl, hclash⟩
          · exact Or.inl ⟨keyword, location, kind, rfl, p, hp, hrejects⟩
          · exact Or.inr ⟨uri, rfl, hclash⟩
        · exact absurd hrun (hfails _)

end Documents

/-- A document with a length below zero in a scope of its own, under a keyword that has no effect.
-/
def malformedDocument : Json :=
  .object [("items", .object [("$id", .string "a:/item"),
    ("then", .object [("minLength", .number (.integer (-1)))])])]

/-- Keywords without effect are tested too, and the error names the schema in its own scope. -/
theorem inert_keyword_rejected :
    ∃ location kind p, Url.parse "a:/item#/then" = .ok location ∧
      compile [malformedDocument] = .error (.schema "minLength" location kind) ∧
      p ∈ positions [malformedDocument] ∧ p.Rejects "minLength" location := by
  have hchecked : (Url.parse "a:/item#/then").toOption.map (fun location =>
      match compile [malformedDocument] with
        | .error (.schema keyword found _) => decide (keyword = "minLength" ∧ found = location)
        | _ => false) = some true := by decide +kernel
  have hmalformed : ¬ malformedDocument.WellFormed defaultBase := by
    intro hformed
    cases hformed with
    | object _ _ _ hinside =>
        have hitem := hinside _ (List.mem_append_left _ (List.mem_append_left _
          (List.mem_singleton_self _)))
        cases hitem with
        | object _ _ _ hinside' =>
            have hthen := hinside' (["then"], _) (List.mem_singleton_self _)
            cases hthen with
            | object _ _ hsound _ =>
                have hlength := hsound "minLength"
                cases hlength
  obtain ⟨location, hparse, hlocation⟩ := exists_ok_of_toOption hchecked
  rcases (compile_accepts_wellFormed [malformedDocument]).2
    ⟨_, List.mem_singleton_self _, hmalformed⟩ with
    ⟨keyword, found, kind, herror, p, hp, hrejects⟩ | ⟨uri, herror, -⟩
  · rw [herror] at hlocation
    obtain ⟨rfl, rfl⟩ := of_decide_eq_true hlocation
    exact ⟨found, kind, p, hparse, herror, hp, hrejects⟩
  · rw [herror] at hlocation
    cases hlocation

end SchemaRegistry

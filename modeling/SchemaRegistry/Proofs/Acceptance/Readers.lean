import SchemaRegistry.Proofs.Acceptance.Shapes
import SchemaRegistry.Proofs.Json.Rounding

/-!
What the readers of keywords accept. A reader has a result exactly if the value of its keyword has
the shape that it has to have, or there is no value; otherwise its error names the keyword and the
schema.
-/

namespace SchemaRegistry

/-- The names that are read are those of the seven types. -/
theorem isSome_ofName? (name : String) :
    (PrimitiveType.ofName? name).isSome = typeNames.contains name := by
  rw [Bool.eq_iff_iff, List.contains_iff_mem]
  unfold PrimitiveType.ofName?
  rw [List.find?_isSome]
  constructor
  · rintro ⟨type, -, hnamed⟩
    rw [← of_decide_eq_true hnamed]
    cases type <;> decide
  · intro hname
    simp only [typeNames, List.mem_cons, List.not_mem_nil, or_false] at hname
    rcases hname with rfl | rfl | rfl | rfl | rfl | rfl | rfl
    all_goals decide

namespace Site

variable {α β : Type} {s : Site} {keyword : String}

/-- A reading has a result if a test is passed, and otherwise an error at the keyword. -/
def Tests (s : Site) (keyword : String) (passes : Bool) (reading : Except CompileError α) : Prop :=
  match reading with
  | .ok _ => passes = true
  | .error e => passes = false ∧ ∃ kind, e = .schema keyword s.scopes.uri kind

namespace Tests

variable {passes : Bool}

theorem fail (kind : SchemaErrorKind) :
    s.Tests keyword false (s.fail keyword kind : Except CompileError α) := ⟨rfl, kind, rfl⟩

theorem bind {reading : Except CompileError α} {next : α → Except CompileError β}
    {more : Bool} (hreading : s.Tests keyword passes reading)
    (hnext : ∀ a, reading = .ok a → s.Tests keyword more (next a))
    (hmore : passes = false → more = false) : s.Tests keyword more (reading >>= next) := by
  cases reading with
  | error e => exact ⟨hmore hreading.1, hreading.2⟩
  | ok a => exact hnext a rfl

theorem map {reading : Except CompileError α} {f : α → β}
    (hreading : s.Tests keyword passes reading) :
    s.Tests keyword passes (reading >>= fun a => pure (f a)) := by
  cases reading with
  | error e => exact hreading
  | ok a => exact hreading

theorem mapM (test : α → Bool) {reading : α → Except CompileError β}
    (hitem : ∀ item, s.Tests keyword (test item) (reading item)) (items : List α) :
    s.Tests keyword (items.all test) (items.mapM reading) := by
  induction items with
  | nil => exact (rfl : [].all test = true)
  | cons item rest ih =>
      rw [List.mapM_cons, List.all_cons]
      refine (hitem item).bind (fun b hb => ?_) fun hfalse => ?_
      · have hpasses := hitem item
        rw [hb] at hpasses
        have hpassed : test item = true := hpasses
        rw [hpassed, Bool.true_and]
        exact ih.map
      · rw [hfalse, Bool.false_and]

end Tests

/-- Whether a keyword of the schema, if there is such a one, has the value that it has to have. -/
def sound (s : Site) (around : Url) (keyword : String) : Bool :=
  SchemaRegistry.sound around s.scopes.base s.members keyword

variable {around : Url} {shape : Shape}

theorem sound_none (hvalue : s.keyword? keyword = none) : s.sound around keyword = true := by
  unfold sound SchemaRegistry.sound
  unfold keyword? at hvalue
  rw [hvalue]
  split <;> first | rfl | contradiction

theorem sound_some (hshape : Shape.of? keyword = some shape) {value : Json}
    (hvalue : s.keyword? keyword = some value) :
    s.sound around keyword = shape.fits around s.scopes.base value := by
  unfold sound SchemaRegistry.sound
  unfold keyword? at hvalue
  rw [hvalue, hshape]

/-- A reading reads a keyword if it has a result exactly when the keyword is sound. -/
def Reads (s : Site) (around : Url) (keyword : String) (reading : Except CompileError α) : Prop :=
  s.Tests keyword (s.sound around keyword) reading

theorem number?_reads (hshape : Shape.of? keyword = some .number) :
    s.Reads around keyword (s.number? keyword) := by
  unfold Reads number?
  cases hvalue : s.keyword? keyword with
  | none => exact sound_none hvalue
  | some value =>
      rw [sound_some hshape hvalue]
      cases value with
      | number n => exact (rfl : Shape.number.fits around s.scopes.base (.number n) = true)
      | _ => exact .fail _

/-- Rounding does not turn a number above zero into one that is not, or the other way round. -/
theorem toBinary64_value_pos_iff (n : Number) : 0 < n.toBinary64.value ↔ 0 < n.value := by
  cases n with
  | integer n => exact (Binary64.ofInt_value_pos_iff n).trans Int.cast_pos.symm
  | double x => exact Iff.rfl

theorem divisor?_reads (hshape : Shape.of? keyword = some .divisor) :
    s.Reads around keyword (s.divisor? keyword) := by
  unfold Reads divisor? number?
  cases hvalue : s.keyword? keyword with
  | none => exact sound_none hvalue
  | some value =>
      rw [sound_some hshape hvalue]
      cases value with
      | number n =>
          have hpos := toBinary64_value_pos_iff n
          change s.Tests keyword (decide (0 < n.value))
            (if n.toBinary64.value ≤ 0 then s.fail keyword .invalidNumberValue
              else .ok (some n.toBinary64))
          by_cases hn : 0 < n.value
          · rw [if_neg (not_le.mpr (hpos.mpr hn))]
            exact decide_eq_true hn
          · rw [if_pos (not_lt.mp fun h => hn (hpos.mp h)), decide_eq_false hn]
            exact .fail _
      | _ => exact .fail _

theorem natural?_reads (hshape : Shape.of? keyword = some .natural) :
    s.Reads around keyword (s.natural? keyword) := by
  unfold Reads natural?
  cases hvalue : s.keyword? keyword with
  | none => exact sound_none hvalue
  | some value =>
      rw [sound_some hshape hvalue]
      cases value with
      | number n =>
          cases n with
          | integer n =>
              have hfits : Shape.natural.fits around s.scopes.base (.number (.integer n)) =
                  decide (0 ≤ n) := Bool.true_and _
              rw [hfits]
              dsimp only
              split
              · next hn => exact decide_eq_true hn
              · next hn =>
                  rw [decide_eq_false hn]
                  exact .fail _
          | double x =>
              have hfits : Shape.natural.fits around s.scopes.base (.number (.double x)) =
                  (x.value.den = 1 && 0 ≤ x.value.num : Bool) := rfl
              rw [hfits]
              dsimp only
              split
              · next hx => exact hx
              · next hx =>
                  rw [Bool.not_eq_true] at hx
                  rw [hx]
                  exact .fail _
      | _ => exact .fail _

theorem flag_reads (hshape : Shape.of? keyword = some .flag) :
    s.Reads around keyword (s.flag keyword) := by
  unfold Reads flag
  cases hvalue : s.keyword? keyword with
  | none => exact sound_none hvalue
  | some value =>
      rw [sound_some hshape hvalue]
      cases value with
      | bool b => exact (rfl : Shape.flag.fits around s.scopes.base (.bool b) = true)
      | _ => exact .fail _

theorem regexp_tests (source : String) :
    s.Tests keyword (isPattern source) (s.regexp keyword source) := by
  unfold isPattern regexp
  cases Pattern.ofString? source with
  | none => exact .fail _
  | some pattern => exact (rfl : Option.isSome (some pattern) = true)

theorem pattern?_reads (hshape : Shape.of? keyword = some .pattern) :
    s.Reads around keyword (s.pattern? keyword) := by
  unfold Reads pattern?
  cases hvalue : s.keyword? keyword with
  | none => exact sound_none hvalue
  | some value =>
      rw [sound_some hshape hvalue]
      cases value with
      | string source =>
          dsimp only
          rw [map_eq_pure_bind]
          exact (regexp_tests source).map
      | _ => exact .fail _

theorem strings_tests (value : Json) :
    s.Tests keyword value.isStrings (s.strings keyword value) := by
  cases value with
  | array items =>
      refine Tests.mapM Json.isString (fun item => ?_) items
      cases item with
      | string text => exact (rfl : (Json.string text).isString = true)
      | _ => exact .fail _
  | _ => exact .fail _

theorem required_reads : s.Reads around "required" s.required := by
  unfold Reads required
  cases hvalue : s.keyword? "required" with
  | none => exact sound_none hvalue
  | some value =>
      rw [sound_some (rfl : Shape.of? "required" = some .strings) hvalue]
      exact strings_tests value

theorem enum?_reads : s.Reads around "enum" s.enum? := by
  unfold Reads enum?
  cases hvalue : s.keyword? "enum" with
  | none => exact sound_none hvalue
  | some value =>
      rw [sound_some (rfl : Shape.of? "enum" = some .options) hvalue]
      cases value with
      | array options =>
          cases options with
          | nil => exact .fail _
          | cons first rest =>
              exact (rfl : Shape.options.fits around s.scopes.base (.array (first :: rest)) = true)
      | _ => exact .fail _

theorem typeName_tests (value : Json) : s.Tests "type" value.isTypeName (s.typeName value) := by
  cases value with
  | string name =>
      unfold Json.isTypeName typeName
      dsimp only
      rw [← isSome_ofName?]
      cases PrimitiveType.ofName? name with
      | none => exact .fail _
      | some type => exact (rfl : Option.isSome (some type) = true)
  | _ => exact .fail _

theorem types?_reads : s.Reads around "type" s.types? := by
  unfold Reads types?
  cases hvalue : s.keyword? "type" with
  | none => exact sound_none hvalue
  | some value =>
      rw [sound_some (rfl : Shape.of? "type" = some .types) hvalue]
      have hname : s.Tests "type" value.isTypeName
          (do return some (TypeSet.empty.insert (← s.typeName value))) := (typeName_tests value).map
      cases value with
      | array names =>
          cases names with
          | nil => exact .fail _
          | cons first rest => exact (Tests.mapM Json.isTypeName typeName_tests (first :: rest)).map
      | _ => exact hname

/-- Reading a base or a reference, of which a given part is tested when it is resolved. -/
theorem resolve_tests (reference : String) (test : Url → Bool) {next : Url → Except CompileError α}
    (hnext : ∀ uri, s.Tests keyword (test uri) (next uri)) :
    s.Tests keyword (match Url.resolve s.scopes.base reference with
      | .ok uri => test uri
      | .error _ => false) (s.resolve keyword reference >>= next) := by
  unfold resolve
  cases Url.resolve s.scopes.base reference with
  | error e => exact .fail _
  | ok uri => exact hnext uri

theorem reference?_reads : s.Reads around "$ref" s.reference? := by
  unfold Reads reference?
  cases hvalue : s.keyword? "$ref" with
  | none => exact sound_none hvalue
  | some value =>
      rw [sound_some (rfl : Shape.of? "$ref" = some .reference) hvalue]
      cases value with
      | string reference =>
          refine resolve_tests reference (fun uri => uri.pointer.toOption.isSome) ?_
          intro uri
          cases uri.pointer with
          | ok pointer => exact (rfl : Option.isSome (some pointer) = true)
          | error e => exact .fail _
      | _ => exact .fail _

/-- The base that a schema declares is read in the scopes around it. -/
theorem id?_reads : s.Reads s.scopes.base "$id" s.id? := by
  unfold Reads id?
  cases hvalue : s.keyword? "$id" with
  | none => exact sound_none hvalue
  | some value =>
      rw [sound_some (rfl : Shape.of? "$id" = some .id) hvalue]
      cases value with
      | string reference =>
          refine resolve_tests reference (fun uri => !uri.fragment.any (· ≠ "")) ?_
          intro uri
          split
          · next hfragment =>
              rw [hfragment]
              exact .fail _
          · next hfragment =>
              rw [Bool.not_eq_true] at hfragment
              rw [hfragment]
              exact (rfl : (!false) = true)
      | _ => exact .fail _

theorem table_tests (keyword : String) :
    s.Tests keyword ((s.keyword? keyword).all Json.isObject) (s.table keyword) := by
  unfold table
  cases s.keyword? keyword with
  | none => exact (rfl : Option.all Json.isObject none = true)
  | some value =>
      cases value with
      | object members => exact (rfl : (Json.object members).isObject = true)
      | _ => exact .fail _

theorem list_tests (keyword : String) :
    s.Tests keyword ((s.keyword? keyword).all Json.isFilled) (s.list keyword) := by
  unfold list
  cases s.keyword? keyword with
  | none => exact (rfl : Option.all Json.isFilled none = true)
  | some value =>
      cases value with
      | array items =>
          cases items with
          | nil => exact .fail _
          | cons first rest => exact (rfl : (Json.array (first :: rest)).isFilled = true)
      | _ => exact .fail _

end Site

end SchemaRegistry

import SchemaRegistry.Proofs.Invariance.Places

/-!
What equal schemas say. The readers of keywords give the same for equal values: counts, flags,
names, types and patterns are the same, and numbers have the same value, in whichever of the two
ways a number is written. What compiled keywords hold besides schemas is what these readers give.
-/

namespace SchemaRegistry

/-- Reading one by one gives the same if each reading does. -/
theorem toOption_mapM_eq {α β γ ε : Type} {f : α → Except ε γ} {g : β → Except ε γ} {xs : List α}
    {ys : List β} (hboth : List.Forall₂ (fun x y => (f x).toOption = (g y).toOption) xs ys) :
    (xs.mapM f).toOption = (ys.mapM g).toOption := by
  induction hboth with
  | nil => rfl
  | @cons x y xs ys hfirst _ ih =>
      rw [List.mapM_cons, List.mapM_cons]
      cases hx : f x <;> cases hy : g y <;> rw [hx, hy] at hfirst
      · rfl
      · cases hfirst
      · cases hfirst
      · cases hfirst
        cases hxs : xs.mapM f <;> cases hys : ys.mapM g <;> rw [hxs, hys] at ih
        · rfl
        · cases ih
        · cases ih
        · cases ih
          rfl

theorem ok_of_toOption {α ε : Type} {first second : Except ε α} {a : α}
    (hboth : first.toOption = second.toOption) (ha : first = .ok a) : second = .ok a := by
  rw [ha] at hboth
  cases second with
  | error e => cases hboth
  | ok b => rw [Option.some.inj hboth]

theorem eq_of_toOption {α ε : Type} {first second : Except ε α} {a b : α}
    (hboth : first.toOption = second.toOption) (ha : first = .ok a) (hb : second = .ok b) :
    a = b := Except.ok.inj ((ok_of_toOption hboth ha).symm.trans hb)

theorem map_eq_of_toOption {α β ε : Type} {first second : Except ε α} {a b : α} {f : α → β}
    (hboth : first.toOption.map f = second.toOption.map f) (ha : first = .ok a)
    (hb : second = .ok b) : f a = f b := by
  rw [ha, hb] at hboth
  exact Option.some.inj hboth

theorem toOption_bind_pure {α β ε : Type} (reading : Except ε α) (f : α → β) :
    (reading >>= fun a => pure (f a)).toOption = reading.toOption.map f := by
  cases reading <;> rfl

namespace Site

/-- A count is read from an integer and from an equal double precision number alike. -/
theorem natural_integer_eq {a : Int} {y : Binary64} (hproper : (Number.integer a).proper = true)
    (hvalue : (a : Rat) = y.value) (s t : Site) (keyword : String) (kind : SchemaErrorKind) :
    (if 0 ≤ a then .ok (some a.toNat) else s.fail keyword kind).toOption =
      (if y.value.den = 1 && 0 ≤ y.value.num then
        .ok (some (min y.value.num.toNat (Nat.pow 2 64 - 1)))
      else t.fail keyword kind).toOption := by
  have hbounds : -2 ^ 63 ≤ a ∧ a < 2 ^ 64 := of_decide_eq_true hproper
  rw [← hvalue, Rat.den_intCast, Rat.num_intCast]
  by_cases hsign : 0 ≤ a
  · have hmin : min a.toNat (Nat.pow 2 64 - 1) = a.toNat := by
      apply Nat.min_eq_left
      norm_num
      omega
    simp [hsign, hmin]
  · simp [hsign, fail, Except.toOption]

/-- Equal tables have equal members. -/
theorem matched_membersOf {first second : Option Json}
    (hrel : Option.Rel Json.Agree first second) :
    Matched (fun m n => m.1 = n.1 ∧ m.2.Agree n.2) (Json.membersOf first)
      (Json.membersOf second) := by
  cases hrel with
  | none => exact .nil
  | some hvalue =>
      cases hvalue.cases with
      | object hmembers => exact hmembers.members
      | _ => exact .nil

section Readers

variable {s t : Site} (hagree : (Json.object s.members).Agree (.object t.members))

include hagree

theorem rel_keyword? (keyword : String) :
    Option.Rel Json.Agree (s.keyword? keyword) (t.keyword? keyword) := hagree.rel_member? keyword

theorem number?_value_eq (keyword : String) :
    (s.number? keyword).toOption.map (Option.map Binary64.value) =
      (t.number? keyword).toOption.map (Option.map Binary64.value) := by
  have hrel := rel_keyword? hagree keyword
  unfold number?
  generalize s.keyword? keyword = first, t.keyword? keyword = second at hrel
  cases hrel with
  | none => rfl
  | some hvalue =>
      cases hvalue.cases with
      | number hnumber => exact congrArg (some ∘ some) hnumber.number.2
      | _ => rfl

theorem divisor?_value_eq (keyword : String) :
    (s.divisor? keyword).toOption.map (Option.map Binary64.value) =
      (t.divisor? keyword).toOption.map (Option.map Binary64.value) := by
  have hnumber := number?_value_eq hagree keyword
  unfold divisor?
  cases hx : s.number? keyword <;> cases hy : t.number? keyword <;> rw [hx, hy] at hnumber
  · rfl
  · cases hnumber
  · cases hnumber
  · next x y =>
      cases x <;> cases y
      · rfl
      · cases hnumber
      · cases hnumber
      · next x y =>
          have hvalue : x.value = y.value := Option.some.inj (Option.some.inj hnumber)
          change Option.map _ (Except.toOption (if x.value ≤ 0 then _ else _)) =
            Option.map _ (Except.toOption (if y.value ≤ 0 then _ else _))
          rw [hvalue]
          split
          · rfl
          · exact congrArg (some ∘ some) hvalue

theorem natural?_eq (keyword : String) :
    (s.natural? keyword).toOption = (t.natural? keyword).toOption := by
  have hrel := rel_keyword? hagree keyword
  unfold natural?
  generalize s.keyword? keyword = first, t.keyword? keyword = second at hrel
  cases hrel with
  | none => rfl
  | some hvalue =>
      cases hvalue.cases with
      | @number m n hnumber =>
          have heq : m.value = n.value := hnumber.number.1
          cases m with
          | integer a =>
              cases n with
              | integer b =>
                  rw [Int.cast_injective heq]
                  dsimp only
                  split <;> rfl
              | double y => exact natural_integer_eq hnumber.left.number heq s t keyword _
          | double x =>
              cases n with
              | integer b =>
                  exact (natural_integer_eq hnumber.right.number heq.symm t s keyword _).symm
              | double y =>
                  have heq : x.value = y.value := heq
                  dsimp only
                  rw [heq]
                  split <;> rfl
      | _ => rfl

theorem flag_eq (keyword : String) : (s.flag keyword).toOption = (t.flag keyword).toOption := by
  have hrel := rel_keyword? hagree keyword
  unfold flag
  generalize s.keyword? keyword = first, t.keyword? keyword = second at hrel
  cases hrel with
  | none => rfl
  | some hvalue => cases hvalue.cases <;> rfl

omit hagree in
theorem regexp_eq (keyword source : String) :
    (s.regexp keyword source).toOption = (t.regexp keyword source).toOption := by
  unfold regexp
  cases Pattern.ofString? source <;> rfl

theorem pattern?_eq (keyword : String) :
    (s.pattern? keyword).toOption = (t.pattern? keyword).toOption := by
  have hrel := rel_keyword? hagree keyword
  unfold pattern?
  generalize s.keyword? keyword = first, t.keyword? keyword = second at hrel
  cases hrel with
  | none => rfl
  | some hvalue =>
      cases hvalue.cases with
      | string source =>
          dsimp only
          rw [map_eq_pure_bind, map_eq_pure_bind, toOption_bind_pure, toOption_bind_pure,
            regexp_eq keyword source]
      | _ => rfl

omit hagree in
theorem strings_eq (keyword : String) {v w : Json} (hvalue : v.Agree w) :
    (s.strings keyword v).toOption = (t.strings keyword w).toOption := by
  cases hvalue.cases with
  | array hitems =>
      refine toOption_mapM_eq (hitems.items.imp fun x y hitem => ?_)
      cases hitem.cases <;> rfl
  | _ => rfl

theorem required_eq : s.required.toOption = t.required.toOption := by
  have hrel := rel_keyword? hagree "required"
  unfold required
  generalize s.keyword? "required" = first, t.keyword? "required" = second at hrel
  cases hrel with
  | none => rfl
  | some hvalue => exact strings_eq "required" hvalue

omit hagree in
theorem typeName_eq {v w : Json} (hvalue : v.Agree w) :
    (s.typeName v).toOption = (t.typeName w).toOption := by
  cases hvalue.cases with
  | string name =>
      unfold typeName
      dsimp only
      cases PrimitiveType.ofName? name <;> rfl
  | _ => rfl

theorem types?_eq : s.types?.toOption = t.types?.toOption := by
  have hrel := rel_keyword? hagree "type"
  unfold types?
  generalize s.keyword? "type" = first, t.keyword? "type" = second at hrel
  cases hrel with
  | none => rfl
  | some hvalue =>
      cases hvalue.cases with
      | @array xs ys hitems =>
          have hnames : (xs.mapM s.typeName).toOption = (ys.mapM t.typeName).toOption :=
            toOption_mapM_eq (hitems.items.imp fun _ _ hname => typeName_eq hname)
          cases hitems.items with
          | nil => rfl
          | cons hname hrest =>
              dsimp only
              rw [toOption_bind_pure, toOption_bind_pure, hnames]
      | string name =>
          dsimp only
          rw [toOption_bind_pure, toOption_bind_pure, typeName_eq hvalue]
      | _ => rfl

/-- The options of `enum` are equal one by one. -/
theorem enum?_rel {xs ys : Option (List Json)} (hxs : s.enum? = .ok xs) (hys : t.enum? = .ok ys) :
    Option.Rel (List.Forall₂ Json.Agree) xs ys := by
  have hrel := rel_keyword? hagree "enum"
  unfold enum? at hxs hys
  generalize s.keyword? "enum" = first, t.keyword? "enum" = second at hrel hxs hys
  cases hrel with
  | none =>
      cases hxs
      cases hys
      exact .none
  | some hvalue =>
      cases hvalue.cases with
      | array hoptions =>
          cases hoptions.items with
          | nil => cases hxs
          | cons hoption hrest =>
              cases hxs
              cases hys
              exact .some hoptions.items
      | _ => cases hxs

end Readers

end Site

/-- Bounds that were read at a site. -/
structure NumberRules.ReadAt (rules : NumberRules) (s : Site) : Prop where
  minimum : s.number? "minimum" = .ok rules.minimum
  maximum : s.number? "maximum" = .ok rules.maximum
  exclusiveMinimum : s.number? "exclusiveMinimum" = .ok rules.exclusiveMinimum
  exclusiveMaximum : s.number? "exclusiveMaximum" = .ok rules.exclusiveMaximum
  multipleOf : s.divisor? "multipleOf" = .ok rules.multipleOf

structure StringRules.ReadAt (rules : StringRules) (s : Site) : Prop where
  minLength : s.natural? "minLength" = .ok rules.minLength
  maxLength : s.natural? "maxLength" = .ok rules.maxLength
  pattern : s.pattern? "pattern" = .ok rules.pattern

/-- Rules for arrays whose keywords without schemas were read at a site. -/
structure ArrayRules.ReadAt (rules : ArrayRules) (s : Site) : Prop where
  items : rules.items.isSome = (s.keyword? "items").isSome
  minItems : s.natural? "minItems" = .ok rules.minItems
  maxItems : s.natural? "maxItems" = .ok rules.maxItems
  uniqueItems : s.flag "uniqueItems" = .ok rules.uniqueItems

/-- What a member requires lists names exactly if the value at the site does, and the same ones. -/
def Dependency.ReadAt (s : Site) (member : String × Json) (entry : String × Dependency) : Prop :=
  entry.1 = member.1 ∧
    ∀ names, entry.2 = .keys names ↔ s.strings "dependencies" member.2 = .ok names

/-- Rules for objects whose keywords without schemas were read at a site. -/
structure ObjectRules.ReadAt (rules : ObjectRules) (s : Site) : Prop where
  patterns : ∀ entry ∈ rules.patternProperties,
    s.regexp "patternProperties" entry.1.source = .ok entry.1
  required : s.required = .ok rules.required
  minProperties : s.natural? "minProperties" = .ok rules.minProperties
  maxProperties : s.natural? "maxProperties" = .ok rules.maxProperties
  dependencies : List.Forall₂ (Dependency.ReadAt s)
    (Json.membersOf (s.keyword? "dependencies")) rules.dependencies

/-- Keywords that were read at a site, apart from the schemas that they hold. -/
structure Keywords.ReadAt (k : Keywords) (s : Site) : Prop where
  types : s.types? = .ok k.types
  numbers : k.numbers.ReadAt s
  strings : k.strings.ReadAt s
  arrays : k.arrays.ReadAt s
  objects : k.objects.ReadAt s
  enum : s.enum? = .ok k.enum
  const : k.const = s.keyword? "const"

section Reads

open Compile

variable {s : Site} {child : Compiler}

theorem NumberRules.readAt {rules : NumberRules} (hread : s.numberRules = .ok rules) :
    rules.ReadAt s := by
  obtain ⟨_, hminimum, hread⟩ := bind_ok hread
  obtain ⟨_, hmaximum, hread⟩ := bind_ok hread
  obtain ⟨_, hexclusiveMinimum, hread⟩ := bind_ok hread
  obtain ⟨_, hexclusiveMaximum, hread⟩ := bind_ok hread
  obtain ⟨_, hmultipleOf, hread⟩ := bind_ok hread
  cases hread
  exact ⟨hminimum, hmaximum, hexclusiveMinimum, hexclusiveMaximum, hmultipleOf⟩

theorem StringRules.readAt {rules : StringRules} (hread : s.stringRules = .ok rules) :
    rules.ReadAt s := by
  obtain ⟨_, hminLength, hread⟩ := bind_ok hread
  obtain ⟨_, hmaxLength, hread⟩ := bind_ok hread
  obtain ⟨_, hpattern, hread⟩ := bind_ok hread
  cases hread
  exact ⟨hminLength, hmaxLength, hpattern⟩

namespace Site

theorem items_yields :
    Yields (s.items child) fun items => items.isSome = (s.keyword? "items").isSome := by
  unfold items
  cases s.keyword? "items" with
  | none => exact .pure rfl
  | some value =>
      cases value with
      | array schemas => exact .bind fun _ => .pure rfl
      | _ => exact .bind fun _ => .pure rfl

theorem arrayRules_yields : Yields (s.arrayRules child) fun rules => rules.ReadAt s := by
  unfold arrayRules
  refine items_yields.andThen fun items hitems => .bind fun additional => ?_
  refine .read fun minItems hminItems => .read fun maxItems hmaxItems => ?_
  refine .read fun uniqueItems huniqueItems => .bind fun contains => ?_
  exact .pure ⟨hitems, hminItems, hmaxItems, huniqueItems⟩

theorem patternProperty_yields (member : String × Json) :
    Yields (s.patternProperty child member) fun entry =>
      s.regexp "patternProperties" entry.1.source = .ok entry.1 := by
  unfold patternProperty
  refine .read fun pattern hpattern => .bind fun index => .pure ?_
  dsimp only
  rw [regexp_source hpattern]
  exact hpattern

theorem dependency_yields (member : String × Json) :
    Yields (s.dependency child member) (Dependency.ReadAt s member) := by
  obtain ⟨key, value⟩ := member
  unfold dependency
  cases value with
  | array items =>
      refine .read fun names hnames => .pure ⟨rfl, fun others => ?_⟩
      rw [hnames, Except.ok.injEq, Dependency.keys.injEq]
  | _ =>
      refine .bind fun index => .pure ⟨rfl, fun others => ?_⟩
      exact ⟨fun h => (by cases h), fun h => (by cases h)⟩

theorem objectRules_yields : Yields (s.objectRules child) fun rules => rules.ReadAt s := by
  unfold objectRules
  refine .read fun _ _ => .bind fun properties => .read fun _ _ => ?_
  refine (Yields.mapM fun member _ => patternProperty_yields member).andThen
    fun patterns hpatterns => .bind fun additional => ?_
  refine .read fun required hrequired => .read fun minProperties hminProperties => ?_
  refine .read fun maxProperties hmaxProperties => .read fun table htable => ?_
  refine (Yields.mapM fun member _ => dependency_yields member).andThen
    fun dependencies hdependencies => .bind fun names => .pure ?_
  refine ⟨fun entry hentry => ?_, hrequired, hminProperties, hmaxProperties, ?_⟩
  · obtain ⟨_, -, hregexp⟩ := (Matched.of_forall₂ hpatterns).2 entry hentry
    exact hregexp
  · rw [← table_eq htable]
    exact hdependencies

theorem keywords_readAt : Yields (s.keywords child) fun k => k.ReadAt s := by
  unfold keywords
  refine .read fun reference _ => .read fun types htypes => .read fun numbers hnumbers => ?_
  refine .read fun strings hstrings => arrayRules_yields.andThen fun arrays harrays => ?_
  refine objectRules_yields.andThen fun objects hobjects => .read fun enum henum => ?_
  refine .bind fun combinators => .read fun _ _ => .bind fun _ => .pure ?_
  exact ⟨htypes, NumberRules.readAt hnumbers, StringRules.readAt hstrings, harrays, hobjects, henum,
    rfl⟩

end Site

end Reads

section Rules

variable {s t : Site} (hagree : (Json.object s.members).Agree (.object t.members))

include hagree

theorem NumberRules.ReadAt.alike {a b : NumberRules} (ha : a.ReadAt s) (hb : b.ReadAt t) :
    a.Alike b where
  minimum := map_eq_of_toOption (Site.number?_value_eq hagree _) ha.minimum hb.minimum
  maximum := map_eq_of_toOption (Site.number?_value_eq hagree _) ha.maximum hb.maximum
  exclusiveMinimum := map_eq_of_toOption (Site.number?_value_eq hagree _) ha.exclusiveMinimum
    hb.exclusiveMinimum
  exclusiveMaximum := map_eq_of_toOption (Site.number?_value_eq hagree _) ha.exclusiveMaximum
    hb.exclusiveMaximum
  multipleOf := map_eq_of_toOption (Site.divisor?_value_eq hagree _) ha.multipleOf hb.multipleOf

theorem StringRules.ReadAt.eq {a b : StringRules} (ha : a.ReadAt s) (hb : b.ReadAt t) : a = b := by
  obtain ⟨minLength, maxLength, pattern⟩ := a
  obtain rfl : minLength = b.minLength :=
    eq_of_toOption (Site.natural?_eq hagree _) ha.minLength hb.minLength
  obtain rfl : maxLength = b.maxLength :=
    eq_of_toOption (Site.natural?_eq hagree _) ha.maxLength hb.maxLength
  obtain rfl : pattern = b.pattern :=
    eq_of_toOption (Site.pattern?_eq hagree _) ha.pattern hb.pattern
  rfl

end Rules

/-- What compilation makes of the schema at a position: a constant, or keywords read there. -/
theorem Entry.MadeAt.body {entry : Entry} {index : Nat} {p : Position}
    (hmade : entry.MadeAt index p) :
    (∃ accepts, p.raw = .bool accepts ∧ entry.node.body = .constant accepts) ∨
      ∃ members k, p.raw = .object members ∧ entry.node.body = .keywords k ∧
        k.ReadAt ⟨p.scopes, members⟩ := by
  rcases hmade.constant_or_keywords with ⟨accepts, hraw, rfl⟩ |
    ⟨members, id, k, levels, before, middle, hraw, -, hkeywords, rfl⟩
  · exact Or.inl ⟨accepts, hraw, rfl⟩
  · exact Or.inr ⟨members, k, hraw, rfl, Site.keywords_readAt before k middle hkeywords⟩

end SchemaRegistry

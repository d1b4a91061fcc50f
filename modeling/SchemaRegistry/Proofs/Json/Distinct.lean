import SchemaRegistry.Json.Distinct
import SchemaRegistry.Proofs.Json.Proper

/-!
Lists that repeat no value. Equal values hand the same pieces to a hash function: numbers because an
integer is handed over as such however it is written, and objects because the hashes of their
members are joined by an operation that does not depend on the order. So a search among the values
with one hash misses no equal one, whatever the hash functions are, and lists of all lengths are
tested for the same thing.
-/

namespace SchemaRegistry

/-- The word of a stored number other than zero is the one that it is stored in. -/
theorem Binary64.word_eq_bits {x : Binary64} (hx : x.Canonical) (hsome : 0 < x.significand) :
    x.word = .ofNat x.bits := by
  unfold word
  rw [ofRat_value hx hsome]

namespace Number

/-- An integer of 64 bits is handed over as such by a double precision number too. -/
theorem piece_integer_eq {a : Int} {x : Binary64} (hproper : (integer a).proper = true)
    (hvalue : (a : Rat) = x.value) : (integer a).piece = (double x).piece := by
  have hbounds : -2 ^ 63 ≤ a ∧ a < 2 ^ 64 := of_decide_eq_true hproper
  change (if 0 ≤ a then Piece.unsigned (.ofNat a.toNat) else .signed (.ofInt a)) = x.piece
  unfold Binary64.piece
  rw [← hvalue, Rat.den_intCast, Rat.num_intCast]
  by_cases hsign : 0 ≤ a
  · have hless : (a : Rat) < (Nat.pow 2 64 : Nat) := by
      rw [Nat.pow_eq]
      exact_mod_cast hbounds.2
    rw [if_pos hsign, if_pos ⟨rfl, Int.cast_nonneg hsign, hless⟩]
  · have hnegative : (a : Rat) < 0 := Int.cast_lt_zero.mpr (not_le.mp hsign)
    have hleast : -((Nat.pow 2 63 : Nat) : Rat) ≤ a := by
      rw [Nat.pow_eq]
      exact_mod_cast hbounds.1
    rw [if_neg hsign, if_neg fun h => absurd h.2.1 (not_le.mpr hnegative),
      if_pos ⟨rfl, hnegative, hleast⟩]

/-- What a number hands over depends on its value only. -/
theorem piece_eq_of_value_eq {m n : Number} (hm : m.proper = true) (hn : n.proper = true)
    (hvalue : m.value = n.value) : m.piece = n.piece := by
  cases m with
  | integer a =>
      cases n with
      | integer b =>
          have hcast : (a : Rat) = b := hvalue
          rw [Int.cast_injective hcast]
      | double y => exact piece_integer_eq hm hvalue
  | double x =>
      cases n with
      | integer b => exact (piece_integer_eq hn hvalue.symm).symm
      | double y =>
          have hvalue : x.value = y.value := hvalue
          change x.piece = y.piece
          unfold Binary64.piece Binary64.word
          rw [hvalue]

end Number

namespace Json

section Pieces

variable (hashMember : List Piece → UInt64)

theorem piecesOfItems_congr {xs ys : List Json} (hlength : xs.length = ys.length)
    (hitems : ∀ (index : Nat) (x y : Json), xs[index]? = some x → ys[index]? = some y →
      x.pieces hashMember = y.pieces hashMember) :
    piecesOfItems hashMember xs = piecesOfItems hashMember ys := by
  induction xs generalizing ys with
  | nil =>
      rw [List.length_nil] at hlength
      rw [List.length_eq_zero_iff.mp hlength.symm]
  | cons x xs ih =>
      cases ys with
      | nil => cases hlength
      | cons y ys =>
          have hfirst := hitems 0 x y rfl rfl
          have hrest := ih (Nat.succ.inj hlength) fun index => hitems (index + 1)
          rw [piecesOfItems, piecesOfItems, hfirst, hrest]

/-- What a member adds to the word of an object, read off from its key. -/
def memberHash (members : List (String × Json)) (key : String) : UInt64 :=
  hashMember (.text key :: (member? key members).elim [] (pieces hashMember))

theorem joinMembers_eq {members : List (String × Json)}
    (hnodup : (members.map Prod.fst).Nodup) : joinMembers hashMember members =
      ((members.map Prod.fst).map (memberHash hashMember members)).foldr (· ^^^ ·) 0 := by
  have hfold : ∀ rest : List (String × Json), joinMembers hashMember rest =
      (rest.map fun member => hashMember (.text member.1 :: member.2.pieces hashMember)).foldr
        (· ^^^ ·) 0 := by
    intro rest
    induction rest with
    | nil => rfl
    | cons member rest ih => rw [joinMembers, ih, List.map_cons, List.foldr_cons]
  rw [hfold, List.map_map]
  congr 1
  refine List.map_congr_left fun member hmember => ?_
  change _ = memberHash hashMember members member.1
  unfold memberHash
  rw [member?_of_mem hnodup hmember]
  rfl

/-- Equal values hand over the same pieces. -/
theorem pieces_eq_of_same {a b : Json} (hsame : a.same b = true) :
    a.Proper → b.Proper → a.pieces hashMember = b.pieces hashMember := by
  match a, b with
  | null, null => exact fun _ _ => rfl
  | bool a, bool b =>
    intro ha hb
    rw [same, beq_iff_eq] at hsame
    rw [hsame]
  | number m, number n =>
    intro ha hb
    rw [same, decide_eq_true_eq] at hsame
    rw [pieces, pieces, Number.piece_eq_of_value_eq ha.number hb.number hsame]
  | string a, string b =>
    intro ha hb
    rw [same, decide_eq_true_eq] at hsame
    rw [hsame]
  | array xs, array ys =>
    intro ha hb
    rw [same, sameItems_iff] at hsame
    rw [pieces, pieces]
    refine piecesOfItems_congr hashMember hsame.1 fun index x y hx hy => ?_
    have hless : x.height < (array xs).height := height_lt_heightItems (List.mem_of_getElem? hx)
    exact pieces_eq_of_same (hsame.2 index x y hx hy) (ha.of_item (List.mem_of_getElem? hx))
      (hb.of_item (List.mem_of_getElem? hy))
  | object ms, object ns =>
    intro ha hb
    have hkeys := perm_keys_of_same ha.nodup hsame
    have hhashes : (ms.map Prod.fst).map (memberHash hashMember ms) =
        (ms.map Prod.fst).map (memberHash hashMember ns) := by
      refine List.map_congr_left fun key hkey => ?_
      obtain ⟨⟨key, value⟩, hvalue, rfl⟩ := List.mem_map.mp hkey
      obtain ⟨other, hother, heq⟩ := ((same_object_iff ms ns).mp hsame).2 key value hvalue
      have hless : value.height < (object ms).height := height_lt_heightMembers hvalue
      have hpieces := pieces_eq_of_same heq (ha.of_member hvalue)
        (hb.of_member (mem_of_member? hother))
      unfold memberHash
      rw [member?_of_mem ha.nodup hvalue, hother, Option.elim_some, Option.elim_some, hpieces]
    have hjoin : joinMembers hashMember ms = joinMembers hashMember ns := by
      have hassociative : Std.Associative fun x y : UInt64 => x ^^^ y := ⟨UInt64.xor_assoc⟩
      have hcommutative : Std.Commutative fun x y : UInt64 => x ^^^ y := ⟨UInt64.xor_comm⟩
      rw [joinMembers_eq hashMember ha.nodup, joinMembers_eq hashMember hb.nodup, hhashes]
      exact (hkeys.map (memberHash hashMember ns)).foldr_op_eq
    rw [pieces, pieces, hjoin]
termination_by a.height

end Pieces

section Distinct

theorem distinctPairwise_iff (items : List Json) :
    distinctPairwise items = true ↔ items.Pairwise fun a b => a.same b = false := by
  induction items with
  | nil => simp [distinctPairwise]
  | cons item rest ih => simp [distinctPairwise, ih, List.pairwise_cons]

variable {hashing : Hashing}

/-- The values are filed by their hashes. -/
def Filed (hashing : Hashing) (seen : Std.HashMap UInt64 (List Json)) (earlier : List Json) :
    Prop :=
  ∀ word, seen.getD word [] = earlier.filter fun item => item.hashBy hashing = word

theorem Filed.insert {seen : Std.HashMap UInt64 (List Json)} {earlier : List Json}
    (hfiled : Filed hashing seen earlier) (item : Json) :
    Filed hashing
      (seen.insert (item.hashBy hashing) (item :: seen.getD (item.hashBy hashing) []))
      (item :: earlier) := by
  intro word
  rw [Std.HashMap.getD_insert, List.filter_cons]
  by_cases hword : item.hashBy hashing = word
  · subst hword
    simp [hfiled (item.hashBy hashing)]
  · simp [hword, hfiled word]

/-- Only values with the same hash have to be looked at. -/
theorem Filed.all_iff {seen : Std.HashMap UInt64 (List Json)} {earlier : List Json}
    (hfiled : Filed hashing seen earlier) (hearlier : ∀ other ∈ earlier, other.Proper)
    {item : Json} (hitem : item.Proper) :
    (seen.getD (item.hashBy hashing) []).all (fun other => !item.same other) = true ↔
      ∀ other ∈ earlier, item.same other = false := by
  rw [hfiled, List.all_eq_true]
  constructor
  · intro hall other hother
    by_contra hsame
    rw [Bool.not_eq_false] at hsame
    have hpieces := pieces_eq_of_same hashing.member hsame hitem (hearlier other hother)
    have hword : other.hashBy hashing = item.hashBy hashing := by
      unfold hashBy
      rw [hpieces]
    have hfresh := hall other (List.mem_filter.mpr ⟨hother, decide_eq_true hword⟩)
    rw [hsame] at hfresh
    cases hfresh
  · intro hall other hother
    rw [hall other (List.mem_filter.mp hother).1]
    rfl

theorem distinctFrom_iff {seen : Std.HashMap UInt64 (List Json)} {earlier items : List Json}
    (hfiled : Filed hashing seen earlier) (hearlier : ∀ other ∈ earlier, other.Proper)
    (hitems : ∀ item ∈ items, item.Proper) :
    distinctFrom hashing seen items = true ↔
      (∀ item ∈ items, ∀ other ∈ earlier, item.same other = false) ∧
        items.Pairwise fun a b => a.same b = false := by
  induction items generalizing seen earlier with
  | nil => simp [distinctFrom]
  | cons item rest ih =>
      have hitem := hitems item List.mem_cons_self
      have hrest : ∀ other ∈ rest, other.Proper :=
        fun other hother => hitems other (List.mem_cons_of_mem _ hother)
      have hboth : ∀ other ∈ item :: earlier, other.Proper :=
        List.forall_mem_cons.mpr ⟨hitem, hearlier⟩
      have hturn : ∀ other ∈ rest, other.same item = false ↔ item.same other = false := by
        intro other hother
        rw [← Bool.not_eq_true, ← Bool.not_eq_true]
        exact not_congr ⟨same_symm (hrest other hother).keys hitem.keys,
          same_symm hitem.keys (hrest other hother).keys⟩
      unfold distinctFrom
      dsimp only
      rw [Bool.and_eq_true, hfiled.all_iff hearlier hitem, ih (hfiled.insert item) hboth hrest,
        List.pairwise_cons, List.forall_mem_cons]
      constructor
      · rintro ⟨hfresh, hlater, hpairwise⟩
        refine ⟨⟨hfresh, fun other hother => (List.forall_mem_cons.mp (hlater other hother)).2⟩,
          fun other hother => (hturn other hother).mp ?_, hpairwise⟩
        exact (List.forall_mem_cons.mp (hlater other hother)).1
      · rintro ⟨⟨hfresh, hlater⟩, hfirst, hpairwise⟩
        refine ⟨hfresh, fun other hother => ?_, hpairwise⟩
        exact List.forall_mem_cons.mpr
          ⟨(hturn other hother).mpr (hfirst other hother), hlater other hother⟩

/-- A search by hashes finds what a comparison of all pairs finds. -/
theorem distinctFrom_empty_iff {items : List Json} (hitems : ∀ item ∈ items, item.Proper) :
    distinctFrom hashing ∅ items = true ↔ items.Pairwise fun a b => a.same b = false := by
  have hempty : Filed hashing ∅ [] := fun word => Std.HashMap.getD_empty
  rw [distinctFrom_iff hempty (fun other hother => absurd hother List.not_mem_nil) hitems]
  exact ⟨fun h => h.2, fun h => ⟨fun item _ other hother => absurd hother List.not_mem_nil, h⟩⟩

/-- Lists of all lengths are tested for a pair of equal values. -/
theorem distinctBy_iff {items : List Json} (hitems : ∀ item ∈ items, item.Proper) :
    distinctBy hashing items = true ↔ items.Pairwise fun a b => a.same b = false := by
  unfold distinctBy
  split
  · simp
  · simp
  · simp
  · split
    · exact distinctPairwise_iff items
    · exact distinctFrom_empty_iff hitems

theorem distinct_iff {items : List Json} (hitems : ∀ item ∈ items, item.Proper) :
    distinct items = true ↔ items.Pairwise fun a b => a.same b = false := distinctBy_iff hitems

/-- Equal lists repeat a value or do not. -/
theorem distinct_eq_of_same {xs ys : List Json} (hxs : ∀ x ∈ xs, x.Proper)
    (hys : ∀ y ∈ ys, y.Proper) (hsame : sameItems xs ys = true) : distinct xs = distinct ys := by
  obtain ⟨hlength, hitems⟩ := (sameItems_iff xs ys).mp hsame
  have hitem : ∀ (index : Nat) (hx : index < xs.length) (hy : index < ys.length),
      xs[index].same ys[index] = true ∧ ys[index].same xs[index] = true := by
    intro index hx hy
    have hforth := hitems index _ _ (List.getElem?_eq_getElem hx) (List.getElem?_eq_getElem hy)
    exact ⟨hforth,
      same_symm (hxs _ (List.getElem_mem hx)).keys (hys _ (List.getElem_mem hy)).keys hforth⟩
  rw [Bool.eq_iff_iff, distinct_iff hxs, distinct_iff hys, List.pairwise_iff_getElem,
    List.pairwise_iff_getElem]
  constructor
  · intro hpairwise i j hi hj hless
    have hi' : i < xs.length := hlength ▸ hi
    have hj' : j < xs.length := hlength ▸ hj
    rw [← Bool.not_eq_true]
    intro hequal
    have hback := same_trans (same_trans (hitem i hi' hi).1 hequal) (hitem j hj' hj).2
    exact Bool.false_ne_true ((hpairwise i j hi' hj' hless).symm.trans hback)
  · intro hpairwise i j hi hj hless
    have hi' : i < ys.length := hlength ▸ hi
    have hj' : j < ys.length := hlength ▸ hj
    rw [← Bool.not_eq_true]
    intro hequal
    have hback := same_trans (same_trans (hitem i hi hi').2 hequal) (hitem j hj hj').1
    exact Bool.false_ne_true ((hpairwise i j hi' hj' hless).symm.trans hback)

/-- Whatever the hash functions are, a list of any length passes exactly if no item is equal to a
later one. What is found by hashes is what is found by comparing all pairs, since equal values hand
the same pieces to the hash functions, at any depth and in whatever way numbers and objects are
written. So the hash functions in use have no part in the answer. -/
theorem distinct_whatever_hashing {items : List Json} (hitems : ∀ item ∈ items, item.Proper)
    (hashing : Hashing) :
    (distinctBy hashing items = true ↔ ∀ (i j : Nat) (a b : Json), i < j →
      items[i]? = some a → items[j]? = some b → a.same b = false) ∧
    distinctFrom hashing ∅ items = distinctPairwise items ∧
    (∀ a b : Json, a.Proper → b.Proper → a.same b = true →
      a.pieces hashing.member = b.pieces hashing.member) ∧
    distinct items = distinctBy hashing items := by
  refine ⟨?_, ?_, fun a b ha hb hsame => ?_, ?_⟩
  · rw [distinctBy_iff hitems, List.pairwise_iff_getElem]
    constructor
    · intro hpairwise i j a b hless ha hb
      obtain ⟨hi, rfl⟩ := List.getElem?_eq_some_iff.mp ha
      obtain ⟨hj, rfl⟩ := List.getElem?_eq_some_iff.mp hb
      exact hpairwise i j hi hj hless
    · intro hpairs i j hi hj hless
      exact hpairs i j _ _ hless (List.getElem?_eq_getElem hi) (List.getElem?_eq_getElem hj)
  · rw [Bool.eq_iff_iff, distinctFrom_empty_iff hitems, distinctPairwise_iff]
  · exact pieces_eq_of_same hashing.member hsame ha hb
  · rw [Bool.eq_iff_iff, distinct_iff hitems, distinctBy_iff hitems]

/-- Eighteen items of which the last two are equal: their members are in another order, `2 ^ 63` and
zero are each written in two ways, and one of the zeros is negative. -/
def eighteenItems : List Json :=
  (List.range 16).map (fun n => .number (.integer n)) ++
    [.object [("a", .number (.integer 9223372036854775808)),
        ("b", .array [.null, .number (.double ⟨true, 0, -1074⟩)])],
      .object [("b", .array [.null, .number (.integer 0)]),
        ("a", .number (.double ⟨false, 4503599627370496, 11⟩))]]

/-- Also hash functions that give one word to everything find the two, and so do those in use. -/
theorem distinct_whatever_hashing_twice :
    (∀ item ∈ eighteenItems, item.Proper) ∧ pairwiseLimit < eighteenItems.length ∧
      distinctBy ⟨fun _ => 0, fun _ => 0⟩ eighteenItems = false ∧
      distinctBy .default eighteenItems = false ∧ distinct eighteenItems = false := by
  have hitems : ∀ item ∈ eighteenItems, item.Proper := by decide +kernel
  have hequal : ∃ a b : Json, eighteenItems[16]? = some a ∧ eighteenItems[17]? = some b ∧
      a.same b = true := ⟨_, _, rfl, rfl, by decide +kernel⟩
  have hrepeats : ∀ hashing : Hashing, distinctBy hashing eighteenItems = false := by
    intro hashing
    obtain ⟨a, b, ha, hb, hsame⟩ := hequal
    rw [← Bool.not_eq_true, (distinct_whatever_hashing hitems hashing).1]
    intro hpairs
    have hdifferent := hpairs 16 17 a b (by decide) ha hb
    rw [hsame] at hdifferent
    cases hdifferent
  have hdistinct := (distinct_whatever_hashing hitems .default).2.2.2
  exact ⟨hitems, by decide, hrepeats _, hrepeats _, hdistinct.trans (hrepeats _)⟩

end Distinct

end Json

end SchemaRegistry

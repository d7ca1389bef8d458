import LayerGateway.Proofs.Text.Order
import LayerGateway.Store.Disk

/-!
# Snapshot keys

Under names without a zero byte the keys of a layer are the keys with its stem, no other
layer shares any of them, and they are in order of their times as long as no time is
negative.  `prefix_of_between` is what lets a range from a stem to a key with that stem
be read: nothing of another layer lies in it.  `Apart` says of any two names, with zero bytes
or without, that their layers share no keys.
-/

namespace LayerGateway

/-- Names without a zero byte, which ends the name in a snapshot key. -/
def DatasourceId.NulFree (id : DatasourceId) : Prop :=
  0 ∉ Text.encode id.text

instance (id : DatasourceId) : Decidable id.NulFree :=
  inferInstanceAs (Decidable (0 ∉ Text.encode id.text))

theorem DatasourceId.nulFree_iff (id : DatasourceId) :
    id.NulFree ↔ '\x00' ∉ id.text.toList :=
  not_congr (Text.ascii_mem_encodeChars (n := 0) (by decide) id.text.toList)

namespace SnapshotKey

/-! ## Numbers as bytes -/

@[simp] theorem length_bigEndian (width n : Nat) : (bigEndian width n).length = width := by
  induction width with
  | zero => rfl
  | succ width ih => simp [bigEndian, ih]

theorem mod_pow_succ (width n : Nat) :
    n % Nat.pow 256 (width + 1) =
      n / Nat.pow 256 width % 256 * Nat.pow 256 width + n % Nat.pow 256 width := by
  have power : Nat.pow 256 (width + 1) = Nat.pow 256 width * 256 := rfl
  rw [power, Nat.mod_mul, Nat.add_comm, Nat.mul_comm]

theorem foldl_bigEndian (width n total : Nat) :
    (bigEndian width n).foldl (fun total byte => total * 256 + byte.toNat) total =
      total * Nat.pow 256 width + n % Nat.pow 256 width := by
  induction width generalizing total with
  | zero => simp [bigEndian, Nat.mod_one]
  | succ width ih =>
    have digit : (UInt8.ofNat (n / Nat.pow 256 width)).toNat = n / Nat.pow 256 width % 256 :=
      UInt8.toNat_ofNat'
    have power : Nat.pow 256 (width + 1) = 256 * Nat.pow 256 width := Nat.mul_comm _ _
    rw [bigEndian, List.foldl_cons, ih, digit, mod_pow_succ, power, Nat.add_mul, ← Nat.mul_assoc,
      Nat.add_assoc]

theorem ofBigEndian_bigEndian (width n : Nat) :
    ofBigEndian (bigEndian width n) = n % Nat.pow 256 width := by
  rw [ofBigEndian, foldl_bigEndian, Nat.zero_mul, Nat.zero_add]

theorem compare_digits {power first second : Nat} (firstRest secondRest : Nat)
    (firstSmall : firstRest < power) (secondSmall : secondRest < power) :
    compare (first * power + firstRest) (second * power + secondRest) =
      (compare first second).then (compare firstRest secondRest) := by
  -- A leading digit that is larger by one outweighs every rest, since a rest is below the power.
  rcases Nat.lt_trichotomy first second with below | rfl | above
  · have := Nat.mul_le_mul_right power (Nat.succ_le_of_lt below)
    rw [Nat.succ_mul] at this
    rw [Nat.compare_eq_lt.2 below, Nat.compare_eq_lt.2 (by omega)]
    rfl
  · rw [Nat.compare_eq_eq.2 (rfl : first = first), Ordering.eq_then]
    rcases Nat.lt_trichotomy firstRest secondRest with below | rfl | above
    · rw [Nat.compare_eq_lt.2 below, Nat.compare_eq_lt.2 (by omega)]
    · rw [Nat.compare_eq_eq.2 rfl, Nat.compare_eq_eq.2 rfl]
    · rw [Nat.compare_eq_gt.2 above, Nat.compare_eq_gt.2 (by omega)]
  · have := Nat.mul_le_mul_right power (Nat.succ_le_of_lt above)
    rw [Nat.succ_mul] at this
    rw [Nat.compare_eq_gt.2 above, Nat.compare_eq_gt.2 (by omega)]
    rfl

/-- With the highest byte first, bytes are in order of the numbers. -/
theorem compare_bigEndian (width first second : Nat) :
    compare (bigEndian width first) (bigEndian width second) =
      compare (first % Nat.pow 256 width) (second % Nat.pow 256 width) := by
  induction width with
  | zero => simp [bigEndian, Nat.mod_one]
  | succ width ih =>
    have positive : 0 < Nat.pow 256 width := Nat.pos_of_ne_zero (by simp)
    rw [bigEndian, bigEndian, List.compare_cons_cons, ih, Text.compare_byte, mod_pow_succ, mod_pow_succ,
      compare_digits _ _ (Nat.mod_lt _ positive) (Nat.mod_lt _ positive)]
    simp only [UInt8.toNat_ofNat']

/-! ## Times -/

/-- Times that a key can hold and that come in order. -/
def InRange (timestamp : Int) : Prop :=
  0 ≤ timestamp ∧ timestamp < Decimal.signedBound

theorem word_of_inRange {timestamp : Int} (inRange : InRange timestamp) :
    (timestamp % Decimal.wordBound).toNat % Nat.pow 256 8 = timestamp.toNat := by
  have power : Nat.pow 256 8 = 18446744073709551616 := rfl
  simp only [InRange, Decimal.signedBound, Decimal.wordBound, power] at inRange ⊢
  omega

theorem timestamp?_encode (id : DatasourceId) {timestamp : Int} (inRange : InRange timestamp) :
    timestamp? (encode id timestamp) = some timestamp := by
  have tooShort : ¬ (encode id timestamp).length < 8 := by
    simp [encode]
  have lastEight : (encode id timestamp).drop ((encode id timestamp).length - 8) =
      bigEndian 8 (timestamp % Decimal.wordBound).toNat := by
    simp [encode]
  rw [timestamp?, if_neg tooShort, lastEight, ofBigEndian_bigEndian, word_of_inRange inRange]
  obtain ⟨notNegative, small⟩ := inRange
  have same : (timestamp.toNat : Int) = timestamp := Int.toNat_of_nonneg notNegative
  simp only [same, if_pos small]

theorem compare_encode (id : DatasourceId) {first second : Int} (firstInRange : InRange first)
    (secondInRange : InRange second) :
    compare (encode id first) (encode id second) = compare first second := by
  rw [encode, encode, Text.compare_append_left, compare_bigEndian, word_of_inRange firstInRange,
    word_of_inRange secondInRange]
  have notNegative := firstInRange.1
  have := secondInRange.1
  rcases Int.lt_trichotomy first second with below | rfl | above
  · rw [Int.compare_eq_lt.2 below, Nat.compare_eq_lt.2 (by omega)]
  · rw [Int.compare_eq_eq.2 rfl, Nat.compare_eq_eq.2 rfl]
  · rw [Int.compare_eq_gt.2 above, Nat.compare_eq_gt.2 (by omega)]

/-! ## Stems -/

theorem stem_prefix_encode (id : DatasourceId) (timestamp : Int) :
    stem id <+: encode id timestamp :=
  List.prefix_append _ _

/-- Whatever lies between a stem and a key that starts with it starts with it, too. -/
theorem prefix_of_between {stem key rest : Bytes} (fromStem : compare stem key ≠ .gt)
    (toKey : compare key (stem ++ rest) ≠ .gt) : stem <+: key := by
  induction stem generalizing key with
  | nil => exact List.nil_prefix
  | cons byte stem ih =>
    cases key with
    | nil => exact absurd rfl fromStem
    | cons first key =>
      rw [List.compare_cons_cons] at fromStem
      rw [List.cons_append, List.compare_cons_cons] at toKey
      -- The first bytes cannot differ: `key` would lie beyond one of its bounds.
      cases order : compare byte first with
      | lt =>
        have above : compare first byte = .gt := Std.OrientedCmp.gt_of_lt order
        simp [above] at toKey
      | gt => simp [order] at fromStem
      | eq =>
        obtain rfl : byte = first := Std.LawfulEqCmp.eq_of_compare order
        rw [order, Ordering.eq_then] at fromStem
        rw [order, Ordering.eq_then] at toKey
        exact (List.prefix_cons_inj byte).2 (ih fromStem toKey)

theorem compare_prefix {stem key : Bytes} (starts : stem <+: key) : compare stem key ≠ .gt := by
  obtain ⟨rest, rfl⟩ := starts
  have same := Text.compare_append_left stem [] rest
  rw [List.append_nil] at same
  rw [same]
  cases rest <;> simp

/-- A name is what stands before the first zero byte. -/
theorem eq_of_zero_ended {first second rest : Bytes} (firstFree : 0 ∉ first)
    (secondFree : 0 ∉ second) (starts : first ++ [0] <+: second ++ 0 :: rest) :
    first = second := by
  induction first generalizing second with
  | nil =>
    cases second with
    | nil => rfl
    | cons byte second =>
      obtain ⟨rfl, -⟩ := List.cons_prefix_cons.1 starts
      exact absurd List.mem_cons_self secondFree
  -- The zero byte that ends the shorter name would stand inside the longer one.
  | cons byte first ih =>
    cases second with
    | nil =>
      obtain ⟨rfl, -⟩ := List.cons_prefix_cons.1 starts
      exact absurd List.mem_cons_self firstFree
    | cons other second =>
      obtain ⟨rfl, shorter⟩ := List.cons_prefix_cons.1 starts
      simp only [List.mem_cons, not_or] at firstFree secondFree
      rw [ih firstFree.2 secondFree.2 shorter]

/-- Keys with the stem of a layer are keys of no other layer. -/
theorem eq_of_stem_prefix {id other : DatasourceId} (nulFree : id.NulFree)
    (otherNulFree : other.NulFree) {rest : Bytes} (starts : stem id <+: stem other ++ rest) :
    id = other := by
  rw [stem, stem, List.append_assoc] at starts
  have same := eq_of_zero_ended nulFree otherNulFree starts
  exact congrArg DatasourceId.mk (Text.encode_injective same)

/-- Neither of two stems starts the other, so that no key starts with both. -/
def Apart (id other : DatasourceId) : Prop :=
  ¬ stem id <+: stem other ∧ ¬ stem other <+: stem id

instance (id other : DatasourceId) : Decidable (Apart id other) :=
  inferInstanceAs (Decidable (_ ∧ _))

theorem Apart.excludes {id other : DatasourceId} (apart : Apart id other) {key : Bytes}
    (ofId : stem id <+: key) : ¬ stem other <+: key := by
  intro ofOther
  rcases List.prefix_or_prefix_of_prefix ofId ofOther with starts | starts
  · exact apart.1 starts
  · exact apart.2 starts

theorem apart_of_nulFree {id other : DatasourceId} (nulFree : id.NulFree)
    (otherNulFree : other.NulFree) (differ : other ≠ id) : Apart id other := by
  constructor
  · intro starts
    rw [← List.append_nil (stem other)] at starts
    have same := eq_of_stem_prefix nulFree otherNulFree starts
    exact differ same.symm
  · intro starts
    rw [← List.append_nil (stem id)] at starts
    have same := eq_of_stem_prefix otherNulFree nulFree starts
    exact differ same

/-! ## Keys told apart -/

theorem stem_prefix_encode_iff {id other : DatasourceId} (nulFree : id.NulFree)
    (otherNulFree : other.NulFree) (timestamp : Int) :
    stem id <+: encode other timestamp ↔ id = other := by
  constructor
  · exact eq_of_stem_prefix nulFree otherNulFree
  · rintro rfl
    exact stem_prefix_encode id timestamp

theorem encode_eq_iff {id other : DatasourceId} {first second : Int} (nulFree : id.NulFree)
    (otherNulFree : other.NulFree) (firstInRange : InRange first)
    (secondInRange : InRange second) :
    encode id first = encode other second ↔ id = other ∧ first = second := by
  constructor
  · intro same
    have starts : stem id <+: encode other second := same ▸ stem_prefix_encode id first
    obtain rfl := (stem_prefix_encode_iff nulFree otherNulFree second).1 starts
    have times : some first = some second := by
      rw [← timestamp?_encode id firstInRange, same, timestamp?_encode id secondInRange]
    exact ⟨rfl, Option.some.inj times⟩
  · rintro ⟨rfl, rfl⟩
    rfl

/-- What `OrderedMap.between` finds from the stem of a layer to one of its keys. -/
theorem encode_between_iff {id other : DatasourceId} {first second : Int} (nulFree : id.NulFree)
    (otherNulFree : other.NulFree) (firstInRange : InRange first)
    (secondInRange : InRange second) :
    (compare (stem id) (encode other first) ≠ .gt ∧
      compare (encode other first) (encode id second) ≠ .gt) ↔ other = id ∧ first ≤ second := by
  constructor
  · rintro ⟨fromStem, toKey⟩
    have starts : stem id <+: encode other first := prefix_of_between fromStem toKey
    obtain rfl := (stem_prefix_encode_iff nulFree otherNulFree first).1 starts
    rw [compare_encode id firstInRange secondInRange, Ne, Int.compare_eq_gt] at toKey
    exact ⟨rfl, Int.not_lt.1 toKey⟩
  · rintro ⟨rfl, notLater⟩
    have behind := compare_prefix (stem_prefix_encode other first)
    refine ⟨behind, ?_⟩
    rw [compare_encode other firstInRange secondInRange, Ne, Int.compare_eq_gt]
    exact Int.not_lt.2 notLater

/-- What the snapshots of a table rest on, for the keys of two names and two times. -/
structure Faithful (id other : DatasourceId) (first second : Int) : Prop where
  decoded : timestamp? (encode id second) = some second
  ordered : compare (encode id first) (encode id second) = .lt ↔ first < second
  apart : stem id <+: encode other second ↔ id = other
  injective : encode id first = encode other second ↔ id = other ∧ first = second
  -- The keys of a name that starts with `id` come behind all keys of `id`, not among them.
  between : (compare (stem id) (encode other first) ≠ .gt ∧
    compare (encode other first) (encode id second) ≠ .gt) ↔ other = id ∧ first ≤ second

/-- Snapshots can be found by their keys, as long as no name has a zero byte and no time is
negative or beyond a signed word.  A key gives its time back, and is at home with the one name
whose stem it starts with; keys of one name come in the order of their times; no two snapshots
have one key; and what lies from the stem of a name up to its key of a time are its own snapshots
up to then, also if another name starts with this one. -/
theorem faithful_of_nulFree {id other : DatasourceId} {first second : Int}
    (nulFree : id.NulFree) (otherNulFree : other.NulFree) (firstInRange : InRange first)
    (secondInRange : InRange second) : Faithful id other first second where
  decoded := timestamp?_encode id secondInRange
  ordered := by rw [compare_encode id firstInRange secondInRange, Int.compare_eq_lt]
  apart := stem_prefix_encode_iff nulFree otherNulFree second
  injective := encode_eq_iff nulFree otherNulFree firstInRange secondInRange
  between := encode_between_iff nulFree otherNulFree firstInRange secondInRange

/-- One name starts the other, and the times have zero bytes before and behind others. -/
theorem faithful_roads :
    (⟨"roads"⟩ : DatasourceId).NulFree ∧ (⟨"roads-north"⟩ : DatasourceId).NulFree ∧
      InRange 65536 ∧ InRange 16777471 ∧
      Faithful ⟨"roads"⟩ ⟨"roads-north"⟩ 65536 16777471 := by
  have roads : (⟨"roads"⟩ : DatasourceId).NulFree := by decide
  have north : (⟨"roads-north"⟩ : DatasourceId).NulFree := by decide
  have earlier : InRange 65536 := ⟨by decide, by decide⟩
  have later : InRange 16777471 := ⟨by decide, by decide⟩
  exact ⟨roads, north, earlier, later, faithful_of_nulFree roads north earlier later⟩

end SnapshotKey

end LayerGateway

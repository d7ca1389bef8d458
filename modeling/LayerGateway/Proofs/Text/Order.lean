import LayerGateway.OrderedMap
import LayerGateway.Proofs.Text.Utf8

/-!
# The order of texts and the order of their bytes

Texts are in order of their characters, and bytes in order of their numbers.  UTF-8 is made so
that this comes to the same: a longer character starts with a larger byte, and in characters of
one length the payloads come highest first.  A table whose keys are texts therefore lists the same
names in the same order as one whose keys are their bytes.
-/

namespace LayerGateway.Text

/-! ## Bytes -/

theorem compare_byte (first second : UInt8) :
    compare first second = compare first.toNat second.toNat := by
  rcases Nat.lt_trichotomy first.toNat second.toNat with below | same | above
  · rw [Nat.compare_eq_lt.2 below]
    exact (compareOfLessAndEq_eq_lt).2 (UInt8.lt_iff_toNat_lt.2 below)
  · rw [Nat.compare_eq_eq.2 same, UInt8.toNat_inj.1 same]
    exact Std.ReflCmp.compare_self
  · rw [Nat.compare_eq_gt.2 above]
    exact Std.OrientedCmp.gt_of_lt
      ((compareOfLessAndEq_eq_lt).2 (UInt8.lt_iff_toNat_lt.2 above))

theorem compare_cons_eq_lt {first second : UInt8} {rest others : Bytes} :
    compare (first :: rest) (second :: others) = .lt ↔
      first.toNat < second.toNat ∨ first.toNat = second.toNat ∧ compare rest others = .lt := by
  rw [List.compare_cons_cons, Ordering.then_eq_lt, compare_byte, Nat.compare_eq_lt,
    Nat.compare_eq_eq]

theorem compare_append_left (stem first second : Bytes) :
    compare (stem ++ first) (stem ++ second) = compare first second := by
  induction stem with
  | nil => rfl
  | cons byte stem ih => simp [ih]

theorem toNat_byte {n : Nat} (isByte : n < 256) : (UInt8.ofNat n).toNat = n :=
  UInt8.toNat_ofNat_of_lt' isByte

/-! ## Characters -/

/-- Of two characters the bytes are in order, whatever comes behind them. -/
theorem compare_utf8EncodeChar {c d : Char} (below : c < d) (rest others : Bytes) :
    compare (String.utf8EncodeChar c ++ rest) (String.utf8EncodeChar d ++ others) = .lt := by
  have below : c.val.toNat < d.val.toNat := below
  have valid : d.val.toNat < 0xD800 ∨ 0xDFFF < d.val.toNat ∧ d.val.toNat < 0x110000 := d.valid
  unfold String.utf8EncodeChar
  generalize c.val.toNat = v at below
  generalize d.val.toNat = w at below valid
  dsimp only
  -- Every payload is six bits of what the payloads behind it leave.
  have third (n : Nat) : n / 4096 = n / 64 / 64 := by omega
  have fourth (n : Nat) : n / 262144 = n / 64 / 64 / 64 := by omega
  -- One case for any two lengths.
  repeat' split
  all_goals
    simp (disch := omega) only [List.cons_append, List.nil_append, compare_cons_eq_lt,
      toNat_byte, third, fourth]
    omega

theorem compare_encodeChars {first second : List Char} (below : first < second) :
    compare (encodeChars first) (encodeChars second) = .lt := by
  induction first generalizing second with
  | nil =>
    cases second with
    | nil => cases below
    | cons d second =>
      have some_byte : encodeChars (d :: second) ≠ [] := by
        intro none
        have read := symbols_encodeChars (d :: second)
        rw [none] at read
        cases read
      obtain ⟨byte, rest, split⟩ := List.exists_cons_of_ne_nil some_byte
      rw [split]
      rfl
  | cons c first ih =>
    cases second with
    | nil => cases below
    | cons d second =>
      have firstSplit : encodeChars (c :: first) = String.utf8EncodeChar c ++ encodeChars first :=
        List.flatMap_cons
      have secondSplit :
          encodeChars (d :: second) = String.utf8EncodeChar d ++ encodeChars second :=
        List.flatMap_cons
      rw [firstSplit, secondSplit]
      rcases List.cons_lt_cons_iff.1 below with smaller | ⟨rfl, further⟩
      · exact compare_utf8EncodeChar smaller _ _
      · rw [compare_append_left]
        exact ih further

/-! ## Texts -/

theorem compare_encode (first second : String) :
    compare (encode first) (encode second) = compare first second := by
  have ordered {first second : String} (below : compare first second = .lt) :
      compare (encode first) (encode second) = .lt :=
    compare_encodeChars (String.lt_iff.1 (compareOfLessAndEq_eq_lt.1 below))
  cases order : compare first second with
  | lt => exact ordered order
  | eq =>
    rw [Std.LawfulEqCmp.eq_of_compare order]
    exact Std.ReflCmp.compare_self
  | gt => exact Std.OrientedCmp.gt_of_lt (ordered (Std.OrientedCmp.lt_of_gt order))

end LayerGateway.Text

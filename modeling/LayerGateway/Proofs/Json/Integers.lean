import LayerGateway.Proofs.Json.Printing

/-!
# Integers are read in their own text

Of the numbers in a value only those with a point or an exponent may be read as others.  An
integer of 64 bits is scanned digit by digit, and every digit still fits.
-/

namespace LayerGateway

namespace Json.NumberScan

variable {scan middle : NumberScan}

theorem feed_append {first : List Char} (fed : scan.feed first = some middle)
    (second : List Char) : scan.feed (first ++ second) = middle.feed second := by
  induction first generalizing scan with
  | nil =>
    cases fed
    rfl
  | cons c first ih =>
    rw [feed] at fed
    rw [List.cons_append, feed]
    cases stepped : scan.step c with
    | more next =>
      rw [stepped] at fed
      exact ih fed
    | _ =>
      rw [stepped] at fed
      cases fed

theorem accumulate_concat {significand total d : Nat} {digits : List Nat}
    (kept : accumulate significand digits = (total, [])) (fits : total * 10 + d ≤ maxWord) :
    accumulate significand (digits ++ [d]) = (total * 10 + d, []) := by
  induction digits generalizing significand with
  | nil =>
    cases kept
    simp [accumulate, fits]
  | cons digit digits ih =>
    rw [accumulate] at kept
    rw [List.cons_append, accumulate]
    split at kept
    · next still =>
      rw [if_pos still]
      exact ih kept
    · cases kept

theorem digit?_digitChar : ∀ d < 10, digit? d.digitChar = some d := by
  decide

/-- The scan of an integer without a sign, before its first digit. -/
def unsigned (negative : Bool) : NumberScan :=
  { blank with negative }

/-- The digits of a number are scanned as whole digits that make up the number. -/
theorem feed_digitsOf (negative : Bool) {n : Nat} (positive : 0 < n) (fits : n ≤ maxWord) :
    ∃ whole, (unsigned negative).feed (Decimal.digitsOf n) =
        some ⟨.whole, negative, whole, [], false, 0⟩ ∧
      accumulate 0 whole.reverse = (n, []) := by
  induction n using Nat.strongRecOn with
  | ind n ih =>
    rw [Decimal.digitsOf, Nat.toDigits_eq_if (by decide)]
    split
    · next small =>
      obtain ⟨m, rfl⟩ := Nat.exists_eq_succ_of_ne_zero (Nat.ne_of_gt positive)
      refine ⟨[m + 1], ?_, ?_⟩
      · simp [feed, step, unsigned, blank, digit?_digitChar _ small]
      · simp [accumulate, fits]
    · next large =>
      obtain ⟨whole, fed, value⟩ := ih (n / 10) (by omega) (by omega) (by omega)
      have last := digit?_digitChar (n % 10) (Nat.mod_lt _ (by decide))
      have split : n / 10 * 10 + n % 10 = n := by omega
      refine ⟨n % 10 :: whole, ?_, ?_⟩
      · change (unsigned negative).feed (Decimal.digitsOf (n / 10) ++ _) = _
        rw [feed_append fed]
        simp [feed, step, last]
      · rw [List.reverse_cons, accumulate_concat value (by omega), split]

theorem start?_of_step {c : Char} {next : NumberScan} (stepped : blank.step c = .more next) :
    start? c = some next := by
  have notMinus : c ≠ '-' := by
    rintro rfl
    cases stepped
  rw [start?, if_neg notMinus]
  simp only [step, blank] at stepped
  cases digit : digit? c with
  | none =>
    rw [digit] at stepped
    cases stepped
  | some d =>
    rw [digit] at stepped
    cases d <;> cases stepped <;> rfl

theorem ofChars?_of_feed {chars : List Char} {last : NumberScan}
    (fed : blank.feed chars = some last) (some : chars ≠ []) : ofChars? chars = .some last := by
  cases chars with
  | nil => exact absurd rfl some
  | cons c rest =>
    rw [feed] at fed
    cases stepped : blank.step c with
    | more next =>
      rw [stepped] at fed
      rw [ofChars?, start?_of_step stepped]
      exact fed
    | _ =>
      rw [stepped] at fed
      cases fed

theorem value?_of_accumulate {negative : Bool} {whole : List Nat} {n : Nat} {value : Int}
    (kept : accumulate 0 whole.reverse = (n, [])) (fits : integer? negative n = some value) :
    value? ⟨.whole, negative, whole, [], false, 0⟩ = some (.integer value) := by
  simp only [value?, kept, isWhole, List.isEmpty_nil, Bool.and_true, if_true, fits]

end Json.NumberScan

open Json.NumberScan

/-- The integers that are written as integers are those of 64 bits, signed or not. -/
theorem Number.survives_integer {value : Int} (low : -Decimal.signedBound ≤ value)
    (high : value < Decimal.wordBound) : Number.Survives (.integer value) := by
  have bounds : Decimal.signedBound ≤ maxWord ∧ maxWord + 1 = Decimal.wordBound := by decide
  rw [Number.Survives, Number.reread?, Number.text, Decimal.signed]
  rcases Int.lt_trichotomy value 0 with below | rfl | above
  · obtain ⟨whole, fed, kept⟩ := feed_digitsOf true (n := value.natAbs) (by omega) (by omega)
    have fits : integer? true value.natAbs = some value := by
      rw [integer?, if_pos rfl, if_pos (by omega)]
      exact congrArg some (by omega)
    have scanned : ofChars? ('-' :: Decimal.digitsOf value.natAbs) = some _ := fed
    rw [if_pos below, scanned]
    exact value?_of_accumulate kept fits
  · decide
  · obtain ⟨whole, fed, kept⟩ := feed_digitsOf false (n := value.natAbs) (by omega) (by omega)
    have fits : integer? false value.natAbs = some value := by
      rw [integer?, if_neg nofun]
      exact congrArg some (by omega)
    have scanned := ofChars?_of_feed fed Nat.toDigits_ne_nil
    rw [if_neg (by omega), scanned]
    exact value?_of_accumulate kept fits

end LayerGateway

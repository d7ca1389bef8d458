/-!
# Supplies of names

New names come from a supply: a numbered row of candidates that never runs dry.
`Supply.firstFree` walks along the row to the first candidate that is not taken, and
ends because there is one.  `Supply.ofInjective` makes a supply of any numbering without
repetitions, such as the `numbered` texts.
-/

namespace LayerGateway

/-- The first number from `start` on that passes a test which some number passes. -/
def firstFrom (test : Nat → Bool) (start : Nat) (found : ∃ n, start ≤ n ∧ test n = true) : Nat :=
  walk start (Classical.choose_spec found).1
where
  /-- Walks on from `n`, which is not behind the number that is known to pass. -/
  walk (n : Nat) (below : n ≤ Classical.choose found) : Nat :=
    if passes : test n = true then n
    else
      walk (n + 1) (Nat.lt_of_le_of_ne below fun same =>
        passes (same ▸ (Classical.choose_spec found).2))
  termination_by Classical.choose found - n
  decreasing_by
    have : n ≠ Classical.choose found := fun same =>
      passes (same ▸ (Classical.choose_spec found).2)
    omega

/-- A row of candidate names.  Whatever names are taken, another one still comes. -/
structure Supply (α : Type) where
  candidate : Nat → α
  endless : ∀ (taken : List α) (start : Nat), ∃ n, start ≤ n ∧ candidate n ∉ taken

namespace Supply

variable {α : Type}

/-- The number of the first candidate from `start` on that is not taken. -/
def firstFree [DecidableEq α] (supply : Supply α) (taken : List α) (start : Nat) : Nat :=
  firstFrom (fun n => !taken.contains (supply.candidate n)) start (by
    simpa using supply.endless taken start)

/-- A numbering without repetitions leaves any list of names for good. -/
theorem exists_not_mem_of_injective {name : Nat → α}
    (injective : ∀ m n, name m = name n → m = n) (taken : List α) (start : Nat) :
    ∃ bound, start ≤ bound ∧ ∀ n, bound ≤ n → name n ∉ taken := by
  induction taken with
  | nil => exact ⟨start, Nat.le_refl _, fun _ _ => List.not_mem_nil⟩
  | cons head rest ih =>
      obtain ⟨bound, above, free⟩ := ih
      by_cases hit : ∃ n, name n = head
      · obtain ⟨n, rfl⟩ := hit
        refine ⟨max bound (n + 1), by omega, fun m le member => ?_⟩
        rcases List.mem_cons.1 member with same | member
        · have := injective m n same
          omega
        · exact free m (by omega) member
      · refine ⟨bound, above, fun m le member => ?_⟩
        rcases List.mem_cons.1 member with same | member
        · exact hit ⟨m, same⟩
        · exact free m le member

def ofInjective (name : Nat → α) (injective : ∀ m n, name m = name n → m = n) : Supply α where
  candidate := name
  endless taken start := by
    obtain ⟨bound, above, free⟩ := exists_not_mem_of_injective injective taken start
    exact ⟨bound, above, free bound (Nat.le_refl _)⟩

end Supply

/-! ## Numbered texts -/

/-- A number with at least `width` digits behind a stem. -/
def numbered (stem : List Char) (width n : Nat) : String :=
  let digits := Nat.toDigits 10 n
  String.ofList (stem ++ List.replicate (width - digits.length) '0' ++ digits)

/-- No text has two numbers. -/
theorem numbered_injective (stem : List Char) (width : Nat) {m n : Nat}
    (same : numbered stem width m = numbered stem width n) : m = n := by
  have same := String.ofList_injective same
  simp only [List.append_assoc, List.append_cancel_left_eq] at same
  have values := congrArg (Nat.ofDigitChars 10 · 0) same
  simpa [Nat.ofDigitChars_append, Nat.ofDigitChars_replicate_zero,
    Nat.ofDigitChars_ten_toDigits] using values

end LayerGateway

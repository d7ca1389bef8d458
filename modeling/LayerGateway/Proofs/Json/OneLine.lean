import LayerGateway.Proofs.Json.Printing

/-!
# Printed values are of one line

There is no control character in a printed value, whatever texts and numbers it holds: in a text
they are escaped, and a number is digits, points and signs.  Nothing that ends a line is among
them, then.

`Json.Printable` says of a text that it has no control character, and `Json.Unbroken` that it has
no line end.
-/

namespace LayerGateway

/-! ## Texts without control characters -/

namespace Json

/-- A text of one line. -/
abbrev Unbroken (text : List Char) : Prop :=
  '\n' ∉ text

/-- A text without control characters. -/
def Printable (text : List Char) : Prop :=
  ∀ c ∈ text, 0x20 ≤ c.toNat

-- The list is gone through, and not all characters there are.
instance (text : List Char) : Decidable (Printable text) :=
  List.decidableBAll _ text

section Printable

variable {first second : List Char}

theorem Printable.not_mem (printable : Printable first) {c : Char} (control : c.toNat < 0x20) :
    c ∉ first := fun member =>
  absurd (printable c member) (Nat.not_le_of_lt control)

theorem Printable.append (one : Printable first) (other : Printable second) :
    Printable (first ++ second) := fun c member =>
  (List.mem_append.1 member).elim (one c) (other c)

theorem Printable.cons {c : Char} (visible : 0x20 ≤ c.toNat) (rest : Printable first) :
    Printable (c :: first) :=
  List.forall_mem_cons.2 ⟨visible, rest⟩

theorem Printable.subset (printable : Printable first) (fewer : second ⊆ first) :
    Printable second := fun c member =>
  printable c (fewer member)

theorem printable_escapeChar (c : Char) : Printable (escapeChar c) := by
  by_cases control : c.toNat < 0x20
  · have each : ∀ n < 0x20, Printable (escapeChar (Char.ofNat n)) := by decide
    have printable := each c.toNat control
    rwa [c.ofNat_toNat] at printable
  · have visible : Printable [c] := Printable.cons (Nat.le_of_not_lt control) nofun
    unfold escapeChar
    rw [if_neg control]
    iterate 7
      split
      · decide
    exact visible

theorem printable_stringText (text : String) : Printable (stringText text) := by
  have escaped : Printable (text.toList.flatMap escapeChar) := by
    intro escape member
    obtain ⟨c, -, among⟩ := List.mem_flatMap.1 member
    exact printable_escapeChar c escape among
  exact (escaped.append (by decide)).cons (by decide)

theorem printable_commaSeparated {texts : List (List Char)}
    (each : ∀ text ∈ texts, Printable text) : Printable (commaSeparated texts) := by
  induction texts with
  | nil => exact nofun
  | cons text texts ih =>
    obtain ⟨first, rest⟩ := List.forall_mem_cons.1 each
    cases texts with
    | nil => exact first
    | cons next others => exact first.append ((ih rest).cons (by decide))

theorem printable_arrayText {items : List (List Char)} (each : ∀ item ∈ items, Printable item) :
    Printable (arrayText items) :=
  ((printable_commaSeparated each).append (by decide)).cons (by decide)

theorem printable_objectText {members : List (String × List Char)}
    (each : ∀ member ∈ members, Printable member.2) : Printable (objectText members) := by
  refine Printable.cons (by decide) (Printable.append (printable_commaSeparated ?_) (by decide))
  rw [List.forall_mem_map]
  intro member among
  exact (printable_stringText member.1).append ((each member among).cons (by decide))

end Printable

end Json

/-! ## Numbers -/

namespace Decimal

open Json (Printable)

variable {digits : List Char}

theorem printable_digitsOf (n : Nat) : Printable (digitsOf n) := by
  intro c member
  have digit : c.isDigit := Nat.isDigit_of_mem_toDigits (by decide) (by decide) member
  rw [Char.isDigit, Bool.and_eq_true, decide_eq_true_eq] at digit
  exact Nat.le_trans (by decide) (UInt32.le_iff_toNat_le.1 digit.1)

theorem printable_zeros (count : Nat) : Printable (zeros count) := by
  intro c member
  rw [List.eq_of_mem_replicate member]
  decide

theorem printable_signed (n : Int) : Printable (signed n) := by
  unfold signed
  split
  · exact (printable_digitsOf _).cons (by decide)
  · exact printable_digitsOf _

theorem printable_plain (printable : Printable digits) (point : Int) :
    Printable (plain digits point) := by
  unfold plain
  split
  · apply Printable.append
    · exact Printable.append (by decide) (printable_zeros _)
    · exact printable
  split
  · apply Printable.append
    · exact printable.append (printable_zeros _)
    · decide
  · apply Printable.append
    · exact (printable.subset (List.take_subset _ _)).append (by decide)
    · exact printable.subset (List.drop_subset _ _)

theorem printable_scientific (printable : Printable digits) (point : Int) :
    Printable (scientific digits point) := by
  unfold scientific
  apply Printable.append
  · apply Printable.append
    · split
      · next first second rest =>
        obtain ⟨visible, others⟩ := List.forall_mem_cons.1 printable
        exact (Printable.cons (by decide) others).cons visible
      · exact printable
    · split <;> decide
  · exact printable_digitsOf _

theorem Layout.printable_render (layout : Layout) (x : Binary64) : Printable (layout.render x) := by
  have body : Printable (if x.mantissa = 0 then ['0', '.', '0']
      else layout.renderDigits (x.shortest.trimZeros 17)) := by
    split
    · decide
    · unfold renderDigits
      dsimp only
      split
      · exact printable_plain (printable_digitsOf _) _
      · exact printable_scientific (printable_digitsOf _) _
  unfold render
  dsimp only
  split
  · exact body.cons (by decide)
  · exact body

end Decimal

theorem Number.printable_text (number : Number) : Json.Printable number.text := by
  cases number with
  | integer value => exact Decimal.printable_signed value
  | real value => exact Decimal.Layout.printable_render _ value

/-! ## Values -/

namespace Json

mutual

theorem printable_print : (json : Json) → Printable json.print
  | .null => by
    rw [print]
    decide
  | .bool true => by
    rw [print]
    decide
  | .bool false => by
    rw [print]
    decide
  | .number value => by
    rw [print]
    exact value.printable_text
  | .string text => by
    rw [print]
    exact printable_stringText text
  | .array items => by
    rw [print]
    exact printable_arrayText (printable_printItems items)
  | .object members => by
    rw [print]
    exact printable_objectText (printable_printMembers members)

theorem printable_printItems : (items : List Json) → ∀ text ∈ printItems items, Printable text
  | [] => by
    rw [printItems]
    exact nofun
  | item :: rest => by
    rw [printItems, List.forall_mem_cons]
    exact ⟨printable_print item, printable_printItems rest⟩

theorem printable_printMembers :
    (members : List (String × Json)) → ∀ member ∈ printMembers members, Printable member.2
  | [] => by
    rw [printMembers]
    exact nofun
  | (key, value) :: rest => by
    rw [printMembers, List.forall_mem_cons]
    exact ⟨printable_print value, printable_printMembers rest⟩

end

theorem unbroken_print (json : Json) : Unbroken json.print :=
  (printable_print json).not_mem (by decide)

end Json

end LayerGateway

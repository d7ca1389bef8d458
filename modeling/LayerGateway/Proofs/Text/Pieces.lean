import LayerGateway.Text.Pieces

/-!
# Cutting at a separator

What is cut at a separator is put together again with the separator between any two pieces.  When
a list is put behind another one, the last piece of the one and the first of the other become one
piece; a text that ends inside a line has that line continued.
-/

namespace LayerGateway.Text

variable {α : Type} [DecidableEq α] {separator : α} {piece : List α}

theorem pieces_ne_nil (list : List α) : pieces separator list ≠ [] := by
  cases list with
  | nil => exact nofun
  | cons c rest =>
    intro none
    unfold pieces at none
    split at none
    · cases none
    · split at none <;> cases none

theorem pieces_line (whole : separator ∉ piece) (rest : List α) :
    pieces separator (piece ++ separator :: rest) = piece :: pieces separator rest := by
  induction piece with
  | nil => simp [pieces]
  | cons c piece ih =>
    have different := List.ne_of_not_mem_cons whole
    have cut := ih (List.not_mem_of_not_mem_cons whole)
    simp [pieces, different.symm, cut]

theorem pieces_whole (whole : separator ∉ piece) : pieces separator piece = [piece] := by
  induction piece with
  | nil => rfl
  | cons c piece ih =>
    have different := List.ne_of_not_mem_cons whole
    have cut := ih (List.not_mem_of_not_mem_cons whole)
    simp [pieces, different.symm, cut]

theorem not_mem_of_mem_pieces {list : List α} (member : piece ∈ pieces separator list) :
    separator ∉ piece := by
  induction list generalizing piece with
  | nil =>
    obtain rfl := List.mem_singleton.1 member
    exact nofun
  | cons c rest ih =>
    rw [pieces] at member
    split at member
    · rcases List.mem_cons.1 member with rfl | further
      · exact nofun
      · exact ih further
    · next different =>
      split at member
      · next none => exact absurd none (pieces_ne_nil rest)
      · next first others cut =>
        rw [cut] at ih
        rcases List.mem_cons.1 member with rfl | further
        · intro among
          rcases List.mem_cons.1 among with same | among
          · exact different same.symm
          · exact ih List.mem_cons_self among
        · exact ih (List.mem_cons_of_mem _ further)

/-- Pieces that are put together are cut apart again. -/
theorem pieces_intercalate {list : List (List α)} (some : list ≠ [])
    (whole : ∀ piece ∈ list, separator ∉ piece) :
    pieces separator ([separator].intercalate list) = list := by
  induction list with
  | nil => exact absurd rfl some
  | cons piece list ih =>
    obtain ⟨first, rest⟩ := List.forall_mem_cons.1 whole
    cases list with
    | nil => rw [List.intercalate_singleton, pieces_whole first]
    | cons next others =>
      rw [List.intercalate_cons_cons, List.append_assoc, List.singleton_append, pieces_line first,
        ih nofun rest]

/-- What was cut is put together again. -/
theorem intercalate_pieces (separator : α) (list : List α) :
    [separator].intercalate (pieces separator list) = list := by
  induction list with
  | nil => rfl
  | cons c rest ih =>
    rw [pieces]
    cases cut : pieces separator rest with
    | nil => exact absurd cut (pieces_ne_nil rest)
    | cons first others =>
      rw [cut] at ih
      split
      · next same =>
        rw [List.intercalate_cons_cons, ih, same]
        rfl
      · cases others with
        | nil => rw [← ih, List.intercalate_singleton, List.intercalate_singleton]
        | cons next others =>
          rw [← ih, List.intercalate_cons_cons, List.intercalate_cons_cons]
          rfl

/-- Fewer pieces make less. -/
theorem intercalate_sublist {β : Type} (between : List β) {fewer list : List (List β)}
    (sublist : fewer.Sublist list) :
    (between.intercalate fewer).Sublist (between.intercalate list) := by
  induction sublist with
  | slnil => exact .refl _
  | @cons fewer list piece sublist ih =>
    cases list with
    | nil =>
      rw [List.sublist_nil.1 sublist]
      exact List.nil_sublist _
    | cons next others =>
      rw [List.intercalate_cons_cons]
      exact ih.trans (List.sublist_append_right _ _)
  | @cons_cons fewer list piece sublist ih =>
    cases fewer with
    | nil =>
      cases list with
      | nil => exact .refl _
      | cons next others =>
        rw [List.intercalate_singleton, List.intercalate_cons_cons, List.append_assoc]
        exact List.sublist_append_left _ _
    | cons one fewer =>
      obtain ⟨next, others, rfl⟩ := List.exists_cons_of_ne_nil fun none : list = [] => by
        rw [none] at sublist
        cases sublist
      rw [List.intercalate_cons_cons, List.intercalate_cons_cons]
      exact (List.Sublist.refl _).append ih

/-- The last piece of one list and the first of the next are one piece of both together. -/
theorem pieces_append {list further first : List α} {before others : List (List α)}
    (cut : pieces separator list = before ++ [piece])
    (cutFurther : pieces separator further = first :: others) :
    pieces separator (list ++ further) = before ++ (piece ++ first) :: others := by
  -- The induction is on the first list; only where it ends do pieces of both meet.
  induction list generalizing before piece with
  | nil =>
    obtain ⟨rfl, rfl⟩ : before = [] ∧ piece = [] := by
      cases before with
      | nil => simpa [pieces, eq_comm] using cut
      | cons one before => simp [pieces] at cut
    exact cutFurther
  | cons c list ih =>
    rw [pieces] at cut
    rw [List.cons_append, pieces]
    split at cut
    · next same =>
      rw [if_pos same]
      cases before with
      | nil => exact absurd (List.cons.inj cut).2 (pieces_ne_nil list)
      | cons one before =>
        obtain ⟨rfl, cutList⟩ := List.cons.inj cut
        rw [ih cutList, List.cons_append]
    · next different =>
      rw [if_neg different]
      cases cutList : pieces separator list with
      | nil => exact absurd cutList (pieces_ne_nil list)
      | cons front after =>
        rw [cutList] at cut ih
        cases before with
        | nil =>
          obtain ⟨rfl, rfl⟩ := List.cons.inj cut
          rw [ih (List.nil_append _).symm]
          rfl
        | cons one before =>
          obtain ⟨rfl, rfl⟩ := List.cons.inj cut
          rw [ih (List.cons_append ..).symm]
          rfl

theorem pieces_concat (front : List α) (whole : separator ∉ piece) :
    pieces separator (front ++ separator :: piece) = pieces separator front ++ [piece] := by
  have cut : pieces separator front = (pieces separator front).dropLast ++
      [(pieces separator front).getLast (pieces_ne_nil front)] :=
    (List.dropLast_concat_getLast (pieces_ne_nil front)).symm
  have cutFurther : pieces separator (separator :: piece) = [] :: [piece] := by
    rw [pieces, if_pos rfl, pieces_whole whole]
  rw [pieces_append cut cutFurther, List.append_nil, ← List.singleton_append, ← List.append_assoc,
    ← cut]

theorem pieces_injective (separator : α) : Function.Injective (pieces separator) := by
  intro first second same
  rw [← intercalate_pieces separator first, same, intercalate_pieces]

/-! ## Lines -/

/-- The lines of a text that have a line end, without it. -/
def closedLines (text : List Char) : List (List Char) :=
  (pieces '\n' text).dropLast.map dropReturn

/-- What stands behind the last line end of a text. -/
def openLine (text : List Char) : List Char :=
  (pieces '\n' text).getLast (pieces_ne_nil text)

theorem pieces_eq (text : List Char) :
    pieces '\n' text = (pieces '\n' text).dropLast ++ [openLine text] :=
  (List.dropLast_concat_getLast (pieces_ne_nil text)).symm

theorem lines_eq (text : List Char) :
    lines text = closedLines text ++ if openLine text = [] then [] else [openLine text] := by
  rw [lines, List.getLast?_eq_some_getLast (pieces_ne_nil text)]
  by_cases nothing : openLine text = []
  · have none : (pieces '\n' text).getLast (pieces_ne_nil text) = [] := nothing
    simp [closedLines, none, nothing]
  · have some : (pieces '\n' text).getLast (pieces_ne_nil text) ≠ [] := nothing
    simp [closedLines, some, openLine]

end LayerGateway.Text

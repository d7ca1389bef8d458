import LayerGateway.Journal.Log
import LayerGateway.Proofs.Geo.Legible
import LayerGateway.Proofs.Json.OneLine
import LayerGateway.Proofs.Text.Pieces

/-!
# Entries and lines

A printed value has no line end in it, so that a log has as many lines as entries, and what is
read of the text of entries is those entries.

`CommitLog.readText_textOf` is the round trip of a log.
-/

namespace LayerGateway

/-! ## Entries -/

namespace JournalEntry

open Json (Document)

/-- An entry whose data are read again where they stand, one level deep. -/
def Legible (entry : JournalEntry) : Prop :=
  entry.data.Legible (Json.maxDepth - 1)

def written (entry : JournalEntry) : Json :=
  .object entry.members

theorem print_eq (entry : JournalEntry) : entry.print = entry.written.print := rfl

variable {entry : JournalEntry}

theorem Legible.written_survives (legible : entry.Legible) : entry.written.Survives := by
  refine .object trivial ?_
  simp only [members, List.forall_mem_cons, List.not_mem_nil, false_implies, implies_true, and_true]
  exact ⟨.string _, legible.survives⟩

theorem Legible.decode_written (legible : entry.Legible) :
    decoder (.text Json.maxDepth) (Document.ofJson entry.written) = .ok entry := by
  -- The members are read one by one, in the order in which they are written.
  have method : (Json.Field.of "method" Json.anyText fun method (draft : Draft) =>
      { draft with method := some method }).set (.text 126) (.string (.ok entry.method)) {} =
        .ok ⟨some entry.method, none⟩ := rfl
  have data : (Json.Field.of "data" Json.anyValue fun data (draft : Draft) =>
      { draft with data := some data }).set (.text 126) (Document.ofJson entry.data)
        ⟨some entry.method, none⟩ = .ok ⟨some entry.method, some entry.data⟩ := by
    have shallow : entry.data.depth ≤ 126 := legible.fine.depth
    rw [Json.Shape.set_of (Json.decodes_anyValue legible.fine.canonical), Json.Origin.limit,
      Json.Origin.admits, if_pos (decide_eq_true shallow)]
  have filled : shape.closed {} (.text Json.maxDepth) (Document.ofJson entry.written) =
      .ok ⟨some entry.method, some entry.data⟩ := by
    simp only [Json.Shape.closed, written, members, Document.ofJson, Document.ofJsonMembers]
    change (shape.fill (.text 126) Json.Shape.skip [] {} _ >>= _) = _
    rw [Json.Shape.fill_field (show shape.field? "method" = some _ from rfl) (by simp) method]
    rw [Json.Shape.fill_field (show shape.field? "data" = some _ from rfl) (by simp) data]
    rfl
  rw [decoder, filled]
  rfl

/-- What is written of an entry is read as that entry. -/
theorem Legible.decode_print (legible : entry.Legible) :
    Json.decode decoder (.ofText (String.ofList entry.print)) = .ok entry := by
  have read := (Json.reads_print legible.written_survives).ofText
  rw [← print_eq] at read
  rw [read, Json.decode, legible.decode_written]
  rfl

/-- An entry that is read of what is written of it. -/
def Retained (entry : JournalEntry) : Prop :=
  Json.decode decoder (.ofText (String.ofList entry.print)) = .ok entry

theorem Legible.retained (legible : entry.Legible) : entry.Retained :=
  legible.decode_print

theorem unbroken_print (entry : JournalEntry) : Json.Unbroken entry.print :=
  Json.unbroken_print entry.written

/-- An entry is written between braces. -/
theorem print_braces (entry : JournalEntry) :
    ∃ inner, entry.print = '\x7b' :: inner ++ ['\x7d'] :=
  ⟨_, rfl⟩

end JournalEntry

/-! ## Logs -/

namespace CommitLog

theorem textOf_append (first second : List JournalEntry) :
    textOf (first ++ second) = textOf first ++ textOf second :=
  List.flatMap_append

theorem pieces_textOf (entries : List JournalEntry) :
    Text.pieces '\n' (textOf entries) = entries.map (·.print) ++ [[]] := by
  induction entries with
  | nil => rfl
  | cons entry entries ih =>
    have split : textOf (entry :: entries) = entry.print ++ '\n' :: textOf entries := by
      simp [textOf, line]
    rw [split, Text.pieces_line entry.unbroken_print, ih]
    rfl

theorem dropReturn_append_print (before : List Char) (entry : JournalEntry) :
    Text.dropReturn (before ++ entry.print) = before ++ entry.print := by
  obtain ⟨inner, braces⟩ := entry.print_braces
  rw [Text.dropReturn, braces, ← List.append_assoc, List.getLast?_concat, if_neg (by decide)]

theorem map_dropReturn_print (entries : List JournalEntry) :
    (entries.map (·.print)).map Text.dropReturn = entries.map (·.print) := by
  rw [List.map_map]
  refine List.map_congr_left fun entry _ => ?_
  have kept := dropReturn_append_print [] entry
  rw [List.nil_append] at kept
  rw [Function.comp_apply, kept]

/-- There is one line for each entry, in their order. -/
theorem lines_textOf (entries : List JournalEntry) :
    Text.lines (textOf entries) = entries.map (·.print) := by
  rw [Text.lines, pieces_textOf, List.dropLast_concat, List.getLast?_concat, map_dropReturn_print]
  exact List.append_nil _

theorem isBlankLine_append_print (before : List Char) (entry : JournalEntry) :
    Text.isBlankLine (before ++ entry.print) = false := by
  obtain ⟨inner, braces⟩ := entry.print_braces
  have notBlank : Text.isBlank '\x7b' = false := by decide
  rw [braces, Text.isBlankLine, List.all_append, List.cons_append, List.all_cons, notBlank,
    Bool.false_and, Bool.and_false]

/-- The lines of entries are read as those entries if each of them is. -/
theorem readLines_print_iff {entries : List JournalEntry} {number : Nat} :
    readLines number (entries.map (·.print)) = .ok entries ↔
      ∀ entry ∈ entries, entry.Retained := by
  induction entries generalizing number with
  | nil => exact ⟨fun _ => nofun, fun _ => rfl⟩
  | cons entry entries ih =>
    have notBlank := isBlankLine_append_print [] entry
    rw [List.nil_append] at notBlank
    rw [List.map_cons, readLines, notBlank, if_neg nofun, List.forall_mem_cons, ← ih,
      JournalEntry.Retained]
    cases Json.decode JournalEntry.decoder (.ofText (String.ofList entry.print)) with
    | error cause => exact ⟨nofun, fun both => nomatch both.1⟩
    | ok first =>
      constructor
      · intro read
        obtain ⟨others, rest, same⟩ := ok_of_bind read
        cases same
        exact ⟨rfl, rest⟩
      · rintro ⟨same, rest⟩
        cases same
        exact (bind_of_ok rest _).trans rfl

/-- What is read of the text of entries is those entries. -/
theorem readText_textOf {entries : List JournalEntry}
    (legible : ∀ entry ∈ entries, entry.Legible) :
    readText (String.ofList (textOf entries)) = .ok entries := by
  rw [readText, String.toList_ofList, lines_textOf,
    readLines_print_iff.2 fun entry member => (legible entry member).retained]

/-- A log that holds the text of entries is read as those entries. -/
theorem read_of_textOf {files : Files} {path : String} {entries : List JournalEntry}
    (legible : ∀ entry ∈ entries, entry.Legible)
    (held : files.read path = .ok (Text.encodeChars (textOf entries))) :
    read files path = .ok entries := by
  have decoded : Text.decode? (Text.encodeChars (textOf entries)) =
      some (String.ofList (textOf entries)) := by
    have whole := Text.decode?_encode (String.ofList (textOf entries))
    rwa [Text.encode, String.toList_ofList] at whole
  have text : files.readText path = .ok (String.ofList (textOf entries)) := by
    rw [Files.readText, bind_of_ok held]
    simp only [decoded]
    rfl
  rw [read, text, mapError_ok]
  exact readText_textOf legible

end CommitLog

end LayerGateway

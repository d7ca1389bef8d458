import LayerGateway.Proofs.Files.Path
import LayerGateway.Proofs.Journal.Faithful
import LayerGateway.Proofs.Json.Trailing

/-!
# Appending to a log that is there

The writer puts its lines behind whatever the log holds, and does not look at how that ends.  The
reader takes a last line without a line end for an entry like any other, so that a log can be
readable that is not ready to be appended to: the first new entry then stands behind the last old
one on the same line, and nothing is read of such a log.

* `CommitLog.Terminated` says of a text that its last line has its end.
* `CommitLog.Appended` is what is read of a log that was appended to, and
  `Journaling.appended_of_run` says that every journal on a readable log ends in this way.
-/

namespace LayerGateway

open Text (Symbol)

/-! ## Entries behind a text -/

namespace JournalEntry

/-- The text of an entry ends by itself. -/
theorem delimited_decoder : Json.Delimited decoder := by
  have strict : ∀ field ∈ shape.fields, Json.Shape.StrictField field := by
    refine List.forall_mem_cons.2 ⟨?_, List.forall_mem_singleton.2 ?_⟩
    · exact Json.Shape.strictField_of (Json.strict_textCalled _) _ _
    · exact Json.Shape.strictField_of Json.strict_anyValue _ _
  intro depth document entry read
  obtain ⟨draft, closed, _⟩ := ok_of_bind read
  exact Json.delimited_closed strict _ closed

/-- An entry is more than blanks. -/
theorem print_not_spaces (entry : JournalEntry) :
    entry.print.all (Json.isSpace ∘ Symbol.char) = false := by
  obtain ⟨inner, braces⟩ := entry.print_braces
  have noSpace : (Json.isSpace ∘ Symbol.char) '\x7b' = false := by decide
  rw [braces, List.cons_append, List.all_cons, noSpace, Bool.false_and]

end JournalEntry

namespace CommitLog

variable {text : List Char} {entry : JournalEntry} {entries log : List JournalEntry}

/-- A text that has nothing behind its last line end, or only blanks that an entry may follow. -/
def Terminated (text : List Char) : Prop :=
  (Text.openLine text).all (Json.isSpace ∘ Symbol.char) = true

/-- The first new entry stands on the line that the text leaves open. -/
theorem lines_append_textOf (text : List Char) (entry : JournalEntry)
    (entries : List JournalEntry) :
    Text.lines (text ++ textOf (entry :: entries)) =
      Text.closedLines text ++ (Text.openLine text ++ entry.print) :: entries.map (·.print) := by
  have cut : Text.pieces '\n' (text ++ textOf (entry :: entries)) =
      ((Text.pieces '\n' text).dropLast ++
        (Text.openLine text ++ entry.print) :: entries.map (·.print)) ++ [[]] := by
    rw [List.append_assoc]
    exact Text.pieces_append (Text.pieces_eq text) (pieces_textOf (entry :: entries))
  rw [Text.lines, cut, List.dropLast_concat, List.getLast?_concat, List.map_append, List.map_cons,
    dropReturn_append_print, map_dropReturn_print]
  exact List.append_nil _

/-- Lines are read one after the other. -/
theorem readLines_append (first second : List (List Char)) (number : Nat) :
    readLines number (first ++ second) =
      readLines number first >>= fun entries =>
        (readLines (number + first.length) second).map (entries ++ ·) := by
  -- The induction is on the lines read before; every one counts, blank or not.
  induction first generalizing number with
  | nil =>
    change readLines number second = (readLines number second).map ([] ++ ·)
    cases readLines number second <;> rfl
  | cons line first ih =>
    have count : number + (line :: first).length = number + 1 + first.length := by
      rw [List.length_cons]
      omega
    rw [List.cons_append, readLines, readLines, count, ih]
    split
    · rfl
    · cases Json.decode JournalEntry.decoder (.ofText (String.ofList line)) with
      | error cause => rfl
      | ok entry =>
        cases readLines (number + 1) first with
        | error cause => rfl
        | ok entries => cases readLines (number + 1 + first.length) second <;> rfl

/-- The line that a text leaves open is blank or an entry, if the text can be read. -/
inductive Open (text : List Char) : List JournalEntry → Prop where
  | blank (blank : Text.isBlankLine (Text.openLine text) = true) : Open text []
  | entry {entry : JournalEntry} (notBlank : Text.isBlankLine (Text.openLine text) = false)
      (read : Json.decode JournalEntry.decoder (.ofText (String.ofList (Text.openLine text))) =
        .ok entry) : Open text [entry]

theorem open_of_readLines {number : Nat} {last : List JournalEntry}
    (read : readLines number (if Text.openLine text = [] then [] else [Text.openLine text]) =
      .ok last) : Open text last := by
  split at read
  · next nothing =>
    cases read
    exact .blank (nothing ▸ rfl)
  · rw [readLines] at read
    split at read
    · next blank =>
      cases read
      exact .blank blank
    · next notBlank =>
      split at read
      · cases read
      · next entry decoded =>
        cases read
        exact .entry (Bool.eq_false_iff.2 notBlank) decoded

/-- What is read of a text is read of its closed lines and of the open one. -/
theorem readText_cases (reads : readText (String.ofList text) = .ok log) :
    ∃ before last, readLines 1 (Text.closedLines text) = .ok before ∧ Open text last ∧
      log = before ++ last := by
  rw [readText, String.toList_ofList, Text.lines_eq, readLines_append] at reads
  obtain ⟨before, closed, reads⟩ := ok_of_bind reads
  obtain ⟨last, read, same⟩ := map_eq_ok.1 reads
  exact ⟨before, last, closed, open_of_readLines read, same.symm⟩

theorem isBlankLine_of_spaces {line : List Char}
    (spaces : line.all (Json.isSpace ∘ Symbol.char) = true) : Text.isBlankLine line = true := by
  refine List.all_eq_true.2 fun c member => ?_
  have space := List.all_eq_true.1 spaces c member
  simp only [Function.comp_apply, Json.isSpace, Bool.or_eq_true, beq_iff_eq,
    Symbol.char.injEq] at space
  rcases space with ((rfl | rfl) | rfl) | rfl <;> decide

/-- On a line of its own an entry is read whatever blanks stand before it. -/
theorem readLines_of_spaces {spaces : List Char}
    (all : spaces.all (Json.isSpace ∘ Symbol.char) = true) (number : Nat) (entry : JournalEntry)
    (rest : List (List Char)) :
    readLines number ((spaces ++ entry.print) :: rest) =
      readLines number (entry.print :: rest) := by
  have notBlank := isBlankLine_append_print [] entry
  rw [List.nil_append] at notBlank
  rw [readLines, readLines, isBlankLine_append_print, notBlank, Json.ofText_spaces all]

/-- On a line that is open an entry cannot be read. -/
theorem readLines_of_open {last : List JournalEntry} (isOpen : Open text last)
    (unterminated : ¬ Terminated text) (number : Nat) (entry : JournalEntry)
    (rest : List (List Char)) :
    ∃ cause, readLines number ((Text.openLine text ++ entry.print) :: rest) =
      .error (.corrupt number cause) := by
  have strange := Bool.eq_false_iff.2 unterminated
  obtain ⟨cause, broken⟩ : ∃ cause, Json.decode JournalEntry.decoder
      (.ofText (String.ofList (Text.openLine text ++ entry.print))) = .error cause := by
    cases isOpen with
    | blank blank =>
      exact Json.decode_blank JournalEntry.delimited_decoder blank strange entry.print
    | entry _ read =>
      exact ⟨_, Json.decode_append JournalEntry.delimited_decoder read entry.print_not_spaces⟩
  refine ⟨cause, ?_⟩
  rw [readLines, isBlankLine_append_print, if_neg Bool.false_ne_true, broken]

/-- A text that ends with its last line is added to line by line. -/
theorem readText_of_terminated (reads : readText (String.ofList text) = .ok log)
    (terminated : Terminated text) (entry : JournalEntry) (entries : List JournalEntry) :
    readText (String.ofList (text ++ textOf (entry :: entries))) =
      (readLines (1 + (Text.closedLines text).length) ((entry :: entries).map (·.print))).map
        (log ++ ·) := by
  obtain ⟨before, last, closed, isOpen, rfl⟩ := readText_cases reads
  -- What stands behind the last line end is blank, so no entry was read of it.
  have nothing : last = [] := by
    cases isOpen with
    | blank _ => rfl
    | entry notBlank _ => cases notBlank.symm.trans (isBlankLine_of_spaces terminated)
  rw [readText, String.toList_ofList, lines_append_textOf, readLines_append, bind_of_ok closed,
    readLines_of_spaces terminated, nothing, List.append_nil]
  rfl

/-- To a text that does not end with its last line nothing can be added. -/
theorem readText_of_unterminated (reads : readText (String.ofList text) = .ok log)
    (unterminated : ¬ Terminated text) (entry : JournalEntry) (entries : List JournalEntry) :
    ∃ cause, readText (String.ofList (text ++ textOf (entry :: entries))) =
      .error (.corrupt (1 + (Text.closedLines text).length) cause) := by
  obtain ⟨before, last, closed, isOpen, rfl⟩ := readText_cases reads
  obtain ⟨cause, broken⟩ := readLines_of_open isOpen unterminated
    (1 + (Text.closedLines text).length) entry (entries.map (·.print))
  refine ⟨cause, ?_⟩
  rw [readText, String.toList_ofList, lines_append_textOf, readLines_append, bind_of_ok closed,
    broken]
  rfl

/-- Entries that are put behind a text are read behind its own exactly if its last line has ended
and each of them is read of its own line. -/
theorem readText_append_iff (reads : readText (String.ofList text) = .ok log)
    (entries : List JournalEntry) :
    readText (String.ofList (text ++ textOf entries)) = .ok (log ++ entries) ↔
      (entries = [] ∨ Terminated text) ∧ ∀ entry ∈ entries, entry.Retained := by
  cases entries with
  | nil =>
    rw [textOf, List.flatMap_nil, List.append_nil, List.append_nil]
    exact ⟨fun _ => ⟨.inl rfl, List.forall_mem_nil _⟩, fun _ => reads⟩
  | cons entry entries =>
    by_cases terminated : Terminated text
    · rw [readText_of_terminated reads terminated, map_eq_ok, ← readLines_print_iff]
      constructor
      · rintro ⟨read, all, same⟩
        exact ⟨.inr terminated, List.append_cancel_left same ▸ all⟩
      · rintro ⟨-, all⟩
        exact ⟨_, all, rfl⟩
    · obtain ⟨cause, broken⟩ := readText_of_unterminated reads terminated entry entries
      rw [broken]
      constructor
      · intro read
        cases read
      · rintro ⟨ended, -⟩
        exact absurd (ended.resolve_left (List.cons_ne_nil _ _)) terminated

end CommitLog

/-! ## Journals on a log that is there -/

/-- An operation that neither takes the writer away nor ends the journal. -/
def JournalOperation.goesOn : JournalOperation → Bool
  | .enqueue _ | .start | .write => true
  | .dropWriter | .finish | .reopen => false

namespace Journaling

open CommitLog (bytesOf)

variable {path : String} {content : Bytes} {state : Journaling}

/-- The log holds what it held, and behind it what the writer has written of what was accepted. -/
structure Appending (path : String) (content : Bytes) (state : Journaling) : Prop where
  samePath : state.journal.path = path
  isOpen : state.isOpen = true
  writer : (state.journal.writer = .idle ∧ state.written = []) ∨
    state.journal.writer = .running state.written.length
  all : state.accepted = state.written ++ state.journal.queue.waiting
  holds : state.files.Holds path (content ++ bytesOf state.written)

theorem appending_new {files : Files} (holds : files.Holds path content) (capacity : Nat) :
    (new path capacity files).Appending path content := by
  refine ⟨rfl, rfl, .inl ⟨rfl, rfl⟩, rfl, ?_⟩
  change files.Holds path (content ++ [])
  rwa [List.append_nil]

theorem Appending.offered (appending : state.Appending path content) (entry : JournalEntry) :
    (state.offer entry).Appending path content := by
  by_cases free : state.journal.queue.Open
  · rw [offer_of_open free]
    refine ⟨appending.samePath, appending.isOpen, appending.writer, ?_, appending.holds⟩
    dsimp only
    rw [appending.all, List.append_assoc]
  · rw [offer_of_blocked free]
    exact appending

theorem Appending.started (appending : state.Appending path content) :
    ({ state with journal := state.journal.start } : Journaling).Appending path content := by
  rcases appending.writer with ⟨idle, unwritten⟩ | working
  · have started : state.journal.start = { state.journal with writer := .running 0 } := by
      simp only [Journal.start, idle]
    rw [started]
    exact ⟨appending.samePath, appending.isOpen, .inr (by rw [unwritten]; rfl), appending.all,
      appending.holds⟩
  · have unchanged : state.journal.start = state.journal := by simp only [Journal.start, working]
    rw [unchanged]
    exact appending

/-- A writer at work writes everything that waits. -/
theorem Appending.flushed (appending : state.Appending path content)
    (working : state.journal.writer = .running state.written.length) :
    ∃ later, state.work = state.flushed later ∧
      later.Holds path (content ++ bytesOf state.accepted) := by
  obtain ⟨opened, open_, holds⟩ := CommitLog.openAt_of_holds appending.holds
  rw [← appending.samePath] at open_ holds
  obtain ⟨later, worked, holds⟩ := work_of_holds working open_ holds
  refine ⟨later, worked, ?_⟩
  rwa [List.append_assoc, ← CommitLog.bytesOf_append, ← appending.all, appending.samePath] at holds

theorem Appending.worked (appending : state.Appending path content) :
    state.work.Appending path content := by
  rcases appending.writer with ⟨idle, -⟩ | working
  · rw [work_of_resting (by rw [idle]; rfl)]
    exact appending
  · obtain ⟨later, worked, holds⟩ := appending.flushed working
    rw [appending.all] at holds
    rw [worked]
    exact ⟨appending.samePath, appending.isOpen, .inr rfl,
      appending.all.trans (List.append_nil _).symm, holds⟩

theorem Appending.act (appending : state.Appending path content) {operation : JournalOperation}
    (goesOn : operation.goesOn = true) : (state.act operation).Appending path content := by
  cases operation with
  | enqueue entry =>
    rw [Journaling.act, if_pos appending.isOpen]
    exact appending.offered entry
  | start => exact appending.started
  | write => exact appending.worked
  | dropWriter | finish | reopen => cases goesOn

theorem Appending.run (appending : state.Appending path content)
    {operations : List JournalOperation}
    (goesOn : ∀ operation ∈ operations, operation.goesOn = true) :
    (state.run operations).Appending path content := by
  -- Each operation starts from what the one before it left.
  induction operations generalizing state with
  | nil => exact appending
  | cons operation operations ih =>
    obtain ⟨here, rest⟩ := List.forall_mem_cons.1 goesOn
    exact ih (appending.act here) rest

/-- A writer that comes to its end has put everything that was accepted behind the log. -/
theorem Appending.finished (appending : state.Appending path content) :
    (state.journal.finish state.files).1 = some (.ok state.accepted.length) ∧
      (state.journal.finish state.files).2.2.Holds path (content ++ bytesOf state.accepted) := by
  -- Whoever ends the offers has started the writer, so that it is at work.
  have started := appending.started
  have working := started.writer.resolve_left fun idle => writer_start_ne_idle _ idle.1
  obtain ⟨later, worked, holds⟩ := started.flushed working
  have wrote : state.journal.start.write state.files = _ :=
    write_eq { state with journal := state.journal.start }
  rw [finish_eq, wrote, worked]
  refine ⟨?_, holds⟩
  have all : state.accepted = state.written ++ state.journal.start.queue.waiting := started.all
  rw [all]
  rfl

end Journaling

/-! ## What is read of the log in the end -/

namespace CommitLog

variable {path : String} {files later : Files} {text : String}
  {log entries : List JournalEntry}

/-- What has become of a log with some text and entries to which further entries were appended:
they are read behind its own exactly if its last line had ended and each of them is read of its own
line.  Where the last line had not ended nothing is read any more. -/
structure Appended (path text : String) (log entries : List JournalEntry) (later : Files) :
    Prop where
  holds : later.readText path = .ok (text ++ String.ofList (textOf entries))
  reads : read later path = .ok (log ++ entries) ↔
    (entries = [] ∨ Terminated text.toList) ∧ ∀ entry ∈ entries, entry.Retained
  legible : (∀ entry ∈ entries, entry.Legible) →
    (read later path = .ok (log ++ entries) ↔ entries = [] ∨ Terminated text.toList)
  spoilt : entries ≠ [] → ¬ Terminated text.toList →
    ∃ cause, read later path =
      .error (.corrupt (1 + (Text.closedLines text.toList).length) cause)

theorem text_of_read (reads : read files path = .ok log) :
    ∃ content text, files.read path = .ok content ∧ Text.decode? content = some text ∧
      files.readText path = .ok text ∧ readText text = .ok log := by
  obtain ⟨text, readFile, reads⟩ := ok_of_bind reads
  have readFile := mapError_eq_ok.1 readFile
  obtain ⟨content, held, decoded⟩ := ok_of_bind readFile
  split at decoded
  · next found =>
    cases decoded
    exact ⟨content, text, held, found, readFile, reads⟩
  · cases decoded

theorem readText_of_decode? {content : Bytes} (held : files.read path = .ok content)
    (decoded : Text.decode? content = some text) : files.readText path = .ok text := by
  rw [Files.readText, bind_of_ok held, decoded]
  rfl

theorem appended_of_holds {content : Bytes} (decoded : Text.decode? content = some text)
    (reads : readText text = .ok log) (entries : List JournalEntry)
    (holds : later.Holds path (content ++ bytesOf entries)) :
    Appended path text log entries later := by
  have whole := readText_of_decode? holds.read (Text.decode?_append decoded (textOf entries))
  have same : text ++ String.ofList (textOf entries) =
      String.ofList (text.toList ++ textOf entries) := by
    rw [String.ofList_append, String.ofList_toList]
  have opened : read later path = readText (String.ofList (text.toList ++ textOf entries)) := by
    rw [read, bind_of_ok (mapError_eq_ok.2 whole), same]
  have reads : readText (String.ofList text.toList) = .ok log := by rwa [String.ofList_toList]
  have iff := readText_append_iff reads entries
  refine ⟨whole, opened ▸ iff, fun legible => ?_, fun some unterminated => ?_⟩
  · rw [opened, iff]
    exact and_iff_left fun entry member => (legible entry member).retained
  · obtain ⟨entry, others, rfl⟩ := List.exists_cons_of_ne_nil some
    rw [opened]
    exact readText_of_unterminated reads unterminated entry others

end CommitLog

namespace Journaling

/-- A journal on a log that can be read puts behind it all that it has accepted, whenever its
writer is started and gets to work.  All of it is read behind what could be read before, unless
the last line of the log had no end. -/
theorem appended_of_run {path : String} {files : Files} {log : List JournalEntry}
    (reads : CommitLog.read files path = .ok log) (capacity : Nat)
    {operations : List JournalOperation}
    (goesOn : ∀ operation ∈ operations, operation.goesOn = true) :
    let state := (new path capacity files).run operations
    ∃ text, files.readText path = .ok text ∧
      (state.journal.finish state.files).1 = some (.ok state.accepted.length) ∧
      CommitLog.Appended path text log state.accepted (state.journal.finish state.files).2.2 := by
  intro state
  obtain ⟨content, text, held, decoded, readText, reads⟩ := CommitLog.text_of_read reads
  have appending : state.Appending path content :=
    (appending_new (Files.holds_of_read held) capacity).run goesOn
  obtain ⟨answered, holds⟩ := appending.finished
  exact ⟨text, readText, answered, CommitLog.appended_of_holds decoded reads _ holds⟩

/-- The text of a log of one entry, with some text around it. -/
def around (before after : String) : String :=
  before ++ "\x7b\"method\":\"a\",\"data\":null\x7d" ++ after

def logOf (text : String) : Files where
  entries := [(["commit.log"], .file (Text.encode text) CommitLog.mode)]

/-- Blank lines, carriage returns and blanks at the end do no harm. -/
theorem appended_of_run_blankTail :
    let first : JournalEntry := ⟨"a", .null⟩
    let second : JournalEntry := ⟨"b", .string "one\ntwo"⟩
    let files := logOf (around "\r\n" "\r\n\n \t")
    let operations : List JournalOperation := [.enqueue second, .start, .write, .enqueue first]
    let state := (new "commit.log" 1 files).run operations
    CommitLog.read files "commit.log" = .ok [first] ∧
      (∀ operation ∈ operations, operation.goesOn = true) ∧
      state.accepted = [second, first] ∧ (∀ entry ∈ state.accepted, entry.Legible) ∧
      CommitLog.read (state.journal.finish state.files).2.2 "commit.log" =
        .ok ([first] ++ [second, first]) := by
  intro first second files operations
  dsimp only
  have reads : CommitLog.read files "commit.log" = .ok [first] := by decide +kernel
  have goesOn : ∀ operation ∈ operations, operation.goesOn = true := by decide
  have accepted : ((new "commit.log" 1 files).run operations).accepted = [second, first] := by
    decide +kernel
  have secondLegible : second.Legible := Json.legible_string _
  have firstLegible : first.Legible := ⟨⟨.null, Nat.zero_le _⟩, .null⟩
  have legible : ∀ entry ∈ [second, first], entry.Legible :=
    List.forall_mem_cons.2 ⟨secondLegible, List.forall_mem_singleton.2 firstLegible⟩
  have held : files.readText "commit.log" = .ok (around "\r\n" "\r\n\n \t") := by decide +kernel
  have terminated : CommitLog.Terminated (around "\r\n" "\r\n\n \t").toList := by
    unfold CommitLog.Terminated
    decide +kernel
  obtain ⟨text, readText, -, appended⟩ := appended_of_run reads 1 goesOn
  obtain rfl : text = around "\r\n" "\r\n\n \t" := Except.ok.inj (readText.symm.trans held)
  rw [accepted] at appended ⊢
  exact ⟨reads, goesOn, rfl, legible, (appended.legible legible).2 (.inr terminated)⟩

/-- A last line without a line end is read as an entry until something is written behind it. -/
theorem unterminated_spoilt :
    let first : JournalEntry := ⟨"a", .null⟩
    let second : JournalEntry := ⟨"b", .number (.integer 1)⟩
    let files := logOf (around "" "")
    let state := (new "commit.log" 8 files).run [.enqueue second]
    CommitLog.read files "commit.log" = .ok [first] ∧ state.accepted = [second] ∧
      second.data.depth ≤ Json.maxDepth - 1 ∧
      (state.journal.finish state.files).1 = some (.ok 1) ∧
      CommitLog.read (state.journal.finish state.files).2.2 "commit.log" =
        .error (.corrupt 1 (.grammar .trailingText)) := by
  decide +kernel

end Journaling

end LayerGateway

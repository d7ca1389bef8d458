import LayerGateway.Journal.Writer
import LayerGateway.Proofs.Files.Tree
import LayerGateway.Proofs.Gateway.Pipeline
import LayerGateway.Proofs.Journal.Lines

/-!
# Journals and their writers

A journal is followed from an absent log on, through any number of writers, and every entry that
was accepted is accounted for: it waits, it was written behind all that was accepted before it, or
it died with its writer.

* `Journaling` is a journal at its log together with what happened to the entries.
* `Journaling.Sound` is what no operation spoils.  It rests on `CommitLog.Absent`: a log that was
  not there holds nothing when it is made, and what the writers wrote ever after.
-/

namespace LayerGateway

/-! ## Writing to the log -/

namespace CommitLog

variable {files start later : Files} {path : String} {content : Bytes}
  {entries : List JournalEntry}

/-- There is no log, even if the folders above it are made. -/
def Absent (files : Files) (path : String) : Prop :=
  ∀ folders, files.makeFolders ((Path.parent? path).getD "") = .ok folders →
    ∀ content, folders.read path ≠ .ok content

/-- Where there is a folder for the log, it is enough that the log cannot be read. -/
theorem absent_of_unread (above : (Path.parent? path).getD "" = "" ∨
      files.isFolder ((Path.parent? path).getD "") = true)
    (unread : ∀ content, files.read path ≠ .ok content) : Absent files path := by
  intro folders made
  rw [Files.makeFolders_of_isFolder above] at made
  cases made
  exact unread

def bytesOf (entries : List JournalEntry) : Bytes :=
  Text.encodeChars (textOf entries)

theorem bytesOf_append (first second : List JournalEntry) :
    bytesOf (first ++ second) = bytesOf first ++ bytesOf second := by
  rw [bytesOf, textOf_append, Text.encodeChars, List.flatMap_append]
  rfl

theorem openAt_of_absent (absent : Absent files path) (opened : openAt files path = .ok later) :
    later.Holds path [] := by
  obtain ⟨folders, made, updated⟩ := ok_of_bind opened
  have made := mapError_eq_ok.1 made
  obtain ⟨-, above⟩ := Files.makeFolders_go_ok made
  exact Files.holds_of_update above (absent folders made) (mapError_eq_ok.1 updated)

theorem openAt_of_holds (holds : files.Holds path content) :
    ∃ later, openAt files path = .ok later ∧ later.Holds path content := by
  obtain ⟨later, updated, holdsLater⟩ := holds.update mode id
  refine ⟨later, ?_, holdsLater⟩
  rw [openAt, bind_of_ok (mapError_eq_ok.2 (Files.makeFolders_of_isFolder holds.above)),
    mapError_eq_ok]
  exact updated

theorem append_of_holds (holds : files.Holds path content) (entries : List JournalEntry) :
    ∃ later, append files path entries = .ok later ∧
      later.Holds path (content ++ bytesOf entries) := by
  obtain ⟨later, updated, holdsLater⟩ := holds.update mode (· ++ bytesOf entries)
  exact ⟨later, mapError_eq_ok.2 updated, holdsLater⟩

end CommitLog

namespace JournalQueue

open CommitLog (Absent bytesOf)

variable {files : Files} {path : String} {entries : List JournalEntry}

theorem writeTo_of_opened (queue : JournalQueue) {opened : Files} {content : Bytes}
    (open_ : CommitLog.openAt files path = .ok opened) (holds : opened.Holds path content) :
    ∃ later, queue.writeTo path files =
        (.ok queue.waiting.length, { queue with waiting := [] }, later) ∧
      later.Holds path (content ++ bytesOf queue.waiting) := by
  obtain ⟨later, appended, holdsLater⟩ := CommitLog.append_of_holds holds queue.waiting
  refine ⟨later, ?_, holdsLater⟩
  have written : (do
      let files ← CommitLog.openAt files path
      CommitLog.append files path queue.waiting) = .ok later := by
    rw [bind_of_ok open_, appended]
  simp only [writeTo, takeAll, written]

theorem writeTo_of_failed (queue : JournalQueue) {cause : LogError}
    (failed : CommitLog.openAt files path = .error cause) :
    queue.writeTo path files = (.error cause, queue.dropWriter, files) := by
  have written : (do
      let files ← CommitLog.openAt files path
      CommitLog.append files path queue.waiting) = .error cause := by
    rw [failed]
    rfl
  simp only [writeTo, takeAll, written]

end JournalQueue

/-! ## Journals with their history -/

/-- What can happen to a journal.  `write` is the writer getting to work, and `finish` is the end
of all who offer entries. -/
inductive JournalOperation where
  | enqueue (entry : JournalEntry)
  | start
  | write
  | dropWriter
  | finish
  | reopen

/-- Whether the writer of a journal is at work. -/
def WriterState.works : WriterState → Bool
  | .running _ => true
  | .idle | .failed _ | .dropped => false

/-- What a writer answers that has come to its end. -/
def WriterState.answer : WriterState → Option (Except LogError Nat)
  | .running written => some (.ok written)
  | .failed cause => some (.error cause)
  | .idle | .dropped => none

/-- A journal at its log: whether entries can still be offered, those that were accepted, those
of them that were written, and what every earlier writer that came to its end had accepted. -/
structure Journaling where
  journal : Journal
  files : Files
  isOpen : Bool := true
  accepted : List JournalEntry := []
  written : List JournalEntry := []
  finished : List (List JournalEntry) := []

namespace Journaling

def new (path : String) (capacity : Nat) (files : Files) : Journaling where
  journal := .new path capacity
  files

def offer (state : Journaling) (entry : JournalEntry) : Journaling :=
  let (answer, journal) := state.journal.enqueue entry
  { state with
    journal
    accepted := if answer = .accepted then state.accepted ++ [entry] else state.accepted }

def work (state : Journaling) : Journaling :=
  let (journal, files) := state.journal.write state.files
  { state with
    journal, files
    written :=
      if journal.writer.works then state.written ++ state.journal.queue.waiting
      else state.written }

/-- Nothing more can be offered, so that a writer at work comes to its end. -/
def close (state : Journaling) : Journaling :=
  { state with
    isOpen := false
    finished :=
      if state.isOpen && state.journal.writer.works then state.finished ++ [state.accepted]
      else state.finished }

/-- The journal after an operation.  Nothing can be offered to a journal that has ended, and it
does not end again. -/
def act (state : Journaling) : JournalOperation → Journaling
  | .enqueue entry => if state.isOpen then state.offer entry else state
  | .start => { state with journal := state.journal.start }
  | .write => state.work
  | .dropWriter => { state with journal := state.journal.dropWriter }
  | .finish =>
      if state.isOpen then { state with journal := state.journal.start }.work.close else state
  | .reopen =>
      let ended := state.work.close
      { ended with journal := ended.journal.reopened, isOpen := true, accepted := [], written := [] }

def run (state : Journaling) (operations : List JournalOperation) : Journaling :=
  operations.foldl act state

/-- What has been written to the log by all writers. -/
def stored (state : Journaling) : List JournalEntry :=
  state.finished.flatten ++ if state.isOpen then state.written else []

/-! ## What no operation spoils -/

/-- Where the accepted entries are: they wait, or were written, or were lost with a writer that
had not written any. -/
inductive Accounts (path : String) (start : Files) (state : Journaling) : Prop where
  | idle (fresh : state.journal.writer = .idle) (isOpen : state.isOpen = true)
      (there : state.journal.queue.writerGone = false) (noLoss : state.journal.queue.lost = 0)
      (unwritten : state.written = []) (all : state.accepted = state.journal.queue.waiting)
  | running (working : state.journal.writer = .running state.written.length)
      (there : state.journal.queue.writerGone = false) (noLoss : state.journal.queue.lost = 0)
      (all : state.accepted = state.written ++ state.journal.queue.waiting)
      (done : state.isOpen = false → state.journal.queue.waiting = [])
  | failed {cause : LogError} (failed : state.journal.writer = .failed cause)
      (gone : state.journal.queue.writerGone = true) (nothing : state.journal.queue.waiting = [])
      (lost : state.journal.queue.lost = state.accepted.length) (unwritten : state.written = [])
      (untouched : state.files = start) (broken : CommitLog.openAt start path = .error cause)
  | dropped (dropped : state.journal.writer = .dropped)
      (gone : state.journal.queue.writerGone = true) (nothing : state.journal.queue.waiting = [])
      (lost : state.journal.queue.lost = state.accepted.length) (unwritten : state.written = [])

/-- The entries are accounted for, and the log holds what was written to it, if any writer got as
far as that. -/
structure Sound (path : String) (capacity : Nat) (start : Files) (state : Journaling) : Prop where
  samePath : state.journal.path = path
  sameCapacity : state.journal.queue.capacity = capacity
  accounts : Accounts path start state
  stored : (state.files = start ∧ state.finished = [] ∧ state.written = []) ∨
    state.files.Holds path (CommitLog.bytesOf state.stored)
  legible : ∀ entry ∈ state.finished.flatten ++ state.accepted, entry.Legible

section Sound

variable {path : String} {capacity : Nat} {start : Files} {state : Journaling}

theorem sound_new (path : String) (capacity : Nat) (start : Files) :
    Sound path capacity start (new path capacity start) :=
  ⟨rfl, rfl, .idle rfl rfl rfl rfl rfl rfl, .inl ⟨rfl, rfl, rfl⟩, nofun⟩

/-! ## The writer at work -/

theorem work_of_resting (resting : state.journal.writer.works = false) : state.work = state := by
  have nothing : state.journal.write state.files = (state.journal, state.files) := by
    unfold Journal.write
    split
    · next written working =>
      rw [working] at resting
      cases resting
    · rfl
  unfold work
  rw [nothing]
  dsimp only
  rw [resting]
  rfl

/-- The journal when its log could not be opened. -/
def broken (state : Journaling) (cause : LogError) : Journaling :=
  { state with
    journal := { state.journal with
      queue := state.journal.queue.dropWriter
      writer := .failed cause } }

/-- The journal when all that waits has been written. -/
def flushed (state : Journaling) (later : Files) : Journaling :=
  { state with
    journal := { state.journal with
      queue := { state.journal.queue with waiting := [] }
      writer := .running (state.written ++ state.journal.queue.waiting).length }
    files := later
    written := state.written ++ state.journal.queue.waiting }

/-- What a writer makes of its journal when it gets to work.  If the log cannot be opened now it
never could, because a log that was written once can be written again. -/
inductive Worked (path : String) (start : Files) (state : Journaling) : Journaling → Prop where
  | resting (resting : state.journal.writer.works = false) : state.Worked path start state
  | broken {cause : LogError} (unopened : CommitLog.openAt start path = .error cause)
      (untouched : state.files = start ∧ state.finished = [] ∧ state.written = [])
      (noLoss : state.journal.queue.lost = 0)
      (all : state.accepted = state.written ++ state.journal.queue.waiting) :
      state.Worked path start (state.broken cause)
  | flushed {later : Files} (there : state.journal.queue.writerGone = false)
      (noLoss : state.journal.queue.lost = 0)
      (all : state.accepted = state.written ++ state.journal.queue.waiting)
      (holds : later.Holds path (CommitLog.bytesOf (state.flushed later).stored)) :
      state.Worked path start (state.flushed later)

theorem stored_flushed (done : state.isOpen = false → state.journal.queue.waiting = [])
    (later : Files) :
    (state.flushed later).stored = state.stored ++ state.journal.queue.waiting := by
  cases isOpen : state.isOpen with
  | true => simp [Journaling.stored, flushed, isOpen]
  | false => simp [Journaling.stored, flushed, isOpen, done isOpen]

theorem work_of_failed {cause : LogError}
    (working : state.journal.writer = .running state.written.length)
    (unopened : CommitLog.openAt state.files state.journal.path = .error cause) :
    state.work = state.broken cause := by
  have failed := state.journal.queue.writeTo_of_failed unopened
  simp [work, broken, Journal.write, working, failed, WriterState.works]

/-- A writer at work whose log could be opened puts behind its content all that waits. -/
theorem work_of_holds {opened : Files} {content : Bytes}
    (working : state.journal.writer = .running state.written.length)
    (open_ : CommitLog.openAt state.files state.journal.path = .ok opened)
    (holds : opened.Holds state.journal.path content) :
    ∃ later, state.work = state.flushed later ∧
      later.Holds state.journal.path
        (content ++ CommitLog.bytesOf state.journal.queue.waiting) := by
  obtain ⟨later, wrote, holdsLater⟩ := state.journal.queue.writeTo_of_opened open_ holds
  refine ⟨later, ?_, holdsLater⟩
  simp only [work, flushed, Journal.write, working, wrote, WriterState.works, if_true,
    List.length_append]

theorem work_of_opened {opened : Files}
    (working : state.journal.writer = .running state.written.length)
    (done : state.isOpen = false → state.journal.queue.waiting = [])
    (open_ : CommitLog.openAt state.files state.journal.path = .ok opened)
    (holds : opened.Holds state.journal.path (CommitLog.bytesOf state.stored)) :
    ∃ later, state.work = state.flushed later ∧
      later.Holds state.journal.path (CommitLog.bytesOf (state.flushed later).stored) := by
  obtain ⟨later, worked, holdsLater⟩ := work_of_holds working open_ holds
  refine ⟨later, worked, ?_⟩
  rwa [stored_flushed done, CommitLog.bytesOf_append]

theorem Sound.work_worked (sound : state.Sound path capacity start)
    (absent : CommitLog.Absent start path) : state.Worked path start state.work := by
  cases sound.accounts with
  | idle resting _ _ _ _ _ | failed resting _ _ _ _ _ _ | dropped resting _ _ _ _ =>
    have resting : state.journal.writer.works = false := by rw [resting]; rfl
    rw [work_of_resting resting]
    exact .resting resting
  | running working there noLoss all done =>
    have opens {opened : Files} (open_ : CommitLog.openAt state.files path = .ok opened)
        (holds : opened.Holds path (CommitLog.bytesOf state.stored)) :
        state.Worked path start state.work := by
      rw [← sound.samePath] at open_ holds
      obtain ⟨later, worked, holds⟩ := work_of_opened working done open_ holds
      rw [worked]
      exact .flushed there noLoss all (sound.samePath ▸ holds)
    -- Either nobody has written to the log, or it holds what was written.
    rcases sound.stored with ⟨untouched, noneFinished, unwritten⟩ | holds
    · cases open_ : CommitLog.openAt start path with
      | error cause =>
        rw [work_of_failed working (by rw [untouched, sound.samePath, open_])]
        exact .broken open_ ⟨untouched, noneFinished, unwritten⟩ noLoss all
      | ok opened =>
        have nothing : state.stored = [] := by
          simp [Journaling.stored, noneFinished, unwritten]
        have holds := CommitLog.openAt_of_absent absent open_
        exact opens (untouched ▸ open_) (by rwa [nothing])
    · obtain ⟨opened, open_, holds⟩ := CommitLog.openAt_of_holds holds
      exact opens open_ holds

theorem Sound.worked (sound : state.Sound path capacity start)
    (absent : CommitLog.Absent start path) : state.work.Sound path capacity start := by
  have worked := sound.work_worked absent
  generalize state.work = later at worked
  cases worked with
  | resting _ => exact sound
  | @broken cause unopened untouched noLoss all =>
    have unwritten := untouched.2.2
    refine ⟨sound.samePath, sound.sameCapacity, ?_, .inl untouched, sound.legible⟩
    refine .failed rfl rfl rfl ?_ unwritten untouched.1 unopened
    simp [broken, JournalQueue.dropWriter, noLoss, all, unwritten]
  | @flushed files there noLoss all holds =>
    refine ⟨sound.samePath, sound.sameCapacity, ?_, .inr holds, sound.legible⟩
    exact .running rfl there noLoss (by simp [flushed, all]) fun _ => rfl

/-- What a writer leaves that has written and is still at work. -/
structure Complete (path : String) (state : Journaling) : Prop where
  holds : state.files.Holds path (CommitLog.bytesOf state.stored)
  all : state.accepted = state.written
  writer : state.journal.writer = .running state.accepted.length
  waiting : state.journal.queue.waiting = []

theorem Sound.complete_work (sound : state.Sound path capacity start)
    (absent : CommitLog.Absent start path) (works : state.work.journal.writer.works = true) :
    state.work.Complete path := by
  have worked := sound.work_worked absent
  generalize state.work = later at worked works
  cases worked with
  | resting resting => cases works.symm.trans resting
  | broken _ _ _ _ => cases works
  | flushed there noLoss all holds => exact ⟨holds, all, by rw [flushed, all], rfl⟩

/-! ## The other operations -/

section Offer

variable {journal : Journal} {entry : JournalEntry}

theorem enqueue_of_open (free : journal.queue.Open) :
    journal.enqueue entry = (.accepted, { journal with
      queue := { journal.queue with waiting := journal.queue.waiting ++ [entry] } }) := by
  have accepts := (JournalQueue.accepts_iff _).2 free
  simp [Journal.enqueue, JournalQueue.enqueue, accepts]

theorem enqueue_of_blocked (blocked : ¬ journal.queue.Open) :
    journal.enqueue entry = (.dropped, journal) := by
  have refused := mt (JournalQueue.accepts_iff _).1 blocked
  simp [Journal.enqueue, JournalQueue.enqueue, refused]

theorem offer_of_open (free : state.journal.queue.Open) :
    state.offer entry = { state with
      journal := { state.journal with
        queue := { state.journal.queue with waiting := state.journal.queue.waiting ++ [entry] } }
      accepted := state.accepted ++ [entry] } := by
  simp [offer, enqueue_of_open free]

theorem offer_of_blocked (blocked : ¬ state.journal.queue.Open) :
    state.offer entry = state := by
  simp [offer, enqueue_of_blocked blocked]

end Offer

theorem Sound.offered (sound : state.Sound path capacity start) (isOpen : state.isOpen = true)
    {entry : JournalEntry} (legible : entry.Legible) :
    (state.offer entry).Sound path capacity start := by
  by_cases free : state.journal.queue.Open
  · rw [offer_of_open free]
    refine ⟨sound.samePath, sound.sameCapacity, ?_, sound.stored, ?_⟩
    · cases sound.accounts with
      | idle fresh _ there noLoss unwritten all =>
        exact .idle fresh isOpen there noLoss unwritten (by rw [all])
      | running working there noLoss all done =>
        refine .running working there noLoss ?_ fun closed => ?_
        · rw [all, List.append_assoc]
        · cases isOpen.symm.trans closed
      | failed _ gone _ _ _ _ _ => cases gone.symm.trans free.1
      | dropped _ gone _ _ _ => cases gone.symm.trans free.1
    · rw [← List.append_assoc, List.forall_mem_append]
      exact ⟨sound.legible, by simpa using legible⟩
  · rw [offer_of_blocked free]
    exact sound

theorem Accounts.of_idle (accounts : Accounts path start state)
    (idle : state.journal.writer = .idle) :
    state.isOpen = true ∧ state.journal.queue.writerGone = false ∧ state.journal.queue.lost = 0 ∧
      state.written = [] ∧ state.accepted = state.journal.queue.waiting := by
  cases accounts with
  | idle _ isOpen there noLoss unwritten all => exact ⟨isOpen, there, noLoss, unwritten, all⟩
  | running other _ _ _ _ | failed other _ _ _ _ _ _ | dropped other _ _ _ _ =>
    cases idle.symm.trans other

theorem Sound.started (sound : state.Sound path capacity start) :
    ({ state with journal := state.journal.start } : Journaling).Sound path capacity start := by
  cases writer : state.journal.writer with
  | idle =>
    obtain ⟨isOpen, there, noLoss, unwritten, all⟩ := sound.accounts.of_idle writer
    have started : state.journal.start = { state.journal with writer := .running 0 } := by
      simp only [Journal.start, writer]
    rw [started]
    refine ⟨sound.samePath, sound.sameCapacity, ?_, sound.stored, sound.legible⟩
    refine .running (by rw [unwritten]; rfl) there noLoss ?_ fun closed => ?_
    · rw [unwritten, all]
      rfl
    · cases isOpen.symm.trans closed
  | running _ | failed _ | dropped =>
    have unchanged : state.journal.start = state.journal := by simp only [Journal.start, writer]
    rw [unchanged]
    exact sound

theorem Sound.writerDropped (sound : state.Sound path capacity start) :
    ({ state with journal := state.journal.dropWriter } : Journaling).Sound path capacity
      start := by
  cases writer : state.journal.writer with
  | idle =>
    obtain ⟨-, -, noLoss, unwritten, all⟩ := sound.accounts.of_idle writer
    have dropped : state.journal.dropWriter =
        { state.journal with queue := state.journal.queue.dropWriter, writer := .dropped } := by
      simp only [Journal.dropWriter, writer]
    rw [dropped]
    refine ⟨sound.samePath, sound.sameCapacity, ?_, sound.stored, sound.legible⟩
    refine .dropped rfl rfl rfl ?_ unwritten
    simp [JournalQueue.dropWriter, noLoss, all]
  | running _ | failed _ | dropped =>
    have unchanged : state.journal.dropWriter = state.journal := by
      simp only [Journal.dropWriter, writer]
    rw [unchanged]
    exact sound

/-! ## Ends -/

theorem Sound.unwritten_of_resting (sound : state.Sound path capacity start)
    (resting : state.journal.writer.works = false) : state.written = [] := by
  cases sound.accounts with
  | idle _ _ _ _ unwritten _ => exact unwritten
  | running working _ _ _ _ =>
    rw [working] at resting
    cases resting
  | failed _ _ _ _ unwritten _ _ => exact unwritten
  | dropped _ _ _ _ unwritten => exact unwritten

/-- What was written to the log when a writer has come to its end is what all those that did had
accepted. -/
theorem Sound.flatten_close (sound : state.Sound path capacity start)
    (complete : state.journal.writer.works = true → state.Complete path) :
    state.close.finished.flatten = state.stored := by
  cases works : state.journal.writer.works with
  | false =>
    have unwritten := sound.unwritten_of_resting works
    simp [close, Journaling.stored, works, unwritten]
  | true =>
    have all := (complete works).all
    cases isOpen : state.isOpen with
    | true => simp [close, Journaling.stored, works, isOpen, all]
    | false => simp [close, Journaling.stored, works, isOpen]

theorem Sound.stored_close (sound : state.Sound path capacity start)
    (complete : state.journal.writer.works = true → state.Complete path) :
    (state.files = start ∧ state.close.finished = [] ∧ state.written = []) ∨
      state.files.Holds path (CommitLog.bytesOf state.close.finished.flatten) := by
  rw [sound.flatten_close complete]
  cases works : state.journal.writer.works with
  | false =>
    refine sound.stored.imp_left fun ⟨untouched, noneFinished, unwritten⟩ => ?_
    exact ⟨untouched, by simp [close, works, noneFinished], unwritten⟩
  | true => exact .inr (complete works).holds

theorem Sound.legible_close (sound : state.Sound path capacity start) :
    ∀ entry ∈ state.close.finished.flatten, entry.Legible := by
  intro entry member
  refine sound.legible entry ?_
  unfold close at member
  dsimp only at member
  split at member
  · simpa using member
  · exact List.mem_append_left _ member

theorem Sound.ended (sound : state.Sound path capacity start)
    (complete : state.journal.writer.works = true → state.Complete path)
    (begun : state.journal.writer ≠ .idle) : state.close.Sound path capacity start := by
  have noneOpen : state.close.stored = state.close.finished.flatten := List.append_nil _
  refine ⟨sound.samePath, sound.sameCapacity, ?_, ?_, ?_⟩
  · cases sound.accounts with
    | idle fresh _ _ _ _ _ => exact absurd fresh begun
    | running working there noLoss all done =>
      refine .running working there noLoss all fun _ => ?_
      exact (complete (by rw [working]; rfl)).waiting
    | failed failed gone nothing lost unwritten untouched broken =>
      exact .failed failed gone nothing lost unwritten untouched broken
    | dropped dropped gone nothing lost unwritten =>
      exact .dropped dropped gone nothing lost unwritten
  · rw [noneOpen]
    exact sound.stored_close complete
  · refine List.forall_mem_append.2 ⟨sound.legible_close, ?_⟩
    exact (List.forall_mem_append.1 sound.legible).2

theorem Sound.reopened (sound : state.Sound path capacity start)
    (complete : state.journal.writer.works = true → state.Complete path) :
    ({ state.close with
      journal := state.journal.reopened, isOpen := true, accepted := [], written := [] } :
        Journaling).Sound path capacity start := by
  have nothingNew : state.close.finished.flatten ++ [] = state.close.finished.flatten :=
    List.append_nil _
  refine ⟨sound.samePath, sound.sameCapacity, .idle rfl rfl rfl rfl rfl rfl, ?_, ?_⟩
  · refine (sound.stored_close complete).imp
      (fun ⟨untouched, noneFinished, _⟩ => ⟨untouched, noneFinished, rfl⟩) ?_
    intro holds
    rwa [← nothingNew] at holds
  · rw [nothingNew]
    exact sound.legible_close

end Sound

end Journaling

end LayerGateway

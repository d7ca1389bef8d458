import LayerGateway.Proofs.Journal.Writing

/-!
# The journal loses, reorders and invents nothing

What is accepted is written in the order in which it was accepted or dies with its writer, and
what is read of the log is what the writers wrote, one after the other.

* `Journaling.Faithful` is what a journal and its log promise after each operation.
* `Journaling.faithful_of_run` says that they keep it.
-/

namespace LayerGateway.Journaling

open CommitLog (Absent bytesOf)

variable {path : String} {capacity : Nat} {start : Files} {state : Journaling}

/-! ## Runs -/

theorem writer_start_ne_idle (journal : Journal) : journal.start.writer ≠ .idle := by
  unfold Journal.start
  split
  · nofun
  · next other => exact fun idle => other idle

theorem start_dropped {journal : Journal} (dropped : journal.start.writer = .dropped) :
    journal.writer = .dropped := by
  unfold Journal.start at dropped
  split at dropped
  · cases dropped
  · exact dropped

theorem write_eq (state : Journaling) :
    state.journal.write state.files = (state.work.journal, state.work.files) := rfl

theorem writer_work_ne_idle (begun : state.journal.writer ≠ .idle) :
    state.work.journal.writer ≠ .idle := by
  have written : (state.journal.write state.files).1.writer ≠ .idle := by
    unfold Journal.write
    split
    · dsimp only
      split <;> nofun
    · exact begun
  rwa [write_eq] at written

theorem Sound.act (sound : state.Sound path capacity start) (absent : Absent start path)
    {operation : JournalOperation}
    (legible : ∀ entry, operation = .enqueue entry → entry.Legible) :
    (state.act operation).Sound path capacity start := by
  cases operation with
  | enqueue entry =>
    unfold Journaling.act
    dsimp only
    split
    · next isOpen => exact sound.offered isOpen (legible entry rfl)
    · exact sound
  | start => exact sound.started
  | write => exact sound.worked absent
  | dropWriter => exact sound.writerDropped
  | finish =>
    unfold Journaling.act
    dsimp only
    split
    · -- To end a journal its writer is started and gets to work for the last time.
      exact (sound.started.worked absent).ended (sound.started.complete_work absent)
        (writer_work_ne_idle (writer_start_ne_idle _))
    · exact sound
  | reopen => exact (sound.worked absent).reopened (sound.complete_work absent)

/-- By induction over the run: each operation starts from what the one before it left sound. -/
theorem Sound.run {operations : List JournalOperation} (sound : state.Sound path capacity start)
    (absent : Absent start path)
    (legible : ∀ entry, .enqueue entry ∈ operations → entry.Legible) :
    (state.run operations).Sound path capacity start := by
  induction operations generalizing state with
  | nil => exact sound
  | cons operation operations ih =>
    refine ih (sound.act absent fun entry same => legible entry (same ▸ List.mem_cons_self)) ?_
    exact fun entry member => legible entry (List.mem_cons_of_mem _ member)

/-! ## What can be relied on -/

/-- How it ends for all who offer entries: the answer of the writer, and the files it leaves. -/
inductive Ended (path : String) (state : Journaling) :
    Option (Except LogError Nat) → Files → Prop where
  | complete {files : Files}
      (holds : files.read path = .ok (bytesOf (state.finished.flatten ++ state.accepted))) :
      Ended path state (some (.ok state.accepted.length)) files
  | failed {cause : LogError} (broken : CommitLog.openAt state.files path = .error cause) :
      Ended path state (some (.error cause)) state.files
  | dropped (dropped : state.journal.writer = .dropped) : Ended path state none state.files

/-- What a journal and its log promise: an entry is accepted if there is a writer and a free place
for it, and is otherwise of no effect; the depth is what was accepted and is not written; a writer
that comes to its end leaves behind the earlier entries exactly those that were accepted since;
and the log reads as what was written to it. -/
structure Faithful (path : String) (capacity : Nat) (start : Files) (state : Journaling) :
    Prop where
  accepts : ∀ entry, (state.journal.enqueue entry).1 = .accepted ↔
    (state.journal.writer = .idle ∨ state.journal.writer.works = true) ∧
      state.journal.queue.waiting.length < max 1 capacity
  refuses : ∀ entry, (state.journal.enqueue entry).1 ≠ .accepted →
    state.journal.enqueue entry = (.dropped, state.journal)
  depth : state.journal.queue.depth + state.written.length = state.accepted.length
  ends : state.isOpen = true →
    state.Ended path (state.journal.finish state.files).1 (state.journal.finish state.files).2.2
  log : (state.files = start ∧ state.finished = [] ∧ state.written = []) ∨
    state.files.read path = .ok (bytesOf state.stored)
  reads : state.finished ≠ [] → CommitLog.read state.files path = .ok state.stored

theorem Sound.accepts (sound : state.Sound path capacity start) (entry : JournalEntry) :
    (state.journal.enqueue entry).1 = .accepted ↔
      (state.journal.writer = .idle ∨ state.journal.writer.works = true) ∧
        state.journal.queue.waiting.length < max 1 capacity := by
  have there : state.journal.queue.writerGone = false ↔
      state.journal.writer = .idle ∨ state.journal.writer.works = true := by
    cases sound.accounts with
    | idle fresh _ there _ _ _ => simp [fresh, there]
    | running working there _ _ _ => simp [working, there, WriterState.works]
    | failed failed gone _ _ _ _ _ => simp [failed, gone, WriterState.works]
    | dropped dropped gone _ _ _ => simp [dropped, gone, WriterState.works]
  rw [← there, ← sound.sameCapacity]
  change _ ↔ state.journal.queue.Open
  by_cases free : state.journal.queue.Open
  · simp [enqueue_of_open free, free]
  · simp [enqueue_of_blocked free, free]

theorem Sound.depth (sound : state.Sound path capacity start) :
    state.journal.queue.depth + state.written.length = state.accepted.length := by
  unfold JournalQueue.depth
  cases sound.accounts with
  | idle _ _ _ noLoss unwritten all => simp [noLoss, unwritten, all]
  | running _ _ noLoss all _ =>
    rw [noLoss, all, List.length_append]
    omega
  | failed _ _ nothing lost unwritten _ _ => simp [nothing, lost, unwritten]
  | dropped _ _ nothing lost unwritten => simp [nothing, lost, unwritten]

theorem Sound.written_prefix (sound : state.Sound path capacity start) :
    state.written <+: state.accepted := by
  cases sound.accounts with
  | running _ _ _ all _ => exact ⟨_, all.symm⟩
  | idle _ _ _ _ unwritten _ | failed _ _ _ _ unwritten _ _ | dropped _ _ _ _ unwritten =>
    rw [unwritten]
    exact List.nil_prefix

theorem Sound.legible_stored (sound : state.Sound path capacity start) :
    ∀ entry ∈ state.stored, entry.Legible := by
  obtain ⟨earlier, accepted⟩ := List.forall_mem_append.1 sound.legible
  refine List.forall_mem_append.2 ⟨earlier, fun entry member => accepted entry ?_⟩
  split at member
  · exact sound.written_prefix.subset member
  · cases member

theorem finish_eq (journal : Journal) (files : Files) :
    journal.finish files =
      ((journal.start.write files).1.writer.answer, journal.start.write files) := by
  unfold Journal.finish
  rcases journal.start.write files with ⟨⟨path, queue, writer⟩, later⟩
  cases writer <;> rfl

theorem Sound.ends (sound : state.Sound path capacity start) (absent : Absent start path)
    (isOpen : state.isOpen = true) :
    state.Ended path (state.journal.finish state.files).1
      (state.journal.finish state.files).2.2 := by
  -- Whoever ends the offers has started the writer, so that it is not idle.
  let begun : Journaling := { state with journal := state.journal.start }
  have soundBegun : begun.Sound path capacity start := sound.started
  have wrote : state.journal.start.write state.files = (begun.work.journal, begun.work.files) :=
    write_eq begun
  rw [finish_eq, wrote]
  cases soundBegun.accounts with
  | idle fresh _ _ _ _ _ => exact absurd fresh (writer_start_ne_idle _)
  | running working _ _ _ _ =>
    have complete := soundBegun.complete_work absent
    have worked := soundBegun.work_worked absent
    generalize begun.work = ended at worked complete
    cases worked with
    | resting resting =>
      rw [working] at resting
      cases resting
    | broken unopened untouched _ _ =>
      rw [← untouched.1] at unopened
      exact .failed unopened
    | @flushed later _ _ all _ =>
      have complete := complete rfl
      have holds := complete.holds.read
      have stored : (begun.flushed later).stored = state.finished.flatten ++ state.accepted := by
        have sameAccepted : state.accepted = (begun.flushed later).written := all
        rw [sameAccepted, Journaling.stored]
        exact congrArg (_ ++ ·) (if_pos isOpen)
      rw [stored] at holds
      rw [complete.writer]
      exact .complete holds
  | failed failed _ _ _ _ untouched broken =>
    rw [work_of_resting (by rw [failed]; rfl), failed]
    rw [← untouched] at broken
    exact .failed broken
  | dropped dropped _ _ _ _ =>
    rw [work_of_resting (by rw [dropped]; rfl), dropped]
    exact .dropped (start_dropped dropped)

/-- From an absent log on, every journal and its log keep their promises.  An entry is accepted if
there is a writer and a free place, and what is not accepted leaves no trace; accepted entries are
written once each, in the order in which they came, and those that are not are counted; and when a
journal has ended, the log is read as all that was written to it, by this journal and those before. -/
theorem faithful_of_run {path : String} {start : Files} (absent : Absent start path)
    (capacity : Nat) {operations : List JournalOperation}
    (legible : ∀ entry, .enqueue entry ∈ operations → entry.Legible) :
    ((new path capacity start).run operations).Faithful path capacity start := by
  have sound := (sound_new path capacity start).run absent legible
  refine ⟨sound.accepts, fun entry refused => ?_, sound.depth, sound.ends absent, ?_,
    fun finished => ?_⟩
  · refine enqueue_of_blocked fun free => refused ?_
    rw [enqueue_of_open free]
  · exact sound.stored.imp_right (·.read)
  · rcases sound.stored with ⟨-, noneFinished, -⟩ | holds
    · exact absurd noneFinished finished
    · exact CommitLog.read_of_textOf sound.legible_stored holds.read

theorem faithful_of_run_threeWriters :
    let first : JournalEntry := ⟨"insert_feature", .string "one\ntwo"⟩
    let second : JournalEntry := ⟨"edit_feature", .null⟩
    let operations : List JournalOperation :=
      [.enqueue first, .enqueue second, .finish, .reopen, .enqueue second, .dropWriter, .reopen,
        .enqueue second, .start, .write]
    Absent {} "commit.log" ∧ (∀ entry, .enqueue entry ∈ operations → entry.Legible) ∧
      ((new "commit.log" 0 {}).run operations).Faithful "commit.log" 0 {} ∧
      ((new "commit.log" 0 {}).run operations).stored = [first, second] := by
  intro first second operations
  have unread : ({} : Files).read "commit.log" = .error .missing := by decide +kernel
  have absent : Absent {} "commit.log" :=
    CommitLog.absent_of_unread (.inl (by decide +kernel)) (by rw [unread]; nofun)
  have legible (entry : JournalEntry) (member : .enqueue entry ∈ operations) : entry.Legible := by
    have which : entry = first ∨ entry = second := by
      simpa [operations, or_comm] using member
    rcases which with rfl | rfl
    · exact Json.legible_string _
    · exact ⟨⟨.null, Nat.zero_le _⟩, .null⟩
  exact ⟨absent, legible, faithful_of_run absent 0 legible, by decide +kernel⟩

end LayerGateway.Journaling

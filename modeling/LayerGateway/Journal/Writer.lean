import LayerGateway.Journal.Log
import LayerGateway.Journal.Queue

/-!
# The journal writer

The writer takes entries from the queue and appends them to the commit log.  It can be
started once, and then works until the log fails it or nothing more can come.
`JournalQueue.writeTo` is what it does each time it gets to work; `Journal` follows one
queue with its one writer from the beginning to the end.
-/

namespace LayerGateway

/-- Appends everything that waits to a log, which is made if it is not there, and counts
the entries.  If that fails, the writer goes away. -/
def JournalQueue.writeTo (queue : JournalQueue) (path : String) (files : Files) :
    Except LogError Nat × JournalQueue × Files :=
  let (entries, rest) := queue.takeAll
  let written := do
    let files ← CommitLog.openAt files path
    CommitLog.append files path entries
  match written with
  | .ok files => (.ok entries.length, rest, files)
  | .error cause => (.error cause, queue.dropWriter, files)

inductive WriterState where
  | idle
  /-- At work, with so many entries written. -/
  | running (written : Nat)
  | failed (cause : LogError)
  | dropped
  deriving DecidableEq, Repr

structure Journal where
  path : String
  queue : JournalQueue
  writer : WriterState := .idle

namespace Journal

def new (path : String) (capacity : Nat) : Journal :=
  { path, queue := { capacity } }

def enqueue (journal : Journal) (entry : JournalEntry) : Enqueued × Journal :=
  let (answer, queue) := journal.queue.enqueue entry
  (answer, { journal with queue })

/-- Starts the writer, which does not get to work yet. -/
def start (journal : Journal) : Journal :=
  match journal.writer with
  | .idle => { journal with writer := .running 0 }
  | _ => journal

def dropWriter (journal : Journal) : Journal :=
  match journal.writer with
  | .idle => { journal with queue := journal.queue.dropWriter, writer := .dropped }
  | _ => journal

def write (journal : Journal) (files : Files) : Journal × Files :=
  match journal.writer with
  | .running written =>
      let (result, queue, files) := journal.queue.writeTo journal.path files
      match result with
      | .ok count => ({ journal with queue, writer := .running (written + count) }, files)
      | .error cause => ({ journal with queue, writer := .failed cause }, files)
  | _ => (journal, files)

/-- Waits until everything is written, and says whether it is. -/
def drain (journal : Journal) (files : Files) : Bool × Journal × Files :=
  if journal.queue.depth = 0 then (true, journal, files)
  else
    let (journal, files) := journal.write files
    (journal.queue.depth = 0, journal, files)

/-- Lets the writer come to its end, after the last entry was offered, and answers how
many entries it has written; a writer that was dropped does not answer. -/
def finish (journal : Journal) (files : Files) :
    Option (Except LogError Nat) × Journal × Files :=
  let (journal, files) := journal.start.write files
  match journal.writer with
  | .running written => (some (.ok written), journal, files)
  | .failed cause => (some (.error cause), journal, files)
  | .idle | .dropped => (none, journal, files)

def reopened (journal : Journal) : Journal :=
  .new journal.path journal.queue.capacity

end Journal

end LayerGateway

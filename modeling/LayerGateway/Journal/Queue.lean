import LayerGateway.Journal.Entry

/-!
# The journal queue

Accepted changes wait in a queue of limited length until the writer takes them.  A
change is never held up by the journal: an entry that finds the queue full, or the
writer gone, is dropped.  Entries that were waiting when the writer went away are lost
but still counted, because they were never written.
-/

namespace LayerGateway

inductive Enqueued where
  | accepted
  | dropped
  deriving DecidableEq, Repr

/-- The queue: how many entries it holds, those that wait, oldest first, how many were
lost with the writer, and whether the writer is gone. -/
structure JournalQueue where
  capacity : Nat
  waiting : List JournalEntry := []
  lost : Nat := 0
  writerGone : Bool := false
  deriving DecidableEq

namespace JournalQueue

/-- How many entries wait at most, unless told otherwise. -/
def defaultCapacity : Nat := 10000

/-- How many entries the queue holds; it holds at least one. -/
def room (queue : JournalQueue) : Nat :=
  max 1 queue.capacity

def accepts (queue : JournalQueue) : Bool :=
  !queue.writerGone && queue.waiting.length < queue.room

def enqueue (queue : JournalQueue) (entry : JournalEntry) : Enqueued × JournalQueue :=
  if queue.accepts then (.accepted, { queue with waiting := queue.waiting ++ [entry] })
  else (.dropped, queue)

def depth (queue : JournalQueue) : Nat :=
  queue.waiting.length + queue.lost

def takeAll (queue : JournalQueue) : List JournalEntry × JournalQueue :=
  (queue.waiting, { queue with waiting := [] })

def dropWriter (queue : JournalQueue) : JournalQueue :=
  { queue with
    waiting := []
    lost := queue.lost + queue.waiting.length
    writerGone := true }

end JournalQueue

end LayerGateway

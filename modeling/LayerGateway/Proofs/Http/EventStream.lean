import LayerGateway.Http.Message
import LayerGateway.Proofs.Live.Event
import LayerGateway.Proofs.Text.Pieces
import Mathlib.Data.List.Forall2
import Mathlib.Data.List.ReduceOption

/-!
# Event streams are read back

A client cuts the text of an event stream into lines, at line feeds, carriage returns or both
together, and reads a field off every line.  At a blank line it has the next message.

* `EventStream.frame` is how a message is written, and `read_frame` how it is read again: the
  lines of its data come back, whatever stands in them.
* An event is one line of data (`eventFrame_eq`), since what would end a line is escaped in it.
* `read_written` is the whole stream, with the comments that keep it alive, and
  `eventText_injective` says that no two sequences of events make up one stream.
-/

namespace LayerGateway.Http

namespace EventStream

/-! ## Reading -/

/-- The lines of a text that goes on with the line before it.  What is not ended is no line. -/
def lines : (before : List Char) → List Char → List (List Char)
  | _, [] => []
  | before, '\r' :: '\n' :: rest => before :: lines [] rest
  | before, c :: rest =>
      if c = '\n' ∨ c = '\r' then before :: lines [] rest else lines (before ++ [c]) rest

/-- A line as the name of a field and its value: the name ends at a colon, behind which one blank
may stand.  A comment is a field without a name. -/
def field (line : List Char) : List Char × List Char :=
  let name := line.takeWhile (· ≠ ':')
  let value := (line.drop name.length).tail
  (name, if value.head? = some ' ' then value.tail else value)

/-- What has been read of an event: its name, and its data line by line. -/
structure Message where
  name : List Char := []
  data : List (List Char) := []
  deriving DecidableEq, Repr

namespace Message

def absorb (message : Message) (line : List Char) : Message :=
  let (name, value) := field line
  if name = "event".toList then { message with name := value }
  else if name = "data".toList then { message with data := message.data ++ [value] }
  else message

/-- The messages of some lines, the first of them going on with a message.  One without data is
none. -/
def ofLines : Message → List (List Char) → List Message
  | _, [] => []
  | message, line :: rest =>
      if line ≠ [] then ofLines (message.absorb line) rest
      else if message.data = [] then ofLines {} rest
      else message :: ofLines {} rest

end Message

/-- What a client reads in the text of a stream. -/
def read (text : List Char) : List Message :=
  Message.ofLines {} (lines [] text)

/-! ## Writing -/

/-- The lines of a message: one with its name, one for each line of its data, and a blank one. -/
def frameLines (name : String) (data : List Char) : List (List Char) :=
  ("event: ".toList ++ name.toList) ::
    (Text.pieces '\n' data).map ("data: ".toList ++ ·) ++ [[]]

def ended (lines : List (List Char)) : List Char :=
  lines.flatMap (· ++ ['\n'])

def frame (name : String) (data : List Char) : List Char :=
  ended (frameLines name data)

/-- What is written now and then to keep a connection alive. -/
def comment : List Char :=
  [':', '\n', '\n']

/-! ## Lines -/

/-- Nothing that ends a line. -/
def Whole (line : List Char) : Prop :=
  '\n' ∉ line ∧ '\r' ∉ line

theorem whole_of_printable {line : List Char} (printable : Json.Printable line) : Whole line :=
  ⟨printable.not_mem (by decide), printable.not_mem (by decide)⟩

theorem Whole.append {first second : List Char} (one : Whole first) (other : Whole second) :
    Whole (first ++ second) := by
  simp [Whole, one.1, one.2, other.1, other.2]

theorem lines_line {line : List Char} (whole : Whole line) (before rest : List Char) :
    lines before (line ++ '\n' :: rest) = (before ++ line) :: lines [] rest := by
  induction line generalizing before with
  | nil => simp [lines]
  | cons c line ih =>
    simp only [Whole, List.mem_cons, not_or] at whole ih
    obtain ⟨⟨noEnd, noEnds⟩, noReturn, noReturns⟩ := whole
    have further := ih ⟨noEnds, noReturns⟩ (before ++ [c])
    rw [List.cons_append, lines, if_neg (by simp [Ne.symm noEnd, Ne.symm noReturn]), further,
      List.append_assoc, List.singleton_append]
    exact fun _ same => absurd same.symm noReturn

theorem lines_ended {list : List (List Char)} (whole : ∀ line ∈ list, Whole line)
    (rest : List Char) : lines [] (ended list ++ rest) = list ++ lines [] rest := by
  induction list with
  | nil => rfl
  | cons line list ih =>
    obtain ⟨first, others⟩ := List.forall_mem_cons.1 whole
    have split : ended (line :: list) ++ rest = line ++ '\n' :: (ended list ++ rest) := by
      simp [ended]
    rw [split, lines_line first, List.nil_append, ih others]
    rfl

/-! ## Messages -/

theorem field_of {name : List Char} (noColon : ':' ∉ name) (value : List Char) :
    field (name ++ ':' :: ' ' :: value) = (name, value) := by
  have inside : ∀ c ∈ name, decide (c ≠ ':') = true := by
    intro c member
    refine decide_eq_true fun same => noColon ?_
    exact same ▸ member
  have named : (name ++ ':' :: ' ' :: value).takeWhile (· ≠ ':') = name := by
    rw [List.takeWhile_append_of_pos inside]
    simp
  rw [field, named, List.drop_left]
  rfl

namespace Message

theorem absorb_event (message : Message) (name : List Char) :
    message.absorb ("event: ".toList ++ name) = { message with name } := by
  have read : field ("event: ".toList ++ name) = ("event".toList, name) :=
    field_of (show ':' ∉ "event".toList by decide) name
  rw [absorb, read]
  rfl

theorem absorb_data (message : Message) (line : List Char) :
    message.absorb ("data: ".toList ++ line) =
      { message with data := message.data ++ [line] } := by
  have read : field ("data: ".toList ++ line) = ("data".toList, line) :=
    field_of (show ':' ∉ "data".toList by decide) line
  rw [absorb, read]
  rfl

theorem ofLines_data (message : Message) (data rest : List (List Char)) :
    ofLines message (data.map ("data: ".toList ++ ·) ++ rest) =
      ofLines { message with data := message.data ++ data } rest := by
  induction data generalizing message with
  | nil => simp
  | cons line data ih =>
    have next : ofLines message (("data: ".toList ++ line) ::
        (data.map ("data: ".toList ++ ·) ++ rest)) =
          ofLines (message.absorb ("data: ".toList ++ line))
            (data.map ("data: ".toList ++ ·) ++ rest) := by
      rw [ofLines, if_pos (by simp)]
    rw [List.map_cons, List.cons_append, next, absorb_data, ih, List.append_assoc,
      List.singleton_append]

theorem ofLines_frameLines (name : String) (data : List Char) (rest : List (List Char)) :
    ofLines {} (frameLines name data ++ rest) =
      ⟨name.toList, Text.pieces '\n' data⟩ :: ofLines {} rest := by
  have next : ofLines {} (frameLines name data ++ rest) =
      ofLines { name := name.toList }
        ((Text.pieces '\n' data).map ("data: ".toList ++ ·) ++ [] :: rest) := by
    rw [frameLines, List.cons_append, List.cons_append, ofLines, if_pos (by simp), absorb_event,
      List.append_assoc, List.singleton_append]
  rw [next, ofLines_data, List.nil_append, ofLines, if_neg (by simp),
    if_neg (Text.pieces_ne_nil data)]

end Message

/-- A message is read as it was written, whatever is behind it. -/
theorem read_frame {name : String} {data : List Char} (named : Whole name.toList)
    (noReturn : '\r' ∉ data) (rest : List Char) :
    read (frame name data ++ rest) = ⟨name.toList, Text.pieces '\n' data⟩ :: read rest := by
  have piece : ∀ line ∈ Text.pieces '\n' data, Whole line := by
    intro line member
    have inside := Text.intercalate_sublist ['\n'] (List.singleton_sublist.2 member)
    rw [List.intercalate_singleton, Text.intercalate_pieces] at inside
    exact ⟨Text.not_mem_of_mem_pieces member, fun among => noReturn (inside.subset among)⟩
  have whole : ∀ line ∈ frameLines name data, Whole line := by
    simp only [frameLines, List.cons_append, List.mem_cons, List.mem_append, List.mem_map,
      List.not_mem_nil, or_false]
    rintro line (rfl | ⟨inner, member, rfl⟩ | rfl)
    · exact Whole.append (whole_of_printable (by decide)) named
    · exact Whole.append (whole_of_printable (by decide)) (piece inner member)
    · exact ⟨nofun, nofun⟩
  rw [read, frame, lines_ended whole, Message.ofLines_frameLines]
  rfl

theorem read_comment (rest : List Char) : read (comment ++ rest) = read rest := by
  have whole : ∀ line ∈ [[':'], []], Whole line := by
    simp [Whole]
  have written : comment = ended [[':'], []] := rfl
  rw [read, written, lines_ended whole]
  rfl

/-! ## Change events -/

/-- What is written on a stream: an event, or a comment. -/
def written : Option LayerChanged → List Char
  | some event => eventFrame event
  | none => comment

def messageOf (event : LayerChanged) : Message :=
  ⟨eventName.toList, [event.print]⟩

theorem pieces_print (event : LayerChanged) : Text.pieces '\n' event.print = [event.print] :=
  Text.pieces_whole (event.printable_print.not_mem (by decide))

/-- Events are written as any messages, with one line of data each. -/
theorem eventFrame_eq (event : LayerChanged) :
    eventFrame event = frame eventName event.print := by
  have head : s!"event: {eventName}\n".toList =
      "event: ".toList ++ eventName.toList ++ ['\n'] := by
    decide
  have spelled : eventFrame event = "event: ".toList ++ eventName.toList ++ ['\n'] ++
      "data: ".toList ++ event.print ++ ['\n', '\n'] :=
    congrArg (· ++ "data: ".toList ++ event.print ++ ['\n', '\n']) head
  rw [spelled, frame, frameLines, pieces_print]
  -- The labels need not be looked into.
  generalize "event: ".toList = nameLabel
  generalize "data: ".toList = dataLabel
  generalize eventName.toList = name
  simp [ended]

theorem read_eventFrame (event : LayerChanged) (rest : List Char) :
    read (eventFrame event ++ rest) = messageOf event :: read rest := by
  have named : Whole eventName.toList := whole_of_printable (by decide)
  rw [eventFrame_eq, read_frame named (event.printable_print.not_mem (by decide)), pieces_print]
  rfl

/-- A client reads the events in their order, and of the comments nothing. -/
theorem read_written (parts : List (Option LayerChanged)) :
    read (parts.flatMap written) = parts.reduceOption.map messageOf := by
  induction parts with
  | nil => rfl
  | cons part parts ih =>
    cases part with
    | none =>
      rw [List.flatMap_cons, written, read_comment, ih]
      rfl
    | some event =>
      rw [List.flatMap_cons, written, read_eventFrame, ih]
      rfl

theorem read_eventText (events : List LayerChanged) :
    read (eventText events) = events.map messageOf := by
  induction events with
  | nil => rfl
  | cons event events ih =>
    rw [eventText, List.flatMap_cons, read_eventFrame]
    exact congrArg (messageOf event :: ·) ih

theorem eventText_eq (events : List LayerChanged) :
    eventText events = events.flatMap fun event => frame eventName event.print :=
  List.flatMap_congr fun event _ => eventFrame_eq event

theorem eventText_append (events others : List LayerChanged) :
    eventText (events ++ others) = eventText events ++ eventText others :=
  List.flatMap_append

theorem eventText_eq_nil_iff {events : List LayerChanged} : eventText events = [] ↔ events = [] := by
  constructor
  · intro nothing
    have read := read_eventText events
    rw [nothing] at read
    exact List.map_eq_nil_iff.1 read.symm
  · rintro rfl
    rfl

/-- A message that tells an event: by the name of all of them, and on one line. -/
def Message.Tells (message : Message) (event : LayerChanged) : Prop :=
  message.name = "layer_changed".toList ∧ ∃ line, message.data = [line] ∧
    Json.decode LayerChanged.decoder (.ofText (String.ofList line)) = .ok event

theorem tells_messageOf {event : LayerChanged} (timed : event.Timed) :
    (messageOf event).Tells event :=
  ⟨rfl, event.print, rfl, timed.decode_print⟩

theorem forall₂_messageOf {events : List LayerChanged} (timed : ∀ event ∈ events, event.Timed) :
    List.Forall₂ Message.Tells (events.map messageOf) events := by
  induction events with
  | nil => exact .nil
  | cons event events ih =>
    obtain ⟨first, rest⟩ := List.forall_mem_cons.1 timed
    exact .cons (tells_messageOf first) (ih rest)

theorem Message.Tells.unique {message : Message} {event other : LayerChanged}
    (tells : message.Tells event) (also : message.Tells other) : event = other := by
  obtain ⟨-, line, data, decoded⟩ := tells
  obtain ⟨-, again, same, decodedAgain⟩ := also
  obtain rfl : line = again := by
    rw [data] at same
    exact (List.cons.inj same).1
  exact Except.ok.inj (decoded.symm.trans decodedAgain)

theorem eq_of_forall₂_tells {messages : List Message} {events others : List LayerChanged}
    (tell : List.Forall₂ Message.Tells messages events)
    (also : List.Forall₂ Message.Tells messages others) : events = others := by
  induction tell generalizing others with
  | nil =>
    cases also
    rfl
  | cons tells _ ih =>
    cases also with
    | cons tellsAlso rest => rw [tells.unique tellsAlso, ih rest]

/-- No two sequences of events have one text. -/
theorem eventText_injective {events others : List LayerChanged}
    (timed : ∀ event ∈ events, event.Timed) (othersTimed : ∀ event ∈ others, event.Timed)
    (same : eventText events = eventText others) : events = others := by
  have messages : events.map messageOf = others.map messageOf := by
    rw [← read_eventText, same, read_eventText]
  have tell := forall₂_messageOf timed
  rw [messages] at tell
  exact eq_of_forall₂_tells tell (forall₂_messageOf othersTimed)

end EventStream

end LayerGateway.Http

import LayerGateway.Proofs.Json.Members
import LayerGateway.Proofs.Json.OneLine
import LayerGateway.Proofs.Json.Records
import LayerGateway.Proofs.Json.Trailing
import LayerGateway.Proofs.Text.Utf8
import LayerGateway.Socket.Peer

/-!
# Replies as they are written and read

A reply is one line, whatever texts it carries, and who reads the line gets the reply back.

* `Reply.ofLine?` is how a client reads a line.
* `Reply.Gives` says of a line that it gives a reply: what is written on it, where it ends, and what
  is read of it.
* `Reply.gives_line` says that the line of every reply does.
* `menu` is the one answer that has several lines.
-/

namespace LayerGateway.Socket

/-- A text whose one line feed is its last byte. -/
def OneLine (text : String) : Prop :=
  ∃ body, Text.encode text = body ++ [0x0A] ∧ 0x0A ∉ body

namespace Reply

/-- Reads a reply: its status, and beside it data or a message. -/
def ofLine? (line : String) : Option Reply :=
  match Json.decode Json.anyValue (.ofText line) with
  | .error _ => none
  | .ok json =>
      match json.member? "status", json.member? "data", json.member? "error" with
      | some (.string "ok"), some data, none => some (.ok data)
      | some (.string "error"), none, some (.string message) => some (.error message)
      | _, _, _ => none

/-- The replies that can be read.  Data must not nest too deep, and must be told apart when they
are printed. -/
def Legible : Reply → Prop
  | .ok data => data.Canonical ∧ data.Survives ∧ data.depth < Json.maxDepth
  | .error _ => True

/-- A line that gives a reply. -/
structure Gives (reply : Reply) (line : String) : Prop where
  written : line =
    match reply with
    | .ok data => "\x7b\"status\":\"ok\",\"data\":" ++ data.text ++ "\x7d\n"
    | .error message =>
        "\x7b\"status\":\"error\",\"error\":" ++ (Json.string message).text ++ "\x7d\n"
  oneLine : OneLine line
  read : reply.Legible → ofLine? line = some reply

variable {reply : Reply}

/-! ## Writing -/

theorem line_eq (reply : Reply) :
    reply.line = String.ofList ((Json.object reply.members).print ++ ['\n']) := by
  rw [line, Json.print]

theorem oneLine_line (reply : Reply) : OneLine reply.line := by
  rw [line_eq]
  refine ⟨Text.encodeChars (Json.object reply.members).print, ?_, ?_⟩
  · rw [Text.encode, String.toList_ofList, Text.encodeChars, List.flatMap_append]
    rfl
  · intro among
    have printable := Json.printable_print (Json.object reply.members)
    refine printable.not_mem (by decide) ((Text.ascii_mem_encodeChars (n := 0x0A) ?_ _).1 among)
    decide

/-- A line with two members is what is in front of the value of the second one, the value and what
is behind it. -/
theorem line_of_members {status key before : String} {value : Json}
    (two : reply.members = [("status", .string status), (key, value)])
    (spelled : before = String.ofList ('\x7b' :: (Json.stringText "status" ++ ':' ::
      (Json.stringText status ++ ',' :: (Json.stringText key ++ [':']))))) :
    reply.line = before ++ value.text ++ "\x7d\n" := by
  have behind : "\x7d\n" = String.ofList ['\x7d', '\n'] := rfl
  rw [line, two, spelled, behind, Json.text, ← String.ofList_append, ← String.ofList_append]
  simp [Json.printMembers, Json.objectText, Json.commaSeparated, Json.print]

theorem line_written (reply : Reply) : reply.line =
    match reply with
    | .ok data => "\x7b\"status\":\"ok\",\"data\":" ++ data.text ++ "\x7d\n"
    | .error message =>
        "\x7b\"status\":\"error\",\"error\":" ++ (Json.string message).text ++ "\x7d\n" := by
  cases reply with
  | ok data => exact line_of_members rfl (by decide)
  | error message => exact line_of_members rfl (by decide)

/-! ## Reading -/

/-- What is read of a line with an object. -/
theorem decode_line {value : Json} (survives : (Json.object reply.members).Survives)
    (shallow : (Json.object reply.members).depth ≤ Json.maxDepth)
    (decodes : Json.Decodes Json.anyValue (.object reply.members) value) :
    Json.decode Json.anyValue (.ofText reply.line) = .ok value := by
  have inside : Json.anyValue (.text Json.maxDepth) (.ofJson (.object reply.members)) = .ok value := by
    rw [decodes, Json.Origin.limit_text shallow]
  have whole := Json.toJson_whole inside
  have noNumber (number : Option Number) :
      Json.Document.ofJson (.object reply.members) ≠ .number number := by
    rw [Json.Document.ofJson]
    exact Json.Document.noConfusion
  -- The line feed behind the object is only a blank to who reads it.
  have read := Json.ofText_append (Json.reads_print survives).ofText whole noNumber ['\n']
  rw [line_eq, read, Json.decode, bind_of_ok inside]
  rfl

theorem survives_members (legible : reply.Legible) : (Json.object reply.members).Survives := by
  cases reply with
  | ok data =>
    refine .object trivial ?_
    simpa [members, Json.Every.string] using legible.2.1
  | error message =>
    refine .object trivial ?_
    simp [members, Json.Every.string]

theorem depth_members (legible : reply.Legible) :
    (Json.object reply.members).depth ≤ Json.maxDepth := by
  cases reply with
  | ok data =>
    have shallow := legible.2.2
    simp only [members, Json.depth, Json.depthMembers]
    omega
  | error message =>
    simp only [members, Json.depth, Json.depthMembers]
    decide

theorem canonical_members (legible : reply.Legible) :
    ∀ member ∈ reply.members, member.2.Canonical := by
  cases reply with
  | ok data => simpa [members, Json.Every.string] using legible.1
  | error message => simp [members, Json.Every.string]

theorem ofLine?_line (legible : reply.Legible) : ofLine? reply.line = some reply := by
  -- The members are read in the order of their keys, so each is looked up.
  have decodes : Json.Decodes Json.anyValue (.object reply.members) (.ofMembers reply.members) :=
    Json.decodes_object (Json.toMembers_ofJson fun member among =>
      Json.toJson_ofJson (canonical_members legible member among))
  rw [ofLine?, decode_line (survives_members legible) (depth_members legible) decodes]
  have status (text : String) (key : String) (value : Json) (other : key ≠ "status") :
      (Json.ofMembers [("status", .string text), (key, value)]).member? "status" =
        some (.string text) :=
    Json.member?_ofMembers [] [(key, value)] (by simpa using other)
  cases reply with
  | ok data =>
    have found : (Json.ofMembers (ok data).members).member? "data" = some data :=
      Json.member?_ofMembers [("status", .string "ok")] [] nofun
    have absent : (Json.ofMembers (ok data).members).member? "error" = none :=
      Json.member?_ofMembers_eq_none (by simp [members])
    simp only [found, absent]
    simp only [members, status "ok" "data" data (by decide)]
  | error message =>
    have found : (Json.ofMembers (error message).members).member? "error" =
        some (.string message) :=
      Json.member?_ofMembers [("status", .string "error")] [] nofun
    have absent : (Json.ofMembers (error message).members).member? "data" = none :=
      Json.member?_ofMembers_eq_none (by simp [members])
    simp only [found, absent]
    simp only [members, status "error" "error" (.string message) (by decide)]

theorem gives_line (reply : Reply) : reply.Gives reply.line :=
  ⟨line_written reply, oneLine_line reply, ofLine?_line⟩

end Reply

/-! ## The methods -/

/-- All that can be asked for, one name on a line. -/
def menu : String :=
  String.join ["Methods:\n", "\t ping\n", "\t help\n", "\t create_apikey\n", "\t insert_apikey\n",
    "\t export_apikeys\n", "\t export_apikey\n", "\t assign_datasource\n",
    "\t create_datasource\n", "\t insert_layer\n", "\t delete_datasource\n", "\t delete_layer\n",
    "\t insert_feature\n", "\t edit_feature\n", "\t export_datasources\n",
    "\t export_datasource\n", "\t export_layer\n", "\t export_feature\n",
    "\t export_snapshots\n", "\t export_snapshot\n", "\t import_file\n"]

theorem helpText_eq : helpText = menu := by
  decide +kernel

end LayerGateway.Socket

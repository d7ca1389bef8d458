import LayerGateway.Proofs.Gateway.Run
import LayerGateway.Proofs.Socket.Reply
import LayerGateway.Proofs.Text.Pieces
import LayerGateway.Proofs.Text.Utf8
import LayerGateway.Socket.Session

/-!
# Sessions, line by line

A session is told by its lines alone: `Session` walks them in order, each request being answered
and carried out before the next line is looked at, and ends at the first line that is none.

* `Cut` says what the lines of a stream of bytes are, and `Reads` what stands on a line.
* `Session` has one rule for each thing a line can be.
* `converse_session` is the whole of it.
-/

namespace LayerGateway.Socket

/-! ## Lines -/

/-- The lines of what is sent: each ends with a line feed, but the last one may go without. -/
inductive Cut : Bytes → List Bytes → Prop where
  | nothing : Cut [] []
  | unended {line : Bytes} (some : line ≠ []) (whole : 0x0A ∉ line) : Cut line [line]
  | ended {line rest : Bytes} {lines : List Bytes} (whole : 0x0A ∉ line) (further : Cut rest lines) :
      Cut (line ++ 0x0A :: rest) (line :: lines)

/-- What ends where a line ends. -/
def Whole (sent : Bytes) : Prop :=
  sent = [] ∨ sent.getLast? = some 0x0A

/-- The bytes of a line are those of a text, and of carriage returns behind it. -/
def Reads (line : Bytes) (text : List Char) : Prop :=
  text.getLast? ≠ some '\r' ∧
    ∃ returns, Text.decode? line = some (String.ofList (text ++ List.replicate returns '\r'))

/-- A line without anything on it. -/
def Blank (line : Bytes) : Prop :=
  ∃ text, Reads line text ∧ Text.isBlankLine text = true

/-- A line that is a request. -/
def Asks (line : Bytes) (request : Request) : Prop :=
  ∃ text, Reads line text ∧ Text.isBlankLine text = false ∧
    Request.ofLine (String.ofList text) = .ok request

/-- A line that is neither blank nor a request, and what is wrong with it. -/
inductive Malformed (line : Bytes) : String → Prop where
  | notText (stray : Text.decode? line = none) : Malformed line Line.notText
  | noRequest {text : List Char} {cause : Json.ReadError} (reads : Reads line text)
      (notBlank : Text.isBlankLine text = false)
      (refused : Request.ofLine (String.ofList text) = .error cause) :
      Malformed line cause.message

section Lines

variable {line sent rest : Bytes} {lines : List Bytes} {text : List Char} {request : Request}
  {reason : String}

theorem withoutReturns_append (notReturn : text.getLast? ≠ some '\r') (returns : Nat) :
    Line.withoutReturns (text ++ List.replicate returns '\r') = text := by
  have dropped : (text ++ List.replicate returns '\r').reverse.dropWhile (· == '\r') =
      text.reverse := by
    rw [List.reverse_append, List.reverse_replicate, List.dropWhile_append_of_pos (by simp)]
    cases reversed : text.reverse with
    | nil => rfl
    | cons c others =>
      have last : text.getLast? = some c := by
        rw [List.getLast?_eq_head?_reverse, reversed]
        rfl
      have different : c ≠ '\r' := fun same => notReturn (same ▸ last)
      simp [different]
  rw [Line.withoutReturns, dropped, List.reverse_reverse]

theorem exists_returns (whole : List Char) :
    ∃ returns, whole = Line.withoutReturns whole ++ List.replicate returns '\r' := by
  have returns : ∀ c ∈ whole.reverse.takeWhile (· == '\r'), c = '\r' := fun c member =>
    beq_iff_eq.1 (List.all_eq_true.1 List.all_takeWhile c member)
  refine ⟨(whole.reverse.takeWhile (· == '\r')).length, ?_⟩
  calc whole
      = (whole.reverse.takeWhile (· == '\r') ++ whole.reverse.dropWhile (· == '\r')).reverse := by
        rw [List.takeWhile_append_dropWhile, List.reverse_reverse]
    _ = Line.withoutReturns whole ++ (whole.reverse.takeWhile (· == '\r')).reverse :=
        List.reverse_append
    _ = _ := by
        rw [List.eq_replicate_of_mem returns, List.reverse_replicate, List.length_replicate]

theorem getLast?_withoutReturns (whole : List Char) :
    (Line.withoutReturns whole).getLast? ≠ some '\r' := by
  intro last
  rw [Line.withoutReturns, List.getLast?_reverse] at last
  have notReturn := List.head?_dropWhile_not (· == '\r') whole.reverse
  rw [last] at notReturn
  cases notReturn

theorem reads_iff :
    Reads line text ↔ ∃ whole, Text.decode? line = some whole ∧
      Line.withoutReturns whole.toList = text := by
  constructor
  · rintro ⟨notReturn, returns, decoded⟩
    refine ⟨_, decoded, ?_⟩
    rw [String.toList_ofList, withoutReturns_append notReturn]
  · rintro ⟨whole, decoded, rfl⟩
    obtain ⟨returns, split⟩ := exists_returns whole.toList
    refine ⟨getLast?_withoutReturns _, returns, ?_⟩
    rw [decoded, ← split, String.ofList_toList]

theorem ofBytes_of_blank (reads : Reads line text) (blank : Text.isBlankLine text = true) :
    Line.ofBytes line = .blank := by
  obtain ⟨whole, decoded, rfl⟩ := reads_iff.1 reads
  simp only [Line.ofBytes, decoded, Line.ofText, blank, if_true]

theorem ofBytes_of_request (reads : Reads line text) (notBlank : Text.isBlankLine text = false)
    (read : Request.ofLine (String.ofList text) = .ok request) :
    Line.ofBytes line = if request.method = Method.help then .help else .request request := by
  obtain ⟨whole, decoded, rfl⟩ := reads_iff.1 reads
  simp only [Line.ofBytes, decoded, Line.ofText, notBlank, read, Bool.false_eq_true, if_false]

theorem ofBytes_of_malformed (malformed : Malformed line reason) :
    Line.ofBytes line = .malformed reason := by
  cases malformed with
  | notText stray => simp only [Line.ofBytes, stray]
  | noRequest reads notBlank refused =>
    obtain ⟨whole, decoded, rfl⟩ := reads_iff.1 reads
    simp only [Line.ofBytes, decoded, Line.ofText, notBlank, refused, Bool.false_eq_true, if_false]

theorem ofBytes_cases (line : Bytes) :
    (Line.ofBytes line = .blank ∧ Blank line) ∨
    (∃ request, Line.ofBytes line = .help ∧ Asks line request ∧ request.method = Method.help) ∨
    (∃ request, Line.ofBytes line = .request request ∧ Asks line request ∧
      request.method ≠ Method.help) ∨
    ∃ reason, Line.ofBytes line = .malformed reason ∧ Malformed line reason := by
  cases decoded : Text.decode? line with
  | none =>
    have malformed := Malformed.notText decoded
    exact .inr (.inr (.inr ⟨_, ofBytes_of_malformed malformed, malformed⟩))
  | some whole =>
    have reads : Reads line (Line.withoutReturns whole.toList) :=
      reads_iff.2 ⟨whole, decoded, rfl⟩
    generalize Line.withoutReturns whole.toList = text at reads
    cases blank : Text.isBlankLine text with
    | true => exact .inl ⟨ofBytes_of_blank reads blank, text, reads, blank⟩
    | false =>
      cases read : Request.ofLine (String.ofList text) with
      | error cause =>
        have malformed := Malformed.noRequest reads blank read
        exact .inr (.inr (.inr ⟨_, ofBytes_of_malformed malformed, malformed⟩))
      | ok request =>
        have asks : Asks line request := ⟨text, reads, blank, read⟩
        have what := ofBytes_of_request reads blank read
        by_cases help : request.method = Method.help
        · exact .inr (.inl ⟨request, what.trans (if_pos help), asks, help⟩)
        · exact .inr (.inr (.inl ⟨request, what.trans (if_neg help), asks, help⟩))

theorem Malformed.ne_nil (malformed : Malformed line reason) : line ≠ [] := by
  rintro rfl
  have blank : Line.ofBytes [] = .blank := rfl
  rw [ofBytes_of_malformed malformed] at blank
  cases blank

/-! ## What is sent -/

theorem linesOf_ended (whole : 0x0A ∉ line) (rest : Bytes) :
    linesOf (line ++ 0x0A :: rest) = Line.ofBytes line :: linesOf rest := by
  have some : Text.pieces 0x0A rest ≠ [] := Text.pieces_ne_nil rest
  rw [linesOf, linesOf, Text.pieces_line whole, List.dropLast_cons_of_ne_nil some,
    List.getLast?_cons_of_ne_nil some]
  rfl

theorem linesOf_unended (some : line ≠ []) (whole : 0x0A ∉ line) :
    linesOf line = [Line.ofBytes line] := by
  rw [linesOf, Text.pieces_whole whole]
  simp [some]

theorem exists_cut (sent : Bytes) :
    ∃ lines, Cut sent lines ∧ linesOf sent = lines.map Line.ofBytes := by
  -- What is left behind the first line feed is shorter.
  induction length : sent.length using Nat.strongRecOn generalizing sent with
  | ind _ ih =>
    by_cases ends : 0x0A ∈ sent
    · obtain ⟨line, rest, rfl, whole⟩ := List.eq_append_cons_of_mem ends
      have shorter : rest.length < (line ++ 0x0A :: rest).length := by
        rw [List.length_append, List.length_cons]
        omega
      obtain ⟨lines, cut, same⟩ := ih rest.length (length ▸ shorter) rest rfl
      refine ⟨line :: lines, .ended whole cut, ?_⟩
      rw [linesOf_ended whole, same, List.map_cons]
    · by_cases some : sent = []
      · subst some
        exact ⟨[], .nothing, rfl⟩
      · exact ⟨[sent], .unended some ends, linesOf_unended some ends⟩

theorem linesOf_append (ends : Whole sent) (rest : Bytes) :
    linesOf (sent ++ rest) = linesOf sent ++ linesOf rest := by
  obtain ⟨lines, cut, -⟩ := exists_cut sent
  induction cut with
  | nothing => rfl
  | unended some whole =>
    rcases ends with none | last
    · exact absurd none some
    · exact absurd (List.mem_of_getLast? last) whole
  | @ended line further lines whole cut ih =>
    -- The last byte of all that is sent is the last one behind this line, if there is any.
    have ends : Whole further := by
      rcases ends with none | last
      · simp at none
      · rw [List.getLast?_append, List.getLast?_cons] at last
        cases left : further.getLast? with
        | none => exact .inl (List.getLast?_eq_none_iff.1 left)
        | some byte =>
          rw [left] at last
          exact .inr (left.trans last)
    rw [List.append_assoc, List.cons_append, linesOf_ended whole, linesOf_ended whole, ih ends,
      List.cons_append]

end Lines

/-! ## Answers -/

/-- A gateway to which commands were given one after the other. -/
def given (gateway : Gateway) (commands : List (Caller × Command)) : Gateway :=
  commands.foldl (fun gateway command => (Gateway.dispatch command.1 command.2 gateway).2) gateway

/-- The reply to a request, the commands that are given to the gateway for it, and the gateway
after them. -/
inductive Answered (gateway : Gateway) (request : Request) :
    Reply → List (Caller × Command) → Gateway → Prop where
  | refused {cause : BadRequest}
      (refused : Command.build? request.method request.arguments = .error cause) :
      Answered gateway request (.error cause.message) [] gateway
  | done {command : Command} {outcome : Outcome} {next : Gateway}
      (built : Command.build? request.method request.arguments = .ok command)
      (ran : Gateway.dispatch (callerFor command request.arguments.apikey) command gateway =
        (.ok outcome, next)) :
      Answered gateway request (.ok outcome.toJson)
        [(callerFor command request.arguments.apikey, command)] next
  | failed {command : Command} {error : GatewayError} {next : Gateway}
      (built : Command.build? request.method request.arguments = .ok command)
      (ran : Gateway.dispatch (callerFor command request.arguments.apikey) command gateway =
        (.error error, next)) :
      Answered gateway request (.error error.message)
        [(callerFor command request.arguments.apikey, command)] next

/-- A session: the lines that are sent to a gateway, the replies, the commands that are given to the
gateway, and what becomes of it.  Lines behind a malformed one do not count. -/
inductive Session :
    Gateway → List Bytes → List String → List (Caller × Command) → Gateway → Prop where
  | ended {gateway : Gateway} : Session gateway [] [] [] gateway
  | blank {gateway after : Gateway} {line : Bytes} {lines : List Bytes} {replies : List String}
      {commands : List (Caller × Command)} (blank : Blank line)
      (further : Session gateway lines replies commands after) :
      Session gateway (line :: lines) replies commands after
  | help {gateway after : Gateway} {line : Bytes} {lines : List Bytes} {replies : List String}
      {commands : List (Caller × Command)} {request : Request} (asks : Asks line request)
      (help : request.method = Method.help)
      (further : Session gateway lines replies commands after) :
      Session gateway (line :: lines) (menu :: replies) commands after
  | request {gateway next after : Gateway} {line : Bytes} {lines : List Bytes}
      {replies : List String} {ran commands : List (Caller × Command)} {request : Request}
      {reply : Reply} {text : String} (asks : Asks line request)
      (notHelp : request.method ≠ Method.help) (answered : Answered gateway request reply ran next)
      (gives : reply.Gives text) (further : Session next lines replies commands after) :
      Session gateway (line :: lines) (text :: replies) (ran ++ commands) after
  | broken {gateway : Gateway} {line : Bytes} {lines : List Bytes} {reason text : String}
      (malformed : Malformed line reason) (gives : (Reply.error reason).Gives text) :
      Session gateway (line :: lines) [text] [] gateway

section Session

variable {gateway next after : Gateway} {request : Request} {reply : Reply} {lines : List Bytes}
  {replies : List String} {ran commands : List (Caller × Command)}

theorem Answered.given_eq (answered : Answered gateway request reply ran next) :
    given gateway ran = next := by
  cases answered with
  | refused refused => rfl
  | done built ran | failed built ran => exact congrArg Prod.snd ran

theorem execute_answered (gateway : Gateway) (request : Request) :
    ∃ ran, Answered gateway request (execute request gateway).1 ran (execute request gateway).2 := by
  rw [execute]
  cases built : Command.build? request.method request.arguments with
  | error cause => exact ⟨[], .refused built⟩
  | ok command =>
    dsimp only
    cases ran : Gateway.dispatch (callerFor command request.arguments.apikey) command gateway with
    | mk result next =>
      cases result with
      | ok outcome => exact ⟨_, .done built ran⟩
      | error error => exact ⟨_, .failed built ran⟩

theorem Session.given_eq (session : Session gateway lines replies commands after) :
    given gateway commands = after := by
  induction session with
  | ended => rfl
  | blank blank further ih => exact ih
  | help asks help further ih => exact ih
  | request asks notHelp answered gives further ih =>
    rw [given, List.foldl_append]
    exact (congrArg (given · _) answered.given_eq).trans ih
  | broken malformed gives => rfl

theorem Session.oneLine (session : Session gateway lines replies commands after) :
    ∀ reply ∈ replies, reply = menu ∨ OneLine reply := by
  induction session with
  | ended => exact nofun
  | blank blank further ih => exact ih
  | help asks help further ih => exact List.forall_mem_cons.2 ⟨.inl rfl, ih⟩
  | request asks notHelp answered gives further ih =>
    exact List.forall_mem_cons.2 ⟨.inr gives.oneLine, ih⟩
  | broken malformed gives => exact List.forall_mem_cons.2 ⟨.inr gives.oneLine, nofun⟩

theorem answers_session (gateway : Gateway) (lines : List Bytes) :
    ∃ commands, Session gateway lines (answers (lines.map Line.ofBytes) gateway).1 commands
      (answers (lines.map Line.ofBytes) gateway).2 := by
  -- The lines behind a request are for the gateway that has carried it out.
  induction lines generalizing gateway with
  | nil => exact ⟨[], .ended⟩
  | cons line lines ih =>
    rw [List.map_cons]
    rcases ofBytes_cases line with ⟨what, blank⟩ | ⟨request, what, asks, help⟩ |
      ⟨request, what, asks, notHelp⟩ | ⟨reason, what, malformed⟩
    all_goals rw [what]
    · obtain ⟨commands, further⟩ := ih gateway
      exact ⟨commands, .blank blank further⟩
    · obtain ⟨commands, further⟩ := ih gateway
      refine ⟨commands, ?_⟩
      simp only [answers, helpText_eq]
      exact .help asks help further
    · obtain ⟨ran, answered⟩ := execute_answered gateway request
      obtain ⟨commands, further⟩ := ih (execute request gateway).2
      exact ⟨ran ++ commands, .request asks notHelp answered (Reply.gives_line _) further⟩
    · exact ⟨[], .broken malformed (Reply.gives_line _)⟩

end Session

/-- Nothing behind a malformed line is answered. -/
theorem answers_append_malformed (reason : String) (first rest : List Line) (gateway : Gateway) :
    answers (first ++ .malformed reason :: rest) gateway =
      answers (first ++ [.malformed reason]) gateway := by
  induction first generalizing gateway with
  | nil => rfl
  | cons line first ih =>
    cases line with
    | blank => exact ih gateway
    | help =>
      simp only [List.cons_append, answers, bind, StateT.bind, ih]
    | request request =>
      simp only [List.cons_append, answers, bind, StateT.bind, ih]
    | malformed reason => rfl

/-- A conversation is a session of the lines that are sent.  What is received is one reply for each
request, in the order of the requests, and none for a blank line; every reply is one line that gives
its status with the data or the message, or it is the menu.  What becomes of the gateway are the
commands one after the other.  Where a session has a malformed line, it is as if nothing came behind
it. -/
theorem converse_session (gateway : Gateway) (sent : Bytes) :
    ∃ lines replies commands,
      Cut sent lines ∧
      Session gateway lines replies commands (converse sent gateway).2 ∧
      Text.encode (converse sent gateway).1 = replies.flatMap Text.encode ∧
      (∀ reply ∈ replies, reply = menu ∨ OneLine reply) ∧
      (converse sent gateway).2 = given gateway commands ∧
      ∀ before line rest reason, Whole before → 0x0A ∉ line → Malformed line reason →
        sent = before ++ (line ++ 0x0A :: rest) →
        converse sent gateway = converse (before ++ line) gateway := by
  obtain ⟨lines, cut, same⟩ := exists_cut sent
  obtain ⟨commands, session⟩ := answers_session gateway lines
  rw [← same] at session
  refine ⟨lines, _, commands, cut, session, ?_, session.oneLine, session.given_eq.symm, ?_⟩
  -- What is received is the replies one behind the other, so encoding goes reply by reply.
  · have joined : (converse sent gateway).1 = String.join (answers (linesOf sent) gateway).1 := rfl
    rw [joined, Text.encode, String.toList_join, Text.encodeChars, List.flatMap_assoc]
    rfl
  -- With the rest or without it, the lines are the same up to the malformed one.
  · rintro before line rest reason ends whole malformed rfl
    rw [converse, converse, linesOf_append ends, linesOf_append ends, linesOf_ended whole,
      linesOf_unended malformed.ne_nil whole, ofBytes_of_malformed malformed]
    simp only [bind, StateT.bind, answers_append_malformed reason (linesOf before) (linesOf rest)]

/-- Two requests, one of which fails, and a call for the methods, before a line that is no text. -/
theorem converse_session_served :
    let gateway := Gateway.fresh .inMemory
    let heard := Text.encode (" \r\n\x7b\"method\":\"create_datasource\",\"datasource\":\"d\"\x7d\n" ++
      "\x7b\"method\":\"help\"\x7d\r\n\x7b\"method\":\"drop\"\x7d\n")
    (converse (heard ++ [0xFF]) gateway).1 = String.join
      ["\x7b\"status\":\"ok\",\"data\":\x7b\"datasource\":\"d\"\x7d\x7d\n", menu,
        "\x7b\"status\":\"error\",\"error\":\"method not found: drop\"\x7d\n",
        "\x7b\"status\":\"error\",\"error\":\"stream did not contain valid UTF-8\"\x7d\n"] ∧
    converse (heard ++ ([0xFF] ++ 0x0A :: heard)) gateway = converse (heard ++ [0xFF]) gateway := by
  intro gateway heard
  obtain ⟨lines, replies, commands, -, -, -, -, -, unheard⟩ :=
    converse_session gateway (heard ++ ([0xFF] ++ 0x0A :: heard))
  -- What stands behind the line that is no text is what stood before it, and is not heard again.
  refine ⟨?_, unheard heard [0xFF] heard _ (.inr rfl) (by decide) (.notText rfl) rfl⟩
  decide +kernel

end LayerGateway.Socket

import LayerGateway.Proofs.Json.Decoding
import LayerGateway.Proofs.Socket.Session

/-!
# Lines of requests

A line is read in two steps: first the whole object, of which only the method is kept and every
other member is looked through, and then the arguments among its members.

* `Request.ofLine_print` puts both together for an object that was printed.
* `asks_print` says that such an object is a line that asks for something, and `converse_of_asks`
  what is answered to it when it is all that is sent.
-/

namespace LayerGateway

open Json (Document)

namespace Json.Shape

variable {σ : Type} {shape : Shape σ}

/-- A record of members that were read before is as good as what they fill. -/
theorem closed_of_fill {blank draft : σ} {extra : List Unit} {members : List (String × Json)}
    (filled : shape.fill .member skip [] blank (Document.ofJsonMembers members) =
      .ok (draft, extra)) :
    shape.closed blank .member (Document.ofJson (.object members)) = .ok draft := by
  rw [Document.ofJson, closed]
  change (shape.fill .member skip [] blank (Document.ofJsonMembers members) >>= _) = _
  rw [filled]
  rfl

end Json.Shape

namespace Socket

namespace Request

variable {origin : Json.Origin} {members : List (String × Json)}

theorem argument_of_readable {document : Document} {json : Json}
    (readable : document.toJson origin = .ok json) : argument origin document = .ok document := by
  rw [argument, readable]
  rfl

/-- Members that are not the method are kept as they were written. -/
theorem fill_arguments (foreign : ∀ member ∈ members, member.1 ≠ "method")
    (readable : ∀ member ∈ members, ∃ json, (Document.ofJson member.2).toJson origin = .ok json)
    (seen : List String) (draft : Option String) :
    shape.fill origin (fun key value => do return [(key, ← argument origin value)]) seen draft
        (Document.ofJsonMembers members) =
      .ok (draft, members.map fun member => (member.1, Document.ofJson member.2)) := by
  induction members with
  | nil => rfl
  | cons member members ih =>
    obtain ⟨key, value⟩ := member
    obtain ⟨here, others⟩ := List.forall_mem_cons.1 foreign
    obtain ⟨⟨json, read⟩, rest⟩ := List.forall_mem_cons.1 readable
    have unknown : shape.field? key = none := by
      simp [shape, Json.Shape.field?, Json.Field.of, Ne.symm here]
    rw [Document.ofJsonMembers, Json.Shape.fill_foreign unknown]
    rw [argument_of_readable read, ih others rest]
    rfl

/-- What is kept of an object with a method: the method, and every other member as it was
written. -/
theorem opened_request (method : String) (foreign : ∀ member ∈ members, member.1 ≠ "method")
    {depth : Nat} (readable : ∀ member ∈ members, ∃ json,
      (Document.ofJson member.2).toJson (.text depth) = .ok json) :
    shape.opened none argument (.text (depth + 1))
        (Document.ofJson (.object (("method", .string method) :: members))) =
      .ok (some method, members.map fun member => (member.1, Document.ofJson member.2)) := by
  have named : shape.fill (.text depth)
      (fun key value => do return [(key, ← argument (.text depth) value)]) [] none
        (Document.ofJsonMembers (("method", .string method) :: members)) =
      .ok (some method, members.map fun member => (member.1, Document.ofJson member.2)) := by
    rw [Document.ofJsonMembers, Json.Shape.fill_field rfl List.not_mem_nil rfl]
    exact fill_arguments foreign readable _ _
  rw [Document.ofJson, Json.Shape.opened]
  change (shape.fill (.text depth) _ [] none _ >>= _) = _
  rw [named]
  rfl

/-- A member that is kept when its line is read: it is not the method, its numbers survive, and it
is read one level deeper than the line. -/
structure Kept (member : String × Json) : Prop where
  foreign : member.1 ≠ "method"
  survives : member.2.Survives
  readable : ∃ json, (Document.ofJson member.2).toJson (.text (Json.maxDepth - 1)) = .ok json

theorem kept_string {name : String} (foreign : name ≠ "method") (text : String) :
    Kept (name, .string text) :=
  ⟨foreign, .string text, .string text, rfl⟩

/-- The line of a printed object is the request of its method, with the arguments that are read of
its other members. -/
theorem ofLine_print {method : String} {arguments : Arguments}
    (kept : ∀ member ∈ members, Kept member)
    (given : Arguments.decoder .member (Document.ofJson (.object members)) = .ok arguments) :
    ofLine (String.ofList (Json.print (.object (("method", .string method) :: members)))) =
      .ok ⟨method, arguments⟩ := by
  have whole : Json.Survives (.object (("method", .string method) :: members)) :=
    .object trivial (List.forall_mem_cons.2 ⟨.string method, fun member among =>
      (kept member among).survives⟩)
  have decoded : decoder (.text Json.maxDepth)
      (Document.ofJson (.object (("method", .string method) :: members))) =
        .ok ⟨method, arguments⟩ := by
    have asMembers : (members.map fun member => (member.1, Document.ofJson member.2)).map
        (fun member => ((.ok member.1 : Except Json.GrammarError String), member.2)) =
          Document.ofJsonMembers members := by
      rw [List.map_map, Document.ofJsonMembers_eq]
      rfl
    have opened : shape.opened none argument (.text Json.maxDepth)
        (Document.ofJson (.object (("method", .string method) :: members))) =
          .ok (some method, members.map fun member => (member.1, Document.ofJson member.2)) :=
      opened_request method (fun member among => (kept member among).foreign)
        fun member among => (kept member among).readable
    rw [Document.ofJson] at given
    rw [decoder, bind_of_ok opened]
    change (Arguments.decoder .member (.object _ .closed) >>= _) = _
    rw [asMembers, given]
    rfl
  rw [ofLine, Json.decode, (Json.reads_print whole).ofText, bind_of_ok decoded]
  rfl

end Request

/-! ## Lines that are requests -/

/-- A line with a printed object asks for what is read of that. -/
theorem asks_print {members : List (String × Json)} {request : Request}
    (read : Request.ofLine (String.ofList (Json.print (.object members))) = .ok request) :
    Asks (Text.encodeChars (Json.print (.object members))) request ∧
      0x0A ∉ Text.encodeChars (Json.print (.object members)) := by
  constructor
  · have decoded := Text.decode?_encode (String.ofList (Json.print (.object members)))
    rw [Text.encode, String.toList_ofList] at decoded
    refine ⟨_, ⟨?_, 0, ?_⟩, rfl, read⟩
    · rw [Json.print, Json.objectText, List.getLast?_append]
      exact fun last => absurd (Option.some_inj.1 last) (by decide)
    · rw [decoded, List.replicate_zero, List.append_nil]
  · intro among
    exact Json.unbroken_print _ ((Text.ascii_mem_encodeChars (n := 0x0A) (by decide) _).1 among)

/-- One line with a request is answered by one line, and the gateway is as the request left it. -/
theorem converse_of_asks {line : Bytes} {request : Request} (asks : Asks line request)
    (notHelp : request.method ≠ Method.help) (whole : 0x0A ∉ line) (gateway : Gateway) :
    converse (line ++ [0x0A]) gateway =
      ((execute request gateway).1.line, (execute request gateway).2) := by
  obtain ⟨text, reads, notBlank, read⟩ := asks
  have what := (ofBytes_of_request reads notBlank read).trans (if_neg notHelp)
  have lines : linesOf (line ++ [0x0A]) = [.request request] := by
    rw [linesOf_ended whole, what]
    rfl
  have joined : String.join [(execute request gateway).1.line] =
      (execute request gateway).1.line := by
    simp [String.join]
  rw [converse, lines]
  exact Prod.ext joined rfl

end Socket

end LayerGateway

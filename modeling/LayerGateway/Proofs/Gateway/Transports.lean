import LayerGateway.Proofs.Http.LayerWrite
import LayerGateway.Proofs.Socket.LayerWrite

/-!
# The same writes over HTTP and the command socket

A write that is asked for over HTTP with an access key, and one that is asked for by a line with
that key, are the same: they leave the gateway the same, and the answers say the same.

* `LayerWrite.Answered` says which response goes with which reply.
* `transports_agree` is the whole of it.  Only an edit of a feature whose address is empty cannot be
  asked for over HTTP.
-/

namespace LayerGateway

/-! ## Answers -/

/-- A response with some members beside its status, which says that all went well. -/
def Http.Response.success (members : List (String × Json)) : Http.Response :=
  .json 200 (Json.ofMembers (("status", .string "ok") :: members)).print

namespace LayerWrite

/-- What is answered to a write over HTTP, and what over the command socket. -/
inductive Answered : LayerWrite → Http.Response → Socket.Reply → Prop where
  | created {layer : Option FeatureCollection} (datasource : DatasourceId) :
      Answered (.create layer)
        (.success [("datasource", .string datasource.text)])
        (.ok (.ofMembers [("datasource", .string datasource.text)]))
  | deleted {datasource : DatasourceId} :
      Answered (.delete datasource)
        (.success [("message", .string s!"datasource {datasource.text} deleted")])
        (.ok .null)
  | inserted {datasource : DatasourceId} {feature : Feature} (geoId : String) :
      Answered (.insert datasource feature)
        (.success [("data", .ofMembers
          [("datasource", .string datasource.text), ("geo_id", .string geoId)])])
        (.ok (.ofMembers [("datasource", .string datasource.text), ("geo_id", .string geoId)]))
  | edited {datasource : DatasourceId} {geoId : String} {feature : Feature} :
      Answered (.edit datasource geoId feature)
        (.success [("data", .ofMembers
          [("datasource", .string datasource.text), ("geo_id", .string geoId)])])
        (.ok (.ofMembers [("datasource", .string datasource.text), ("geo_id", .string geoId)]))
  | failed {write : LayerWrite} {error : GatewayError} {status : Nat}
      (shown : (error.kind, status) ∈
        [(.unauthorized, 401), (.notFound, 404), (.badRequest, 400), (.storage, 500)]) :
      Answered write
        (.json status (Json.ofMembers
          [("status", .string "error"), ("message", .string error.message)]).print)
        (.error error.message)

variable {write : LayerWrite}

theorem Brings.answered {outcome : Outcome} (brings : write.Brings outcome) :
    write.Answered (Http.contentOf write.command outcome).response (.ok outcome.toJson) := by
  cases brings with
  | created datasource => exact .created datasource
  | deleted => exact .deleted
  | inserted geoId => exact .inserted geoId
  | edited => exact .edited

theorem answered_of_dispatch {key : AccessKey} {gateway after : Gateway}
    {result : Except GatewayError Outcome}
    (ran : Gateway.dispatch (.keyed key) write.command gateway = (result, after)) :
    write.Answered (Http.responseTo write.command result) (Socket.replyTo result) := by
  cases result with
  | ok outcome => exact (Gateway.brings_of_dispatch ran).answered
  | error error =>
    -- Every kind of failures has its own status.
    have shown : (error.kind, Http.statusOf error.kind) ∈
        [(.unauthorized, 401), (.notFound, 404), (.badRequest, 400), (.storage, 500)] := by
      cases error.kind <;> decide
    exact .failed shown

end LayerWrite

/-! ## The same writes -/

/-- However a write is asked for, the gateway is left the same, and the same is answered.  A write
can be asked for in both ways, as long as a target is not too long, unless it is an edit of a
feature whose address is empty, for which there is no path. -/
theorem transports_agree (key : AccessKey) (write : LayerWrite) (named : key.text ≠ "")
    (fits : write.Fits) :
    (write.Addressed → (write.request key).AsksFor key write) ∧
      (∀ request : Http.Request, request.AsksFor key write → write.Addressed) ∧
      ((Text.encodeChars (write.request key).target.text).length ≤ Http.Target.lengthLimit →
        Http.Target.ofText? (write.request key).target.text = some (write.request key).target) ∧
      Socket.AsksFor (write.line key) key write ∧
      ∀ (superuser : String) (request : Http.Request) (line : Bytes) (gateway : Gateway),
        request.AsksFor key write → Socket.AsksFor line key write →
          ∃ response reply text after, write.Answered response reply ∧ reply.Gives text ∧
            Http.respond superuser request gateway = (response, after) ∧
            Socket.converse (line ++ [0x0A]) gateway = (text, after) := by
  refine ⟨LayerWrite.asksFor_request named fits, fun _ => LayerWrite.addressed_of_asksFor,
    LayerWrite.plain_request.ofText?, LayerWrite.asksFor_line fits key,
    fun superuser request line gateway overHttp overSocket => ?_⟩
  -- Both carry out one command in the name of the key.
  cases ran : Gateway.dispatch (.keyed key) write.command gateway with
  | mk result after =>
    exact ⟨_, _, _, after, LayerWrite.answered_of_dispatch ran, Socket.Reply.gives_line _,
      Http.respond_of_asksFor overHttp superuser ran,
      Socket.converse_of_asksFor overSocket named ran⟩

/-- A gateway with one customer, whose one layer has one feature. -/
def Gateway.withFeature (key : AccessKey) (datasource : DatasourceId) (feature : Feature) :
    Gateway :=
  Socket.given (.fresh .inMemory)
    [(.trusted, .insertApikey ⟨key, [datasource], []⟩),
     (.trusted, .createDatasource datasource (some ⟨[feature], .empty⟩))]

def placed : Feature :=
  .ofGeometry (.array [.number (.integer 1), .number (.integer 2)])

theorem sendable_placed : Json.Sendable Feature.decoder placed.written placed where
  parsed := .text (.ofChars placed.print) (by decide +kernel)
  survives := by
    refine .object trivial (Feature.forall_members.2 ⟨.string _, fun _ given => ?_, ?_, .null,
      fun _ member => absurd member List.not_mem_nil⟩)
    · exact absurd given.symm (Option.some_ne_none _)
    · have numbers : ∀ item ∈ [Json.number (.integer 1), .number (.integer 2)],
          item.Survives := by
        refine List.forall_mem_cons.2 ⟨.number (by decide), ?_⟩
        exact List.forall_mem_singleton.2 (.number (by decide))
      exact .array numbers
  shallow := by decide +kernel
  short := by decide +kernel

/-- An edit of which the names have to be encoded. -/
def editing : LayerWrite :=
  .edit ⟨"a/b?"⟩ "é #" placed

theorem transports_agree_editing :
    "K&=" ≠ "" ∧ editing.Fits ∧ ∃ response reply text after,
      editing.Answered response reply ∧ reply.Gives text ∧ response.status = 200 ∧
        Http.respond "S" (editing.request ⟨"K&="⟩)
          (.withFeature ⟨"K&="⟩ ⟨"a/b?"⟩ (placed.withGeoId "é #")) = (response, after) ∧
        Socket.converse (editing.line ⟨"K&="⟩ ++ [0x0A])
          (.withFeature ⟨"K&="⟩ ⟨"a/b?"⟩ (placed.withGeoId "é #")) = (text, after) := by
  have named : "K&=" ≠ "" := by decide
  have fits : editing.Fits := ⟨by decide, sendable_placed⟩
  obtain ⟨overHttp, -, -, overSocket, agree⟩ := transports_agree ⟨"K&="⟩ editing named fits
  have addressed : editing.Addressed := show "é #" ≠ "" by decide
  obtain ⟨response, reply, text, after, answered, gives, responded, conversed⟩ :=
    agree "S" _ _ (.withFeature ⟨"K&="⟩ ⟨"a/b?"⟩ (placed.withGeoId "é #")) (overHttp addressed)
      overSocket
  have done : (Http.respond "S" (editing.request ⟨"K&="⟩)
      (.withFeature ⟨"K&="⟩ ⟨"a/b?"⟩ (placed.withGeoId "é #"))).1.status = 200 := by
    decide +kernel
  rw [responded] at done
  exact ⟨named, fits, response, reply, text, after, answered, gives, done, responded, conversed⟩

/-- An edit of a feature whose address is empty is done when it is asked for by a line, but over
HTTP there is nothing where it should be asked for. -/
theorem transports_differ :
    ¬ ∀ (superuser : String) (key : AccessKey) (write : LayerWrite) (gateway : Gateway),
      key.text ≠ "" → write.Fits →
        (Http.respond superuser (write.request key) gateway).2 =
          (Socket.converse (write.line key ++ [0x0A]) gateway).2 := by
  intro claim
  have same := claim "S" ⟨"K"⟩ (.edit ⟨"d"⟩ "" placed)
    (.withFeature ⟨"K"⟩ ⟨"d"⟩ (placed.withGeoId "")) (by decide) ⟨by decide, sendable_placed⟩
  have differ := congrArg (·.journal.waiting.length) same
  revert differ
  decide +kernel

end LayerGateway

import LayerGateway.Proofs.Gateway.LayerWrite
import LayerGateway.Proofs.Socket.Request

/-!
# Writes over the command socket

A write is asked for by a line with an object: its method, the access key, and the arguments.

* `Socket.AsksFor` says that a line asks for a write, wherever the arguments stand in it, and
  `converse_of_asksFor` that what is done for it is the command of the write, in the name of the
  key.
* `LayerWrite.line` is such a line: the key and the arguments stand at the top of it.
-/

namespace LayerGateway

/-! ## Arguments that are there -/

namespace Arguments

variable {arguments : Arguments}

theorem givenDatasource_of_some {datasource : DatasourceId}
    (given : arguments.datasource = some datasource) (named : datasource.text ≠ "") :
    arguments.givenDatasource = .ok datasource := by
  have kept : (some datasource).filter (·.text != "") = some datasource :=
    Option.filter_eq_some_iff.2 ⟨rfl, bne_iff_ne.2 named⟩
  rw [givenDatasource, datasource?, given]
  exact congrArg (needed "datasource") kept

theorem givenAddress_of_some {geoId : String} (given : arguments.geoId = some (.string geoId)) :
    arguments.givenAddress = .ok geoId := by
  simp [givenAddress, geoId?, given, needed, scalarText?]

theorem givenFeature_of_some {feature : Feature} {written json : Json}
    (given : arguments.feature = some json)
    (conveys : Json.Conveys Feature.decoder written json feature) :
    arguments.givenFeature = .ok feature := by
  rw [← conveys.embedded "feature", givenFeature, feature?, given]
  rfl

theorem givenLayer_of_some {layer : FeatureCollection} {written json : Json}
    (given : arguments.layer = some json)
    (conveys : Json.Conveys FeatureCollection.decoder written json layer) :
    arguments.givenLayer = .ok (some layer) := by
  have embedded := congrArg (Except.map some) (conveys.embedded "layer")
  obtain ⟨members, rfl⟩ := conveys.object
  rw [givenLayer, layer?, given]
  exact embedded

end Arguments

/-! ## Lines that ask for writes -/

namespace Socket

/-- A line asks for a write with an access key. -/
structure AsksFor (line : Bytes) (key : AccessKey) (write : LayerWrite) : Prop where
  whole : 0x0A ∉ line
  request : ∃ request, Asks line request ∧ request.arguments.apikey = some key ∧
    Command.build? request.method request.arguments = .ok write.command

/-- The reply to what has come of a command. -/
def replyTo : Except GatewayError Outcome → Reply
  | .ok outcome => .ok outcome.toJson
  | .error error => .error error.message

section AsksFor

variable {write : LayerWrite} {key : AccessKey} {gateway after : Gateway}
  {result : Except GatewayError Outcome}

theorem execute_of_built {request : Request} (named : key.text ≠ "")
    (shown : request.arguments.apikey = some key)
    (built : Command.build? request.method request.arguments = .ok write.command)
    (ran : Gateway.dispatch (.keyed key) write.command gateway = (result, after)) :
    execute request gateway = (replyTo result, after) := by
  have caller : callerFor write.command (some key) = .keyed key := by
    simp [callerFor, write.isMutation_command, write.not_isAdministrative_command, named]
  rw [execute, built]
  dsimp only
  rw [shown, caller, ran]
  cases result <;> rfl

theorem converse_of_asksFor {line : Bytes} (asks : AsksFor line key write) (named : key.text ≠ "")
    (ran : Gateway.dispatch (.keyed key) write.command gateway = (result, after)) :
    converse (line ++ [0x0A]) gateway = ((replyTo result).line, after) := by
  obtain ⟨request, read, shown, built⟩ := asks.request
  -- The list of methods is not asked for by the name of a method.
  have notHelp : request.method ≠ Method.help := by
    intro help
    rw [help] at built
    cases built
  rw [converse_of_asks read notHelp asks.whole, execute_of_built named shown built ran]

end AsksFor

end Socket

/-! ## Requests for writes -/

namespace LayerWrite

def arguments (key : AccessKey) : LayerWrite → Arguments
  | .create layer => { apikey := key, layer := layer.map FeatureCollection.toJson }
  | .delete datasource => { apikey := key, datasource }
  | .insert datasource feature => { apikey := key, datasource, feature := feature.toJson }
  | .edit datasource geoId feature =>
      { apikey := key, datasource, geoId := Json.string geoId, feature := feature.toJson }

/-- What a line is read as that asks for a write with an access key. -/
def asked (write : LayerWrite) (key : AccessKey) : Socket.Request :=
  ⟨write.command.method.name, write.arguments key⟩

section Asked

variable {write : LayerWrite} {key : AccessKey}

theorem build?_asked (fits : write.Fits) (key : AccessKey) :
    Command.build? (write.asked key).method (write.asked key).arguments = .ok write.command := by
  have known : Method.ofName? write.command.method.name = some write.command.method := by
    cases write <;> rfl
  rw [asked, Command.build?, known]
  cases write with
  | create layer =>
    have given : (arguments key (.create layer)).givenLayer = .ok layer := by
      cases layer with
      | none => rfl
      | some layer =>
        exact Arguments.givenLayer_of_some rfl (FeatureCollection.conveys (fits layer rfl).parsed)
    change ((arguments key (.create layer)).givenLayer >>= _) = _
    rw [given]
    rfl
  | delete datasource =>
    have given : (arguments key (.delete datasource)).givenDatasource = .ok datasource :=
      Arguments.givenDatasource_of_some rfl fits
    change ((arguments key (.delete datasource)).givenDatasource >>= _) = _
    rw [given]
    rfl
  | insert datasource feature =>
    have given : (arguments key (.insert datasource feature)).givenDatasource = .ok datasource :=
      Arguments.givenDatasource_of_some rfl fits.1
    have content : (arguments key (.insert datasource feature)).givenFeature = .ok feature :=
      Arguments.givenFeature_of_some rfl (Feature.conveys fits.2.parsed)
    change ((arguments key (.insert datasource feature)).givenDatasource >>= _) = _
    rw [bind_of_ok given, content]
    rfl
  | edit datasource geoId feature =>
    have given : (arguments key (.edit datasource geoId feature)).givenDatasource =
        .ok datasource := Arguments.givenDatasource_of_some rfl fits.1
    have address : (arguments key (.edit datasource geoId feature)).givenAddress = .ok geoId :=
      Arguments.givenAddress_of_some rfl
    have content : (arguments key (.edit datasource geoId feature)).givenFeature = .ok feature :=
      Arguments.givenFeature_of_some rfl (Feature.conveys fits.2.parsed)
    change ((arguments key (.edit datasource geoId feature)).givenDatasource >>= _) = _
    rw [bind_of_ok given, bind_of_ok address, content]
    rfl

end Asked

end LayerWrite

/-! ## The line of a write -/

namespace LayerWrite

open Json (Document)

/-- The members that say what is written, and where. -/
def content : LayerWrite → List (String × Json)
  | .create none => []
  | .create (some layer) => [("layer", layer.written)]
  | .delete datasource => [("datasource", .string datasource.text)]
  | .insert datasource feature =>
      [("datasource", .string datasource.text), ("feature", feature.written)]
  | .edit datasource geoId feature =>
      [("datasource", .string datasource.text), ("geo_id", .string geoId),
       ("feature", feature.written)]

/-- The members of the line of a write, besides its method. -/
def members (write : LayerWrite) (key : AccessKey) : List (String × Json) :=
  ("apikey", .string key.text) :: write.content

/-- The line of a write with an access key, without its line end. -/
def line (write : LayerWrite) (key : AccessKey) : Bytes :=
  Text.encodeChars <| Json.print <| .object <|
    ("method", .string write.command.method.name) :: write.members key

section Line

variable {α : Type} {decoder : Json.Decoder α} {written json : Json} {value : α}
  {write : LayerWrite}

theorem kept_content {name : String} (foreign : name ≠ "method")
    (sendable : Json.Sendable decoder written value)
    (conveys : Json.Conveys decoder written json value) :
    Socket.Request.Kept (name, written) where
  foreign := foreign
  survives := sendable.survives
  readable := by
    have shallow : written.depth ≤ Json.maxDepth - 1 := Nat.le_of_lt_succ sendable.shallow
    exact ⟨json, (conveys.keeps _).trans (Json.Origin.limit_text shallow json)⟩

theorem kept_members (fits : write.Fits) (key : AccessKey) :
    ∀ member ∈ write.members key, Socket.Request.Kept member := by
  have string := @Socket.Request.kept_string
  have feature {feature : Feature}
      (sendable : Json.Sendable Feature.decoder feature.written feature) :
      Socket.Request.Kept ("feature", feature.written) :=
    kept_content (by decide) sendable (Feature.conveys sendable.parsed)
  refine List.forall_mem_cons.2 ⟨string (by decide) _, ?_⟩
  cases write with
  | create layer =>
    cases layer with
    | none => exact fun _ member => absurd member List.not_mem_nil
    | some layer =>
      have sendable := fits layer rfl
      exact List.forall_mem_singleton.2
        (kept_content (by decide) sendable (FeatureCollection.conveys sendable.parsed))
  | delete datasource => exact List.forall_mem_singleton.2 (string (by decide) _)
  | insert datasource content =>
    exact List.forall_mem_cons.2 ⟨string (by decide) _, List.forall_mem_singleton.2
      (feature fits.2)⟩
  | edit datasource geoId content =>
    exact List.forall_mem_cons.2 ⟨string (by decide) _, List.forall_mem_cons.2
      ⟨string (by decide) _, List.forall_mem_singleton.2 (feature fits.2)⟩⟩

/-- What is written is kept as a free-form value until its command is made. -/
theorem optional_content (conveys : Json.Conveys decoder written json value) :
    Json.optional Json.anyValue .member (Document.ofJson written) = .ok (some json) := by
  obtain ⟨members, rfl⟩ := conveys.printed
  exact (Json.decodes_optional conveys.keeps fun same => by cases same) .member

theorem fill_given {name : String} {put : α → Arguments → Arguments} {given : Json}
    {seen : List String} (known : Arguments.shape.field? name = some (.of name decoder put))
    (first : name ∉ seen) (read : decoder .member (Document.ofJson given) = .ok value)
    (draft : Arguments) (rest : List (String × Json)) :
    Arguments.shape.fill .member Json.Shape.skip seen draft
        (Document.ofJsonMembers ((name, given) :: rest)) =
      Arguments.shape.fill .member Json.Shape.skip (name :: seen) (put value draft)
        (Document.ofJsonMembers rest) :=
  Json.Shape.fill_field known first (congrArg (Except.map (put · draft)) read) _

theorem decoder_members (fits : write.Fits) (key : AccessKey) :
    Arguments.decoder .member (Document.ofJson (.object (write.members key))) =
      .ok (write.arguments key) := by
  cases write with
  | create layer =>
    cases layer with
    | none => rfl
    | some layer =>
      have content := optional_content (FeatureCollection.conveys (fits layer rfl).parsed)
      apply Json.Shape.closed_of_fill
      rw [members, fill_given rfl List.not_mem_nil rfl, LayerWrite.content,
        fill_given rfl (by decide) content]
      rfl
  | delete datasource => rfl
  | insert datasource feature =>
    have content := optional_content (Feature.conveys fits.2.parsed)
    apply Json.Shape.closed_of_fill
    rw [members, fill_given rfl List.not_mem_nil rfl, LayerWrite.content,
      fill_given rfl (by decide) rfl, fill_given rfl (by decide) content]
    rfl
  | edit datasource geoId feature =>
    have content := optional_content (Feature.conveys fits.2.parsed)
    apply Json.Shape.closed_of_fill
    rw [members, fill_given rfl List.not_mem_nil rfl, LayerWrite.content,
      fill_given rfl (by decide) rfl, fill_given rfl (by decide) rfl,
      fill_given rfl (by decide) content]
    rfl

theorem asksFor_line (fits : write.Fits) (key : AccessKey) :
    Socket.AsksFor (write.line key) key write := by
  obtain ⟨asks, whole⟩ : Socket.Asks (write.line key) (write.asked key) ∧ 0x0A ∉ write.line key :=
    Socket.asks_print (Socket.Request.ofLine_print (kept_members fits key)
      (decoder_members fits key))
  have shown : (write.asked key).arguments.apikey = some key := by
    cases write <;> rfl
  exact ⟨whole, write.asked key, asks, shown, build?_asked fits key⟩

end Line

end LayerWrite

end LayerGateway

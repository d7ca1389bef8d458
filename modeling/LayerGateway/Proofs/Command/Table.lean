import LayerGateway.Command.Basic
import LayerGateway.Proofs.Except

/-!
# The operation table

`Command.build?` looks a name up in the table and takes what the method needs from the
arguments.

* A name is answered when it is listed and is not the name of the list itself.
* `Method.canonical` resolves the older names.  A name and what it resolves to make the same
  command, and a command carries the resolved name.
* `Arguments.visible` leaves out of `data` what also stands at the top.  Nothing else is looked at.
* A value addresses a feature in a request as it does in the feature itself.
-/

namespace LayerGateway

/-! ## Names -/

namespace Method

/-- The older names, with those that took their place. -/
def aliases : List (String × String) :=
  [("insert_layer", "create_datasource"), ("delete_layer", "delete_datasource"),
   ("export_layer", "export_datasource")]

def canonical (name : String) : String :=
  (aliases.lookup name).getD name

def Served (name : String) : Prop :=
  name ∈ listed ∧ name ≠ help

theorem served_of_ofName? {name : String} {method : Method} (found : ofName? name = some method) :
    Served name ∧ method.name = canonical name := by
  unfold ofName? at found
  split at found
  all_goals cases found
  all_goals exact ⟨by simp [Served, listed, help],
    by simp [canonical, aliases, List.lookup_cons, Method.name]⟩

theorem not_served_of_ofName? {name : String} (missing : ofName? name = none) :
    ¬ Served name := by
  have known : ∀ listedName ∈ listed, listedName ≠ help → (ofName? listedName).isSome := by
    decide
  rintro ⟨among, notHelp⟩
  have found := known name among notHelp
  rw [missing] at found
  cases found

theorem canonical_cases (name : String) :
    canonical name = name ∨ (name, canonical name) ∈ aliases := by
  unfold canonical
  cases looked : aliases.lookup name with
  | none => exact .inl rfl
  | some current =>
    obtain ⟨before, behind, split, -⟩ := List.lookup_eq_some_iff.1 looked
    exact .inr (by simp [split])

theorem ofName?_of_mem_aliases :
    ∀ pair ∈ aliases, ofName? pair.1 = ofName? pair.2 ∧ (ofName? pair.1).isSome := by
  decide

end Method

/-! ## What a refusal is about -/

/-- A result that says the method is not there. -/
def MethodNotFound (result : Except BadRequest Command) : Prop :=
  ∃ cause, result = .error cause ∧ "method not found".toList <+: cause.message.toList

theorem BadRequest.unknown_of_message {cause : BadRequest}
    (starts : "method not found".toList <+: cause.message.toList) :
    ∃ name, cause = .unknownMethod name := by
  cases cause with
  | unknownMethod name => exact ⟨name, rfl⟩
  -- The other wordings start with "missing" and "invalid".
  | missingField name =>
    have wording : (missingField name).message = "missing required field: " ++ name := rfl
    simp [wording] at starts
  | unreadable field cause =>
    have wording : (unreadable field cause).message =
      "invalid " ++ field ++ ": " ++ cause.message := rfl
    simp [wording] at starts
  | badTimestamp text =>
    have wording : (badTimestamp text).message = "invalid timestamp: " ++ text := rfl
    simp [wording] at starts

/-- A computation that finds no fault with the name of a method. -/
def Argued {α : Type} (computed : Except BadRequest α) : Prop :=
  ∀ name, computed ≠ .error (.unknownMethod name)

section Argued

variable {α β : Type} {first : Except BadRequest α}

theorem Argued.bind {next : α → Except BadRequest β} (argued : Argued first)
    (further : ∀ value, Argued (next value)) : Argued (first >>= next) := by
  intro name failed
  cases first with
  | error cause =>
    cases failed
    exact argued name rfl
  | ok value => exact further value name failed

theorem Argued.ok (value : α) : Argued (.ok value) :=
  nofun

theorem Argued.needed (field : String) (value : Option α) : Argued (needed field value) := by
  cases value <;> exact nofun

theorem needed_eq_ok {field : String} {value : Option α} {result : α} :
    needed field value = .ok result ↔ value = some result := by
  cases value <;> simp [needed]

theorem Argued.embedded (field : String) (decoder : Json.Decoder α) (value : Json) :
    Argued (embedded field decoder value) := by
  intro name failed
  obtain ⟨cause, -, wrong⟩ := mapError_eq_error.1 failed
  cases wrong

end Argued

namespace Arguments

variable (arguments : Arguments)

theorem argued_givenDatasource : Argued arguments.givenDatasource :=
  .needed _ _

theorem argued_givenAddress : Argued arguments.givenAddress :=
  .needed _ _

theorem argued_givenFeature : Argued arguments.givenFeature :=
  (Argued.needed _ _).bind fun value => .embedded _ _ value

theorem argued_givenTimestamp : Argued arguments.givenTimestamp := by
  refine (Argued.needed _ _).bind fun value => ?_
  split <;> exact nofun

theorem argued_givenLayer : Argued arguments.givenLayer := by
  unfold givenLayer
  split
  · exact .ok none
  · exact .ok none
  · exact (Argued.embedded _ _ _).bind fun layer => .ok (some layer)

theorem argued_givenCustomer : Argued arguments.givenCustomer :=
  (Argued.needed _ _).bind fun _ => (Argued.needed _ _).bind fun _ => .ok _

/-! ## What a command takes from its arguments -/

variable {arguments : Arguments}

theorem named_of_datasource? {datasource : DatasourceId}
    (given : arguments.datasource? = some datasource) : datasource.text ≠ "" :=
  bne_iff_ne.1 (Option.filter_eq_some_iff.1 given).2

theorem of_givenDatasource {datasource : DatasourceId}
    (given : arguments.givenDatasource = .ok datasource) :
    arguments.datasource? = some datasource :=
  needed_eq_ok.1 given

theorem of_givenCustomer {customer : Customer} (given : arguments.givenCustomer = .ok customer) :
    customer.apikey.text ≠ "" := by
  obtain ⟨apikey, found, given⟩ := ok_of_bind given
  obtain ⟨datasources, -, given⟩ := ok_of_bind given
  cases given
  have kept := needed_eq_ok.1 found
  exact bne_iff_ne.1 (Option.filter_eq_some_iff.1 kept).2

end Arguments

/-! ## What stands at the top -/

/-- What is left of `data` beneath arguments. -/
def Payload.beneath (arguments : Arguments) (data : Payload) : Payload :=
  { data with
    datasource := if arguments.datasource.isSome then none else data.datasource
    geoId := if arguments.geoId.isSome then none else data.geoId
    timestamp := if arguments.timestamp.isSome then none else data.timestamp
    layer := if arguments.layer.isSome then none else data.layer
    feature := if arguments.feature.isSome then none else data.feature }

namespace Arguments

/-- Leaves out of `data` what also stands at the top. -/
def visible (arguments : Arguments) : Arguments :=
  { arguments with data := arguments.data.map (Payload.beneath arguments) }

variable (arguments : Arguments)

theorem orElse_beneath {α : Type} (top : Option α) (member : Payload → Option α)
    (shadowed : ∀ data, member (data.beneath arguments) =
      if top.isSome then none else member data) :
    (top <|> arguments.visible.data.bind member) = (top <|> arguments.data.bind member) := by
  rw [visible]
  cases top with
  | some value => rfl
  | none =>
    cases arguments.data with
    | none => rfl
    | some data => exact shadowed data

theorem datasource?_visible : arguments.visible.datasource? = arguments.datasource? :=
  congrArg (Option.filter fun id : DatasourceId => id.text != "")
    (orElse_beneath arguments arguments.datasource (·.datasource) fun _ => rfl)

theorem geoId?_visible : arguments.visible.geoId? = arguments.geoId? :=
  orElse_beneath arguments arguments.geoId (·.geoId) fun _ => rfl

theorem timestamp?_visible : arguments.visible.timestamp? = arguments.timestamp? :=
  orElse_beneath arguments arguments.timestamp (·.timestamp) fun _ => rfl

theorem layer?_visible : arguments.visible.layer? = arguments.layer? :=
  orElse_beneath arguments arguments.layer (·.layer) fun _ => rfl

theorem feature?_visible : arguments.visible.feature? = arguments.feature? :=
  orElse_beneath arguments arguments.feature (·.feature) fun _ => rfl

theorem key?_visible : arguments.visible.key? = arguments.key? := by
  rw [key?, key?, visible]
  cases arguments.data <;> rfl

theorem subjectKey?_visible : arguments.visible.subjectKey? = arguments.subjectKey? := by
  rw [subjectKey?, subjectKey?, visible]
  cases arguments.data <;> rfl

theorem givenCustomer_visible : arguments.visible.givenCustomer = arguments.givenCustomer := by
  rw [givenCustomer, givenCustomer, subjectKey?_visible, visible]
  cases arguments.data <;> rfl

end Arguments

namespace Command

variable {method : Method} {arguments : Arguments} {command : Command} {name : String}

theorem argued_ofMethod (method : Method) (arguments : Arguments) :
    Argued (ofMethod method arguments) := by
  have datasource := arguments.argued_givenDatasource
  have address := arguments.argued_givenAddress
  have feature := arguments.argued_givenFeature
  cases method with
  | ping | createApikey | exportApikeys | exportApikey | exportDatasources => exact .ok _
  | insertApikey => exact arguments.argued_givenCustomer.bind fun _ => .ok _
  | createDatasource => exact arguments.argued_givenLayer.bind fun _ => .ok _
  | assignDatasource | deleteDatasource | exportDatasource | exportSnapshots =>
    exact datasource.bind fun _ => .ok _
  | insertFeature => exact datasource.bind fun _ => feature.bind fun _ => .ok _
  | editFeature =>
    exact datasource.bind fun _ => address.bind fun _ => feature.bind fun _ => .ok _
  | exportFeature => exact datasource.bind fun _ => address.bind fun _ => .ok _
  | exportSnapshot =>
    exact datasource.bind fun _ => arguments.argued_givenTimestamp.bind fun _ => .ok _
  | importFile => exact (Argued.needed _ _).bind fun _ => .ok _

theorem ofMethod_visible (method : Method) (arguments : Arguments) :
    ofMethod method arguments.visible = ofMethod method arguments := by
  have file : arguments.visible.file = arguments.file := rfl
  cases method <;>
    simp only [ofMethod, Arguments.givenDatasource, Arguments.givenAddress,
      Arguments.givenFeature, Arguments.givenTimestamp, Arguments.givenLayer,
      Arguments.givenCustomer_visible, Arguments.key?_visible, Arguments.subjectKey?_visible,
      Arguments.datasource?_visible, Arguments.geoId?_visible, Arguments.timestamp?_visible,
      Arguments.layer?_visible, Arguments.feature?_visible, file]

/-- What holds of every command that is built. -/
structure WellNamed (command : Command) : Prop where
  datasource : ∀ id, command.datasource? = some id → id.text ≠ ""
  apikey : ∀ customer, command = .insertApikey customer → customer.apikey.text ≠ ""

theorem WellNamed.of_given {id : DatasourceId}
    (given : arguments.givenDatasource = .ok id) (about : command.datasource? = some id)
    (noKey : ∀ customer, command ≠ .insertApikey customer) : command.WellNamed where
  datasource named same := by
    cases about.symm.trans same
    exact Arguments.named_of_datasource? (Arguments.of_givenDatasource given)
  apikey customer same := absurd same (noKey customer)

theorem of_ofMethod (built : ofMethod method arguments = .ok command) :
    command.method = method ∧ command.WellNamed := by
  cases method with
  | ping | createApikey | exportApikeys | exportApikey | exportDatasources =>
    cases built
    exact ⟨rfl, nofun, nofun⟩
  | insertApikey =>
    obtain ⟨customer, given, built⟩ := ok_of_bind built
    cases built
    refine ⟨rfl, nofun, fun other same => ?_⟩
    cases same
    exact Arguments.of_givenCustomer given
  -- The only method for which the name may be left out.
  | createDatasource =>
    obtain ⟨layer, -, built⟩ := ok_of_bind built
    cases built
    exact ⟨rfl, fun id named => Arguments.named_of_datasource? named, nofun⟩
  | assignDatasource | deleteDatasource | exportDatasource | exportSnapshots =>
    obtain ⟨id, given, built⟩ := ok_of_bind built
    cases built
    exact ⟨rfl, .of_given given rfl nofun⟩
  | insertFeature | exportFeature | exportSnapshot =>
    obtain ⟨id, given, built⟩ := ok_of_bind built
    obtain ⟨about, -, built⟩ := ok_of_bind built
    cases built
    exact ⟨rfl, .of_given given rfl nofun⟩
  | editFeature =>
    obtain ⟨id, given, built⟩ := ok_of_bind built
    obtain ⟨address, -, built⟩ := ok_of_bind built
    obtain ⟨feature, -, built⟩ := ok_of_bind built
    cases built
    exact ⟨rfl, .of_given given rfl nofun⟩
  | importFile =>
    obtain ⟨file, -, built⟩ := ok_of_bind built
    cases built
    exact ⟨rfl, nofun, nofun⟩

/-! ## Commands by name -/

theorem build?_canonical (name : String) (arguments : Arguments) :
    build? (Method.canonical name) arguments = build? name arguments := by
  rcases Method.canonical_cases name with same | older
  · rw [same]
  · obtain ⟨agree, found⟩ := Method.ofName?_of_mem_aliases _ older
    obtain ⟨method, found⟩ := Option.isSome_iff_exists.1 found
    rw [build?, build?, ← agree, found]

theorem build?_of_not_served (unserved : ¬ Method.Served name) (arguments : Arguments) :
    build? name arguments = .error (.unknownMethod name) := by
  rw [build?]
  cases found : Method.ofName? name with
  | none => rfl
  | some method => exact absurd (Method.served_of_ofName? found).1 unserved

theorem methodNotFound_iff (name : String) (arguments : Arguments) :
    MethodNotFound (build? name arguments) ↔ ¬ Method.Served name := by
  constructor
  · rintro ⟨cause, failed, starts⟩ served
    obtain ⟨unknown, rfl⟩ := BadRequest.unknown_of_message starts
    rw [build?] at failed
    cases found : Method.ofName? name with
    | none => exact Method.not_served_of_ofName? found served
    | some method =>
      rw [found] at failed
      exact argued_ofMethod method arguments unknown failed
  · intro unserved
    refine ⟨_, build?_of_not_served unserved arguments, ?_⟩
    have wording : (BadRequest.unknownMethod name).message = "method not found: " ++ name := rfl
    simp [wording]

theorem of_build? (built : build? name arguments = .ok command) :
    command.method.name = Method.canonical name ∧ command.WellNamed := by
  rw [build?] at built
  cases found : Method.ofName? name with
  | none =>
    rw [found] at built
    cases built
  | some method =>
    rw [found] at built
    obtain ⟨rfl, named⟩ := of_ofMethod built
    exact ⟨(Method.served_of_ofName? found).2, named⟩

theorem build?_visible (name : String) (arguments : Arguments) :
    build? name arguments.visible = build? name arguments := by
  rw [build?, build?]
  cases Method.ofName? name with
  | none => rfl
  | some method => exact ofMethod_visible method arguments

theorem build?_exportFeature {id : DatasourceId} {geoId : String}
    (named : arguments.datasource? = some id) (addressed : arguments.givenAddress = .ok geoId) :
    build? "export_feature" arguments = .ok (.exportFeature id geoId) := by
  have given : arguments.givenDatasource = .ok id := needed_eq_ok.2 named
  change (arguments.givenDatasource >>= fun id => _) = _
  rw [bind_of_ok given, bind_of_ok addressed]
  rfl

end Command

/-! ## Addresses -/

/-- Values that address features. -/
def Addressing (value : Json) : Prop :=
  (∃ text, value = .string text) ∨ ∃ number, value = .number number

theorem addressOf_of_addressing {value : Json} (addressing : Addressing value) :
    ∃ text, Feature.addressOf value = some text := by
  rcases addressing with ⟨text, rfl⟩ | ⟨number, rfl⟩
  · exact ⟨text, rfl⟩
  · exact ⟨String.ofList number.text, rfl⟩

/-- A request and a feature have one text for a value. -/
theorem Arguments.scalarText?_eq (value : Json) : scalarText? value = Feature.addressOf value := by
  cases value <;> rfl

theorem Arguments.givenAddress_eq {arguments : Arguments} {value : Json}
    (given : arguments.geoId? = some value) {feature : Feature}
    (own : feature.address? = some value) :
    arguments.givenAddress = needed "geo_id" feature.geoId? := by
  rw [givenAddress, given, Option.bind_some, scalarText?_eq, Feature.geoId?, own, Option.bind_some]

/-! ## The table as a whole -/

namespace Command

structure Consistent (name : String) (arguments : Arguments) : Prop where
  unknown : MethodNotFound (build? name arguments) ↔ ¬ Method.Served name
  wording : ¬ Method.Served name → build? name arguments = .error (.unknownMethod name)
  older : build? (Method.canonical name) arguments = build? name arguments
  built : ∀ command, build? name arguments = .ok command →
    command.method.name = Method.canonical name ∧ command.WellNamed
  shadowed : ∀ other : Arguments, other.visible = arguments.visible →
    build? name other = build? name arguments
  addressed : ∀ (value : Json) (feature : Feature), arguments.geoId? = some value →
    feature.address? = some value → arguments.givenAddress = needed "geo_id" feature.geoId?
  exported : ∀ (value : Json) (id : DatasourceId), arguments.geoId? = some value →
    Addressing value → arguments.datasource? = some id →
      ∃ text, (∀ feature : Feature, feature.address? = some value → feature.geoId? = some text) ∧
        build? "export_feature" arguments = .ok (.exportFeature id text)

/-- The table of methods is consistent.  A method is not found exactly if it has no entry, an older
name does what the new one does, and a command that is built has the method that was asked for and
names all that it must name.  What stands at the top of a request hides what stands in its `data`,
and a feature is found by the value by which it is addressed. -/
theorem build?_consistent (name : String) (arguments : Arguments) :
    Consistent name arguments where
  unknown := methodNotFound_iff name arguments
  wording unserved := build?_of_not_served unserved arguments
  older := build?_canonical name arguments
  built _ := of_build?
  shadowed other same := by
    rw [← build?_visible name other, same, build?_visible]
  addressed _ _ given own := Arguments.givenAddress_eq given own
  exported value id given addressing named := by
    obtain ⟨text, address⟩ := addressOf_of_addressing addressing
    have asked : arguments.givenAddress = .ok text := by
      rw [Arguments.givenAddress, given, Option.bind_some, Arguments.scalarText?_eq, address]
      rfl
    refine ⟨text, fun feature own => ?_, build?_exportFeature named asked⟩
    rw [Feature.geoId?, own, Option.bind_some, address]

end Command

end LayerGateway

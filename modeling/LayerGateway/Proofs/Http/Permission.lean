import LayerGateway.Http.Handler
import LayerGateway.Proofs.Gateway.Confinement
import LayerGateway.Proofs.Gateway.Ordinary
import LayerGateway.Proofs.Http.Form

/-!
# What requests may do

Without the key of the superuser a request does at most what the customer may do whose key it shows.
With it a request may do more on the resources of the management, and on no others.

* `Serves` lists the programs that are run for a request without that key; there are four.
* `Unprivileged` says what comes of them, and `respond_unprivileged` is the whole of it.
-/

namespace LayerGateway.Http

/-! ## Requests without the superuser's key -/

/-- A request without the pairs of a name in its query. -/
def Request.without (name : String) (request : Request) : Request :=
  { request with target := { request.target with query := withoutField name request.target.query } }

theorem onResource_without (superuser : String) {resource : Resource}
    (unguarded : resource.isManagement = false) (parameters : List Resource.Parameter)
    (request : Request) :
    onResource superuser resource parameters (request.without "authkey") =
      onResource superuser resource parameters request := by
  -- A handler reads nothing of the query but the customer's key.
  have sameKey : formField "apikey" (request.without "authkey").target.query =
      formField "apikey" request.target.query :=
    formField_withoutField_of_ne (by decide) request.target.query
  have admits : admitted resource parameters (request.without "authkey") =
      admitted resource parameters request := by
    rw [admitted, admitted, sameKey]
    rfl
  rw [onResource, onResource, unguarded, admits]
  rfl

/-! ## What is run for a request -/

/-- The request shows the access key of a customer. -/
def Request.Shows (request : Request) (key : AccessKey) : Prop :=
  key.text ≠ "" ∧ formField "apikey" request.target.query = .ok (some key.text)

/-- A response that says why nothing was done. -/
structure Refusal (response : Response) : Prop where
  failure : 400 ≤ response.status
  text : ∃ content, response.body = .text content

theorem refusal_error (error : GatewayError) : Refusal (errorResponse error) where
  failure := by
    change 400 ≤ statusOf error.kind
    cases error.kind <;> decide
  text := ⟨_, rfl⟩

theorem refusal_plain {status : Nat} (failure : 400 ≤ status) (text : String) :
    Refusal (.plain status text) :=
  ⟨failure, _, rfl⟩

theorem refusal_empty {status : Nat} (failure : 400 ≤ status) : Refusal (.empty status) :=
  ⟨failure, _, rfl⟩

theorem Refusal.allowing {response : Response} (refusal : Refusal response) (allowed : Bool)
    (methods : String) :
    Refusal (if allowed then response else { response with allow := some methods }) := by
  cases allowed with
  | true => exact refusal
  | false => exact ⟨refusal.failure, refusal.text⟩

/-- The programs that are run for a request without the superuser's key. -/
inductive Serves (request : Request) : StateM Gateway Response → Prop where
  | refused {response : Response} (refusal : Refusal response) : Serves request (pure response)
  | pinged : Serves request (runHandler (perform .trusted .ping))
  | command {key : AccessKey} {command : Command} (shows : request.Shows key)
      (ordinary : command.isAdministrative = false) :
      Serves request (runHandler (perform (.keyed key) command))
  | view {key : AccessKey} {datasource : DatasourceId} (shows : request.Shows key) :
      Serves request (runHandler do return .events (← Gateway.openView (.keyed key) datasource))

section Serves

variable {request : Request} {resource : Resource} {superuser : String}

theorem serves_error (error : GatewayError) : Serves request (runHandler (throw error)) :=
  .refused (refusal_error error)

theorem ordinary_commandOf (unguarded : resource.isManagement = false) {method : String}
    {parameters : List String} {body : Bytes} {command : Command}
    (made : commandOf resource method parameters body = .ok command) :
    command.isAdministrative = false := by
  unfold commandOf at made
  -- One case for each resource in the order of the table, then one for what is in no row of it.
  split at made
  · split at made
    · cases made
      rfl
    · obtain ⟨layer, -, made⟩ := ok_of_bind made
      cases made
      rfl
  · split at made <;> cases made <;> rfl
  · cases made
    rfl
  · split at made <;> cases made
    rfl
  · obtain ⟨feature, -, made⟩ := ok_of_bind made
    cases made
    rfl
  · split at made
    · obtain ⟨feature, -, made⟩ := ok_of_bind made
      cases made
      rfl
    · cases made
      rfl
  · cases unguarded
  · cases unguarded
  · cases unguarded
  · cases made
    rfl
  · cases made
    rfl

theorem shows_of_callerOf {apikey : Option String} {caller : Caller}
    (shown : formField "apikey" request.target.query = .ok apikey)
    (called : callerOf apikey = .ok caller) :
    ∃ key, request.Shows key ∧ caller = .keyed key := by
  unfold callerOf at called
  split at called
  · next key =>
    split at called
    · cases called
    · next some =>
      cases called
      exact ⟨⟨key⟩, ⟨some, shown⟩, rfl⟩
  · cases called

theorem serves_handle (unguarded : resource.isManagement = false) (method : String)
    (parameters : List String) (body : Bytes) {apikey : Option String}
    (shown : formField "apikey" request.target.query = .ok apikey) :
    Serves request (runHandler (handle resource method parameters apikey body)) := by
  by_cases ping : resource = .ping
  · subst ping
    exact .pinged
  have customers : (resource.isManagement || decide (resource = .ping)) = false := by
    simp [unguarded, ping]
  -- The key is asked for first, so that what is wrong with the rest does not show without one.
  rw [handle, customers]
  cases called : callerOf apikey with
  | error error => exact serves_error error
  | ok caller =>
    obtain ⟨key, shows, rfl⟩ := shows_of_callerOf shown called
    have ran : Serves request (runHandler do
        perform (.keyed key) (← commandOf resource method parameters body)) := by
      cases made : commandOf resource method parameters body with
      | error error => exact serves_error error
      | ok command => exact .command shows (ordinary_commandOf unguarded made)
    cases resource with
    | ping => exact absurd rfl ping
    | newCustomer | customers | datasources => cases unguarded
    | live =>
      rcases parameters with _ | ⟨datasource, _ | ⟨second, others⟩⟩
      · exact ran
      · exact .view shows
      · exact ran
    | record | newLayer | layer | timestamps | snapshot | features | feature => exact ran

theorem serves_admitted (unguarded : resource.isManagement = false)
    (parameters : List Resource.Parameter) (request : Request) :
    Serves request (admitted resource parameters request) := by
  rw [admitted]
  cases decodeParameters parameters with
  | error name => exact .refused (refusal_plain (by decide) _)
  | ok parameters =>
    cases shown : formField "apikey" request.target.query with
    | error field =>
      by_cases ping : resource = .ping
      · subst ping
        exact .pinged
      · have customers : (resource.isManagement || decide (resource = .ping)) = false := by
          simp [unguarded, ping]
        dsimp only
        rw [customers]
        exact .refused (refusal_plain (by decide) _)
    | ok apikey =>
      dsimp only
      split
      · exact .refused (refusal_plain (by decide) _)
      · exact serves_handle unguarded _ _ _ shown

theorem serves_onResource (superuser : String) (unguarded : resource.isManagement = false)
    (parameters : List Resource.Parameter) (request : Request) :
    Serves request (onResource superuser resource parameters request) := by
  rw [onResource, unguarded]
  cases resource.methods.contains request.method with
  | true => exact serves_admitted unguarded parameters request
  | false => exact .refused (.allowing (refusal_empty (by decide)) false _)

theorem onResource_refused (guarded : resource.isManagement = true)
    (parameters : List Resource.Parameter)
    (noKey : formField "authkey" request.target.query ≠ .ok (some superuser)) :
    ∃ response, onResource superuser resource parameters request = pure response ∧
      Refusal response ∧
      ∀ authkey, formField "authkey" request.target.query = .ok authkey →
        response.status = 401 := by
  -- The superuser's key is asked for before the method is looked at.
  rw [onResource, guarded]
  cases shown : formField "authkey" request.target.query with
  | error field => exact ⟨_, rfl, .allowing (refusal_plain (by decide) _) _ _, nofun⟩
  | ok authkey =>
    have wrong : authkey ≠ some superuser := by
      rintro rfl
      exact noKey shown
    dsimp only
    rw [if_pos rfl, if_neg wrong]
    refine ⟨_, rfl, .allowing (refusal_error _) _ _, fun _ _ => ?_⟩
    split <;> rfl

/-- The response to a request before its body is left out. -/
def served (superuser : String) (request : Request) : StateM Gateway Response :=
  match Resource.ofPath? request.target.path with
  | some (resource, parameters) => onResource superuser resource parameters request
  | none => pure (.empty 404)

theorem serves_served
    (noKey : formField "authkey" request.target.query ≠ .ok (some superuser)) :
    Serves request (served superuser request) := by
  unfold served
  cases Resource.ofPath? request.target.path with
  | none => exact .refused (refusal_empty (by decide))
  | some place =>
    obtain ⟨resource, parameters⟩ := place
    cases guarded : resource.isManagement with
    | false => exact serves_onResource superuser guarded parameters request
    | true =>
      obtain ⟨response, refused, refusal, -⟩ := onResource_refused guarded parameters noKey
      dsimp only
      rw [refused]
      exact .refused refusal

end Serves

/-! ## What comes of a request -/

/-- A response as it is sent: without its body if only that was asked for. -/
def Request.sent (request : Request) (response : Response) : Response :=
  if request.method = "HEAD" then { response with body := .text "" } else response

theorem respond_eq (superuser : String) (request : Request) (gateway : Gateway) :
    respond superuser request gateway =
      if request.method = "HEAD" then
        withoutBody (served superuser request gateway).1 (served superuser request gateway).2
      else served superuser request gateway := by
  unfold respond served
  cases Resource.ofPath? request.target.path with
  | none => by_cases head : request.method = "HEAD" <;> simp only [head, if_true, if_false] <;> rfl
  | some found =>
    by_cases head : request.method = "HEAD" <;> simp only [head, if_true, if_false] <;> rfl

theorem respond_of_text {superuser : String} {request : Request} {gateway after : Gateway}
    {response : Response} {content : String} (text : response.body = .text content)
    (ran : served superuser request gateway = (response, after)) :
    respond superuser request gateway = (request.sent response, after) := by
  rw [respond_eq, ran, Request.sent]
  split
  · rw [withoutBody, text]
  · rfl

/-- What may come of a request: the response and the gateway after it. -/
inductive Unprivileged (superuser : String) (request : Request) (gateway : Gateway) :
    Response × Gateway → Prop where
  | refused {response : Response} (failure : 400 ≤ response.status)
      (blind : ∀ other, respond superuser request other = (response, other)) :
      Unprivileged superuser request gateway (response, gateway)
  | pinged : Unprivileged superuser request gateway
      (request.sent (Content.data (.pong gateway.uptime)).response, gateway)
  | done {key : AccessKey} {command : Command} {outcome : Outcome} {after : Gateway}
      (shows : request.Shows key) (ordinary : command.isAdministrative = false)
      (discreet : ¬ outcome.Lists)
      (ran : Gateway.dispatch (.keyed key) command gateway = (.ok outcome, after)) :
      Unprivileged superuser request gateway
        (request.sent (contentOf command outcome).response, after)
  | failed {key : AccessKey} {command : Command} {error : GatewayError} {after : Gateway}
      (shows : request.Shows key) (ordinary : command.isAdministrative = false)
      (ran : Gateway.dispatch (.keyed key) command gateway = (.error error, after)) :
      Unprivileged superuser request gateway (request.sent (errorResponse error), after)
  | unviewed {key : AccessKey} {datasource : DatasourceId} {error : GatewayError}
      {after : Gateway} (shows : request.Shows key)
      (ran : Gateway.openView (.keyed key) datasource gateway = (.error error, after)) :
      Unprivileged superuser request gateway (request.sent (errorResponse error), after)
  | viewed {key : AccessKey} {datasource : DatasourceId} {view : ConnectionId} {after : Gateway}
      (shows : request.Shows key) (withBody : request.method ≠ "HEAD")
      (ran : Gateway.openView (.keyed key) datasource gateway = (.ok view, after)) :
      Unprivileged superuser request gateway (.stream view, after)
  | glimpsed {key : AccessKey} {datasource : DatasourceId} {view : ConnectionId}
      {after : Gateway} (shows : request.Shows key) (withoutBody : request.method = "HEAD")
      (ran : Gateway.openView (.keyed key) datasource gateway = (.ok view, after)) :
      Unprivileged superuser request gateway
        (request.sent (.stream view), { after with hub := after.hub.dropView view })

theorem contentOf_text (command : Command) (outcome : Outcome) :
    ∃ text, (contentOf command outcome).response.body = .text text := by
  unfold contentOf
  split
  · exact ⟨_, rfl⟩
  · exact ⟨_, rfl⟩
  · cases outcome <;> exact ⟨_, rfl⟩

/-- The response to what has come of a command. -/
def responseTo (command : Command) : Except GatewayError Outcome → Response
  | .ok outcome => (contentOf command outcome).response
  | .error error => errorResponse error

theorem responseTo_text (command : Command) (result : Except GatewayError Outcome) :
    ∃ text, (responseTo command result).body = .text text := by
  cases result with
  | ok outcome => exact contentOf_text command outcome
  | error error => exact ⟨_, rfl⟩

theorem runHandler_perform {caller : Caller} {command : Command} {gateway after : Gateway}
    {result : Except GatewayError Outcome}
    (ran : Gateway.dispatch caller command gateway = (result, after)) :
    runHandler (perform caller command) gateway = (responseTo command result, after) := by
  cases result with
  | ok outcome =>
    rw [runHandler, perform, Gateway.run_bind_of_ok ran]
    rfl
  | error error =>
    rw [runHandler, perform, Gateway.run_bind_of_error ran]
    rfl

section Unprivileged

variable {superuser : String} {request : Request} {gateway after : Gateway} {response : Response}
  {key : AccessKey}

theorem Refusal.unprivileged (refusal : Refusal response)
    (program : served superuser request = pure response) (gateway : Gateway) :
    Unprivileged superuser request gateway (respond superuser request gateway) := by
  obtain ⟨content, text⟩ := refusal.text
  have blind (other : Gateway) : respond superuser request other = (request.sent response, other) :=
    respond_of_text text (congrFun program other)
  rw [blind]
  apply Unprivileged.refused _ blind
  unfold Request.sent
  split <;> exact refusal.failure

theorem unprivileged_perform {command : Command} (shows : request.Shows key)
    (ordinary : command.isAdministrative = false)
    (program : served superuser request = runHandler (perform (.keyed key) command))
    (gateway : Gateway) :
    Unprivileged superuser request gateway (respond superuser request gateway) := by
  cases dispatched : Gateway.dispatch (.keyed key) command gateway with
  | mk result after =>
    have answered : served superuser request gateway = (responseTo command result, after) := by
      rw [program, runHandler_perform dispatched]
    obtain ⟨content, text⟩ := responseTo_text command result
    rw [respond_of_text text answered]
    cases result with
    | ok outcome =>
      exact .done shows ordinary (Gateway.discreet_dispatch ordinary _ _ _ dispatched) dispatched
    | error error => exact .failed shows ordinary dispatched

theorem unprivileged_view {datasource : DatasourceId} (shows : request.Shows key)
    (program : served superuser request = runHandler do
      return .events (← Gateway.openView (.keyed key) datasource)) (gateway : Gateway) :
    Unprivileged superuser request gateway (respond superuser request gateway) := by
  have ran := congrFun program gateway
  cases opened : Gateway.openView (.keyed key) datasource gateway with
  | mk result after =>
    cases result with
    | ok view =>
      have answered : served superuser request gateway = (.stream view, after) := by
        rw [ran, runHandler, Gateway.run_bind_of_ok opened]
        rfl
      rw [respond_eq, answered]
      -- Only here a body is no text, so that leaving it out does something.
      by_cases head : request.method = "HEAD"
      · have whole : Unprivileged superuser request gateway
            (request.sent (.stream view), { after with hub := after.hub.dropView view }) :=
          .glimpsed shows head opened
        rw [Request.sent, if_pos head] at whole
        rw [if_pos head]
        exact whole
      · rw [if_neg head]
        exact .viewed shows head opened
    | error error =>
      have answered : served superuser request gateway = (errorResponse error, after) := by
        rw [ran, runHandler, Gateway.run_bind_of_error opened]
      rw [respond_of_text rfl answered]
      exact .unviewed shows opened

theorem Serves.unprivileged (serves : Serves request (served superuser request))
    (gateway : Gateway) :
    Unprivileged superuser request gateway (respond superuser request gateway) := by
  generalize program : served superuser request = action at serves
  cases serves with
  | refused refusal => exact refusal.unprivileged program gateway
  | pinged =>
    rw [respond_of_text rfl (congrFun program gateway)]
    exact .pinged
  | command shows ordinary => exact unprivileged_perform shows ordinary program gateway
  | view shows => exact unprivileged_view shows program gateway

theorem Unprivileged.nextKey_eq
    (unprivileged : Unprivileged superuser request gateway (response, after)) :
    after.names.nextKey = gateway.names.nextKey := by
  have opening {key : AccessKey} {datasource : DatasourceId} :
      Gateway.Keeps (·.names.nextKey) (Gateway.openView (.keyed key) datasource) := by
    apply (Gateway.keeps_of_reads (Gateway.reads_authorize _ _)).bind
    intro _
    refine Gateway.Keeps.bind ?_ fun _ _ => rfl
    apply (Gateway.nextKey_askStore _).bind
    exact fun _ => (Gateway.keeps_pure _).ite (Gateway.keeps_throw _)
  cases unprivileged with
  | refused failure blind => rfl
  | pinged => rfl
  | done shows ordinary discreet ran => exact (Gateway.untouched_nextKey.dispatch ordinary).seen ran
  | failed shows ordinary ran => exact (Gateway.untouched_nextKey.dispatch ordinary).seen ran
  | unviewed shows ran | viewed shows withBody ran | glimpsed shows withoutBody ran =>
    have same := opening.seen ran
    exact same

theorem Unprivileged.keys_eq
    (unprivileged : Unprivileged superuser request gateway (response, after))
    (wellKept : gateway.registry.WellKept) :
    after.registry.rows.keys = gateway.registry.rows.keys := by
  have dispatched {key : AccessKey} {command : Command} {result : Except GatewayError Outcome}
      (ran : Gateway.dispatch (.keyed key) command gateway = (result, after)) :
      after.registry.rows.keys = gateway.registry.rows.keys := by
    have becomes := Gateway.dispatch_registry gateway (.keyed key) command
    rw [Gateway.Leaves, ran] at becomes
    exact (becomes.becomes wellKept).keys
  cases unprivileged with
  | refused failure blind => rfl
  | pinged => rfl
  | done shows ordinary discreet ran | failed shows ordinary ran => exact dispatched ran
  | unviewed shows ran | viewed shows withBody ran | glimpsed shows withoutBody ran =>
    exact congrArg (·.rows.keys) ((Gateway.keepsRegistry_openView _ _).seen ran)

/-- The management refuses whoever does not have the superuser's key, and 401 is the answer to those
whose key can be told. -/
theorem respond_refused {resource : Resource} {parameters : List Resource.Parameter}
    (found : Resource.ofPath? request.target.path = some (resource, parameters))
    (guarded : resource.isManagement = true)
    (noKey : formField "authkey" request.target.query ≠ .ok (some superuser)) :
    (respond superuser request gateway).2 = gateway ∧
      400 ≤ (respond superuser request gateway).1.status ∧
      ∀ authkey, formField "authkey" request.target.query = .ok authkey →
        (respond superuser request gateway).1.status = 401 := by
  obtain ⟨response, refused, refusal, denied⟩ := onResource_refused guarded parameters noKey
  obtain ⟨content, text⟩ := refusal.text
  have answered : served superuser request gateway = (response, gateway) := by
    rw [served, found]
    exact congrFun refused gateway
  have sameStatus : (request.sent response).status = response.status := by
    unfold Request.sent
    split <;> rfl
  rw [respond_of_text text answered, sameStatus]
  exact ⟨rfl, refusal.failure, denied⟩

end Unprivileged

theorem respond_without (superuser : String) {request : Request} {resource : Resource}
    {parameters : List Resource.Parameter}
    (found : Resource.ofPath? request.target.path = some (resource, parameters))
    (unguarded : resource.isManagement = false) (gateway : Gateway) :
    respond superuser (request.without "authkey") gateway = respond superuser request gateway := by
  have foundWithout : Resource.ofPath? (request.without "authkey").target.path =
      some (resource, parameters) := found
  have same : served superuser (request.without "authkey") = served superuser request := by
    rw [served, served, found, foundWithout]
    exact onResource_without superuser unguarded parameters request
  rw [respond_eq, respond_eq, same]
  rfl

/-- Without the superuser's key a request does what is unprivileged, and the management refuses it.
Outside the management the superuser's key makes no difference. -/
theorem respond_unprivileged (superuser : String) (request : Request) (gateway : Gateway) :
    (formField "authkey" request.target.query ≠ .ok (some superuser) →
      Unprivileged superuser request gateway (respond superuser request gateway) ∧
      (respond superuser request gateway).2.names.nextKey = gateway.names.nextKey ∧
      (gateway.registry.WellKept →
        (respond superuser request gateway).2.registry.rows.keys = gateway.registry.rows.keys) ∧
      ∀ resource parameters,
        Resource.ofPath? request.target.path = some (resource, parameters) →
        resource.isManagement = true →
          (respond superuser request gateway).2 = gateway ∧
          400 ≤ (respond superuser request gateway).1.status ∧
          ∀ authkey, formField "authkey" request.target.query = .ok authkey →
            (respond superuser request gateway).1.status = 401) ∧
    ∀ resource parameters,
      Resource.ofPath? request.target.path = some (resource, parameters) →
      resource.isManagement = false →
        formField "authkey" (request.without "authkey").target.query = .ok none ∧
        respond superuser (request.without "authkey") gateway =
          respond superuser request gateway := by
  constructor
  · intro noKey
    -- What a request may run is told by its syntax, and each of these programs is unprivileged.
    have unprivileged := (serves_served noKey).unprivileged gateway
    refine ⟨unprivileged, unprivileged.nextKey_eq, unprivileged.keys_eq, ?_⟩
    intro resource parameters found guarded
    exact respond_refused found guarded noKey
  · intro resource parameters found unguarded
    exact ⟨formField_withoutField_self _ _, respond_without superuser found unguarded gateway⟩

theorem respond_unprivileged_customers :
    (respond "root" ⟨"GET", ⟨"/management/customers".toList, "authkey=r".toList⟩, []⟩
      (.fresh .inMemory)).1.status = 401 := by
  obtain ⟨unprivileged, -⟩ := respond_unprivileged "root"
    ⟨"GET", ⟨"/management/customers".toList, "authkey=r".toList⟩, []⟩ (.fresh .inMemory)
  have noKey : formField "authkey" "authkey=r".toList = .ok (some "r") := by decide +kernel
  obtain ⟨-, -, -, management⟩ := unprivileged (by rw [noKey]; decide)
  have found : Resource.ofPath? "/management/customers".toList = some (.customers, []) := by
    decide +kernel
  obtain ⟨-, -, denied⟩ := management .customers [] found rfl
  exact denied _ noKey

/-- A gateway with one customer and the customer's layer. -/
def viewable : Gateway :=
  (Gateway.dispatch .trusted (.createDatasource (some ⟨"d"⟩) none)
    (Gateway.dispatch .trusted (.insertApikey ⟨⟨"k"⟩, [⟨"d"⟩], []⟩) (.fresh .inMemory)).2).2

/-- The customer asks for a live view without its body. -/
def glimpse : Request :=
  ⟨"HEAD", ⟨"/api/v1/layer/d/live".toList, "apikey=k".toList⟩, []⟩

/-- A view that is opened for a request without body is closed at once, and is counted: the gateway
is neither as before, nor as after a command or an opened view. -/
theorem glimpse_leaves :
    formField "authkey" glimpse.target.query = .ok none ∧
      (respond "root" glimpse viewable).2 ≠ viewable ∧
      (∀ key command, (respond "root" glimpse viewable).2 ≠
        (Gateway.dispatch (.keyed key) command viewable).2) ∧
      ∀ key datasource, (respond "root" glimpse viewable).2 ≠
        (Gateway.openView (.keyed key) datasource viewable).2 := by
  have counted : (respond "root" glimpse viewable).2.hub.opened = 1 := by decide +kernel
  have closed : (respond "root" glimpse viewable).2.hub.registered = [] := by decide +kernel
  have before : viewable.hub.opened = 0 := by decide +kernel
  refine ⟨by decide +kernel, ?_, ?_, ?_⟩
  · intro same
    rw [same, before] at counted
    cases counted
  · intro key command same
    have kept := Gateway.untouched_opened.ofCustomer key command viewable
    rw [← same, counted, before] at kept
    cases kept
  · intro key datasource same
    rcases Gateway.hub_openView (.keyed key) datasource viewable with unopened | opened
    · rw [← same] at unopened
      rw [unopened, before] at counted
      cases counted
    · rw [← same] at opened
      rw [opened] at closed
      simp [Hub.openView, Hub.connect, Hub.subscribe] at closed

end LayerGateway.Http

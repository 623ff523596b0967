import StorageGateway.Group
import StorageGateway.Proofs.Adapter.Effects
import StorageGateway.Proofs.Version.Precedence

/-!
# Calls of adapters

A call either reaches the implementation, once, with the request that its parameters hold, or it is
turned away at a gate before it; which of the two it is depends on the operation, the parameters and
the version, and on nothing that the implementation does. The gates are told here one by one, beside
the functions that check them, and calls that follow each other are told as a session: what reaches
the implementation, in which order, and what becomes of it.
-/

namespace StorageGateway

variable {σ τ : Type}

/-- Every value has its JSON. -/
def Json.Writer.Total {α : Type} (writer : Json.Writer α) : Prop := ∀ a, ∃ json, writer a = .ok json

theorem Schema.total_writer {α : Type} (schema : Schema α) : schema.writer.Total :=
  fun a => ⟨schema.write a, rfl⟩

/-! ## The gates of a route -/

namespace Route

/-- The request that gets through to the implementation: the parameters have the shape of the wire
request, it converts, and the version is not below the floor. -/
inductive Takes (route : Route σ) (version : Version) (params : Json) : route.Request → Prop where
  | intro {wire : route.WireRequest} {request : route.Request}
      (read : route.requestSchema.read.ofJson params = .ok wire)
      (decoded : route.operation.decode wire = .ok request)
      (offered : ∀ minimum ∈ route.operation.since, version.atLeast minimum = true) :
      Takes route version params request

/-- Why no request gets through. The floor only counts for a request that converts. -/
inductive Refuses (route : Route σ) (version : Version) (params : Json) : Fault → Prop where
  /-- The parameters do not have the shape of the wire request. -/
  | unread {refusal : Json.Refusal} (h : route.requestSchema.read.ofJson params = .error refusal) :
      Refuses route version params (.invalidArgument (route.name ++ ": " ++ refusal.message))
  /-- The wire request does not convert. -/
  | undecoded {wire : route.WireRequest} {mismatch : Mismatch}
      (read : route.requestSchema.read.ofJson params = .ok wire)
      (h : route.operation.decode wire = .error mismatch) :
      Refuses route version params (.invalidArgument (route.name ++ ": " ++ mismatch.describe))
  /-- The version is below the floor. -/
  | below {wire : route.WireRequest} {request : route.Request} {minimum : Version}
      (read : route.requestSchema.read.ofJson params = .ok wire)
      (decoded : route.operation.decode wire = .ok request)
      (floor : route.operation.since = some minimum) (h : version.atLeast minimum = false) :
      Refuses route version params (.unsupportedVersion route.name version.text minimum.text)

/-- What a call gives for an answer of the implementation: its fault as it is, and its response in
the schema of the version, if it fits and has a JSON. A response that does not fit is told with the
field that the conversion names, or else with the name of the operation; one that has no JSON is
told as `Fault.badJson`, in the words of `Route.writeResponse`. -/
inductive Gives (route : Route σ) : Except Fault route.Response → Except Fault Json → Prop where
  | failed (fault : Fault) : Gives route (.error fault) (.error fault)
  | unrepresentable {response : route.Response} {mismatch : Mismatch}
      (h : route.operation.encode response = .error mismatch) :
      Gives route (.ok response)
        (.error (.unrepresentable (if mismatch.field = "" then route.name else mismatch.field)
          mismatch.message))
  | unwritten {response : route.Response} {wire : route.WireResponse} {message : String}
      (encoded : route.operation.encode response = .ok wire)
      (h : route.writeResponse wire = .error message) :
      Gives route (.ok response) (.error (.badJson message))
  | written {response : route.Response} {wire : route.WireResponse} {json : Json}
      (encoded : route.operation.encode response = .ok wire)
      (h : route.writeResponse wire = .ok json) : Gives route (.ok response) (.ok json)

theorem accept_of_takes {route : Route σ} {version : Version} {params : Json}
    {request : route.Request} (h : route.Takes version params request) :
    route.accept version params = .ok request := by
  obtain ⟨hread, hdecoded, hoffered⟩ := h
  simp only [accept, hread, Operation.accept, hdecoded]
  cases hsince : route.operation.since with
  | none => rfl
  | some minimum => simp only [hoffered minimum hsince, if_true]

theorem accept_of_refuses {route : Route σ} {version : Version} {params : Json} {fault : Fault}
    (h : route.Refuses version params fault) : route.accept version params = .error fault := by
  cases h with
  | unread h => simp only [accept, h]
  | undecoded hread h => simp only [accept, hread, Operation.accept, h, name]
  | below hread hdecoded hfloor h =>
    simp only [accept, hread, Operation.accept, hdecoded, hfloor, h, name, Bool.false_eq_true,
      if_false]

/-- The gates are complete: a request gets through or there is a reason why none does. -/
theorem takes_or_refuses (route : Route σ) (version : Version) (params : Json) :
    (∃ request, route.Takes version params request) ∨
      ∃ fault, route.Refuses version params fault := by
  cases hread : route.requestSchema.read.ofJson params with
  | error refusal => exact .inr ⟨_, .unread hread⟩
  | ok wire =>
    cases hdecoded : route.operation.decode wire with
    | error mismatch => exact .inr ⟨_, .undecoded hread hdecoded⟩
    | ok request =>
      cases hfloor : route.operation.since with
      | none => exact .inl ⟨request, hread, hdecoded, by simp [hfloor]⟩
      | some minimum =>
        by_cases hoffered : version.atLeast minimum = true
        · exact .inl ⟨request, hread, hdecoded, by simpa [hfloor] using hoffered⟩
        · exact .inr ⟨_, .below hread hdecoded hfloor (by simpa using hoffered)⟩

theorem accept_eq_ok_iff {route : Route σ} {version : Version} {params : Json}
    {request : route.Request} :
    route.accept version params = .ok request ↔ route.Takes version params request := by
  refine ⟨fun haccept => ?_, accept_of_takes⟩
  rcases route.takes_or_refuses version params with ⟨other, htakes⟩ | ⟨fault, hrefuses⟩
  · have hsame := (accept_of_takes htakes).symm.trans haccept
    exact Except.ok.inj hsame ▸ htakes
  · cases (accept_of_refuses hrefuses).symm.trans haccept

theorem accept_eq_error_iff {route : Route σ} {version : Version} {params : Json} {fault : Fault} :
    route.accept version params = .error fault ↔ route.Refuses version params fault := by
  refine ⟨fun haccept => ?_, accept_of_refuses⟩
  rcases route.takes_or_refuses version params with ⟨request, htakes⟩ | ⟨other, hrefuses⟩
  · cases (accept_of_takes htakes).symm.trans haccept
  · have hsame := (accept_of_refuses hrefuses).symm.trans haccept
    exact Except.error.inj hsame ▸ hrefuses

theorem isRejection_of_refuses {route : Route σ} {version : Version} {params : Json} {fault : Fault}
    (h : route.Refuses version params fault) : fault.isRejection = true := by
  cases h <;> rfl

theorem gives_bind_deliver (route : Route σ) (answer : Except Fault route.Response) :
    route.Gives answer (answer.bind route.deliver) := by
  cases answer with
  | error fault => exact .failed fault
  | ok response =>
    cases hencode : route.operation.encode response with
    | error mismatch =>
      have hgives : route.Gives (.ok response) _ := .unrepresentable hencode
      simpa [Except.bind, deliver, Operation.deliver, hencode, name, String.isEmpty_iff] using
        hgives
    | ok wire =>
      cases hwrite : route.writeResponse wire with
      | error message =>
        have hgives : route.Gives (.ok response) _ := .unwritten hencode hwrite
        simpa [Except.bind, deliver, Operation.deliver, hencode, Json.Writer.written, hwrite] using
          hgives
      | ok json =>
        have hgives : route.Gives (.ok response) _ := .written hencode hwrite
        simpa [Except.bind, deliver, Operation.deliver, hencode, Json.Writer.written, hwrite] using
          hgives

/-- A call of a route: the implementation is invoked when the request is accepted, and only then. -/
theorem perform_call (route : Route σ) (version : Version) (params : Json) (world : σ) :
    (route.call version params).perform world =
      match route.accept version params with
      | .error fault => (.error fault, world)
      | .ok request =>
        let answered := (route.invoke request version).perform world
        (answered.1.bind route.deliver, answered.2) := by
  unfold call
  rw [Act.perform_bind]
  cases haccept : route.accept version params with
  | error fault => rfl
  | ok request =>
    show ((route.invoke request version >>= fun response => Act.ofExcept (route.deliver response) :
      Act σ Json).perform world) =
        (((route.invoke request version).perform world).1.bind route.deliver,
          ((route.invoke request version).perform world).2)
    rw [Act.perform_bind]
    rcases (route.invoke request version).perform world with ⟨fault | response, next⟩ <;> rfl

end Route

/-! ## Other implementations -/

/-- Something else that serves the requests of routes, on a world of its own. -/
abbrev Implementation (σ τ : Type) :=
  (route : Route σ) → route.Request → Version → Act τ route.Response

/-- The same operation with another implementation behind it. -/
def Route.servedBy (implementation : Implementation σ τ) (route : Route σ) : Route τ where
  operation := route.operation
  requestSchema := route.requestSchema
  writeResponse := route.writeResponse
  invoke := implementation route

namespace Adapter

/-- The same operations with another implementation behind them. -/
def servedBy (implementation : Implementation σ τ) (adapter : Adapter σ) : Adapter τ where
  group := adapter.group
  version := adapter.version
  routes := adapter.routes.map (Route.servedBy implementation)

/-- Every method has a name of its own. -/
def Distinct (adapter : Adapter σ) : Prop := (adapter.routes.map Route.name).Nodup

theorem Distinct.route?_eq_some {adapter : Adapter σ} (h : adapter.Distinct) {route : Route σ}
    (hroute : route ∈ adapter.routes) : adapter.route? route.name = some route := by
  unfold Distinct at h
  unfold route?
  generalize adapter.routes = routes at h hroute
  induction routes with
  | nil => cases hroute
  | cons first routes ih =>
    obtain ⟨hfresh, hrest⟩ := List.nodup_cons.mp h
    rcases List.mem_cons.mp hroute with rfl | hin
    · simp
    · have hne : first.name ≠ route.name := fun heq =>
        hfresh (heq ▸ List.mem_map_of_mem hin)
      rw [List.find?_cons_of_neg (by simpa using hne)]
      exact ih hrest hin

theorem route?_eq_none {adapter : Adapter σ} {method : String}
    (h : ∀ route ∈ adapter.routes, route.name ≠ method) : adapter.route? method = none :=
  List.find?_eq_none.mpr fun route hroute => by simpa using h route hroute

/-! ## Calls -/

/-- A call of an adapter. -/
structure Call (σ : Type) where
  /-- The adapter. -/
  adapter : Adapter σ
  /-- The method. -/
  method : String
  /-- The parameters. -/
  params : Json

/-- A request that has reached the implementation behind a route. -/
structure Invocation (σ : Type) where
  /-- The route. -/
  route : Route σ
  /-- The request. -/
  request : route.Request
  /-- The version that the implementation is told. -/
  version : Version

/-- Lets the implementation serve a request that has reached it. -/
def Invocation.perform (invocation : Invocation σ) (world : σ) :
    Except Fault invocation.route.Response × σ :=
  (invocation.route.invoke invocation.request invocation.version).perform world

namespace Call

/-- What a call reaches the implementation with: the method is routed, and the request gets through
its gates at the version of the adapter, which is the one that the implementation is told. -/
inductive Reaches (call : Call σ) : Invocation σ → Prop where
  | intro {route : Route σ} {request : route.Request} (routed : route ∈ call.adapter.routes)
      (named : route.name = call.method)
      (takes : route.Takes call.adapter.version call.params request) :
      Reaches call ⟨route, request, call.adapter.version⟩

/-- Why a call does not reach the implementation. -/
inductive TurnsAway (call : Call σ) : Fault → Prop where
  /-- The method is not routed. -/
  | unrouted (h : ∀ route ∈ call.adapter.routes, route.name ≠ call.method) :
      TurnsAway call (.methodNotFound call.method)
  /-- The request does not get through the gates of its route. -/
  | refused {route : Route σ} {fault : Fault} (routed : route ∈ call.adapter.routes)
      (named : route.name = call.method)
      (refuses : route.Refuses call.adapter.version call.params fault) : TurnsAway call fault

/-- The same call of the adapter at another version. -/
def atVersion (call : Call σ) (version : Version) : Call σ :=
  { call with adapter := { call.adapter with version } }

/-- The same call with another implementation behind the adapter. -/
def servedBy (implementation : Implementation σ τ) (call : Call σ) : Call τ :=
  { call with adapter := call.adapter.servedBy implementation }

/-- Makes a call. -/
def perform (call : Call σ) (world : σ) : Except Fault Json × σ :=
  (call.adapter.call call.method call.params).perform world

theorem perform_of_routed {call : Call σ} (hdistinct : call.adapter.Distinct) {route : Route σ}
    (hrouted : route ∈ call.adapter.routes) (hnamed : route.name = call.method) (world : σ) :
    call.perform world = (route.call call.adapter.version call.params).perform world := by
  have hroute : call.adapter.route? call.method = some route :=
    hnamed ▸ hdistinct.route?_eq_some hrouted
  simp only [perform, Adapter.call, hroute]

theorem reaches_or_turnsAway (call : Call σ) :
    (∃ invocation, call.Reaches invocation) ∨ ∃ fault, call.TurnsAway fault := by
  by_cases hrouted : ∃ route ∈ call.adapter.routes, route.name = call.method
  · obtain ⟨route, hroute, hnamed⟩ := hrouted
    rcases route.takes_or_refuses call.adapter.version call.params with
      ⟨request, htakes⟩ | ⟨fault, hrefuses⟩
    · exact .inl ⟨_, hroute, hnamed, htakes⟩
    · exact .inr ⟨fault, .refused hroute hnamed hrefuses⟩
  · exact .inr ⟨_, .unrouted fun route hroute hnamed => hrouted ⟨route, hroute, hnamed⟩⟩

/-- A call that reaches the implementation has it serve the request, once. -/
theorem perform_of_reaches {call : Call σ} (hdistinct : call.adapter.Distinct)
    {invocation : Invocation σ} (h : call.Reaches invocation) (world : σ) :
    call.perform world =
      (((invocation.perform world).1.bind invocation.route.deliver),
        (invocation.perform world).2) := by
  obtain ⟨hrouted, hnamed, htakes⟩ := h
  rw [perform_of_routed hdistinct hrouted hnamed, Route.perform_call, Route.accept_of_takes htakes]
  rfl

/-- A call that is turned away does nothing. -/
theorem perform_of_turnsAway {call : Call σ} (hdistinct : call.adapter.Distinct) {fault : Fault}
    (h : call.TurnsAway fault) (world : σ) : call.perform world = (.error fault, world) := by
  cases h with
  | unrouted h =>
    simp only [perform, Adapter.call, route?_eq_none h]
    rfl
  | refused hrouted hnamed hrefuses =>
    rw [perform_of_routed hdistinct hrouted hnamed, Route.perform_call,
      Route.accept_of_refuses hrefuses]

theorem isRejection_of_turnsAway {call : Call σ} {fault : Fault} (h : call.TurnsAway fault) :
    fault.isRejection = true := by
  cases h with
  | unrouted => rfl
  | refused _ _ hrefuses => exact Route.isRejection_of_refuses hrefuses

/-- At most one route has the name of the method. -/
theorem routed_unique {call : Call σ} (hdistinct : call.adapter.Distinct) {route other : Route σ}
    (hroute : route ∈ call.adapter.routes) (hnamed : route.name = call.method)
    (hother : other ∈ call.adapter.routes) (hnamed' : other.name = call.method) :
    route = other := by
  have hfound := hdistinct.route?_eq_some hroute
  have hfound' := hdistinct.route?_eq_some hother
  rw [hnamed] at hfound
  rw [hnamed'] at hfound'
  exact Option.some.inj (hfound.symm.trans hfound')

theorem reaches_unique {call : Call σ} (hdistinct : call.adapter.Distinct)
    {invocation other : Invocation σ} (h : call.Reaches invocation) (h' : call.Reaches other) :
    invocation = other := by
  obtain ⟨hrouted, hnamed, htakes⟩ := h
  obtain ⟨hrouted', hnamed', htakes'⟩ := h'
  obtain rfl := routed_unique hdistinct hrouted hnamed hrouted' hnamed'
  have hsame := (Route.accept_of_takes htakes).symm.trans (Route.accept_of_takes htakes')
  rw [Except.ok.inj hsame]

theorem not_turnsAway_of_reaches {call : Call σ} (hdistinct : call.adapter.Distinct)
    {invocation : Invocation σ} (h : call.Reaches invocation) :
    ¬ ∃ fault, call.TurnsAway fault := by
  rintro ⟨fault, haway⟩
  obtain ⟨hrouted, hnamed, htakes⟩ := h
  cases haway with
  | unrouted h => exact h _ hrouted hnamed
  | refused hrouted' hnamed' hrefuses =>
    obtain rfl := routed_unique hdistinct hrouted hnamed hrouted' hnamed'
    cases (Route.accept_of_takes htakes).symm.trans (Route.accept_of_refuses hrefuses)

/-- The gates do not ask what is behind them. -/
theorem TurnsAway.servedBy {call : Call σ} {fault : Fault} (h : call.TurnsAway fault)
    (implementation : Implementation σ τ) : (call.servedBy implementation).TurnsAway fault := by
  cases h with
  | unrouted h =>
    refine .unrouted fun route hroute => ?_
    obtain ⟨original, horiginal, rfl⟩ := List.mem_map.mp hroute
    exact h original horiginal
  | refused hrouted hnamed hrefuses =>
    refine .refused (List.mem_map_of_mem hrouted) hnamed ?_
    cases hrefuses with
    | unread h => exact .unread h
    | undecoded hread h => exact .undecoded hread h
    | below hread hdecoded hfloor h => exact .below hread hdecoded hfloor h

theorem Distinct.servedBy {adapter : Adapter σ} (h : adapter.Distinct)
    (implementation : Implementation σ τ) : (adapter.servedBy implementation).Distinct := by
  unfold Adapter.Distinct at h ⊢
  rw [Adapter.servedBy, List.map_map]
  exact h

/-- What reaches the implementation at a version reaches it at every version that is not below. -/
theorem Reaches.atVersion {call : Call σ} {invocation : Invocation σ} (h : call.Reaches invocation)
    {version : Version} (hversion : version.atLeast call.adapter.version = true) :
    (call.atVersion version).Reaches ⟨invocation.route, invocation.request, version⟩ := by
  obtain ⟨hrouted, hnamed, hread, hdecoded, hoffered⟩ := h
  refine .intro hrouted hnamed (.intro hread hdecoded fun minimum hminimum => ?_)
  exact Version.atLeast_trans hversion (hoffered minimum hminimum)

end Call

/-! ## Sessions -/

/-- Makes calls one after the other. -/
def session : List (Call σ) → σ → List (Except Fault Json) × σ
  | [], world => ([], world)
  | call :: calls, world =>
    let (outcome, next) := call.perform world
    let (outcomes, after) := session calls next
    (outcome :: outcomes, after)

/-- Calls that lead from one world to another, with what reaches the implementation, in the order in
which it does, and with the outcome of every call. A call that is turned away leaves the world
alone; another one changes it as the implementation does, and gives what the implementation
answers. -/
inductive Session : σ → List (Call σ) → List (Invocation σ) → List (Except Fault Json) → σ →
    Prop where
  | done (world : σ) : Session world [] [] [] world
  | turnedAway {world after : σ} {call : Call σ} {calls : List (Call σ)} {fault : Fault}
      {invocations : List (Invocation σ)} {outcomes : List (Except Fault Json)}
      (away : call.TurnsAway fault) (rest : Session world calls invocations outcomes after) :
      Session world (call :: calls) invocations (.error fault :: outcomes) after
  | served {world next after : σ} {call : Call σ} {calls : List (Call σ)}
      {invocation : Invocation σ} {answer : Except Fault invocation.route.Response}
      {invocations : List (Invocation σ)} {outcome : Except Fault Json}
      {outcomes : List (Except Fault Json)} (reaches : call.Reaches invocation)
      (answered : invocation.perform world = (answer, next))
      (gives : invocation.route.Gives answer outcome)
      (rest : Session next calls invocations outcomes after) :
      Session world (call :: calls) (invocation :: invocations) (outcome :: outcomes) after

theorem session_of_distinct {calls : List (Call σ)}
    (hdistinct : ∀ call ∈ calls, call.adapter.Distinct) (world : σ) :
    ∃ invocations, Session world calls invocations (session calls world).1
      (session calls world).2 := by
  induction calls generalizing world with
  | nil => exact ⟨[], .done world⟩
  | cons call calls ih =>
    obtain ⟨hcall, hcalls⟩ := List.forall_mem_cons.mp hdistinct
    rcases call.reaches_or_turnsAway with ⟨invocation, hreaches⟩ | ⟨fault, haway⟩
    · have hperform := Call.perform_of_reaches hcall hreaches world
      obtain ⟨invocations, hrest⟩ := ih hcalls (invocation.perform world).2
      refine ⟨invocation :: invocations, ?_⟩
      simp only [session, hperform]
      exact .served hreaches rfl (invocation.route.gives_bind_deliver _) hrest
    · have hperform := Call.perform_of_turnsAway hcall haway world
      obtain ⟨invocations, hrest⟩ := ih hcalls world
      refine ⟨invocations, ?_⟩
      simp only [session, hperform]
      exact .turnedAway haway hrest

/-- Whatever adapters are called, as often and in whichever order: the calls make up a `Session`, so
each of them has the implementation serve one request, once, or leaves the world alone. Which of the
two it is, and with which request, is settled by the gates, `Call.Reaches` and `Call.TurnsAway`;
what a call gives that reaches the implementation is told by `Route.Gives`. A call that is turned
away is told so by a rejection, the same one whatever is behind the adapter, and a call that is not
turned away at one version is not at a later one. -/
theorem calls_pass_gates (calls : List (Call σ))
    (hdistinct : ∀ call ∈ calls, call.adapter.Distinct) :
    (∀ world, ∃ invocations, Session world calls invocations (session calls world).1
      (session calls world).2) ∧
    ∀ call ∈ calls,
      ((∃ invocation, call.Reaches invocation) ↔ ¬ ∃ fault, call.TurnsAway fault) ∧
      (∀ invocation other, call.Reaches invocation → call.Reaches other → invocation = other) ∧
      (∀ fault, call.TurnsAway fault → fault.isRejection = true ∧
        ∀ (τ : Type) (implementation : Implementation σ τ) (world : τ),
          (call.servedBy implementation).perform world = (.error fault, world)) ∧
      ∀ invocation version, call.Reaches invocation →
        version.atLeast call.adapter.version = true →
        (call.atVersion version).Reaches ⟨invocation.route, invocation.request, version⟩ ∧
        ¬ ∃ fault, (call.atVersion version).TurnsAway fault := by
  refine ⟨session_of_distinct hdistinct, fun call hcall => ?_⟩
  have hcall := hdistinct call hcall
  refine ⟨⟨?_, call.reaches_or_turnsAway.resolve_right⟩, ?_, ?_, ?_⟩
  · rintro ⟨invocation, hreaches⟩
    exact Call.not_turnsAway_of_reaches hcall hreaches
  · intro invocation other hreaches hreaches'
    exact Call.reaches_unique hcall hreaches hreaches'
  · intro fault haway
    refine ⟨Call.isRejection_of_turnsAway haway, fun τ implementation world => ?_⟩
    exact Call.perform_of_turnsAway (Call.Distinct.servedBy hcall implementation)
      (haway.servedBy implementation) world
  · intro invocation version hreaches hversion
    have hlater := hreaches.atVersion hversion
    exact ⟨hlater, Call.not_turnsAway_of_reaches hcall hlater⟩

/-! A notebook that takes numbers from `v1beta2` on, in decimal, and keeps the version at which each
of them was brought. -/

/-- The only method of the notebook. -/
def noteRoute : Route (List (UInt32 × Version)) where
  operation := {
    name := "Note"
    since := some (Group.draft .beta 2)
    decode := Conversion.parseU32 "number"
    encode := .same }
  requestSchema := .single "NoteRequest" "number" .string
  writeResponse := (Schema.empty "NoteResponse").writer
  invoke number version := fun notes => (.ok (), notes ++ [(number, version)])

/-- The notebook at a version. -/
def notebook (version : Version) : Adapter (List (UInt32 × Version)) where
  group := "notes"
  version
  routes := [noteRoute]

/-- Calls of which only the second and the last one reach the notebook. -/
def noteCalls : List (Call (List (UInt32 × Version))) :=
  let seven : Json := .object [("number", .string "7")]
  [⟨notebook (Group.draft .beta 1), "Note", seven⟩,
    ⟨notebook (Group.draft .beta 2), "Note", seven⟩,
    ⟨notebook Group.v1, "Note", .object [("number", .string "seven")]⟩,
    ⟨notebook Group.v1, "Forget", .object []⟩,
    ⟨notebook Group.v1, "Note", .object [("number", .string " 8 ")]⟩]

theorem calls_reach_notebook :
    (∀ call ∈ noteCalls, call.adapter.Distinct) ∧
    (session noteCalls []).2 = [(7, Group.draft .beta 2), (8, Group.v1)] ∧
    ∃ invocations, Session [] noteCalls invocations (session noteCalls []).1
      (session noteCalls []).2 := by
  have hdistinct : ∀ call ∈ noteCalls, call.adapter.Distinct := by
    simp [noteCalls, notebook, Distinct]
  exact ⟨hdistinct, by decide +kernel, (calls_pass_gates noteCalls hdistinct).1 []⟩

/-! An atlas that tells the distances between places, each under the numbers of two places. JSON has
no such members, so none of them can be written. -/

/-- Writes distances, which have a JSON only when there are none. -/
def writeDistances : Json.Writer (List ((UInt32 × UInt32) × UInt32))
  | [] => .ok (.object [])
  | _ :: _ => .error "key must be a string"

/-- The only method of the atlas, which counts how often it has been asked. -/
def distancesRoute : Route Nat where
  operation := .passthrough "Distances"
  requestSchema := .empty "DistancesRequest"
  writeResponse := writeDistances
  invoke _ _ := fun asked => (.ok [((1, 2), 7)], asked + 1)

/-- The atlas. -/
def atlas : Adapter Nat := ⟨"places", Group.v1, [distancesRoute]⟩

/-- A call that reaches the implementation, which answers it, does not always give what is answered,
and neither does it tell then that the response does not fit the version: here the response fits,
and the call gives `Fault.badJson`. -/
theorem distances_are_not_written :
    atlas.Distinct ∧
    Call.Reaches ⟨atlas, "Distances", .object []⟩ ⟨distancesRoute, (), Group.v1⟩ ∧
    Invocation.perform ⟨distancesRoute, (), Group.v1⟩ 0 = (.ok [((1, 2), 7)], 1) ∧
    distancesRoute.operation.encode [((1, 2), 7)] = .ok [((1, 2), 7)] ∧
    Call.perform ⟨atlas, "Distances", .object []⟩ 0 =
      (.error (.badJson "key must be a string"), 1) := by
  have hdistinct : atlas.Distinct := by simp [atlas, Distinct]
  have hreaches : Call.Reaches ⟨atlas, "Distances", .object []⟩
      ⟨distancesRoute, (), Group.v1⟩ :=
    .intro (List.mem_singleton_self _) rfl (.intro rfl rfl nofun)
  exact ⟨hdistinct, hreaches, rfl, rfl, Call.perform_of_reaches hdistinct hreaches 0⟩

end Adapter

end StorageGateway

import StorageGateway.Proofs.Adapter.Calls
import StorageGateway.Proofs.Json.Records

/-!
# Old versions as views

A method of an old version is a view of a stable one when every call that it takes could be replaced
by a call of the stable method: the parameters are put in other words, and so is the response, while
faults are told as they are. What the calls do to the world is the same. A view says how the words
are changed and knows nothing of how the adapters do it.
-/

namespace StorageGateway

variable {σ : Type}

/-- How a method of an old version is seen as a stable one. -/
structure View where
  /-- What the method is called. -/
  method : String
  /-- What the stable method is called. -/
  stable : String := method
  /-- The parameters of the stable method for given ones. -/
  params : Json → Json := id
  /-- The response that becomes of one of the stable method. -/
  response : Json → Except Fault Json := .ok

/-- What becomes of what a call of the stable method gives and leaves behind. -/
def View.outcome (view : View) (stable : Except Fault Json × σ) : Except Fault Json × σ :=
  (stable.1.bind view.response, stable.2)

/-- The same object with other names for some of its members, given as old and new ones. -/
def Json.rename (names : List (String × String)) : Json → Json
  | .object members => .ofMembers (members.map fun m => ((names.lookup m.1).getD m.1, m.2))
  | other => other

/-- The number of a disk in parameters that hold its text. -/
def Json.diskNumber (params : Json) : Json :=
  match ((params.field? "disk_id" 0).bind Json.text?).map (Conversion.parseU32 "disk_id") with
  | some (.ok disk) => .nat disk.toNat
  | _ => .null

theorem Json.diskNumber_eq {params x : Json} {text : String} {number : UInt32}
    (hx : params.field? "disk_id" 0 = some x) (htext : Json.Reader.string.ofJson x = .ok text)
    (hnumber : Conversion.parseU32 "disk_id" text = .ok number) :
    params.diskNumber = .nat number.toNat := by
  obtain rfl := Json.Reader.string_ofJson_eq_ok_iff.mp htext
  simp [diskNumber, hx, text?, hnumber]

/-- The request that parameters are read and converted to. -/
def Route.Reads (route : Route σ) (params : Json) (request : route.Request) : Prop :=
  ∃ wire, route.requestSchema.read.ofJson params = .ok wire ∧
    route.operation.decode wire = .ok request

/-- A version has what an operation is offered from. -/
def Route.OfferedAt (route : Route σ) (version : Version) : Prop :=
  ∀ minimum ∈ route.operation.since, version.atLeast minimum = true

theorem Route.Reads.takes {route : Route σ} {params : Json} {request : route.Request}
    (h : route.Reads params request) {version : Version} (hoffered : route.OfferedAt version) :
    route.Takes version params request := by
  obtain ⟨wire, hread, hdecoded⟩ := h
  exact ⟨hread, hdecoded, hoffered⟩

/-- The calls that an old route takes are calls of a stable one. -/
structure View.Shows (view : View) (old stable : Route σ) : Prop where
  oldName : old.name = view.method
  stableName : stable.name = view.stable
  calls : ∀ params request, old.Reads params request →
    ∀ version, old.OfferedAt version → ∀ stableVersion world,
      (old.call version params).perform world =
        view.outcome ((stable.call stableVersion (view.params params)).perform world)

section
variable {OldWire Wire Request Response OldResponse WireResponse : Type}
  {old : Operation OldWire Request Response OldResponse}
  {stable : Operation Wire Request Response WireResponse}
  {oldRequest : Schema OldWire} {request : Schema Wire} {oldWriter : Json.Writer OldResponse}
  {writer : Json.Writer WireResponse} {serve : Request → Act σ Response} {view : View}

/-- Two routes to one implementation: what the old one reads the stable one reads from the
parameters put in other words, and what the old one delivers is what the stable one does put in
other words. -/
theorem View.Shows.of_route (hmethod : old.name = view.method) (hstable : stable.name = view.stable)
    (hsince : stable.since = none)
    (hreads : ∀ params wire given, oldRequest.read.ofJson params = .ok wire →
      old.decode wire = .ok given →
      ∃ stableWire, request.read.ofJson (view.params params) = .ok stableWire ∧
        stable.decode stableWire = .ok given)
    (hdelivers : ∀ answer, (old.deliver answer).bind oldWriter.written =
      ((stable.deliver answer).bind writer.written).bind view.response) :
    view.Shows ⟨old, oldRequest, oldWriter, fun given _ => serve given⟩
      ⟨stable, request, writer, fun given _ => serve given⟩ where
  oldName := hmethod
  stableName := hstable
  calls params given hgiven version hoffered stableVersion world := by
    have htakes := hgiven.takes hoffered
    obtain ⟨wire, hread, hdecoded⟩ := hgiven
    obtain ⟨stableWire, hstableRead, hstableDecoded⟩ := hreads params wire given hread hdecoded
    have hstableTakes : Route.Takes (σ := σ)
        ⟨stable, request, writer, fun given _ => serve given⟩ stableVersion (view.params params)
        given := ⟨hstableRead, hstableDecoded, by simp [hsince]⟩
    rw [Route.perform_call, Route.perform_call, Route.accept_of_takes htakes,
      Route.accept_of_takes hstableTakes]
    show (((serve given).perform world).1.bind _, ((serve given).perform world).2) =
      view.outcome (((serve given).perform world).1.bind _, ((serve given).perform world).2)
    rcases (serve given).perform world with ⟨fault | answer, next⟩
    · rfl
    · exact congrArg (·, next) (hdelivers answer)

end

/-- A method that is the same at both versions and told neither. -/
theorem View.Shows.refl {route : Route σ} {method : String} (hname : route.name = method)
    (hsince : route.operation.since = none)
    (hinvoke : ∀ given version other, route.invoke given version = route.invoke given other) :
    View.Shows { method } route route := by
  obtain ⟨operation, request, writer, invoke⟩ := route
  have hserve : invoke = fun given _ => invoke given Group.v1 := by
    funext given version
    exact hinvoke given version Group.v1
  -- The implementation is not told which version it serves, so it may as well be a fixed one.
  rw [hserve]
  refine .of_route hname hname hsince (fun params wire given hread hdecoded => ?_) fun answer => ?_
  · exact ⟨wire, hread, hdecoded⟩
  · cases (operation.deliver answer).bind writer.written <;> rfl

/-- Routes of an old version and stable ones, each beside the view that it is. -/
inductive Aligned : List View → List (Route σ) → List (Route σ) → Prop where
  | nil : Aligned [] [] []
  | cons {view : View} {old stable : Route σ} {views : List View} {olds stables : List (Route σ)}
      (shows : view.Shows old stable) (rest : Aligned views olds stables) :
      Aligned (view :: views) (old :: olds) (stable :: stables)

theorem Aligned.exists_view {views : List View} {olds stables : List (Route σ)}
    (h : Aligned views olds stables) {old : Route σ} (hold : old ∈ olds) :
    ∃ view ∈ views, ∃ stable ∈ stables, view.Shows old stable := by
  induction h with
  | nil => cases hold
  | cons hshows _ ih =>
    rcases List.mem_cons.mp hold with rfl | hin
    · exact ⟨_, .head _, _, .head _, hshows⟩
    · obtain ⟨view, hview, stable, hstable, hrest⟩ := ih hin
      exact ⟨view, .tail _ hview, stable, .tail _ hstable, hrest⟩

theorem Adapter.call_eq_of_routed {adapter : Adapter σ} (hdistinct : adapter.Distinct)
    {route : Route σ} (hroute : route ∈ adapter.routes) (params : Json) :
    adapter.call route.name params = route.call adapter.version params := by
  unfold Adapter.call
  rw [hdistinct.route?_eq_some hroute]

/-- The calls that an old adapter takes are calls of the stable one. -/
theorem Aligned.exists_shown {views : List View} {old stable : Adapter σ}
    (h : Aligned views old.routes stable.routes) (hold : old.Distinct) (hstable : stable.Distinct)
    {route : Route σ} (hroute : route ∈ old.routes) {params : Json} {request : route.Request}
    (hreads : route.Reads params request) (hoffered : route.OfferedAt old.version) :
    ∃ view ∈ views, view.method = route.name ∧ ∀ world,
      (old.call route.name params).perform world =
        view.outcome ((stable.call view.stable (view.params params)).perform world) := by
  obtain ⟨view, hview, stableRoute, hstableRoute, hshows⟩ := h.exists_view hroute
  refine ⟨view, hview, hshows.oldName.symm, fun world => ?_⟩
  rw [Adapter.call_eq_of_routed hold hroute, ← hshows.stableName,
    Adapter.call_eq_of_routed hstable hstableRoute]
  exact hshows.calls params request hreads old.version hoffered stable.version world

end StorageGateway

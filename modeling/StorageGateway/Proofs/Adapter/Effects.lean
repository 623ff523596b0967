import StorageGateway.Adapter.Basic

/-!
# What a call may do to the world

A call does to the world what the implementation does, and nothing when it does not get as far as
the implementation. Whatever holds of every implementation behind an adapter, from one world to the
next, therefore holds of every call.
-/

namespace StorageGateway

variable {σ : Type}

namespace Act

variable {α β : Type}

theorem perform_bind (action : Act σ α) (next : α → Act σ β) (world : σ) :
    (action >>= next).perform world =
      match action.perform world with
      | (.ok a, changed) => (next a).perform changed
      | (.error fault, changed) => (.error fault, changed) := by
  show (ExceptT.bindCont next (action.perform world).1 : StateM σ (Except Fault β))
    (action.perform world).2 = _
  rcases action.perform world with ⟨fault | a, changed⟩ <;> rfl

/-- Whatever an action does, the relation leads from the world before it to the one after it. -/
def Ensures (R : σ → σ → Prop) (action : Act σ α) : Prop :=
  ∀ world, R world (action.perform world).2

variable {R : σ → σ → Prop}

/-- An action that is decided upon without touching the world. -/
theorem Ensures.ofExcept_bind (hrefl : ∀ world, R world world) {outcome : Except Fault α}
    {next : α → Act σ β} (h : ∀ a, outcome = .ok a → Ensures R (next a)) :
    Ensures R (Act.ofExcept outcome >>= next) := by
  intro world
  cases outcome with
  | ok a => exact h a rfl world
  | error fault => exact hrefl world

/-- An action of which only the outcome is looked at afterwards. -/
theorem Ensures.bind_ofExcept {action : Act σ α} (h : Ensures R action)
    (outcome : α → Except Fault β) : Ensures R (action >>= fun a => Act.ofExcept (outcome a)) := by
  intro world
  have haction := h world
  rw [perform_bind]
  rcases hp : action.perform world with ⟨fault | a, changed⟩ <;> rw [hp] at haction <;>
    exact haction

end Act

variable {R : σ → σ → Prop}

theorem Route.call_ensures (hrefl : ∀ world, R world world) (route : Route σ) (version : Version)
    (params : Json)
    (h : ∀ request, route.accept version params = .ok request →
      (route.invoke request version).Ensures R) : (route.call version params).Ensures R :=
  .ofExcept_bind hrefl fun request haccept => (h request haccept).bind_ofExcept _

/-- What the implementation behind an adapter ensures for the request that it is given, the call of
the adapter ensures. -/
theorem Adapter.call_ensures_of_accept (hrefl : ∀ world, R world world) (adapter : Adapter σ)
    (method : String) (params : Json)
    (h : ∀ route ∈ adapter.routes, ∀ request,
      route.accept adapter.version params = .ok request →
      (route.invoke request adapter.version).Ensures R) :
    (adapter.call method params).Ensures R := by
  unfold Adapter.call
  cases hroute : adapter.route? method with
  | none => exact hrefl
  | some route =>
    have hin : route ∈ adapter.routes := List.mem_of_find?_eq_some hroute
    exact route.call_ensures hrefl adapter.version params (h route hin)

/-- What every implementation behind an adapter ensures, every call of the adapter ensures,
whatever its method and its parameters are. -/
theorem Adapter.call_ensures (hrefl : ∀ world, R world world) (adapter : Adapter σ)
    (h : ∀ route ∈ adapter.routes, ∀ request version, (route.invoke request version).Ensures R)
    (method : String) (params : Json) : (adapter.call method params).Ensures R :=
  adapter.call_ensures_of_accept hrefl method params fun route hroute request _ =>
    h route hroute request adapter.version

end StorageGateway

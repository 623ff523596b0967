import StorageGateway.Proofs.Endpoint.Sockets
import StorageGateway.Proofs.Lifecycle.Listeners
import StorageGateway.Proofs.Lifecycle.Sessions

/-!
# Starts that succeed

When all listeners can be opened, the start of a gateway leaves one task and one server for each
endpoint, in the order of the endpoints, and the gateway is quiet. Sockets that are opened for
endpoints with different names stand beside each other.
-/

namespace StorageGateway.Lifecycle

variable {ω κ : Type}

/-! ## Opening sockets -/

section Sockets

open Endpoint Host

variable {directory : String}

/-- What comes of opening addresses on a machine: each of them has a socket with a number of its
own, and nothing else is done but that directories are made. -/
structure OpenedAll (before : Machine) (listeners : List Listener) (after : Machine) : Prop where
  numbers : listeners.map Listener.socket = List.range' before.nextSocket listeners.length
  extended : after.files.Extends before.files
  listened : ∀ number ∈ before.listening, number ∈ after.listening
  stands : ∀ listener ∈ listeners, ∃ place, Stands after listener place
  elsewhere : ∀ place, after.files.node? place ≠ before.files.node? place →
    (∃ listener ∈ listeners, Stands after listener place) ∨
      before.files.node? place = none ∧ after.files.node? place = some .directory

/-- The addresses of different endpoints lead to different places. -/
theorem place_ne_of_locate {tree : FileTree} {endpoint endpoint' : String × Version}
    (hplain : '/' ∉ endpoint.1.toList) (hplain' : '/' ∉ endpoint'.1.toList)
    (hne : endpoint ≠ endpoint') {place place' : Place}
    (hl : tree.locate false (Socket.addressNames (address directory endpoint.1 endpoint.2)) =
      .ok place)
    (hl' : tree.locate false (Socket.addressNames (address directory endpoint'.1 endpoint'.2)) =
      .ok place') : place ≠ place' := by
  rw [addressNames_address directory endpoint.2 hplain] at hl
  rw [addressNames_address directory endpoint'.2 hplain'] at hl'
  have hbeside := FileTree.siblings_of_locate (isName_socketName hplain) (isName_socketName hplain')
    hl hl'
  refine hbeside.ne fun hname => hne ?_
  obtain ⟨hgroup, hversion⟩ := socketName_injective hname
  exact Prod.ext hgroup hversion

theorem Provisioner.openAt_sockets (address : String) (machine : Machine) :
    (Provisioner.sockets directory).openAt address machine =
      (Socket.openAt address).perform machine := by
  simp only [Provisioner.sockets]

/-- An address is opened, and then others that lead elsewhere. -/
theorem OpenedAll.cons {before between after : Machine} {listener : Listener}
    {listeners : List Listener} {place : Place} (hopened : Opened before listener between place)
    (hall : OpenedAll between listeners after)
    (hapart : ∀ other ∈ listeners, ¬ Stands after other place) :
    OpenedAll before (listener :: listeners) after := by
  have hkept : after.files.node? place = between.files.node? place := by
    by_contra hchanged
    rcases hall.elsewhere place hchanged with ⟨other, hin, hstands⟩ | ⟨hnone, -⟩
    · exact hapart other hin hstands
    · rw [hopened.stands.socket] at hnone
      cases hnone
  have hstands : Stands after listener place := by
    refine ⟨hopened.stands.short, hall.listened _ hopened.stands.listened,
      hall.extended.locate hopened.stands.leads, ?_⟩
    rw [hkept, hopened.stands.socket]
  refine ⟨?_, hopened.extended.trans hall.extended, ?_, ?_, ?_⟩
  · rw [List.map_cons, hall.numbers, hopened.socket_eq, hopened.next_eq, List.length_cons,
      List.range'_succ]
  · intro number hin
    refine hall.listened number ?_
    rw [hopened.listening_eq]
    exact List.mem_cons_of_mem _ hin
  · intro other hin
    rcases List.mem_cons.mp hin with rfl | hin
    · exact ⟨place, hstands⟩
    · exact hall.stands other hin
  · intro other hchanged
    by_cases hsame : other = place
    · subst hsame
      exact .inl ⟨listener, List.mem_cons_self, hstands⟩
    · by_cases hlate : after.files.node? other = between.files.node? other
      · rw [hlate] at hchanged ⊢
        exact .inr (hopened.elsewhere other hsame hchanged)
      · rcases hall.elsewhere other hlate with ⟨later, hin, hat⟩ | ⟨hnone, hdirectory⟩
        · exact .inl ⟨later, List.mem_cons_of_mem _ hin, hat⟩
        · refine .inr ⟨?_, hdirectory⟩
          by_contra hsome
          have hmade : between.files.node? other ≠ before.files.node? other := by
            rw [hnone]
            exact Ne.symm hsome
          exact hsome (hopened.elsewhere other hsame hmade).1

theorem openedAll_of_opens {endpoints : List (String × Version)}
    (hplain : ∀ endpoint ∈ endpoints, '/' ∉ endpoint.1.toList) (hdistinct : endpoints.Nodup)
    {before after : Machine} {listeners : List Listener}
    (h : (Provisioner.sockets directory).Opens ((Provisioner.sockets directory).addresses endpoints)
      before listeners after) :
    listeners.map Listener.address = (Provisioner.sockets directory).addresses endpoints ∧
      OpenedAll before listeners after := by
  generalize hgiven : (Provisioner.sockets directory).addresses endpoints = addresses at h ⊢
  induction h generalizing endpoints with
  | nil machine =>
    refine ⟨rfl, rfl, .refl _, fun _ hin => hin, ?_, fun _ hchanged => absurd rfl hchanged⟩
    intro listener hin
    cases hin
  | @cons _ rest listener listeners before between after first others ih =>
    cases endpoints with
    | nil => cases hgiven
    | cons endpoint endpoints =>
      obtain ⟨hfirst, hrest⟩ := List.cons_eq_cons.mp hgiven
      subst hfirst
      obtain ⟨hfresh, hothers⟩ := List.nodup_cons.mp hdistinct
      rw [Provisioner.openAt_sockets] at first
      obtain ⟨haddress, place, hopened⟩ := Socket.opened_of_openAt first
      obtain ⟨haddresses, hall⟩ := ih (fun other hin => hplain other (List.mem_cons_of_mem _ hin))
        hothers hrest
      refine ⟨by rw [List.map_cons, haddress, haddresses], .cons hopened hall ?_⟩
      -- No later socket is put in the place of the first one: their addresses lead elsewhere.
      intro other hin hstands
      have hother : other.address ∈ rest := haddresses ▸ List.mem_map_of_mem hin
      rw [← hrest] at hother
      obtain ⟨endpoint', hin', heq⟩ := List.mem_map.mp hother
      have hleads := hall.extended.locate hopened.stands.leads
      have hleads' := hstands.leads
      rw [haddress] at hleads
      rw [← heq] at hleads'
      refine place_ne_of_locate (hplain endpoint List.mem_cons_self)
        (hplain endpoint' (List.mem_cons_of_mem _ hin')) ?_ hleads hleads' rfl
      rintro rfl
      exact hfresh hin'

end Sockets

/-! ## The call that starts the set -/

section Start

variable {P : Provisioner ω κ}

/-- The tasks of endpoints and their listeners. -/
def tasksOf (places : List ((String × Version) × κ)) : List (Task κ) :=
  places.map fun place => { endpoint := place.1, listener := place.2 }

theorem length_tasksOf (places : List ((String × Version) × κ)) :
    (tasksOf places).length = places.length := List.length_map _

theorem Activity.run_spawning (P : Provisioner ω κ) (left : List ((String × Version) × κ))
    (c : Coordinator κ) (handles : List Hosted) (w : ω) :
    ∃ handles', handles'.length = handles.length + left.length ∧
      Activity.run P ⟨c, [.spawning left handles]⟩ (List.replicate left.length (.advance 0)) w =
        (⟨{ c with tasks := c.tasks ++ tasksOf left }, [.spawning [] handles']⟩, w) := by
  induction left generalizing c handles with
  | nil =>
    refine ⟨handles, rfl, ?_⟩
    rw [tasksOf, List.map_nil, List.append_nil]
    rfl
  | cons place left ih =>
    obtain ⟨handles', hlength, hrun⟩ := ih (c.spawn place.1 place.2)
      (handles ++ [⟨P.addressOf place.2, c.tasks.length⟩])
    refine ⟨handles', ?_, ?_⟩
    · rw [hlength, List.length_append, List.length_singleton, List.length_cons]
      omega
    · have hstep : Activity.run P ⟨c, [.spawning (place :: left) handles]⟩
          (List.replicate (place :: left).length (.advance 0)) w =
          Activity.run P ⟨c.spawn place.1 place.2,
            [.spawning left (handles ++ [⟨P.addressOf place.2, c.tasks.length⟩])]⟩
            (List.replicate left.length (.advance 0)) w := rfl
      have htasks : (c.spawn place.1 place.2).tasks ++ tasksOf left =
          c.tasks ++ tasksOf (place :: left) := List.append_assoc _ _ _
      rw [hstep, hrun, htasks]
      rfl

/-- What comes of starting a set: its tasks serve, nothing has been posted, and the call is over. -/
structure Started (activity : Activity κ) (tasks : List (Task κ)) : Prop where
  running : activity.coordinator.state = .running
  serving : activity.coordinator.tasks = tasks
  hosted : activity.coordinator.handles.length = tasks.length
  unposted : activity.coordinator.queue = []
  calls : activity.calls = [.answered (.started (.ok ()))]

/-- The call that starts the set, when all listeners can be opened. -/
theorem Activity.run_start_of_opens {endpoints : List (String × Version)} {world world' : ω}
    {listeners : List κ} (h : P.Opens (P.addresses endpoints) world listeners world') :
    ∃ activity, Activity.run P (.unstarted endpoints true)
        (.call .start :: List.replicate (endpoints.length + 3) (.advance 0)) world =
          (activity, world') ∧
      Started activity (tasksOf (endpoints.zip listeners)) := by
  have hlength : (endpoints.zip listeners).length = endpoints.length := by
    rw [List.length_zip, h.length_eq, Provisioner.addresses, List.length_map, Nat.min_self]
  have hevents : Event.call Request.start :: List.replicate (endpoints.length + 3) (.advance 0) =
      [.call .start, .advance 0] ++ (List.replicate (endpoints.zip listeners).length (.advance 0) ++
        List.replicate 2 (.advance 0)) := by
    rw [hlength, List.replicate_append_replicate]
    rfl
  have hopened : Activity.run P (.unstarted endpoints true) [.call .start, .advance 0] world =
      (⟨{ endpoints, state := .starting }, [.spawning (endpoints.zip listeners) []]⟩, world') := by
    show Activity.run P ⟨{ endpoints, state := .starting }, [.opening]⟩ [.advance 0] world = _
    simp only [Activity.run, Activity.step, Activity.advance, List.getElem?_cons_zero, Call.advance,
      Call.openListeners, Provisioner.openAll_of_opens h, List.set_cons_zero]
  obtain ⟨handles, hhandles, hspawned⟩ := Activity.run_spawning P (endpoints.zip listeners)
    { endpoints, state := .starting } [] world'
  rw [hevents, Activity.run_append, hopened, Activity.run_append, hspawned]
  refine ⟨_, rfl, rfl, rfl, ?_, rfl, rfl⟩
  show handles.length = _
  rw [hhandles, length_tasksOf, List.length_nil, Nat.zero_add]

theorem Started.signalled_progress {activity : Activity κ}
    {places : List ((String × Version) × κ)} (h : Started activity (tasksOf places)) :
    ∀ task ∈ activity.coordinator.tasks, task.signalled = false ∧ task.progress = .serving := by
  rw [h.serving]
  intro task htask
  obtain ⟨place, -, rfl⟩ := List.mem_map.mp htask
  exact ⟨rfl, rfl⟩

/-- Once a set has started, the gateway is quiet that has new servers for its tasks. -/
theorem Started.quiet {activity : Activity κ} {places : List ((String × Version) × κ)}
    (h : Started activity (tasksOf places)) {gateway : Gateway ω κ}
    (hactivity : gateway.activity = activity) {descriptors : List (Endpoint.Descriptor ω)}
    (hservers : gateway.servers = descriptors.map (Gateway.serverOf P))
    (hpaired : places.length = descriptors.length) : gateway.Quiet := by
  subst hactivity
  have htasks := h.signalled_progress
  refine ⟨⟨?_, fun task hin => (htasks task hin).1, fun task hin => (htasks task hin).2, ?_,
    h.unposted, ?_, ?_⟩, ?_⟩
  · intro hstopped
    cases h.running.symm.trans hstopped
  · exact h.hosted.trans (congrArg List.length h.serving.symm)
  · have hlength := congrArg List.length h.serving
    rw [length_tasksOf] at hlength
    rw [hservers, List.length_map]
    exact hlength.trans hpaired
  · intro call hcall
    rw [h.calls] at hcall
    rw [List.mem_singleton.mp hcall]
    trivial
  · rw [hservers]
    intro server hserver
    obtain ⟨descriptor, -, rfl⟩ := List.mem_map.mp hserver
    exact ⟨rfl, rfl, rfl, fun connection hc => by cases hc⟩

/-- A gateway that is started and can open all listeners has a task and a server for each endpoint,
and is quiet. -/
theorem Gateway.start_of_opens {descriptors : List (Endpoint.Descriptor ω)} {world world' : ω}
    {listeners : List κ}
    (h : P.Opens (P.addresses (descriptors.map Endpoint.Descriptor.key)) world listeners world') :
    ∃ gateway, (Gateway.make P descriptors).start world = (.ok (), gateway, world') ∧
      gateway.Quiet ∧
      gateway.coordinator.tasks =
        tasksOf ((descriptors.map Endpoint.Descriptor.key).zip listeners) ∧
      gateway.servers = descriptors.map (serverOf P) := by
  obtain ⟨activity, hrun, hstarted⟩ := Activity.run_start_of_opens h
  rw [List.length_map] at hrun
  have hhappen : (Gateway.make P descriptors).happen (Gateway.make P descriptors).startEvents
      world = ({ Gateway.make P descriptors with activity }, world') := by
    have hdone : (Gateway.make P descriptors).activity.run (Gateway.make P descriptors).provisioner
        (Gateway.make P descriptors).startEvents world = (activity, world') := hrun
    unfold Gateway.happen
    rw [hdone]
  have hanswer : ({ Gateway.make P descriptors with activity } : Gateway ω κ).answer? 0 =
      some (.started (.ok ())) := by
    show activity.calls[0]?.bind Call.answer? = _
    rw [hstarted.calls]
    rfl
  have hstart : (Gateway.make P descriptors).start world = (.ok (),
      { Gateway.make P descriptors with activity, servers := descriptors.map (serverOf P) },
      world') := by
    unfold Gateway.start
    rw [hhappen]
    dsimp only
    rw [show (Gateway.make P descriptors).activity.calls.length = 0 from rfl, hanswer]
    rfl
  have hpaired : ((descriptors.map Endpoint.Descriptor.key).zip listeners).length =
      descriptors.length := by
    rw [List.length_zip, h.length_eq, Provisioner.addresses, List.length_map, List.length_map,
      List.length_map, Nat.min_self]
  exact ⟨_, hstart, hstarted.quiet rfl rfl hpaired, hstarted.serving, rfl⟩

/-- What a session has come to whose start succeeds. -/
theorem Session.start_eq_ok {descriptors : List (Endpoint.Descriptor ω)} {world : ω}
    {started : Session ω κ}
    (h : Session.start ⟨Gateway.make P descriptors, world⟩ = (.ok (), started)) :
    ∃ listeners, P.Opens (P.addresses (descriptors.map Endpoint.Descriptor.key)) world listeners
        started.world ∧
      started.gateway.Quiet ∧
      started.gateway.coordinator.tasks =
        tasksOf ((descriptors.map Endpoint.Descriptor.key).zip listeners) ∧
      started.gateway.servers = descriptors.map (Gateway.serverOf P) := by
  unfold Session.start at h
  rcases P.opens_or_failsAfter (P.addresses (descriptors.map Endpoint.Descriptor.key)) world with
    ⟨listeners, world', hopens⟩ | ⟨before, address, fault, hfails⟩
  · obtain ⟨gateway, hstart, hquiet, htasks, hservers⟩ := Gateway.start_of_opens hopens
    dsimp only at h
    rw [hstart] at h
    dsimp only [Session.settle] at h
    rw [hquiet.settle] at h
    cases h
    exact ⟨listeners, hopens, hquiet, htasks, hservers⟩
  · obtain ⟨hfault, -⟩ := Gateway.start_of_fails hfails
    dsimp only at h
    split at h
    · rename_i hok
      rw [hok] at hfault
      cases hfault
    · cases h

end Start

end StorageGateway.Lifecycle

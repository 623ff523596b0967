import StorageGateway.Proofs.Lifecycle.Calls
import StorageGateway.Proofs.Lifecycle.Run

/-!
# How far the set of endpoints has come

The control invariant says, for each state, what callers and tasks may find, and for each call how
far it may have come then. At most one call was ever let in to start the set, and at most one has
the receiving end of the completions, whatever comes between their steps.
-/

namespace StorageGateway.Lifecycle

variable {ω κ : Type}

/-! ## Where the state may go -/

/-- Whether the set has been started. -/
def State.isUp : State → Bool
  | .running | .stopping | .stopped => true
  | _ => false

/-- The moves of the state. The argument says whether there are no endpoints: only then may a set
be stopped that nobody has told to stop. -/
inductive State.Moves (empty : Prop) : State → State → Prop where
  | begin : Moves empty .unstarted .starting
  | refuse : Moves empty .starting .failedToStart
  | run : Moves empty .starting .running
  | stop : Moves empty .running .stopping
  | finish : Moves empty .stopping .stopped
  | finishEmpty (h : empty) : Moves empty .running .stopped

/-- The addresses of the listeners that are opened for endpoints in a world, in the order of the
endpoints; none when one of them cannot be opened. -/
def Provisioner.listened (P : Provisioner ω κ) (endpoints : List (String × Version)) (world : ω) :
    List String :=
  match (P.openAll (P.addresses endpoints) world).1 with
  | .ok listeners => listeners.map P.addressOf
  | .error _ => []

section Control

variable (P : Provisioner ω κ) (endpoints : List (String × Version)) (announces : Bool) (world : ω)

/-- Nobody can see any endpoints yet: none is hosted, there is no channel, and whoever is to be told
the addresses still is. -/
structure Unlisted (c : Coordinator κ) : Prop where
  handles : c.handles = []
  receiver : c.receiver = .absent
  heard : c.heard = []
  announces : c.announces = announces

/-- Each endpoint has a task with a listener of its own, in order. -/
def Served (c : Coordinator κ) : Prop :=
  ∃ listeners w, P.openAll (P.addresses endpoints) world = (.ok listeners, w) ∧
    c.places = endpoints.zip listeners

/-- All endpoints with a task are hosted, and the channel is there. -/
structure Listed (c : Coordinator κ) : Prop where
  handles : c.handles = handlesOf P c.places
  receiver : c.receiver = .free ∨ c.receiver = .taken

/-- What there is in each state. -/
def Shape (c : Coordinator κ) (w : ω) : Prop :=
  match c.state with
  | .unstarted => Unlisted announces c ∧ c.places = [] ∧ w = world
  | .starting => Unlisted announces c
  | .failedToStart => Unlisted announces c ∧ c.places = [] ∧
      ∃ fault w, P.openAll (P.addresses endpoints) world = (.error fault, w)
  | .running => Served P endpoints world c ∧ Listed P c
  | .stopping => Served P endpoints world c ∧ Listed P c ∧ ∀ task ∈ c.tasks, task.signalled = true
  | .stopped => Served P endpoints world c ∧ c.handles = [] ∧ c.receiver = .dropped ∧
      ∀ task ∈ c.tasks, task.signalled = true

/-- How far a call may have come, given what callers and tasks share. -/
def Fits (c : Coordinator κ) (w : ω) (call : Call κ) : Prop :=
  match call with
  | .opening => c.state = .starting ∧ c.places = [] ∧ w = world
  | .refused fault => c.state = .starting ∧ c.places = [] ∧
      ∃ w, P.openAll (P.addresses endpoints) world = (.error fault, w)
  | .spawning left handles => c.state = .starting ∧ handles = handlesOf P c.places ∧
      ∃ listeners w, P.openAll (P.addresses endpoints) world = (.ok listeners, w) ∧
        c.places ++ left = endpoints.zip listeners
  | .announcing addresses told => c.state.isUp = true ∧ c.heard = [] ∧ told = announces ∧
      addresses = P.listened endpoints world
  | .answered (.started (.ok ())) => c.state.isUp = true ∧
      c.heard = if announces then [P.listened endpoints world] else []
  | .answered (.started (.error fault)) => lateToStart fault = true ∨ c.state = .failedToStart ∧
      ∃ cause w, fault = .startupFailed [cause] ∧
        P.openAll (P.addresses endpoints) world = (.error cause, w)
  | .awaiting expected => c.receiver = .taken ∧ expected = endpoints.length ∧ 0 < expected
  | .cascading expected _ => c.receiver = .taken ∧ expected = endpoints.length ∧ 0 < expected
  | .collecting expected _ _ =>
      c.receiver = .taken ∧ expected = endpoints.length ∧ 0 < expected ∧ c.state = .stopping
  | .concluding _ => c.receiver = .taken ∧ (endpoints = [] ∨ c.state = .stopping)
  | .answered (.waited (.ok _)) => c.receiver = .dropped
  | _ => True

/-- The control invariant of an activity that began with these endpoints in this world. One call was
let in to start the set as soon as the set has left its first state, and one to wait as soon as the
receiving end is no longer free. -/
structure Control (s : Activity κ) (w : ω) : Prop where
  endpoints_eq : s.coordinator.endpoints = endpoints
  shape : Shape P endpoints announces world s.coordinator w
  fits : ∀ call ∈ s.calls, Fits P endpoints announces world s.coordinator w call
  starts : s.calls.countP Call.isStart = if s.coordinator.state = .unstarted then 0 else 1
  waits : s.calls.countP Call.isWait =
    if s.coordinator.receiver = .absent ∨ s.coordinator.receiver = .free then 0 else 1

end Control

/-! ## Shapes and the rest of the calls -/

section Frames

variable {P : Provisioner ω κ} {endpoints : List (String × Version)} {announces : Bool} {world : ω}
variable {c c' : Coordinator κ} {w w' : ω} {call : Call κ}

theorem shape_of_unstarted (hs : c.state = .unstarted) :
    Shape P endpoints announces world c w ↔ Unlisted announces c ∧ c.places = [] ∧ w = world := by
  simp [Shape, hs]

theorem shape_of_starting (hs : c.state = .starting) :
    Shape P endpoints announces world c w ↔ Unlisted announces c := by
  simp [Shape, hs]

theorem shape_of_failedToStart (hs : c.state = .failedToStart) :
    Shape P endpoints announces world c w ↔ Unlisted announces c ∧ c.places = [] ∧
      ∃ fault w, P.openAll (P.addresses endpoints) world = (.error fault, w) := by
  simp [Shape, hs]

theorem shape_of_running (hs : c.state = .running) :
    Shape P endpoints announces world c w ↔ Served P endpoints world c ∧ Listed P c := by
  simp [Shape, hs]

theorem shape_of_stopping (hs : c.state = .stopping) :
    Shape P endpoints announces world c w ↔ Served P endpoints world c ∧ Listed P c ∧
      ∀ task ∈ c.tasks, task.signalled = true := by
  simp [Shape, hs]

theorem Served.listened_eq (h : Served P endpoints world c) :
    P.listened endpoints world = c.places.map fun place => P.addressOf place.2 := by
  obtain ⟨listeners, w, ho, hp⟩ := h
  have hlen := P.length_of_openAll_addresses ho
  rw [hp, Provisioner.listened, ho]
  calc listeners.map P.addressOf
      = ((endpoints.zip listeners).map Prod.snd).map P.addressOf := by
        rw [List.map_snd_zip (by omega)]
    _ = (endpoints.zip listeners).map fun place => P.addressOf place.2 := by
        rw [List.map_map]; rfl

theorem Served.length_places (h : Served P endpoints world c) :
    c.places.length = endpoints.length := by
  obtain ⟨listeners, w, ho, hp⟩ := h
  rw [hp, List.length_zip, P.length_of_openAll_addresses ho, Nat.min_self]

theorem Served.map_endpoint (h : Served P endpoints world c) :
    c.tasks.map Task.endpoint = endpoints := by
  obtain ⟨listeners, w, ho, hp⟩ := h
  have hlen := P.length_of_openAll_addresses ho
  calc c.tasks.map Task.endpoint
      = c.places.map Prod.fst := by rw [Coordinator.places, List.map_map]; rfl
    _ = endpoints := by rw [hp, List.map_fst_zip (by omega)]

theorem Served.congr (h : Served P endpoints world c) (hp : c'.places = c.places) :
    Served P endpoints world c' := by
  obtain ⟨listeners, w, ho, hc⟩ := h
  exact ⟨listeners, w, ho, hp.trans hc⟩

theorem Listed.hosted_eq (h : Listed P c) :
    c.hosted = c.places.map fun place => P.addressOf place.2 := by
  rw [Coordinator.hosted, h.handles, map_address_handlesOf]

/-- The receiving end is out only while the set is up and has not stopped. -/
theorem Shape.of_taken (h : Shape P endpoints announces world c w) (ht : c.receiver = .taken) :
    Served P endpoints world c ∧ Listed P c ∧
      (c.state = .running ∨ c.state = .stopping ∧ ∀ task ∈ c.tasks, task.signalled = true) := by
  unfold Shape at h
  split at h <;> rename_i hs
  · exact absurd h.1.receiver (by simp [ht])
  · exact absurd h.receiver (by simp [ht])
  · exact absurd h.1.receiver (by simp [ht])
  · exact ⟨h.1, h.2, .inl hs⟩
  · exact ⟨h.1, h.2.1, .inr ⟨hs, h.2.2⟩⟩
  · exact absurd h.2.2.1 (by simp [ht])

theorem Shape.of_stopped (h : Shape P endpoints announces world c w)
    (hs : c.state = .stopped) : c.receiver = .dropped := by
  simp only [Shape, hs] at h
  exact h.2.2.1

theorem Shape.of_dropped (h : Shape P endpoints announces world c w)
    (hd : c.receiver = .dropped) : c.state = .stopped := by
  unfold Shape at h
  split at h <;> rename_i hs
  · exact absurd h.1.receiver (by simp [hd])
  · exact absurd h.receiver (by simp [hd])
  · exact absurd h.1.receiver (by simp [hd])
  · exact absurd h.2.receiver (by simp [hd])
  · exact absurd h.2.1.receiver (by simp [hd])
  · exact hs

/-- Once the set is up, its shape does not depend on what was announced. -/
theorem Shape.of_heard (h : Shape P endpoints announces world c w) (hup : c.state.isUp = true)
    (addresses : List String) : Shape P endpoints announces world (c.announce addresses) w := by
  unfold Shape at h ⊢
  split at h <;> rename_i hs <;> simp only [Coordinator.announce, hs]
  · simp [hs, State.isUp] at hup
  · simp [hs, State.isUp] at hup
  · simp [hs, State.isUp] at hup
  · exact ⟨h.1, h.2.1, h.2.2⟩
  · exact ⟨h.1, ⟨h.2.1.1, h.2.1.2⟩, h.2.2⟩
  · exact h

/-- A running set whose tasks have all been told to stop is stopping. -/
theorem Served.shape_of_signalled (hserved : Served P endpoints world c) (hlisted : Listed P c) :
    Shape P endpoints announces world { c with
      state := .stopping
      tasks := c.tasks.map fun task => { task with signalled := true } } w := by
  have hplaces : (c.tasks.map fun task => { task with signalled := true }).map Task.place =
      c.places := Coordinator.map_place_signalled c.tasks
  exact (shape_of_stopping rfl).mpr ⟨hserved.congr hplaces,
    ⟨hlisted.handles.trans (congrArg _ hplaces.symm), hlisted.receiver⟩, by simp⟩

/-- A call other than the one that takes a step keeps its place: a call that starts the set while
the set stays up and nothing more is announced, a call that waits while the receiving end stays
where it is. -/
theorem Fits.frame (h : Fits P endpoints announces world c w call)
    (hstart : call.isStart = true →
      c.state.isUp = true ∧ c'.state.isUp = true ∧ c'.heard = c.heard)
    (hwait : call.isWait = true →
      c'.receiver = c.receiver ∧ (c.state = .stopping → c'.state = .stopping)) :
    Fits P endpoints announces world c' w' call := by
  unfold Fits at h ⊢
  split at h
  · exact absurd (hstart rfl).1 (by simp [h.1, State.isUp])
  · exact absurd (hstart rfl).1 (by simp [h.1, State.isUp])
  · exact absurd (hstart rfl).1 (by simp [h.1, State.isUp])
  · obtain ⟨-, hup, hheard⟩ := hstart rfl
    exact ⟨hup, hheard.trans h.2.1, h.2.2⟩
  · obtain ⟨-, hup, hheard⟩ := hstart rfl
    exact ⟨hup, hheard.trans h.2⟩
  · rcases h with hlate | ⟨hs, cause, w, rfl, ho⟩
    · exact .inl hlate
    · exact absurd (hstart rfl).1 (by simp [hs, State.isUp])
  · exact ⟨(hwait rfl).1.trans h.1, h.2⟩
  · exact ⟨(hwait rfl).1.trans h.1, h.2⟩
  · exact ⟨(hwait rfl).1.trans h.1, h.2.1, h.2.2.1, (hwait rfl).2 h.2.2.2⟩
  · exact ⟨(hwait rfl).1.trans h.1, h.2.imp_right (hwait rfl).2⟩
  · exact (hwait rfl).1.trans h
  · trivial

/-- Nothing but the progress of tasks and the queue has changed. -/
theorem Shape.outline (h : Shape P endpoints announces world c w) (ho : SameOutline c c')
    (hw : c.places = [] → w' = w) : Shape P endpoints announces world c' w' := by
  have hunlisted : Unlisted announces c → Unlisted announces c' := fun h =>
    ⟨ho.handles.trans h.handles, ho.receiver.trans h.receiver, ho.heard.trans h.heard,
      ho.announces.trans h.announces⟩
  have hlisted : Listed P c → Listed P c' := fun h =>
    ⟨by rw [ho.handles, ho.places, h.handles], by rw [ho.receiver]; exact h.receiver⟩
  unfold Shape at h ⊢
  rw [ho.state]
  split at h
  · exact ⟨hunlisted h.1, ho.places.trans h.2.1, (hw h.2.1).trans h.2.2⟩
  · exact hunlisted h
  · exact ⟨hunlisted h.1, ho.places.trans h.2.1, h.2.2⟩
  · exact ⟨h.1.congr ho.places, hlisted h.2⟩
  · exact ⟨h.1.congr ho.places, hlisted h.2.1, ho.forall_signalled h.2.2⟩
  · exact ⟨h.1.congr ho.places, ho.handles.trans h.2.1, ho.receiver.trans h.2.2.1,
      ho.forall_signalled h.2.2.2⟩

/-- A call that was let in neither to start nor to wait may be over at any time. -/
theorem Fits.of_idle (hstart : call.isStart = false) (hwait : call.isWait = false) :
    Fits P endpoints announces world c w call := by
  unfold Fits
  split
  case h_6 => exact .inl (by simpa [Call.isStart] using hstart)
  all_goals trivial

theorem Fits.outline (h : Fits P endpoints announces world c w call) (ho : SameOutline c c')
    (hw : c.places = [] → w' = w) : Fits P endpoints announces world c' w' call := by
  unfold Fits at h ⊢
  simp only [ho.state, ho.heard, ho.receiver, ho.places]
  split at h
  · exact ⟨h.1, h.2.1, (hw h.2.1).trans h.2.2⟩
  all_goals exact h

end Frames

/-! ## One step -/

section Step

variable {P : Provisioner ω κ} {endpoints : List (String × Version)} {announces : Bool} {world : ω}
variable {s : Activity κ} {w : ω}

theorem Control.start (P : Provisioner ω κ) (endpoints : List (String × Version))
    (announces : Bool) (world : ω) :
    Control P endpoints announces world (.unstarted endpoints announces) world where
  endpoints_eq := rfl
  shape := ⟨⟨rfl, rfl, rfl, rfl⟩, rfl, rfl⟩
  fits := by simp [Activity.unstarted]
  starts := by simp [Activity.unstarted]
  waits := by simp [Activity.unstarted]

theorem Control.starts_le (h : Control P endpoints announces world s w) :
    s.calls.countP Call.isStart ≤ 1 := by
  rw [h.starts]
  split <;> omega

theorem Control.waits_le (h : Control P endpoints announces world s w) :
    s.calls.countP Call.isWait ≤ 1 := by
  rw [h.waits]
  split <;> omega

/-- Once the set is up, each endpoint has its task. -/
theorem Control.served_of_isUp (h : Control P endpoints announces world s w)
    (hup : s.coordinator.state.isUp = true) : Served P endpoints world s.coordinator := by
  have hshape := h.shape
  unfold Shape at hshape
  split at hshape <;> rename_i hs
  · simp [hs, State.isUp] at hup
  · simp [hs, State.isUp] at hup
  · simp [hs, State.isUp] at hup
  · exact hshape.1
  · exact hshape.1
  · exact hshape.1

/-- The endpoints that have a task are the first ones, each with its listener. -/
theorem Control.places_begin (h : Control P endpoints announces world s w) :
    s.coordinator.places = [] ∨ ∃ listeners w,
      P.openAll (P.addresses endpoints) world = (.ok listeners, w) ∧
      s.coordinator.places <+: endpoints.zip listeners := by
  by_cases hup : s.coordinator.state.isUp = true
  · obtain ⟨ls, w', ho, hplaces⟩ := h.served_of_isUp hup
    exact .inr ⟨ls, w', ho, hplaces ▸ List.prefix_refl _⟩
  · have hshape := h.shape
    unfold Shape at hshape
    split at hshape <;> rename_i hs
    · exact .inl hshape.2.1
    · -- While the set is being started, the call that does it knows what is left to be served.
      have hone := h.starts
      rw [hs, if_neg (by simp)] at hone
      obtain ⟨call, hin, hstart⟩ :=
        List.countP_pos_iff.mp (hone ▸ Nat.one_pos : 0 < s.calls.countP Call.isStart)
      have hfits := h.fits call hin
      unfold Call.isStart at hstart
      split at hstart
      · exact .inl hfits.2.1
      · exact .inl hfits.2.1
      · obtain ⟨-, -, ls, w', ho, hleft⟩ := hfits
        exact .inr ⟨ls, w', ho, hleft ▸ List.prefix_append _ _⟩
      · exact absurd hfits.1 hup
      · exact absurd hfits.1 hup
      · rcases hfits with hlate | ⟨hfailed, -⟩
        · simp [hlate] at hstart
        · exact absurd (hs.symm.trans hfailed) (by simp)
      · cases hstart
    · exact .inl hshape.2.1
    · simp [hs, State.isUp] at hup
    · simp [hs, State.isUp] at hup
    · simp [hs, State.isUp] at hup

/-- There are never more tasks than endpoints. -/
theorem Control.length_tasks_le (h : Control P endpoints announces world s w) :
    s.coordinator.tasks.length ≤ endpoints.length := by
  rw [← Coordinator.length_places]
  rcases h.places_begin with hnil | ⟨ls, w', -, hbegin⟩
  · simp [hnil]
  · have hlen := hbegin.length_le
    rw [List.length_zip] at hlen
    omega

/-- While the receiving end is free, no call was let in to wait. -/
theorem Control.not_isWait_of_free (h : Control P endpoints announces world s w)
    (hr : s.coordinator.receiver = .absent ∨ s.coordinator.receiver = .free) :
    ∀ call ∈ s.calls, call.isWait = false := by
  have hwaits := h.waits
  rw [if_pos hr, List.countP_eq_zero] at hwaits
  exact fun call hc => by simpa using hwaits call hc

/-- Before the set is started no call was let in to start it, and none to wait. -/
theorem Control.idle_of_unstarted (h : Control P endpoints announces world s w)
    (hs : s.coordinator.state = .unstarted) :
    ∀ call ∈ s.calls, call.isStart = false ∧ call.isWait = false := by
  have hr := ((shape_of_unstarted hs).mp h.shape).1.receiver
  have hstarts := h.starts
  rw [hs, if_pos rfl, List.countP_eq_zero] at hstarts
  exact fun call hc => ⟨by simpa using hstarts call hc, h.not_isWait_of_free (.inl hr) call hc⟩

/-- While the set runs or stops, all endpoints are hosted. -/
theorem Control.length_handles (h : Control P endpoints announces world s w)
    (hs : s.coordinator.state = .running ∨ s.coordinator.state = .stopping) :
    s.coordinator.handles.length = endpoints.length := by
  have hshape : Served P endpoints world s.coordinator ∧ Listed P s.coordinator := by
    rcases hs with hs | hs
    · exact (shape_of_running hs).mp h.shape
    · obtain ⟨hserved, hlisted, -⟩ := (shape_of_stopping hs).mp h.shape
      exact ⟨hserved, hlisted⟩
  rw [hshape.2.handles, length_handlesOf, hshape.1.length_places]

theorem Control.call (h : Control P endpoints announces world s w) (request : Request) :
    Control P endpoints announces world (s.call request) w := by
  obtain ⟨c, calls⟩ := s
  have hshape := h.shape
  rcases Call.make_cases c request with ⟨hs, hm⟩ | ⟨hs, hm⟩ | ⟨hs, hr, hm⟩ | ⟨answer, hm, hst, hwt⟩
  · -- let in to start
    have hidle := h.idle_of_unstarted hs
    obtain ⟨hunlisted, hplaces, hw⟩ := (shape_of_unstarted hs).mp hshape
    refine ⟨?_, ?_, ?_, ?_, ?_⟩
    all_goals simp only [Activity.call, hm]
    · exact h.endpoints_eq
    · exact (shape_of_starting rfl).mpr
        ⟨hunlisted.handles, hunlisted.receiver, hunlisted.heard, hunlisted.announces⟩
    · intro call hc
      rcases List.mem_append.mp hc with hc | hc
      · obtain ⟨h1, h2⟩ := hidle call hc
        exact (h.fits call hc).frame (by simp [h1]) (by simp [h2])
      · obtain rfl := List.mem_singleton.mp hc
        exact ⟨rfl, hplaces, hw⟩
    · have := h.starts
      simp only [hs, if_true] at this
      simp [List.countP_append, this, Call.isStart]
    · simpa [List.countP_append, Call.isWait] using h.waits
  · -- stops the set
    obtain ⟨hserved, hlisted⟩ := (shape_of_running hs).mp hshape
    have hsig := Coordinator.signalled_eq_map hlisted.handles
    refine ⟨?_, ?_, ?_, ?_, ?_⟩
    all_goals simp only [Activity.call, hm, hsig]
    · exact h.endpoints_eq
    · exact hserved.shape_of_signalled hlisted
    · intro call hc
      rcases List.mem_append.mp hc with hc | hc
      · exact (h.fits call hc).frame (fun _ => ⟨by simp [hs, State.isUp], rfl, rfl⟩)
          (fun _ => ⟨rfl, fun _ => rfl⟩)
      · obtain rfl := List.mem_singleton.mp hc
        trivial
    · simpa [List.countP_append, Call.isStart, hs] using h.starts
    · simpa [List.countP_append, Call.isWait] using h.waits
  · -- let in to wait
    have hup : c.state.isUp = true := by rcases hs with hs | hs <;> simp [hs, State.isUp]
    have hsame : Shape P endpoints announces world { c with receiver := .taken } w := by
      rcases hs with hs | hs
      · obtain ⟨hserved, hlisted⟩ := (shape_of_running hs).mp hshape
        exact (shape_of_running (c := { c with receiver := .taken }) hs).mpr
          ⟨hserved, hlisted.handles, .inr rfl⟩
      · obtain ⟨hserved, hlisted, hsig⟩ := (shape_of_stopping hs).mp hshape
        exact (shape_of_stopping (c := { c with receiver := .taken }) hs).mpr
          ⟨hserved, ⟨hlisted.handles, .inr rfl⟩, hsig⟩
    have hlen : c.handles.length = endpoints.length := h.length_handles hs
    have hnone := h.not_isWait_of_free (.inr hr)
    have hwait : (if c.handles.length = 0 then .concluding []
        else .awaiting c.handles.length : Call κ).isWait = true := by
      split <;> rfl
    refine ⟨?_, ?_, ?_, ?_, ?_⟩
    all_goals simp only [Activity.call, hm]
    · exact h.endpoints_eq
    · exact hsame
    · intro call hc
      rcases List.mem_append.mp hc with hc | hc
      · exact (h.fits call hc).frame (fun _ => ⟨hup, hup, rfl⟩) (by simp [hnone call hc])
      · obtain rfl := List.mem_singleton.mp hc
        split
        · rename_i hz
          exact ⟨rfl, .inl (List.length_eq_zero_iff.mp (hlen.symm.trans hz))⟩
        · exact ⟨rfl, hlen, by omega⟩
    · have hns := Call.isStart_eq_false_of_isWait hwait
      rw [List.countP_append, List.countP_singleton, hns]
      exact h.starts
    · have hzero := h.waits
      rw [hr, if_pos (.inr rfl)] at hzero
      rw [List.countP_append, List.countP_singleton, hwait, hzero]
      rfl
  · -- over at once
    refine ⟨?_, ?_, ?_, ?_, ?_⟩
    all_goals simp only [Activity.call, hm]
    · exact h.endpoints_eq
    · exact hshape
    · intro call hc
      rcases List.mem_append.mp hc with hc | hc
      · exact h.fits call hc
      · obtain rfl := List.mem_singleton.mp hc
        exact Fits.of_idle hst hwt
    · simpa [List.countP_append, hst] using h.starts
    · simpa [List.countP_append, hwt] using h.waits

/-- A call takes a step while the others stay where they are. At most one call was let in to start
and at most one to wait, so the others are not of the same kind. -/
theorem Control.replace {c c' : Coordinator κ} {before after : List (Call κ)} {call call' : Call κ}
    {w w' : ω} (h : Control P endpoints announces world ⟨c, before ++ call :: after⟩ w)
    (hendpoints : c'.endpoints = c.endpoints)
    (hshape : Shape P endpoints announces world c' w')
    (hcall : Fits P endpoints announces world c' w' call')
    (hstart : call'.isStart = call.isStart) (hwait : call'.isWait = call.isWait)
    (hunstarted : c'.state = .unstarted ↔ c.state = .unstarted)
    (hfree : c'.receiver = .absent ∨ c'.receiver = .free ↔
      c.receiver = .absent ∨ c.receiver = .free)
    (hothers : ∀ other ∈ before ++ call :: after,
      (call.isStart = true → other.isStart = false) →
      (call.isWait = true → other.isWait = false) →
      Fits P endpoints announces world c w other → Fits P endpoints announces world c' w' other) :
    Control P endpoints announces world ⟨c', before ++ call' :: after⟩ w' := by
  refine ⟨hendpoints.trans h.endpoints_eq, hshape, fun other ho => ?_, ?_, ?_⟩
  · rcases List.mem_cons.mp (List.perm_middle.mem_iff.mp ho) with rfl | hmem
    · exact hcall
    · have hin : other ∈ before ++ call :: after :=
        List.perm_middle.mem_iff.mpr (List.mem_cons_of_mem call hmem)
      refine hothers other hin (fun hp => ?_) (fun hp => ?_) (h.fits other hin)
      · exact eq_false_of_countP_le_one h.starts_le hp other hmem
      · exact eq_false_of_countP_le_one h.waits_le hp other hmem
  · have hs := h.starts
    simp only [List.countP_append, List.countP_cons, hstart, hunstarted] at hs ⊢
    exact hs
  · have hw := h.waits
    simp only [List.countP_append, List.countP_cons, hwait, hfree] at hw ⊢
    exact hw

/-! ### The steps of a call -/

section Advance

variable {c : Coordinator κ} {before after : List (Call κ)}

theorem Control.around {call : Call κ}
    (h : Control P endpoints announces world ⟨c, before ++ call :: after⟩ w) :
    Shape P endpoints announces world c w ∧ Fits P endpoints announces world c w call :=
  ⟨h.shape, h.fits call (by simp)⟩

theorem Control.advance_opening
    (h : Control P endpoints announces world ⟨c, before ++ .opening :: after⟩ w) :
    Control P endpoints announces world
      ⟨c, before ++ (Call.openListeners P c w).1 :: after⟩ (Call.openListeners P c w).2 := by
  obtain ⟨hshape, hstate, hplaces, hw⟩ := h.around
  have hendpoints : c.endpoints = endpoints := h.endpoints_eq
  have hshape' : Shape P endpoints announces world c (Call.openListeners P c w).2 :=
    (shape_of_starting hstate).mpr ((shape_of_starting hstate).mp hshape)
  have hcall' : Fits P endpoints announces world c (Call.openListeners P c w).2
      (Call.openListeners P c w).1 := by
    rcases Call.openListeners_cases P c w with ⟨ls, w', ho, hm⟩ | ⟨fault, w', ho, hm⟩
    · rw [hendpoints, hw] at ho
      rw [hm]
      exact ⟨hstate, by rw [hplaces]; rfl, ls, w', ho, by rw [hplaces, hendpoints]; rfl⟩
    · rw [hendpoints, hw] at ho
      rw [hm]
      exact ⟨hstate, hplaces, w', ho⟩
  have hleads : Call.Leads .opening (Call.openListeners P c w).1 :=
    Call.advance_leads P .opening c w
  exact h.replace rfl hshape' hcall' hleads.isStart_eq hleads.isWait_eq Iff.rfl Iff.rfl
    fun other _ hos _ ho => ho.frame (by simp [hos rfl]) fun _ => ⟨rfl, id⟩

theorem Control.advance_refused {fault : Fault}
    (h : Control P endpoints announces world ⟨c, before ++ .refused fault :: after⟩ w) :
    Control P endpoints announces world
      ⟨c.refuse, before ++ .answered (.started (.error (.startupFailed [fault]))) :: after⟩ w := by
  obtain ⟨hshape, hstate, hplaces, w', ho⟩ := h.around
  have hunlisted := (shape_of_starting hstate).mp hshape
  have hshape' : Shape P endpoints announces world c.refuse w :=
    ⟨⟨hunlisted.handles, hunlisted.receiver, hunlisted.heard, hunlisted.announces⟩, hplaces,
      fault, w', ho⟩
  refine h.replace rfl hshape' (.inr ⟨rfl, fault, w', rfl, ho⟩) rfl rfl ?_ Iff.rfl
    fun other _ hos _ hf => hf.frame (by simp [hos rfl]) fun _ => ⟨rfl, by simp [hstate]⟩
  simp [Coordinator.refuse, hstate]

theorem Control.advance_spawning {endpoint : String × Version} {listener : κ}
    {left : List ((String × Version) × κ)} {handles : List Hosted}
    (h : Control P endpoints announces world
      ⟨c, before ++ .spawning ((endpoint, listener) :: left) handles :: after⟩ w) :
    Control P endpoints announces world
      ⟨c.spawn endpoint listener, before ++
        .spawning left (handles ++ [⟨P.addressOf listener, c.tasks.length⟩]) :: after⟩ w := by
  obtain ⟨hshape, hstate, hhandles, ls, w', ho, hleft⟩ := h.around
  have hunlisted := (shape_of_starting hstate).mp hshape
  have hnone := h.not_isWait_of_free (.inl hunlisted.receiver)
  have hplaces : (c.spawn endpoint listener).places = c.places ++ [(endpoint, listener)] := by
    simp [Coordinator.places, Coordinator.spawn, Task.place]
  have hshape' : Shape P endpoints announces world (c.spawn endpoint listener) w :=
    (shape_of_starting (c := c.spawn endpoint listener) hstate).mpr
      ⟨hunlisted.handles, hunlisted.receiver, hunlisted.heard, hunlisted.announces⟩
  refine h.replace rfl hshape' ⟨hstate, ?_, ls, w', ho, ?_⟩ rfl rfl Iff.rfl Iff.rfl
    fun other hin hos _ hf => hf.frame (by simp [hos rfl]) (by simp [hnone other hin])
  · rw [hplaces, handlesOf, List.mapIdx_concat, ← handlesOf, hhandles, Coordinator.length_places]
  · rw [hplaces, List.append_assoc]
    exact hleft

theorem Control.advance_commit {handles : List Hosted}
    (h : Control P endpoints announces world ⟨c, before ++ .spawning [] handles :: after⟩ w) :
    Control P endpoints announces world
      ⟨c.commit handles, before ++
        .announcing (handles.map Hosted.address) c.announces :: after⟩ w := by
  obtain ⟨hshape, hstate, hhandles, ls, w', ho, hleft⟩ := h.around
  have hunlisted := (shape_of_starting hstate).mp hshape
  have hnone := h.not_isWait_of_free (.inl hunlisted.receiver)
  rw [List.append_nil] at hleft
  have hserved : Served P endpoints world (c.commit handles) := ⟨ls, w', ho, hleft⟩
  have hshape' : Shape P endpoints announces world (c.commit handles) w :=
    ⟨hserved, hhandles, .inl rfl⟩
  have haddresses : handles.map Hosted.address = P.listened endpoints world := by
    rw [hserved.listened_eq, hhandles, map_address_handlesOf]
    rfl
  refine h.replace rfl hshape' ⟨rfl, hunlisted.heard, hunlisted.announces, haddresses⟩ rfl rfl
    ?_ ?_ fun other hin hos _ hf => hf.frame (by simp [hos rfl]) (by simp [hnone other hin])
  · simp [Coordinator.commit, hstate]
  · simp [Coordinator.commit, hunlisted.receiver]

theorem Control.advance_announcing {addresses : List String} {told : Bool}
    (h : Control P endpoints announces world
      ⟨c, before ++ .announcing addresses told :: after⟩ w) :
    Control P endpoints announces world
      ⟨if told then c.announce addresses else c, before ++ .answered (.started (.ok ())) :: after⟩
      w := by
  obtain ⟨hshape, hup, hheard, rfl, rfl⟩ := h.around
  cases told with
  | false =>
    exact h.replace rfl hshape ⟨hup, hheard⟩ rfl rfl Iff.rfl Iff.rfl
      fun other _ hos _ hf => hf.frame (by simp [hos rfl]) fun _ => ⟨rfl, id⟩
  | true =>
    have hheard' : (c.announce (P.listened endpoints world)).heard =
        [P.listened endpoints world] := by
      simp [Coordinator.announce, hheard]
    exact h.replace rfl (hshape.of_heard hup _) ⟨hup, hheard'⟩ rfl rfl Iff.rfl Iff.rfl
      fun other _ hos _ hf => hf.frame (by simp [hos rfl]) fun _ => ⟨rfl, id⟩

/-- A call that receives a completion, or nothing, and waits on. -/
theorem Control.advance_queue {call call' : Call κ} {queue : List Completion}
    (h : Control P endpoints announces world ⟨c, before ++ call :: after⟩ w)
    (hfits : Fits P endpoints announces world c w call')
    (hstart : call'.isStart = call.isStart) (hwait : call'.isWait = call.isWait) :
    Control P endpoints announces world ⟨{ c with queue }, before ++ call' :: after⟩ w :=
  have ho : SameOutline c { c with queue } := .queue c queue
  h.replace rfl (h.shape.outline ho fun _ => rfl) (hfits.outline ho fun _ => rfl) hstart hwait
    Iff.rfl Iff.rfl fun _ _ _ _ hf => hf.outline ho fun _ => rfl

theorem Control.advance_cascading {expected : Nat} {failures : List Failure}
    (h : Control P endpoints announces world
      ⟨c, before ++ .cascading expected failures :: after⟩ w) :
    Control P endpoints announces world
      ⟨Call.cascade c, before ++ .collecting expected 1 failures :: after⟩ w := by
  obtain ⟨hshape, htaken, hexpected, hpos⟩ := h.around
  obtain ⟨hserved, hlisted, hstate⟩ := hshape.of_taken htaken
  rcases hstate with hstate | ⟨hstate, hsig⟩
  · have hcascade : Call.cascade c = { c with
        state := .stopping
        tasks := c.tasks.map fun task => { task with signalled := true } } := by
      simp [Call.cascade, Coordinator.stop, hstate, Coordinator.signalled_eq_map hlisted.handles]
    rw [hcascade]
    exact h.replace rfl (hserved.shape_of_signalled hlisted) ⟨htaken, hexpected, hpos, rfl⟩
      rfl rfl (by simp [hstate]) Iff.rfl
      fun other _ _ how hf => hf.frame (fun _ => ⟨by simp [hstate, State.isUp], rfl, rfl⟩)
        (by simp [how rfl])
  · have hcascade : Call.cascade c = c := by simp [Call.cascade, Coordinator.stop, hstate]
    rw [hcascade]
    exact h.replace rfl hshape ⟨htaken, hexpected, hpos, hstate⟩ rfl rfl Iff.rfl Iff.rfl
      fun _ _ _ _ hf => hf

theorem Control.advance_concluding {failures : List Failure}
    (h : Control P endpoints announces world ⟨c, before ++ .concluding failures :: after⟩ w) :
    Control P endpoints announces world
      ⟨c.conclude, before ++ .answered (.waited (.ok failures)) :: after⟩ w := by
  obtain ⟨hshape, htaken, hwhy⟩ := h.around
  obtain ⟨hserved, -, hstate⟩ := hshape.of_taken htaken
  have hsig : ∀ task ∈ c.tasks, task.signalled = true := by
    rcases hwhy with hempty | hstopping
    · have hnil : c.tasks = [] := by
        rw [← List.length_eq_zero_iff, ← c.length_places, hserved.length_places, hempty]
        rfl
      simp [hnil]
    · rcases hstate with hrun | ⟨-, hsig⟩
      · exact absurd (hrun.symm.trans hstopping) (by simp)
      · exact hsig
  have hup : c.state.isUp = true := by
    rcases hstate with hs | ⟨hs, -⟩ <;> simp [hs, State.isUp]
  have hnot : c.state ≠ .unstarted := by
    intro hs; rw [hs] at hup; cases hup
  refine h.replace rfl ⟨hserved, rfl, rfl, hsig⟩ rfl rfl rfl ?_ ?_
    fun other _ _ how hf => hf.frame (fun _ => ⟨hup, rfl, rfl⟩) (by simp [how rfl])
  · simp [Coordinator.conclude, hnot]
  · simp [Coordinator.conclude, htaken]

end Advance

theorem Control.advance (h : Control P endpoints announces world s w) (index : Nat) :
    Control P endpoints announces world (s.advance P index w).1 (s.advance P index w).2 := by
  obtain ⟨c, calls⟩ := s
  unfold Activity.advance
  dsimp only
  split
  · rename_i call hcall
    obtain ⟨before, after, rfl, hset⟩ := exists_around hcall
    simp only [hset]
    have hfits : Fits P endpoints announces world c w call := h.fits call (by simp)
    cases call with
    | opening => exact h.advance_opening
    | refused fault => exact h.advance_refused
    | spawning left handles =>
      cases left with
      | cons place left => exact h.advance_spawning
      | nil => exact h.advance_commit
    | announcing addresses told => exact h.advance_announcing
    | awaiting expected =>
      simp only [Call.advance]
      rcases c.receive_cases with ⟨-, hr⟩ | ⟨-, -, hr⟩ | ⟨received, queue, -, hr⟩ <;> rw [hr]
      · exact h
      · exact h.advance_queue hfits rfl rfl
      · exact h.advance_queue hfits rfl rfl
    | cascading expected failures => exact h.advance_cascading
    | collecting expected received failures =>
      have hconcluding : Fits P endpoints announces world c w (.concluding failures) :=
        ⟨hfits.1, .inr hfits.2.2.2⟩
      simp only [Call.advance]
      split
      · rcases c.receive_cases with ⟨-, hr⟩ | ⟨-, -, hr⟩ | ⟨next, queue, -, hr⟩ <;> rw [hr]
        · exact h
        · exact h.advance_queue hconcluding rfl rfl
        · exact h.advance_queue hfits rfl rfl
      · exact h.advance_queue hconcluding rfl rfl
    | concluding failures => exact h.advance_concluding
    | answered answer => exact h
  · exact h

theorem Control.outline {c c' : Coordinator κ} {calls : List (Call κ)} {w w' : ω}
    (h : Control P endpoints announces world ⟨c, calls⟩ w) (ho : SameOutline c c')
    (hw : c.places = [] → w' = w) : Control P endpoints announces world ⟨c', calls⟩ w' where
  endpoints_eq := ho.endpoints.trans h.endpoints_eq
  shape := h.shape.outline ho hw
  fits call hc := (h.fits call hc).outline ho hw
  starts := by rw [ho.state]; exact h.starts
  waits := by rw [ho.receiver]; exact h.waits

theorem Control.step (h : Control P endpoints announces world s w) (event : Event) :
    Control P endpoints announces world (s.step P event w).1 (s.step P event w).2 := by
  cases event with
  | call request => exact h.call request
  | advance index => exact h.advance index
  | taskEnds index result => exact h.outline (Coordinator.endTask_outline _ _ _) fun _ => rfl
  | taskCloses index =>
    exact h.outline (Coordinator.closeTask_outline P _ _ _) fun hp =>
      congrArg Prod.snd (Coordinator.closeTask_of_places_eq_nil P hp index w)
  | taskReports index => exact h.outline (Coordinator.reportTask_outline _ _) fun _ => rfl

theorem Control.run (P : Provisioner ω κ) (endpoints : List (String × Version)) (announces : Bool)
    (world : ω) (events : List Event) :
    Control P endpoints announces world
      ((Activity.unstarted endpoints announces).run P events world).1
      ((Activity.unstarted endpoints announces).run P events world).2 :=
  Activity.run_induction P (motive := fun _ s w => Control P endpoints announces world s w)
    (Control.start P endpoints announces world) (fun _ _ _ event h => h.step event) events

end Step

end StorageGateway.Lifecycle

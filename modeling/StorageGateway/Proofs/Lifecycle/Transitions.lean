import StorageGateway.Proofs.Lifecycle.Control

/-!
# What callers see of the set

From the control invariant: the state moves in one direction only, the listeners are opened at most
once and the set is started at most once, a caller that is turned away has changed nothing, and what
is told of addresses is told in full.
-/

namespace StorageGateway.Lifecycle

variable {ω κ : Type} {P : Provisioner ω κ} {endpoints : List (String × Version)}
variable {announces : Bool} {world w : ω} {s : Activity κ}

/-! ## Moves of the state -/

theorem State.Moves.ne_unstarted {empty : Prop} {before after : State}
    (h : State.Moves empty before after) : after ≠ .unstarted := by
  cases h <;> simp

theorem Control.advance_moves (h : Control P endpoints announces world s w) (index : Nat) :
    (s.advance P index w).1.coordinator.state = s.coordinator.state ∨
    State.Moves (endpoints = []) s.coordinator.state
      (s.advance P index w).1.coordinator.state := by
  obtain ⟨c, calls⟩ := s
  unfold Activity.advance
  dsimp only
  split
  · rename_i call hcall
    have hfits : Fits P endpoints announces world c w call :=
      h.fits call (List.mem_of_getElem? hcall)
    have hshape : Shape P endpoints announces world c w := h.shape
    cases call with
    | opening => exact .inl rfl
    | refused fault => exact .inr (hfits.1 ▸ .refuse)
    | spawning left handles =>
      cases left with
      | cons place left => exact .inl rfl
      | nil => exact .inr (hfits.1 ▸ .run)
    | announcing addresses told => cases told <;> exact .inl rfl
    | awaiting expected =>
      simp only [Call.advance]
      rcases c.receive_cases with ⟨-, hr⟩ | ⟨-, -, hr⟩ | ⟨received, queue, -, hr⟩ <;> rw [hr] <;>
        exact .inl rfl
    | cascading expected failures =>
      obtain ⟨-, -, hstate | ⟨hstate, -⟩⟩ := hshape.of_taken hfits.1
      · simp only [Call.advance, Call.cascade, Coordinator.stop, hstate]
        exact .inr .stop
      · simp only [Call.advance, Call.cascade, Coordinator.stop, hstate]
        exact .inl trivial
    | collecting expected received failures =>
      simp only [Call.advance]
      split
      · rcases c.receive_cases with ⟨-, hr⟩ | ⟨-, -, hr⟩ | ⟨next, queue, -, hr⟩ <;> rw [hr] <;>
          exact .inl rfl
      · exact .inl rfl
    | concluding failures =>
      obtain ⟨htaken, hwhy⟩ := hfits
      obtain ⟨-, -, hrun | ⟨hstop, -⟩⟩ := hshape.of_taken htaken
      · rcases hwhy with hempty | hstop
        · exact .inr (hrun ▸ .finishEmpty hempty)
        · exact absurd (hrun.symm.trans hstop) (by simp)
      · exact .inr (hstop ▸ .finish)
    | answered answer => exact .inl rfl
  · exact .inl rfl

theorem Control.step_moves (h : Control P endpoints announces world s w) (event : Event) :
    (s.step P event w).1.coordinator.state = s.coordinator.state ∨
    State.Moves (endpoints = []) s.coordinator.state (s.step P event w).1.coordinator.state := by
  cases event with
  | call request =>
    rcases Call.make_cases s.coordinator request with
      ⟨hs, hm⟩ | ⟨hs, hm⟩ | ⟨-, -, hm⟩ | ⟨answer, hm, -, -⟩ <;>
      simp only [Activity.step, Activity.call, hm]
    · exact .inr (hs ▸ .begin)
    · exact .inr (hs ▸ .stop)
    · exact .inl trivial
    · exact .inl trivial
  | advance index => exact h.advance_moves index
  | taskEnds index result => exact .inl (Coordinator.endTask_outline _ _ _).state
  | taskCloses index => exact .inl (Coordinator.closeTask_outline P _ _ _).state
  | taskReports index => exact .inl (Coordinator.reportTask_outline _ _).state

/-! ## Opening the listeners at most once -/

/-- Whether an event lets a call open the listeners. -/
def Activity.provisions (s : Activity κ) : Event → Bool
  | .advance index => s.calls[index]?.any Call.isOpening
  | _ => false

theorem Activity.opening_of_provisions (s : Activity κ) {event : Event}
    (h : s.provisions event = true) :
    ∃ index, event = .advance index ∧ s.calls[index]? = some .opening := by
  cases event with
  | advance index =>
    refine ⟨index, rfl, ?_⟩
    simp only [provisions] at h
    rcases Option.eq_none_or_eq_some s.calls[index]? with hcall | ⟨call, hcall⟩
    · rw [hcall] at h
      cases h
    · rw [hcall, Option.any_some] at h
      cases call with
      | opening => exact hcall
      | _ => cases h
  | _ => cases h

/-- How often the listeners may still be opened: once before the set is started, and once for a
call that is about to do it. -/
def Activity.chances (s : Activity κ) : Nat :=
  s.calls.countP Call.isOpening + if s.coordinator.state = .unstarted then 1 else 0

/-- Whenever the listeners are opened, there is one chance less, and never one more. -/
theorem Control.chances_step (h : Control P endpoints announces world s w) (event : Event) :
    (s.step P event w).1.chances + (if s.provisions event then 1 else 0) = s.chances := by
  cases event with
  | call request =>
    rcases Call.make_cases s.coordinator request with
      ⟨hs, hm⟩ | ⟨hs, hm⟩ | ⟨hs, -, hm⟩ | ⟨answer, hm, -, -⟩ <;>
      simp only [Activity.step, Activity.call, Activity.chances, Activity.provisions, hm,
        List.countP_append, List.countP_singleton]
    · simp [hs, Call.isOpening]
    · simp [hs, Call.isOpening]
    · split <;> simp [Call.isOpening]
    · simp [Call.isOpening]
  | advance index =>
    have hmoves := h.advance_moves index
    simp only [Activity.step, Activity.provisions] at hmoves ⊢
    rcases Option.eq_none_or_eq_some s.calls[index]? with hcall | ⟨call, hcall⟩
    · simp [Activity.advance, hcall]
    · obtain ⟨before, after, hcalls, hset⟩ := exists_around hcall
      simp only [Activity.advance, hcall, hset] at hmoves ⊢
      by_cases hs : s.coordinator.state = .unstarted
      · obtain ⟨hstart, hwait⟩ := h.idle_of_unstarted hs call (by simp [hcalls])
        have hopening : call.isOpening = false := by
          cases call with
          | opening => cases hstart
          | _ => rfl
        simp [Call.advance_of_idle P hstart hwait, Activity.chances, hcalls, hopening]
      · have hs' : (call.advance P s.coordinator w).2.1.state ≠ .unstarted := by
          rcases hmoves with he | hm
          · rw [he]; exact hs
          · exact hm.ne_unstarted
        have hnot := (Call.advance_leads P call s.coordinator w).isOpening_eq
        cases hopening : call.isOpening
        · simp [Activity.chances, hcalls, hs, hs', hnot, hopening]
        · simp [Activity.chances, hcalls, hs, hs', hnot, hopening]
          omega
  | taskEnds index result =>
    simp [Activity.step, Activity.chances, Activity.provisions,
      (Coordinator.endTask_outline s.coordinator index result).state]
  | taskCloses index =>
    simp [Activity.step, Activity.chances, Activity.provisions,
      (Coordinator.closeTask_outline P s.coordinator index w).state]
  | taskReports index =>
    simp [Activity.step, Activity.chances, Activity.provisions,
      (Coordinator.reportTask_outline s.coordinator index).state]

theorem Control.chances_le (h : Control P endpoints announces world s w) : s.chances ≤ 1 := by
  have hle : s.calls.countP Call.isOpening ≤ s.calls.countP Call.isStart :=
    List.countP_mono_left fun call _ hc => Call.isStart_of_isOpening hc
  have hstarts := h.starts
  rw [Activity.chances]
  by_cases hs : s.coordinator.state = .unstarted
  · rw [if_pos hs] at hstarts ⊢
    omega
  · rw [if_neg hs] at hstarts ⊢
    omega

/-- Over a run, the openings that were and those that may still be come to one. -/
theorem Control.provisions_run (P : Provisioner ω κ) (endpoints : List (String × Version))
    (announces : Bool) (world : ω) (events : List Event) :
    ((Activity.unstarted endpoints announces).history P events world).countP
        (fun moment => moment.1.provisions moment.2) +
      ((Activity.unstarted endpoints announces).run P events world).1.chances = 1 := by
  have hrun := Activity.run_induction P
    (motive := fun past s w => Control P endpoints announces world s w ∧
      past.countP (fun moment => moment.1.provisions moment.2) + s.chances = 1)
    ⟨Control.start P endpoints announces world, by simp [Activity.chances, Activity.unstarted]⟩
    (fun past s w event ⟨hc, hsum⟩ => ⟨hc.step event, by
      have hstep := hc.chances_step event
      rw [List.countP_append, List.countP_singleton]
      dsimp only at hstep ⊢
      omega⟩) events
  exact hrun.2

/-! ## Callers that are turned away -/

/-- The faults of callers that come too late, too early, or second. -/
inductive TurnsAway : Fault → Prop where
  | alreadyStarted : TurnsAway .alreadyStarted
  | notStarted : TurnsAway .notStarted
  | alreadyWaited : TurnsAway (.other "coordinator is already being waited on")

/-- The fault that a caller is told. -/
def Answer.fault? : Answer → Option Fault
  | .started (.error fault) | .stopped (.error fault) | .waited (.error fault) => some fault
  | _ => none

/-- A call that ends by being turned away does so as soon as it is made, and nothing else
changes. -/
theorem Activity.step_of_turnsAway (s : Activity κ) (w : ω) (event : Event) {index : Nat}
    {answer : Answer} {fault : Fault}
    (hnew : (s.step P event w).1.calls[index]? = some (.answered answer))
    (hold : s.calls[index]? ≠ some (.answered answer))
    (hfault : answer.fault? = some fault) (haway : TurnsAway fault) :
    ∃ request, event = .call request ∧
      s.step P event w = (⟨s.coordinator, s.calls ++ [.answered answer]⟩, w) := by
  cases event with
  | call request =>
    have hmade : (Call.make s.coordinator request).1 = .answered answer :=
      eq_of_getElem?_concat hnew hold
    refine ⟨request, rfl, ?_⟩
    rcases Call.make_cases s.coordinator request with
      ⟨-, hm⟩ | ⟨-, hm⟩ | ⟨-, -, hm⟩ | ⟨made, hm, -, -⟩ <;>
      simp only [hm] at hmade
    · cases hmade
    · cases hmade
      cases hfault
    · split at hmade <;> cases hmade
    · cases hmade
      simp only [Activity.step, Activity.call, hm]
  | advance place =>
    simp only [Activity.step, Activity.advance] at hnew
    split at hnew
    · rename_i call hcall
      obtain ⟨rfl, hover⟩ := eq_of_getElem?_set hnew hold
      have hleads := Call.advance_leads P call s.coordinator w
      rw [hover] at hleads
      -- A call that was let in does not end with one of these faults.
      cases hleads with
      | failed cause => cases hfault; cases haway
      | announced addresses told => cases hfault
      | concluded failures => cases hfault
      | rests told => exact absurd hcall hold
    · exact absurd hnew hold
  | taskEnds i result => exact absurd hnew hold
  | taskCloses i => exact absurd hnew hold
  | taskReports i => exact absurd hnew hold

/-! ## What is told of addresses -/

/-- The hosted endpoints are all that are listened on while the set runs or stops, and none at any
other time. -/
theorem Control.hosted_eq (h : Control P endpoints announces world s w) :
    s.coordinator.hosted =
      if s.coordinator.state = .running ∨ s.coordinator.state = .stopping then
        P.listened endpoints world
      else [] := by
  have hshape := h.shape
  have hnone (hh : s.coordinator.handles = []) : s.coordinator.hosted = [] := by
    simp [Coordinator.hosted, hh]
  unfold Shape at hshape
  split at hshape <;> rename_i hs <;> simp only [hs]
  · exact hnone hshape.1.handles
  · exact hnone hshape.handles
  · exact hnone hshape.1.handles
  · exact hshape.2.hosted_eq.trans hshape.1.listened_eq.symm
  · exact hshape.2.1.hosted_eq.trans hshape.1.listened_eq.symm
  · exact hnone hshape.2.1

/-- Once the set is up, the addresses were announced exactly when the call that was let in to start
it is over. -/
theorem Fits.heard_eq {c : Coordinator κ} {call : Call κ}
    (h : Fits P endpoints announces world c w call) (hstart : call.isStart = true)
    (hup : c.state.isUp = true) :
    c.heard =
      if announces = true ∧ call.hasStarted = true then [P.listened endpoints world] else [] := by
  unfold Call.isStart at hstart
  split at hstart
  · rw [h.1] at hup; cases hup
  · rw [h.1] at hup; cases hup
  · rw [h.1] at hup; cases hup
  · simpa [Call.hasStarted] using h.2.1
  · simpa [Call.hasStarted] using h.2
  · rcases h with hlate | ⟨hfailed, -⟩
    · simp [hlate] at hstart
    · rw [hfailed] at hup; cases hup
  · cases hstart

/-- The addresses were announced once, in full, when a call has started the set and somebody was to
be told; else they never were. -/
theorem Control.heard_eq (h : Control P endpoints announces world s w) :
    s.coordinator.heard =
      if announces = true ∧ ∃ call ∈ s.calls, call.hasStarted = true then
        [P.listened endpoints world]
      else [] := by
  by_cases hup : s.coordinator.state.isUp = true
  · have hone := h.starts
    rw [if_neg (by intro hs; rw [hs] at hup; cases hup)] at hone
    by_cases hstarted : ∃ call ∈ s.calls, call.hasStarted = true
    · obtain ⟨call, hin, hc⟩ := hstarted
      rw [(h.fits call hin).heard_eq (Call.isStart_of_hasStarted hc) hup]
      exact if_congr (and_congr_right fun _ => ⟨fun hc => ⟨call, hin, hc⟩, fun _ => hc⟩) rfl rfl
    · -- There is a call that was let in, and it has not announced anything yet.
      obtain ⟨call, hin, hstart⟩ :=
        List.countP_pos_iff.mp (hone ▸ Nat.one_pos : 0 < s.calls.countP Call.isStart)
      rw [(h.fits call hin).heard_eq hstart hup, if_neg fun hh => hstarted ⟨call, hin, hh.2⟩,
        if_neg fun hh => hstarted hh.2]
  · have hnone : ¬ ∃ call ∈ s.calls, call.hasStarted = true := by
      rintro ⟨call, hin, hc⟩
      have hfits := h.fits call hin
      unfold Call.hasStarted at hc
      split at hc
      · exact hup hfits.1
      · cases hc
    rw [if_neg fun hh => hnone hh.2]
    have hshape := h.shape
    unfold Shape at hshape
    split at hshape <;> rename_i hs
    · exact hshape.1.heard
    · exact hshape.heard
    · exact hshape.1.heard
    · simp [hs, State.isUp] at hup
    · simp [hs, State.isUp] at hup
    · simp [hs, State.isUp] at hup

/-- When listeners listen where they were opened, the addresses that are listened on are those of
the endpoints. -/
theorem Provisioner.map_addressOf_of_openAll {P : Provisioner ω κ}
    (hlisten : ∀ address w listener w', P.openAt address w = (.ok listener, w') →
      P.addressOf listener = address)
    {addresses : List String} {w w' : ω} {listeners : List κ}
    (h : P.openAll addresses w = (.ok listeners, w')) :
    listeners.map P.addressOf = addresses := by
  induction addresses generalizing w w' listeners with
  | nil =>
    simp only [openAll, Prod.mk.injEq, Except.ok.injEq] at h
    simp [← h.1]
  | cons address rest ih =>
    unfold openAll at h
    split at h
    · simp at h
    · rename_i listener wl hopen
      split at h
      · rename_i hrest
        simp only [Prod.mk.injEq, Except.ok.injEq] at h
        rw [← h.1, List.map_cons, hlisten _ _ _ _ hopen, ih hrest]
      · simp at h

/-! ## The whole -/

/-- Whatever callers and tasks do in whatever order: the state takes no other way than `State.Moves`
allows, from unstarted over starting to running, stopping and stopped, or to a failed start; the
listeners are opened at most once, and at most one call starts the set; a caller that is turned away
(`TurnsAway`) is so at once and has changed nothing; `Coordinator.hosted` holds all addresses while
the set runs or stops, and none otherwise; and they are announced once, to whoever is to be told,
when a call has started the set. All addresses are `Provisioner.listened`, those of the opened
listeners in the order of the endpoints, and so those of the endpoints as long as listeners listen
where they were opened. -/
theorem lifecycle_order (P : Provisioner ω κ) (endpoints : List (String × Version))
    (announces : Bool) (world : ω) (events : List Event) :
    let start : Activity κ := .unstarted endpoints announces
    let past := start.history P events world
    let activity := (start.run P events world).1
    let now := (start.run P events world).2
    let coordinator := activity.coordinator
    let listened := P.listened endpoints world
    (∀ event, (activity.step P event now).1.coordinator.state = coordinator.state ∨
      State.Moves (endpoints = []) coordinator.state
        (activity.step P event now).1.coordinator.state) ∧
    past.countP (fun moment => moment.1.provisions moment.2) ≤ 1 ∧
    activity.calls.countP Call.hasStarted ≤ 1 ∧
    (∀ (event : Event) (index : Nat) (answer : Answer) (fault : Fault),
      (activity.step P event now).1.calls[index]? = some (Call.answered answer) →
      activity.calls[index]? ≠ some (Call.answered answer) →
      answer.fault? = some fault → TurnsAway fault →
      ∃ request, event = .call request ∧
        activity.step P event now =
          (⟨coordinator, activity.calls ++ [Call.answered answer]⟩, now)) ∧
    coordinator.hosted =
      (if coordinator.state = .running ∨ coordinator.state = .stopping then listened else []) ∧
    (coordinator.state.isUp = true → ∃ listeners w,
      P.openAll (P.addresses endpoints) world = (.ok listeners, w) ∧
      listeners.length = endpoints.length ∧ listened = listeners.map P.addressOf) ∧
    (coordinator.state.isUp = true →
      (∀ address w listener w', P.openAt address w = (.ok listener, w') →
        P.addressOf listener = address) →
      listened = P.addresses endpoints) ∧
    coordinator.heard =
      (if announces = true ∧ ∃ call ∈ activity.calls, call.hasStarted = true then [listened]
      else []) := by
  intro start past activity now coordinator listened
  have h : Control P endpoints announces world activity now :=
    Control.run P endpoints announces world events
  have hopened (hup : coordinator.state.isUp = true) : ∃ listeners w,
      P.openAll (P.addresses endpoints) world = (.ok listeners, w) ∧
      listened = listeners.map P.addressOf := by
    obtain ⟨listeners, w, ho, hp⟩ := h.served_of_isUp hup
    exact ⟨listeners, w, ho, by simp only [listened, Provisioner.listened, ho]⟩
  refine ⟨h.step_moves, ?_, ?_, ?_, h.hosted_eq, ?_, ?_, h.heard_eq⟩
  · exact Control.provisions_run P endpoints announces world events ▸ Nat.le_add_right _ _
  · calc activity.calls.countP Call.hasStarted
        ≤ activity.calls.countP Call.isStart :=
          List.countP_mono_left fun call _ hc => Call.isStart_of_hasStarted hc
      _ ≤ 1 := h.starts_le
  · intro event index answer fault hnew hold hfault haway
    exact activity.step_of_turnsAway now event hnew hold hfault haway
  · intro hup
    obtain ⟨listeners, w, ho, hl⟩ := hopened hup
    exact ⟨listeners, w, ho, P.length_of_openAll_addresses ho, hl⟩
  · intro hup hlisten
    obtain ⟨listeners, w, ho, hl⟩ := hopened hup
    rw [hl, Provisioner.map_addressOf_of_openAll hlisten ho]

end StorageGateway.Lifecycle

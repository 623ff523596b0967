import StorageGateway.Proofs.Lifecycle.Calls

/-!
# Traced listeners

A traced provisioner opens and closes what another one does, and writes down each of its deeds. The
listeners it opens carry numbers, so that no two of them are taken for the same one. A run with a
traced provisioner is one with the other, as soon as the numbers and the log are taken away.
-/

namespace StorageGateway.Lifecycle

variable {ω κ : Type}

/-! ## Deeds -/

/-- What a provisioner was asked for, and what came of it. -/
inductive Deed where
  /-- The listener with a number was opened on an address. -/
  | opened (number : Nat) (address : String)
  /-- An address could not be opened. -/
  | refused (address : String) (fault : Fault)
  /-- The listener with a number was closed. -/
  | closed (number : Nat)

/-- Whether a listener was opened. -/
def Deed.opens : Deed → Bool
  | .opened _ _ => true
  | _ => false

/-- Whether the listener with a number was closed. -/
def Deed.closes (number : Nat) : Deed → Bool
  | .closed other => other == number
  | _ => false

/-- A provisioner that writes down what it does. -/
def Provisioner.traced (P : Provisioner ω κ) : Provisioner (ω × List Deed) (Nat × κ) where
  address := P.address
  addressOf listener := P.addressOf listener.2
  openAt address world :=
    match P.openAt address world.1 with
    | (.ok listener, w) =>
      let number := world.2.countP Deed.opens
      (.ok (number, listener), (w, world.2 ++ [.opened number address]))
    | (.error fault, w) => (.error fault, (w, world.2 ++ [.refused address fault]))
  close listener world :=
    let (result, w) := P.close listener.2 world.1
    (result, (w, world.2 ++ [.closed listener.1]))

/-! ## Taking the numbers away -/

/-- A task without the number of its listener. -/
def Task.untraced (task : Task (Nat × κ)) : Task κ where
  endpoint := task.endpoint
  listener := task.listener.2
  progress := task.progress
  signalled := task.signalled

/-- A coordinator without the numbers of its listeners. -/
def Coordinator.untraced (c : Coordinator (Nat × κ)) : Coordinator κ :=
  { c with tasks := c.tasks.map Task.untraced }

/-- A call without the numbers of its listeners. -/
def Call.untraced : Call (Nat × κ) → Call κ
  | .opening => .opening
  | .refused fault => .refused fault
  | .spawning left handles =>
    .spawning (left.map fun place => (place.1, place.2.2)) handles
  | .announcing addresses announces => .announcing addresses announces
  | .awaiting expected => .awaiting expected
  | .cascading expected failures => .cascading expected failures
  | .collecting expected received failures => .collecting expected received failures
  | .concluding failures => .concluding failures
  | .answered answer => .answered answer

/-- An activity without the numbers of its listeners. -/
def Activity.untraced (s : Activity (Nat × κ)) : Activity κ where
  coordinator := s.coordinator.untraced
  calls := s.calls.map Call.untraced

/-! ## The same steps -/

section Steps

variable (P : Provisioner ω κ)

namespace Provisioner

variable {P} {address : String} {w : ω × List Deed} {w' : ω}

theorem openAt_traced_of_ok {listener : κ} (h : P.openAt address w.1 = (.ok listener, w')) :
    P.traced.openAt address w =
      (.ok (w.2.countP Deed.opens, listener),
        (w', w.2 ++ [.opened (w.2.countP Deed.opens) address])) := by
  simp [traced, h]

theorem openAt_traced_of_error {fault : Fault} (h : P.openAt address w.1 = (.error fault, w')) :
    P.traced.openAt address w = (.error fault, (w', w.2 ++ [.refused address fault])) := by
  simp [traced, h]

theorem openAll_untraced (P : Provisioner ω κ) (addresses : List String) (w : ω × List Deed) :
    P.openAll addresses w.1 =
      ((P.traced.openAll addresses w).1.map (List.map Prod.snd),
        (P.traced.openAll addresses w).2.1) := by
  induction addresses generalizing w with
  | nil => rfl
  | cons address rest ih =>
    rcases ho : P.openAt address w.1 with ⟨fault | listener, w'⟩
    · simp only [openAll, ho, openAt_traced_of_error ho, Except.map]
    · have hrest := ih (w', w.2 ++ [.opened (w.2.countP Deed.opens) address])
      rcases hr : P.traced.openAll rest
        (w', w.2 ++ [.opened (w.2.countP Deed.opens) address]) with ⟨fault | listeners, w''⟩
      all_goals
        rw [hr] at hrest
        simp only [Except.map] at hrest
        simp only [openAll, ho, openAt_traced_of_ok ho, hr, hrest, Except.map]
      · rfl
      · rfl

end Provisioner

namespace Coordinator

theorem signalled_untraced (c : Coordinator (Nat × κ)) :
    c.untraced.signalled = c.signalled.map Task.untraced := by
  apply List.ext_getElem
  · simp [signalled, untraced]
  · intro index hl hr
    simp only [signalled, untraced, List.getElem_mapIdx, List.getElem_map]
    split <;> rfl

theorem stop_untraced (c : Coordinator (Nat × κ)) :
    c.untraced.stop = c.stop.map untraced := by
  have hstate : c.untraced.state = c.state := rfl
  unfold stop
  rw [hstate]
  cases c.state
  case running =>
    simp only [Except.map, Except.ok.injEq]
    rw [signalled_untraced]
    rfl
  all_goals rfl

theorem beginWait_untraced (c : Coordinator (Nat × κ)) :
    c.untraced.beginWait = c.beginWait.map fun begun => (begun.1, begun.2.untraced) := by
  have hstate : c.untraced.state = c.state := rfl
  have hreceiver : c.untraced.receiver = c.receiver := rfl
  unfold beginWait
  rw [hstate, hreceiver]
  cases c.state
  case running | stopping => cases c.receiver <;> rfl
  all_goals rfl

theorem getElem?_tasks_untraced (c : Coordinator (Nat × κ)) (index : Nat) :
    c.untraced.tasks[index]? = c.tasks[index]?.map Task.untraced := by
  simp [untraced]

theorem updateTask_untraced (c : Coordinator (Nat × κ)) (index : Nat) (task : Task (Nat × κ)) :
    c.untraced.updateTask index task.untraced = (c.updateTask index task).untraced := by
  simp [untraced, updateTask, List.map_set]

theorem endTask_untraced (c : Coordinator (Nat × κ)) (index : Nat)
    (result : Except Fault Unit) :
    c.untraced.endTask index result = (c.endTask index result).untraced := by
  unfold endTask
  rw [getElem?_tasks_untraced]
  cases c.tasks[index]? with
  | none => rfl
  | some task =>
    have hprogress : task.untraced.progress = task.progress := rfl
    simp only [Option.map_some, hprogress]
    split
    · exact c.updateTask_untraced index { task with progress := .ended result }
    · rfl

theorem closeTask_untraced (c : Coordinator (Nat × κ)) (index : Nat) (w : ω × List Deed) :
    c.untraced.closeTask P index w.1 =
      ((c.closeTask P.traced index w).1.untraced, (c.closeTask P.traced index w).2.1) := by
  unfold closeTask
  rw [getElem?_tasks_untraced]
  cases c.tasks[index]? with
  | none => rfl
  | some task =>
    have hprogress : task.untraced.progress = task.progress := rfl
    simp only [Option.map_some, hprogress]
    split
    · rename_i result hended
      have hupdate := c.updateTask_untraced index { task with progress := .closed result }
      exact Prod.ext hupdate rfl
    · rfl

theorem reportTask_untraced (c : Coordinator (Nat × κ)) (index : Nat) :
    c.untraced.reportTask index = (c.reportTask index).untraced := by
  have hreceiver : c.untraced.receiver = c.receiver := rfl
  have hqueue : c.untraced.queue = c.queue := rfl
  have hcapacity : c.untraced.capacity = c.capacity := rfl
  unfold reportTask
  rw [getElem?_tasks_untraced]
  cases c.tasks[index]? with
  | none => rfl
  | some task =>
    have hprogress : task.untraced.progress = task.progress := rfl
    simp only [Option.map_some, hprogress, hreceiver, hqueue, hcapacity]
    split
    · rename_i result hclosed
      have hupdate := c.updateTask_untraced index { task with progress := .reported result }
      split
      · exact hupdate
      · split
        · exact congrArg (fun reported : Coordinator κ =>
            { reported with queue := c.queue ++ [task.completion result] }) hupdate
        · rfl
    · rfl

theorem receive_untraced (c : Coordinator (Nat × κ)) :
    c.untraced.receive =
      match c.receive with
      | .pending => .pending
      | .exhausted => .exhausted
      | .completion received left => .completion received left.untraced := by
  have hqueue : c.untraced.queue = c.queue := rfl
  have hall : (c.untraced.tasks.all fun task => task.progress.isReported) =
      c.tasks.all fun task => task.progress.isReported := by
    simp only [untraced, List.all_map]
    rfl
  unfold receive
  rw [hqueue, hall]
  cases c.queue with
  | nil => dsimp only; split <;> rfl
  | cons received queue => rfl

end Coordinator

namespace Call

theorem make_untraced (c : Coordinator (Nat × κ)) (request : Request) :
    make c.untraced request = ((make c request).1.untraced, (make c request).2.untraced) := by
  have hstate : c.untraced.state = c.state := rfl
  cases request with
  | start =>
    simp only [make, Coordinator.beginStart, hstate]
    cases c.state <;> rfl
  | stop =>
    simp only [make, Coordinator.stop_untraced]
    cases c.stop <;> rfl
  | wait =>
    simp only [make, Coordinator.beginWait_untraced]
    cases c.beginWait with
    | error fault => rfl
    | ok begun =>
      simp only [Except.map]
      split <;> rfl

theorem cascade_untraced (c : Coordinator (Nat × κ)) :
    cascade c.untraced = (cascade c).untraced := by
  unfold cascade
  rw [Coordinator.stop_untraced]
  cases c.stop <;> rfl

theorem openListeners_untraced (c : Coordinator (Nat × κ)) (w : ω × List Deed) :
    openListeners P c.untraced w.1 =
      ((openListeners P.traced c w).1.untraced, (openListeners P.traced c w).2.1) := by
  have hsame : c.untraced.endpoints = c.endpoints := rfl
  have hopen := P.openAll_untraced (P.addresses c.endpoints) w
  unfold openListeners
  rw [hsame, hopen]
  rcases h : P.traced.openAll (P.addresses c.endpoints) w with ⟨fault | listeners, w'⟩
  · have h' : P.traced.openAll (P.traced.addresses c.endpoints) w = (.error fault, w') := h
    rw [h']
    rfl
  · have h' : P.traced.openAll (P.traced.addresses c.endpoints) w = (.ok listeners, w') := h
    rw [h']
    simp [Except.map, untraced, List.zip_map_right, Prod.map]

theorem advance_untraced (call : Call (Nat × κ)) (c : Coordinator (Nat × κ))
    (w : ω × List Deed) :
    call.untraced.advance P c.untraced w.1 =
      ((call.advance P.traced c w).1.untraced, (call.advance P.traced c w).2.1.untraced,
        (call.advance P.traced c w).2.2.1) := by
  cases call with
  | opening =>
    show advance P .opening c.untraced w.1 = _
    unfold advance
    rw [openListeners_untraced]
  | refused fault => rfl
  | spawning left handles =>
    cases left with
    | nil => rfl
    | cons place left =>
      simp [untraced, advance, serveNext, Coordinator.spawn, Coordinator.untraced,
        Provisioner.traced, Task.untraced]
  | announcing addresses announces => cases announces <;> rfl
  | awaiting expected =>
    simp only [untraced, advance, Coordinator.receive_untraced]
    cases c.receive <;> rfl
  | cascading expected failures =>
    simp only [untraced, advance, cascade_untraced]
  | collecting expected received failures =>
    simp only [untraced, advance, Coordinator.receive_untraced]
    split
    · cases c.receive <;> rfl
    · rfl
  | concluding failures => rfl
  | answered answer => rfl

end Call

theorem Activity.step_untraced (s : Activity (Nat × κ)) (w : ω × List Deed) (event : Event) :
    s.untraced.step P event w.1 =
      ((s.step P.traced event w).1.untraced, (s.step P.traced event w).2.1) := by
  cases event with
  | call request =>
    simp only [step, Activity.call, untraced, Call.make_untraced, List.map_append, List.map_cons,
      List.map_nil]
  | advance index =>
    simp only [step, Activity.advance, untraced, List.getElem?_map]
    rcases Option.eq_none_or_eq_some s.calls[index]? with hcall | ⟨call, hcall⟩
    · simp only [hcall, Option.map_none]
    · simp only [hcall, Option.map_some, Call.advance_untraced, List.map_set]
  | taskEnds index result =>
    exact congrArg (fun c => ((⟨c, s.calls.map Call.untraced⟩ : Activity κ), w.1))
      (s.coordinator.endTask_untraced index result)
  | taskCloses index =>
    exact congrArg (fun done => ((⟨done.1, s.calls.map Call.untraced⟩ : Activity κ), done.2))
      (s.coordinator.closeTask_untraced P index w)
  | taskReports index =>
    exact congrArg (fun c => ((⟨c, s.calls.map Call.untraced⟩ : Activity κ), w.1))
      (s.coordinator.reportTask_untraced index)

theorem Activity.run_untraced (s : Activity (Nat × κ)) (w : ω × List Deed)
    (events : List Event) :
    s.untraced.run P events w.1 =
      ((s.run P.traced events w).1.untraced, (s.run P.traced events w).2.1) := by
  induction events generalizing s w with
  | nil => rfl
  | cons event events ih =>
    simp only [run, step_untraced]
    exact ih _ _

end Steps

end StorageGateway.Lifecycle

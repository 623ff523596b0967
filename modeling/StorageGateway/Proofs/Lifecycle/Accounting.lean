import StorageGateway.Proofs.Lifecycle.Control

/-!
# What becomes of the completions

Each task posts one completion, and whoever waits receives every one of them once. The accounting
invariant compares what was received so far, together with what is still queued, to the tasks that
are over: they are the same, up to the order in which the tasks came to their ends.
-/

namespace StorageGateway.Lifecycle

variable {ω κ : Type}

/-! ## Posting and receiving -/

/-- The completion that a task has posted, once it is over. -/
def Task.completion? (task : Task κ) : Option Completion :=
  match task.progress with
  | .reported result => some (task.completion result)
  | _ => none

/-- The completions of the tasks that are over, in the order of the tasks. -/
def Coordinator.completions (c : Coordinator κ) : List Completion :=
  c.tasks.filterMap Task.completion?

/-- The completion that a call receives in its next step. -/
def Call.receives? (c : Coordinator κ) : Call κ → Option Completion
  | .awaiting _ => c.queue.head?
  | .collecting expected received _ => if received < expected then c.queue.head? else none
  | _ => none

/-- The completion that is received in an event. -/
def Activity.receives? (s : Activity κ) : Event → Option Completion
  | .advance index => s.calls[index]?.bind (Call.receives? s.coordinator)
  | _ => none

/-- The completions that were received so far, in that order. -/
def received (past : List (Activity κ × Event)) : List Completion :=
  past.filterMap fun moment => moment.1.receives? moment.2

theorem received_concat (past : List (Activity κ × Event)) (s : Activity κ) (event : Event) :
    received (past ++ [(s, event)]) = received past ++ (s.receives? event).toList := by
  rw [received, List.filterMap_append, filterMap_singleton]
  rfl

/-! ## Tasks that are over -/

theorem Task.isSome_completion? (task : Task κ) :
    task.completion?.isSome = task.progress.isReported := by
  cases h : task.progress <;> simp [Task.completion?, Progress.isReported, h]

namespace Coordinator

theorem length_completions_le (c : Coordinator κ) : c.completions.length ≤ c.tasks.length :=
  List.length_filterMap_le _ _

theorem length_completions_eq_iff (c : Coordinator κ) :
    c.completions.length = c.tasks.length ↔
      ∀ task ∈ c.tasks, task.progress.isReported = true := by
  rw [completions, List.length_filterMap_eq_countP, List.countP_eq_length]
  simp only [Task.isSome_completion?]

theorem completions_spawn (c : Coordinator κ) (endpoint : String × Version) (listener : κ) :
    (c.spawn endpoint listener).completions = c.completions := by
  simp [completions, spawn, Task.completion?]

variable (P : Provisioner ω κ)

theorem endTask_completions (c : Coordinator κ) (index : Nat) (result : Except Fault Unit) :
    (c.endTask index result).queue = c.queue ∧
      (c.endTask index result).completions = c.completions := by
  unfold endTask
  split
  · rename_i task ht
    split
    · rename_i hserving
      exact ⟨rfl, filterMap_set_of_eq ht (by simp [Task.completion?, hserving])⟩
    · exact ⟨rfl, rfl⟩
  · exact ⟨rfl, rfl⟩

theorem closeTask_completions (c : Coordinator κ) (index : Nat) (w : ω) :
    (c.closeTask P index w).1.queue = c.queue ∧
      (c.closeTask P index w).1.completions = c.completions := by
  unfold closeTask
  split
  · rename_i task ht
    split
    · rename_i result hended
      exact ⟨rfl, filterMap_set_of_eq ht (by simp [Task.completion?, hended])⟩
    · exact ⟨rfl, rfl⟩
  · exact ⟨rfl, rfl⟩

/-- Only a task whose listener is closed has anything to post. -/
theorem reportTask_cases (c : Coordinator κ) (index : Nat) :
    c.reportTask index = c ∨
      ∃ task result, c.tasks[index]? = some task ∧ task.progress = .closed result := by
  unfold reportTask
  split
  · rename_i task ht
    split
    · rename_i result hclosed
      exact .inr ⟨task, result, ht, hclosed⟩
    · exact .inl rfl
  · exact .inl rfl

end Coordinator

/-! ## The account -/

section Account

variable (n : Nat) (told : List Completion)

/-- How far a call that waits for `n` completions may have come when these are the ones that were
received. -/
def Counts : Call κ → Prop
  | .awaiting _ => told = []
  | .cascading _ failures => told.length = 1 ∧ failures = told.filterMap Completion.failure?
  | .collecting _ count failures =>
      told.length = count ∧ count ≤ n ∧ failures = told.filterMap Completion.failure?
  | .concluding failures => told.length = n ∧ failures = told.filterMap Completion.failure?
  | .answered (.waited (.ok failures)) =>
      told.length = n ∧ failures = told.filterMap Completion.failure?
  | _ => True

theorem Counts.of_not_isWait {call : Call κ} (h : call.isWait = false) : Counts n told call := by
  unfold Counts
  split
  all_goals trivial

end Account

/-- The accounting invariant of an activity with `n` endpoints and its past. What was received and
what is queued are the completions of the tasks that are over; nothing was received before somebody
waited, and the receiving end is given up only after everything was received. -/
structure Accounts (n : Nat) (past : List (Activity κ × Event)) (s : Activity κ) : Prop where
  balance : (received past ++ s.coordinator.queue).Perm s.coordinator.completions
  counts : ∀ call ∈ s.calls, Counts n (received past) call
  unwaited : s.coordinator.receiver = .absent ∨ s.coordinator.receiver = .free →
    received past = []
  dropped : s.coordinator.receiver = .dropped → (received past).length = n

section Step

variable {P : Provisioner ω κ} {endpoints : List (String × Version)} {announces : Bool} {world : ω}
variable {past past' : List (Activity κ × Event)} {s : Activity κ} {w : ω}

theorem Accounts.start (endpoints : List (String × Version)) (announces : Bool) :
    Accounts endpoints.length [] (.unstarted endpoints announces : Activity κ) where
  balance := .nil
  counts := by simp [Activity.unstarted]
  unwaited _ := rfl
  dropped h := by cases h

theorem Accounts.length_eq (h : Accounts endpoints.length past s) :
    (received past).length + s.coordinator.queue.length = s.coordinator.completions.length := by
  rw [← List.length_append]
  exact h.balance.length_eq

/-- When all completions were received, none is queued and all tasks are over. -/
theorem Accounts.all_reported (h : Accounts endpoints.length past s)
    (hc : Control P endpoints announces world s w)
    (hall : (received past).length = endpoints.length) :
    s.coordinator.queue = [] ∧ ∀ task ∈ s.coordinator.tasks, task.progress.isReported = true := by
  have hle := s.coordinator.length_completions_le
  have htasks := hc.length_tasks_le
  have hsum := h.length_eq
  exact ⟨List.length_eq_zero_iff.mp (by omega),
    s.coordinator.length_completions_eq_iff.mp (by omega)⟩

/-- While somebody waits, the channel is over only after everything was received. -/
theorem Accounts.length_of_over (h : Accounts endpoints.length past s)
    (hc : Control P endpoints announces world s w) (htaken : s.coordinator.receiver = .taken)
    (hempty : s.coordinator.queue = [])
    (hover : ∀ task ∈ s.coordinator.tasks, task.progress.isReported = true) :
    (received past).length = endpoints.length := by
  have hserved := (hc.shape.of_taken htaken).1.length_places
  have hall := s.coordinator.length_completions_eq_iff.mpr hover
  have hsum := h.length_eq
  rw [Coordinator.length_places] at hserved
  rw [hempty, List.length_nil] at hsum
  omega

/-- A task that is about to post its completion finds somebody who has not given up, and room. -/
theorem Accounts.room (h : Accounts endpoints.length past s)
    (hc : Control P endpoints announces world s w) {index : Nat} {task : Task κ}
    (ht : s.coordinator.tasks[index]? = some task) (hnot : task.progress.isReported = false) :
    s.coordinator.receiver ≠ .dropped ∧ s.coordinator.queue.length < endpoints.length := by
  have hin := List.mem_of_getElem? ht
  have hne : s.coordinator.completions.length ≠ s.coordinator.tasks.length := fun he => by
    have hall := s.coordinator.length_completions_eq_iff.mp he task hin
    rw [hnot] at hall
    cases hall
  have hle := s.coordinator.length_completions_le
  have htasks := hc.length_tasks_le
  have hsum := h.length_eq
  refine ⟨fun hdropped => ?_, by omega⟩
  have hall := h.dropped hdropped
  omega

/-! ### Calls -/

/-- A call joins the others and nothing is received. -/
theorem Accounts.join {c c' : Coordinator κ} {calls : List (Call κ)} {call : Call κ}
    (h : Accounts endpoints.length past ⟨c, calls⟩) (hpast : received past' = received past)
    (hqueue : c'.queue = c.queue) (hcompletions : c'.completions = c.completions)
    (hreceiver : c'.receiver = c.receiver ∨ c'.receiver = .taken)
    (hcall : Counts endpoints.length (received past) call) :
    Accounts endpoints.length past' ⟨c', calls ++ [call]⟩ where
  balance := by
    rw [hpast]
    simp only [hqueue, hcompletions]
    exact h.balance
  counts other hin := by
    rw [hpast]
    rcases List.mem_append.mp hin with hin | hin
    · exact h.counts other hin
    · rw [List.mem_singleton.mp hin]
      exact hcall
  unwaited hr := by
    rw [hpast]
    rcases hreceiver with hsame | htaken
    · exact h.unwaited (by rwa [← hsame])
    · simp only [htaken] at hr
      rcases hr with hr | hr <;> cases hr
  dropped hr := by
    rw [hpast]
    rcases hreceiver with hsame | htaken
    · exact h.dropped (by rwa [← hsame])
    · simp only [htaken] at hr
      cases hr

theorem Accounts.call (h : Accounts endpoints.length past s)
    (hc : Control P endpoints announces world s w) (request : Request) :
    Accounts endpoints.length (past ++ [(s, .call request)]) (s.call request) := by
  obtain ⟨c, calls⟩ := s
  have hpast : received (past ++ [(⟨c, calls⟩, .call request)]) = received past := by
    rw [received_concat]
    exact List.append_nil _
  rcases Call.make_cases c request with
      ⟨hs, hm⟩ | ⟨hs, hm⟩ | ⟨hs, hr, hm⟩ | ⟨answer, hm, -, hwt⟩ <;>
    simp only [Activity.call, hm]
  · exact h.join hpast rfl rfl (.inl rfl) trivial
  · exact h.join hpast rfl (c.filterMap_signalled fun _ => rfl) (.inl rfl) trivial
  · -- Nothing was received yet, and of no endpoints nothing will be.
    have hnone : received past = [] := h.unwaited (.inr hr)
    have hlen := hc.length_handles hs
    refine h.join hpast rfl rfl (.inr rfl) ?_
    rw [hnone]
    split
    · rename_i hzero
      exact ⟨hzero.symm.trans hlen, rfl⟩
    · rfl
  · exact h.join hpast rfl rfl (.inl rfl) (.of_not_isWait _ _ hwt)

/-- A call takes a step, in which it receives some completions or none. -/
theorem Accounts.replace {c c' : Coordinator κ} {before after : List (Call κ)}
    {call call' : Call κ} {new : List Completion}
    (h : Accounts endpoints.length past ⟨c, before ++ call :: after⟩)
    (hc : Control P endpoints announces world ⟨c, before ++ call :: after⟩ w)
    (hpast : received past' = received past ++ new)
    (hqueue : new ++ c'.queue = c.queue) (hcompletions : c'.completions = c.completions)
    (hcall : Counts endpoints.length (received past ++ new) call')
    (hnew : new = [] ∨ call.isWait = true)
    (hfree : c'.receiver = .absent ∨ c'.receiver = .free → received past ++ new = [])
    (hdropped : c'.receiver = .dropped → (received past ++ new).length = endpoints.length) :
    Accounts endpoints.length past' ⟨c', before ++ call' :: after⟩ where
  balance := by
    rw [hpast, List.append_assoc]
    simp only [hqueue, hcompletions]
    exact h.balance
  counts other hin := by
    rw [hpast]
    rcases List.mem_cons.mp (List.perm_middle.mem_iff.mp hin) with rfl | hmem
    · exact hcall
    · rcases hnew with rfl | hwait
      · have hold : other ∈ before ++ call :: after :=
          List.perm_middle.mem_iff.mpr (List.mem_cons_of_mem call hmem)
        rw [List.append_nil]
        exact h.counts other hold
      · exact .of_not_isWait _ _ (eq_false_of_countP_le_one hc.waits_le hwait other hmem)
  unwaited hr := by
    rw [hpast]
    exact hfree hr
  dropped hr := by
    rw [hpast]
    exact hdropped hr

/-- A call takes a step in which nothing is received and the receiving end stays where it is. -/
theorem Accounts.replace_of_same {c c' : Coordinator κ} {before after : List (Call κ)}
    {call call' : Call κ}
    (h : Accounts endpoints.length past ⟨c, before ++ call :: after⟩)
    (hc : Control P endpoints announces world ⟨c, before ++ call :: after⟩ w)
    (hpast : received past' = received past)
    (hqueue : c'.queue = c.queue) (hcompletions : c'.completions = c.completions)
    (hreceiver : c'.receiver = c.receiver)
    (hcall : Counts endpoints.length (received past) call') :
    Accounts endpoints.length past' ⟨c', before ++ call' :: after⟩ := by
  refine h.replace hc (hpast.trans (List.append_nil _).symm) hqueue hcompletions ?_ (.inl rfl) ?_ ?_
  all_goals rw [List.append_nil]
  · exact hcall
  · rw [hreceiver]
    exact h.unwaited
  · rw [hreceiver]
    exact h.dropped

theorem Accounts.replace_of_received {c : Coordinator κ} {before after : List (Call κ)}
    {call call' : Call κ} {completion : Completion} {queue : List Completion}
    (h : Accounts endpoints.length past ⟨c, before ++ call :: after⟩)
    (hc : Control P endpoints announces world ⟨c, before ++ call :: after⟩ w)
    (hpast : received past' = received past ++ [completion])
    (hqueue : c.queue = completion :: queue) (hwait : call.isWait = true)
    (htaken : c.receiver = .taken)
    (hcall : Counts endpoints.length (received past ++ [completion]) call') :
    Accounts endpoints.length past' ⟨{ c with queue }, before ++ call' :: after⟩ := by
  refine h.replace hc hpast hqueue.symm rfl hcall (.inr hwait) ?_ ?_
  all_goals
    simp only [htaken]
    intro hr
  · rcases hr with hr | hr <;> cases hr
  · cases hr

theorem Coordinator.cascade_spec (c : Coordinator κ) :
    (Call.cascade c).queue = c.queue ∧ (Call.cascade c).completions = c.completions ∧
      (Call.cascade c).receiver = c.receiver := by
  unfold Call.cascade Coordinator.stop
  cases c.state with
  | running => exact ⟨rfl, c.filterMap_signalled fun _ => rfl, rfl⟩
  | _ => exact ⟨rfl, rfl, rfl⟩

theorem Accounts.advance (h : Accounts endpoints.length past s)
    (hc : Control P endpoints announces world s w) (index : Nat) :
    Accounts endpoints.length (past ++ [(s, .advance index)]) (s.advance P index w).1 := by
  obtain ⟨c, calls⟩ := s
  have hpast := received_concat past ⟨c, calls⟩ (.advance index)
  simp only [Activity.receives?] at hpast
  unfold Activity.advance
  dsimp only
  split
  · rename_i call hcall
    rw [hcall] at hpast
    obtain ⟨before, after, rfl, hset⟩ := exists_around hcall
    simp only [hset]
    have hquiet (hn : Call.receives? c call = none) :
        received (past ++ [(⟨c, before ++ call :: after⟩, .advance index)]) = received past := by
      rw [hpast, Option.bind_some, hn]
      exact List.append_nil _
    have hcount : Counts endpoints.length (received past) call := h.counts call (by simp)
    obtain ⟨hshape, hfits⟩ := hc.around
    cases call with
    | opening =>
      refine h.replace_of_same hc (hquiet rfl) rfl rfl rfl (.of_not_isWait _ _ ?_)
      exact (Call.advance_leads P .opening c w).isWait_eq
    | refused fault => exact h.replace_of_same hc (hquiet rfl) rfl rfl rfl trivial
    | spawning left handles =>
      have hnone : received past = [] :=
        h.unwaited (.inl ((shape_of_starting hfits.1).mp hshape).receiver)
      cases left with
      | cons place left =>
        exact h.replace_of_same hc (hquiet rfl) rfl (c.completions_spawn _ _) rfl trivial
      | nil =>
        refine h.replace hc ((hquiet rfl).trans (List.append_nil _).symm) rfl rfl trivial
          (.inl rfl) ?_ ?_
        · exact fun _ => by rw [hnone]; rfl
        · exact fun hr => by cases hr
    | announcing addresses told =>
      cases told <;> exact h.replace_of_same hc (hquiet rfl) rfl rfl rfl trivial
    | awaiting expected =>
      have hnone : received past = [] := hcount
      simp only [Call.advance]
      rcases c.receive_cases with ⟨hempty, hr⟩ | ⟨hempty, hover, hr⟩ |
        ⟨completion, queue, hqueue, hr⟩
      · rw [hr]
        exact h.replace_of_same hc (hquiet (by simp [hempty, Call.receives?])) rfl rfl rfl hcount
      · -- The channel would be over only after everything was received.
        have hall := h.length_of_over hc hfits.1 hempty hover
        rw [hnone] at hall
        have hpos := hfits.2
        simp at hall
        omega
      · rw [hr]
        refine h.replace_of_received hc (by simpa [hqueue, Call.receives?] using hpast) hqueue rfl
          hfits.1 ?_
        rw [hnone]
        exact ⟨rfl, (filterMap_singleton _ _).symm⟩
    | cascading expected failures =>
      obtain ⟨hqueue, hcompletions, hreceiver⟩ := c.cascade_spec
      obtain ⟨hone, hfailures⟩ := hcount
      refine h.replace_of_same hc (hquiet rfl) hqueue hcompletions hreceiver
        ⟨hone, ?_, hfailures⟩
      have hpos := hfits.2
      omega
    | collecting expected count failures =>
      obtain ⟨hlen, hle, hfailures⟩ := hcount
      simp only [Call.advance]
      split
      · rename_i hlt
        rcases c.receive_cases with ⟨hempty, hr⟩ | ⟨hempty, hover, hr⟩ |
          ⟨completion, queue, hqueue, hr⟩
        · rw [hr]
          exact h.replace_of_same hc (hquiet (by simp [hempty, Call.receives?])) rfl rfl rfl
            ⟨hlen, hle, hfailures⟩
        · have hall := h.length_of_over hc hfits.1 hempty hover
          have hexpected := hfits.2.1
          omega
        · rw [hr]
          refine h.replace_of_received hc (by simpa [hqueue, hlt, Call.receives?] using hpast)
            hqueue rfl hfits.1 ⟨?_, ?_, ?_⟩
          · rw [List.length_append, hlen]
            rfl
          · rw [← hfits.2.1]
            exact hlt
          · rw [List.filterMap_append, filterMap_singleton, hfailures]
      · rename_i hge
        refine h.replace_of_same hc (hquiet (by simp [hge, Call.receives?])) rfl rfl rfl
          ⟨?_, hfailures⟩
        have hexpected := hfits.2.1
        omega
    | concluding failures =>
      refine h.replace hc ((hquiet rfl).trans (List.append_nil _).symm) rfl rfl ?_ (.inl rfl) ?_ ?_
      · rw [List.append_nil]
        exact hcount
      · intro hr
        rcases hr with hr | hr <;> cases hr
      · rw [List.append_nil]
        exact fun _ => hcount.1
    | answered answer => exact h.replace_of_same hc (hquiet rfl) rfl rfl rfl hcount
  · rename_i hnone
    rw [hnone] at hpast
    have hpast : received (past ++ [(⟨c, calls⟩, .advance index)]) = received past := by
      simpa using hpast
    exact ⟨hpast ▸ h.balance, hpast ▸ h.counts, hpast ▸ h.unwaited, hpast ▸ h.dropped⟩

/-! ### Tasks -/

theorem Accounts.task {c c' : Coordinator κ} {calls : List (Call κ)}
    (h : Accounts endpoints.length past ⟨c, calls⟩) (hpast : received past' = received past)
    (hreceiver : c'.receiver = c.receiver)
    (hbalance : (received past ++ c'.queue).Perm c'.completions) :
    Accounts endpoints.length past' ⟨c', calls⟩ where
  balance := by rw [hpast]; exact hbalance
  counts := by rw [hpast]; exact h.counts
  unwaited := by rw [hpast, hreceiver]; exact h.unwaited
  dropped := by rw [hpast, hreceiver]; exact h.dropped

/-- A task that posts its completion. There is room for it, and it is not lost. -/
theorem Accounts.reportTask_eq (h : Accounts endpoints.length past s)
    (hc : Control P endpoints announces world s w) {index : Nat} {task : Task κ}
    {result : Except Fault Unit} (ht : s.coordinator.tasks[index]? = some task)
    (hclosed : task.progress = .closed result) :
    s.coordinator.reportTask index =
      { s.coordinator with
        tasks := s.coordinator.tasks.set index { task with progress := .reported result }
        queue := s.coordinator.queue ++ [task.completion result] } := by
  obtain ⟨hreceiver, hroom⟩ := h.room hc ht (by rw [hclosed]; rfl)
  have hcapacity : s.coordinator.queue.length < s.coordinator.capacity := by
    rw [Coordinator.capacity, hc.endpoints_eq]
    omega
  simp [Coordinator.reportTask, ht, hclosed, hreceiver, hcapacity, Coordinator.updateTask]

theorem Accounts.taskReports (h : Accounts endpoints.length past s)
    (hc : Control P endpoints announces world s w) (index : Nat)
    (hpast : received past' = received past) :
    Accounts endpoints.length past'
      { s with coordinator := s.coordinator.reportTask index } := by
  rcases s.coordinator.reportTask_cases index with hsame | ⟨task, result, ht, hclosed⟩
  · rw [hsame]
    exact h.task hpast rfl h.balance
  · rw [h.reportTask_eq hc ht hclosed]
    refine h.task hpast rfl ?_
    have hnone : task.completion? = none := by simp [Task.completion?, hclosed]
    have hposted : ((s.coordinator.tasks.set index
        { task with progress := .reported result }).filterMap Task.completion?).Perm
        (s.coordinator.completions ++ [task.completion result]) := filterMap_set_perm ht hnone rfl
    rw [← List.append_assoc]
    exact (h.balance.append_right _).trans hposted.symm

theorem Accounts.step (h : Accounts endpoints.length past s)
    (hc : Control P endpoints announces world s w) (event : Event) :
    Accounts endpoints.length (past ++ [(s, event)]) (s.step P event w).1 := by
  have hpast := received_concat past s event
  cases event with
  | call request => exact h.call hc request
  | advance index => exact h.advance hc index
  | taskEnds index result =>
    rw [show s.receives? (.taskEnds index result) = none from rfl] at hpast
    obtain ⟨hqueue, hcompletions⟩ := s.coordinator.endTask_completions index result
    refine h.task (by simpa using hpast) (s.coordinator.endTask_outline index result).receiver ?_
    rw [hqueue, hcompletions]
    exact h.balance
  | taskCloses index =>
    rw [show s.receives? (.taskCloses index) = none from rfl] at hpast
    obtain ⟨hqueue, hcompletions⟩ := s.coordinator.closeTask_completions P index w
    have hbalance : (received past ++ (s.coordinator.closeTask P index w).1.queue).Perm
        (s.coordinator.closeTask P index w).1.completions := by
      rw [hqueue, hcompletions]
      exact h.balance
    exact h.task (by simpa using hpast) (s.coordinator.closeTask_outline P index w).receiver
      hbalance
  | taskReports index =>
    rw [show s.receives? (.taskReports index) = none from rfl] at hpast
    exact h.taskReports hc index (by simpa using hpast)

theorem Accounts.run (P : Provisioner ω κ) (endpoints : List (String × Version))
    (announces : Bool) (world : ω) (events : List Event) :
    Accounts endpoints.length ((Activity.unstarted endpoints announces).history P events world)
      ((Activity.unstarted endpoints announces).run P events world).1 := by
  have hrun := Activity.run_induction P
    (motive := fun past s w => Control P endpoints announces world s w ∧
      Accounts endpoints.length past s)
    ⟨Control.start P endpoints announces world, Accounts.start endpoints announces⟩
    (fun _ _ _ event ⟨hc, h⟩ => ⟨hc.step event, h.step hc event⟩) events
  exact hrun.2

/-- A second completion is received only when all endpoints have been told to stop. -/
theorem Accounts.signalled_of_receives (h : Accounts endpoints.length past s)
    (hc : Control P endpoints announces world s w) {event : Event}
    (hsecond : received past ≠ []) (hreceives : (s.receives? event).isSome = true) :
    s.coordinator.tasks.map Task.endpoint = endpoints ∧
      ∀ task ∈ s.coordinator.tasks, task.signalled = true := by
  cases event with
  | advance index =>
    simp only [Activity.receives?] at hreceives
    rcases Option.eq_none_or_eq_some s.calls[index]? with hcall | ⟨call, hcall⟩
    · simp [hcall] at hreceives
    · have hin := List.mem_of_getElem? hcall
      have hcount := h.counts call hin
      have hfits := hc.fits call hin
      rw [hcall, Option.bind_some] at hreceives
      cases call with
      | awaiting expected => exact absurd hcount hsecond
      | collecting expected count failures =>
        obtain ⟨hserved, -, hsig⟩ := (shape_of_stopping hfits.2.2.2).mp hc.shape
        exact ⟨hserved.map_endpoint, hsig⟩
      | _ => cases hreceives
  | _ => cases hreceives

end Step

/-! ## The whole -/

/-- Whenever endpoints end and whenever anybody stops them: a task that is about to post its
`Completion` can do so at once, since `Coordinator.queue` never holds more of them than there are
endpoints; at most one caller is told that all endpoints have stopped (`Call.hasWaited`), after one
completion of each was `received`, and it is told the failures among them in the order in which they
were received; all endpoints have been told to stop before a second completion is received; and when
the set has stopped, all tasks are over. -/
theorem completion_accounting (P : Provisioner ω κ) (endpoints : List (String × Version))
    (announces : Bool) (world : ω) (events : List Event) :
    let start : Activity κ := .unstarted endpoints announces
    let past := start.history P events world
    let activity := (start.run P events world).1
    let now := (start.run P events world).2
    let coordinator := activity.coordinator
    (∀ index task result, coordinator.tasks[index]? = some task →
      task.progress = .closed result →
      coordinator.queue.length < endpoints.length ∧
      (activity.step P (.taskReports index) now).1.coordinator =
        { coordinator with
          tasks := coordinator.tasks.set index { task with progress := .reported result }
          queue := coordinator.queue ++ [task.completion result] }) ∧
    coordinator.queue.length ≤ endpoints.length ∧
    activity.calls.countP Call.hasWaited ≤ 1 ∧
    (∀ failures, Call.answered (.waited (.ok failures)) ∈ activity.calls →
      coordinator.tasks.map Task.endpoint = endpoints ∧
      (∀ task ∈ coordinator.tasks, task.progress.isReported = true) ∧
      (received past).Perm coordinator.completions ∧
      failures = (received past).filterMap Completion.failure? ∧
      failures.Perm (coordinator.completions.filterMap Completion.failure?)) ∧
    (∀ event, received past ≠ [] → (activity.receives? event).isSome = true →
      coordinator.tasks.map Task.endpoint = endpoints ∧
      ∀ task ∈ coordinator.tasks, task.signalled = true) ∧
    (coordinator.state = .stopped →
      coordinator.tasks.map Task.endpoint = endpoints ∧
      ∀ task ∈ coordinator.tasks, task.progress.isReported = true) := by
  intro start past activity now coordinator
  have hc : Control P endpoints announces world activity now :=
    Control.run P endpoints announces world events
  have h : Accounts endpoints.length past activity :=
    Accounts.run P endpoints announces world events
  have hdone (hs : coordinator.state = .stopped) : coordinator.queue = [] ∧
      coordinator.tasks.map Task.endpoint = endpoints ∧
      ∀ task ∈ coordinator.tasks, task.progress.isReported = true := by
    have hserved := hc.served_of_isUp (by rw [hs]; rfl)
    obtain ⟨hqueue, hall⟩ := h.all_reported hc (h.dropped (hc.shape.of_stopped hs))
    exact ⟨hqueue, hserved.map_endpoint, hall⟩
  refine ⟨?_, ?_, ?_, ?_, ?_, ?_⟩
  · intro index task result ht hclosed
    exact ⟨(h.room hc ht (by rw [hclosed]; rfl)).2, h.reportTask_eq hc ht hclosed⟩
  · have hle := coordinator.length_completions_le
    have htasks : coordinator.tasks.length ≤ endpoints.length := hc.length_tasks_le
    have hsum : (received past).length + coordinator.queue.length =
        coordinator.completions.length := h.length_eq
    omega
  · calc activity.calls.countP Call.hasWaited
        ≤ activity.calls.countP Call.isWait :=
          List.countP_mono_left fun call _ hw => Call.isWait_of_hasWaited hw
      _ ≤ 1 := hc.waits_le
  · intro failures hin
    have hdropped : coordinator.receiver = .dropped := hc.fits _ hin
    obtain ⟨hqueue, hendpoints, hall⟩ := hdone (hc.shape.of_dropped hdropped)
    have hbalance : (received past ++ coordinator.queue).Perm coordinator.completions := h.balance
    rw [hqueue, List.append_nil] at hbalance
    obtain ⟨-, hfailures⟩ : _ ∧ failures = (received past).filterMap Completion.failure? :=
      h.counts _ hin
    exact ⟨hendpoints, hall, hbalance, hfailures, hfailures ▸ hbalance.filterMap _⟩
  · intro event hsecond hreceives
    exact h.signalled_of_receives hc hsecond hreceives
  · exact fun hs => (hdone hs).2

end StorageGateway.Lifecycle

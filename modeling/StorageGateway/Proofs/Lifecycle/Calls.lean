import Mathlib.Data.List.Basic
import Mathlib.Data.List.Perm.Basic
import StorageGateway.Lifecycle.Activity

/-!
# What calls and tasks do to the coordinator

One lemma for each operation, so that the invariants need not unfold it. A call that was let in to
start the set stays such a call to its end, and likewise one that was let in to wait; all others are
over at once. Tasks change nothing but their own progress and the queue.
-/

namespace StorageGateway.Lifecycle

variable {ω κ : Type}

/-- The list around an element, which may be put in its place. -/
theorem exists_around {α : Type} {l : List α} {index : Nat} {a : α} (h : l[index]? = some a) :
    ∃ before after, l = before ++ a :: after ∧ ∀ b, l.set index b = before ++ b :: after := by
  obtain ⟨hi, ha⟩ := List.getElem?_eq_some_iff.mp h
  refine ⟨l.take index, l.drop (index + 1), ?_, fun b => List.set_eq_take_append_cons_drop.trans
    (if_pos hi)⟩
  rw [← ha, ← List.drop_eq_getElem_cons hi, List.take_append_drop]

/-- What stands new in a longer list is what was added. -/
theorem eq_of_getElem?_concat {α : Type} {l : List α} {a b : α} {index : Nat}
    (h : (l ++ [a])[index]? = some b) (hn : l[index]? ≠ some b) : a = b := by
  rw [List.getElem?_append] at h
  split at h
  · exact absurd h hn
  · exact (List.mem_singleton.mp (List.mem_of_getElem? h)).symm

/-- What stands new in a changed list is what was put there. -/
theorem eq_of_getElem?_set {α : Type} {l : List α} {a b : α} {index place : Nat}
    (h : (l.set place a)[index]? = some b) (hn : l[index]? ≠ some b) : place = index ∧ a = b := by
  rw [List.getElem?_set] at h
  split at h
  · rename_i he
    split at h
    · exact ⟨he, Option.some.inj h⟩
    · cases h
  · exact absurd h hn

theorem filterMap_singleton {α β : Type} (f : α → Option β) (a : α) :
    [a].filterMap f = (f a).toList := by
  cases h : f a <;> simp [h]

theorem filterMap_set_of_eq {α β : Type} {f : α → Option β} {l : List α} {index : Nat} {a b : α}
    (h : l[index]? = some a) (hsame : f b = f a) : (l.set index b).filterMap f = l.filterMap f := by
  obtain ⟨before, after, hl, hset⟩ := exists_around h
  rw [hset, hl]
  simp only [List.filterMap_append, List.filterMap_cons, hsame]

/-- An element of which something is told is put in the place of one of which nothing was. -/
theorem filterMap_set_perm {α β : Type} {f : α → Option β} {l : List α} {index : Nat} {a b : α}
    {told : β} (h : l[index]? = some a) (hnone : f a = none) (hsome : f b = some told) :
    ((l.set index b).filterMap f).Perm (l.filterMap f ++ [told]) := by
  obtain ⟨before, after, hl, hset⟩ := exists_around h
  rw [hset, hl]
  simp only [List.filterMap_append, List.filterMap_cons, hnone, hsome]
  exact List.perm_middle.trans (List.perm_append_singleton _ _).symm

/-- When at most one element has a property and one is known that does, the others do not. -/
theorem eq_false_of_countP_le_one {α : Type} {p : α → Bool} {before after : List α} {a : α}
    (hle : (before ++ a :: after).countP p ≤ 1) (ha : p a = true) :
    ∀ b ∈ before ++ after, p b = false := by
  have hzero : (before ++ after).countP p = 0 := by
    simp only [List.countP_append, List.countP_cons, ha, if_true] at hle ⊢
    omega
  exact fun b hb => by simpa using List.countP_eq_zero.mp hzero b hb

/-! ## Opening listeners -/

namespace Provisioner

theorem length_of_openAll {P : Provisioner ω κ} {addresses : List String} {w w' : ω}
    {listeners : List κ} (h : P.openAll addresses w = (.ok listeners, w')) :
    listeners.length = addresses.length := by
  induction addresses generalizing w w' listeners with
  | nil =>
    simp only [openAll, Prod.mk.injEq, Except.ok.injEq] at h
    simp [← h.1]
  | cons address rest ih =>
    unfold openAll at h
    split at h
    · simp at h
    · split at h
      · rename_i hrest
        simp only [Prod.mk.injEq, Except.ok.injEq] at h
        rw [← h.1, List.length_cons, List.length_cons, ih hrest]
      · simp at h

theorem length_addresses (P : Provisioner ω κ) (endpoints : List (String × Version)) :
    (P.addresses endpoints).length = endpoints.length := by
  simp [addresses]

theorem length_of_openAll_addresses (P : Provisioner ω κ) {endpoints : List (String × Version)}
    {w w' : ω} {listeners : List κ}
    (h : P.openAll (P.addresses endpoints) w = (.ok listeners, w')) :
    listeners.length = endpoints.length := by
  rw [length_of_openAll h, P.length_addresses]

end Provisioner

/-! ## Kinds of calls -/

/-- Whether the fault is that of a caller who comes too late to start the set. -/
def lateToStart : Fault → Bool
  | .alreadyStarted => true
  | _ => false

namespace Call

/-- Whether a call was let in to start the set. -/
def isStart : Call κ → Bool
  | .opening | .refused _ | .spawning _ _ | .announcing _ _ => true
  | .answered (.started (.ok ())) => true
  | .answered (.started (.error fault)) => !lateToStart fault
  | _ => false

/-- Whether a call was let in to wait for the set. -/
def isWait : Call κ → Bool
  | .awaiting _ | .cascading _ _ | .collecting _ _ _ | .concluding _ => true
  | .answered (.waited (.ok _)) => true
  | _ => false

/-- Whether a call has started the set. -/
def hasStarted : Call κ → Bool
  | .answered (.started (.ok ())) => true
  | _ => false

/-- Whether a call has waited for the set until it was stopped. -/
def hasWaited : Call κ → Bool
  | .answered (.waited (.ok _)) => true
  | _ => false

/-- Whether a call is about to open the listeners. -/
def isOpening : Call κ → Bool
  | .opening => true
  | _ => false

theorem isStart_of_hasStarted {call : Call κ} (h : call.hasStarted = true) :
    call.isStart = true := by
  unfold hasStarted at h
  split at h
  · rfl
  · cases h

theorem isStart_of_isOpening {call : Call κ} (h : call.isOpening = true) :
    call.isStart = true := by
  unfold isOpening at h
  split at h
  · rfl
  · cases h

theorem isWait_of_hasWaited {call : Call κ} (h : call.hasWaited = true) :
    call.isWait = true := by
  unfold hasWaited at h
  split at h
  · rfl
  · cases h

theorem isStart_eq_false_of_isWait {call : Call κ} (h : call.isWait = true) :
    call.isStart = false := by
  unfold isWait at h
  split at h <;> first | rfl | cases h

variable (P : Provisioner ω κ)

theorem openListeners_cases (c : Coordinator κ) (w : ω) :
    (∃ listeners w', P.openAll (P.addresses c.endpoints) w = (.ok listeners, w') ∧
      openListeners P c w = (.spawning (c.endpoints.zip listeners) [], w')) ∨
    (∃ fault w', P.openAll (P.addresses c.endpoints) w = (.error fault, w') ∧
      openListeners P c w = (.refused fault, w')) := by
  unfold openListeners
  split
  · rename_i listeners w' h
    exact .inl ⟨listeners, w', h, rfl⟩
  · rename_i fault w' h
    exact .inr ⟨fault, w', h, rfl⟩

theorem openListeners_world (c : Coordinator κ) (w : ω) :
    (openListeners P c w).2 = (P.openAll (P.addresses c.endpoints) w).2 := by
  rcases openListeners_cases P c w with ⟨ls, w', ho, h⟩ | ⟨fault, w', ho, h⟩ <;> rw [h, ho]

/-- The steps of calls: from how far a call has come to how far it comes next. -/
inductive Leads : Call κ → Call κ → Prop where
  | opened (left : List ((String × Version) × κ)) : Leads .opening (.spawning left [])
  | refused (fault : Fault) : Leads .opening (.refused fault)
  | failed (fault : Fault) :
    Leads (.refused fault) (.answered (.started (.error (.startupFailed [fault]))))
  | served (place : (String × Version) × κ) (left : List ((String × Version) × κ))
    (handles handles' : List Hosted) :
    Leads (.spawning (place :: left) handles) (.spawning left handles')
  | committed (handles : List Hosted) (addresses : List String) (announces : Bool) :
    Leads (.spawning [] handles) (.announcing addresses announces)
  | announced (addresses : List String) (announces : Bool) :
    Leads (.announcing addresses announces) (.answered (.started (.ok ())))
  | awaits (expected : Nat) : Leads (.awaiting expected) (.awaiting expected)
  | received (expected : Nat) (failures : List Failure) :
    Leads (.awaiting expected) (.cascading expected failures)
  | cascaded (expected : Nat) (failures : List Failure) :
    Leads (.cascading expected failures) (.collecting expected 1 failures)
  | collects (expected received received' : Nat) (failures failures' : List Failure) :
    Leads (.collecting expected received failures) (.collecting expected received' failures')
  | collected (expected received : Nat) (failures : List Failure) :
    Leads (.collecting expected received failures) (.concluding failures)
  | concluded (failures : List Failure) :
    Leads (.concluding failures) (.answered (.waited (.ok failures)))
  | rests (answer : Answer) : Leads (.answered answer) (.answered answer)

theorem advance_leads (call : Call κ) (c : Coordinator κ) (w : ω) :
    Leads call (call.advance P c w).1 := by
  cases call with
  | opening =>
    rcases openListeners_cases P c w with ⟨ls, w', -, h⟩ | ⟨fault, w', -, h⟩ <;>
      simp only [advance, h]
    · exact .opened _
    · exact .refused fault
  | refused fault => exact .failed fault
  | spawning left handles =>
    cases left with
    | cons place left => exact .served place left handles _
    | nil => exact .committed handles _ _
  | announcing addresses announces => exact .announced addresses announces
  | awaiting expected =>
    simp only [advance]
    split
    · exact .awaits expected
    · exact .received expected _
    · exact .received expected _
  | cascading expected failures => exact .cascaded expected failures
  | collecting expected received failures =>
    simp only [advance]
    split
    · split
      · exact .collects expected received _ failures _
      · exact .collected expected received failures
      · exact .collects expected received _ failures _
    · exact .collected expected received failures
  | concluding failures => exact .concluded failures
  | answered answer => exact .rests answer

theorem Leads.isStart_eq {call call' : Call κ} (h : Leads call call') :
    call'.isStart = call.isStart := by
  cases h <;> rfl

theorem Leads.isWait_eq {call call' : Call κ} (h : Leads call call') :
    call'.isWait = call.isWait := by
  cases h <;> rfl

/-- No step of a call leads back to where it is about to open the listeners. -/
theorem Leads.isOpening_eq {call call' : Call κ} (h : Leads call call') :
    call'.isOpening = false := by
  cases h <;> rfl

/-- A call that was let in neither to start nor to wait does nothing any more. -/
theorem advance_of_idle {call : Call κ} (hstart : call.isStart = false)
    (hwait : call.isWait = false) (c : Coordinator κ) (w : ω) :
    call.advance P c w = (call, c, w) := by
  cases call with
  | answered answer => rfl
  | opening | refused | spawning | announcing => cases hstart
  | awaiting | cascading | collecting | concluding => cases hwait

/-- What the first step of a call may do: it is let in to start or to wait, it stops the set, or it
is over at once and has changed nothing. -/
theorem make_cases (c : Coordinator κ) (request : Request) :
    (c.state = .unstarted ∧ make c request = (.opening, { c with state := .starting })) ∨
    (c.state = .running ∧ make c request =
      (.answered (.stopped (.ok ())), { c with state := .stopping, tasks := c.signalled })) ∨
    ((c.state = .running ∨ c.state = .stopping) ∧ c.receiver = .free ∧ make c request =
      (if c.handles.length = 0 then .concluding [] else .awaiting c.handles.length,
        { c with receiver := .taken })) ∨
    ∃ answer, make c request = (.answered answer, c) ∧
      (Call.answered answer : Call κ).isStart = false ∧
      (Call.answered answer : Call κ).isWait = false := by
  cases request with
  | start =>
    by_cases h : c.state = .unstarted
    · exact .inl ⟨h, by simp [make, Coordinator.beginStart, h]⟩
    · refine .inr (.inr (.inr ⟨.started (.error .alreadyStarted), ?_, rfl, rfl⟩))
      simp [make, Coordinator.beginStart]
  | stop =>
    cases h : c.state with
    | running => exact .inr (.inl ⟨rfl, by simp [make, Coordinator.stop, h]⟩)
    | stopping =>
      exact .inr (.inr (.inr ⟨.stopped (.ok ()), by simp [make, Coordinator.stop, h], rfl, rfl⟩))
    | stopped =>
      exact .inr (.inr (.inr ⟨.stopped (.ok ()), by simp [make, Coordinator.stop, h], rfl, rfl⟩))
    | unstarted =>
      exact .inr (.inr (.inr ⟨.stopped (.error .notStarted),
        by simp [make, Coordinator.stop, h], rfl, rfl⟩))
    | starting =>
      exact .inr (.inr (.inr ⟨.stopped (.error .notStarted),
        by simp [make, Coordinator.stop, h], rfl, rfl⟩))
    | failedToStart =>
      exact .inr (.inr (.inr ⟨.stopped (.error .notStarted),
        by simp [make, Coordinator.stop, h], rfl, rfl⟩))
  | wait =>
    by_cases hs : c.state = .running ∨ c.state = .stopping
    · by_cases hr : c.receiver = .free
      · refine .inr (.inr (.inl ⟨hs, hr, ?_⟩))
        rcases hs with hs | hs <;> simp [make, Coordinator.beginWait, hs, hr]
      · refine .inr (.inr (.inr
          ⟨.waited (.error (.other "coordinator is already being waited on")), ?_, rfl, rfl⟩))
        rcases hs with hs | hs <;> simp [make, Coordinator.beginWait, hs]
    · refine .inr (.inr (.inr ⟨.waited (.error .notStarted), ?_, rfl, rfl⟩))
      obtain ⟨hrun, hstop⟩ := not_or.mp hs
      simp [make, Coordinator.beginWait]

end Call

/-! ## Receiving -/

/-- What the receiving end gives: nothing, the end once all tasks are over, or the first completion
of the queue. -/
theorem Coordinator.receive_cases (c : Coordinator κ) :
    (c.queue = [] ∧ c.receive = .pending) ∨
    (c.queue = [] ∧ (∀ task ∈ c.tasks, task.progress.isReported = true) ∧ c.receive = .exhausted) ∨
    ∃ received queue, c.queue = received :: queue ∧
      c.receive = .completion received { c with queue } := by
  unfold receive
  cases hq : c.queue with
  | cons received queue => exact .inr (.inr ⟨received, queue, rfl, rfl⟩)
  | nil =>
    dsimp only
    split
    · rename_i hall
      exact .inr (.inl ⟨rfl, List.all_eq_true.mp hall, rfl⟩)
    · exact .inl ⟨rfl, rfl⟩

/-! ## Stopping -/

/-- The endpoint of a task and its listener. -/
def Task.place (task : Task κ) : (String × Version) × κ := (task.endpoint, task.listener)

namespace Coordinator

/-- The endpoints that have a task, with their listeners. -/
def places (c : Coordinator κ) : List ((String × Version) × κ) := c.tasks.map Task.place

theorem length_places (c : Coordinator κ) : c.places.length = c.tasks.length := by
  simp [places]

theorem tasks_eq_nil_of_places {c : Coordinator κ} (h : c.places = []) : c.tasks = [] :=
  List.map_eq_nil_iff.mp h

end Coordinator

/-- The hosted endpoints that have a task each, in the order of the tasks. -/
def handlesOf (P : Provisioner ω κ) (places : List ((String × Version) × κ)) : List Hosted :=
  places.mapIdx fun index place => ⟨P.addressOf place.2, index⟩

theorem length_handlesOf (P : Provisioner ω κ) (places : List ((String × Version) × κ)) :
    (handlesOf P places).length = places.length := by
  simp [handlesOf]

theorem map_address_handlesOf (P : Provisioner ω κ) (places : List ((String × Version) × κ)) :
    (handlesOf P places).map Hosted.address = places.map fun place => P.addressOf place.2 := by
  apply List.ext_getElem <;> simp [handlesOf]

namespace Coordinator

/-- When every task is hosted, all of them are told to stop. -/
theorem signalled_eq_map {P : Provisioner ω κ} {c : Coordinator κ}
    (h : c.handles = handlesOf P c.places) :
    c.signalled = c.tasks.map fun task => { task with signalled := true } := by
  apply List.ext_getElem
  · simp [signalled]
  · intro index hl hr
    have hi : index < c.tasks.length := by simpa [signalled] using hl
    have hany : (c.handles.any fun handle => handle.task == index) = true := by
      have hlen : index < (handlesOf P c.places).length := by
        rw [length_handlesOf, length_places]; exact hi
      rw [h, List.any_eq_true]
      exact ⟨(handlesOf P c.places)[index], List.getElem_mem hlen, by simp [handlesOf]⟩
    simp only [signalled, List.getElem_mapIdx, hany, if_true, List.getElem_map]

/-- What tasks tell of themselves, apart from whether they have been told to stop, does not change
when they are told. -/
theorem filterMap_signalled {β : Type} {f : Task κ → Option β}
    (hf : ∀ task, f { task with signalled := true } = f task) (c : Coordinator κ) :
    c.signalled.filterMap f = c.tasks.filterMap f := by
  have hmap : c.signalled.map f = c.tasks.map f := by
    apply List.ext_getElem
    · simp [signalled]
    · intro index hl hr
      simp only [signalled, List.getElem_map, List.getElem_mapIdx]
      split
      · exact hf _
      · rfl
  calc c.signalled.filterMap f
      = (c.signalled.map f).filterMap id := by rw [List.filterMap_map, Function.id_comp]
    _ = (c.tasks.map f).filterMap id := by rw [hmap]
    _ = c.tasks.filterMap f := by rw [List.filterMap_map, Function.id_comp]

theorem map_place_signalled (tasks : List (Task κ)) :
    (tasks.map fun task => { task with signalled := true }).map Task.place =
      tasks.map Task.place := by
  simp [Task.place, Function.comp_def]

end Coordinator

/-! ## Tasks -/

/-- Two coordinators that differ at most in the progress of tasks and in the queue. -/
structure SameOutline (c c' : Coordinator κ) : Prop where
  endpoints : c'.endpoints = c.endpoints
  announces : c'.announces = c.announces
  state : c'.state = c.state
  handles : c'.handles = c.handles
  receiver : c'.receiver = c.receiver
  heard : c'.heard = c.heard
  tasks : c'.tasks.map (fun task => (task.place, task.signalled)) =
    c.tasks.map fun task => (task.place, task.signalled)

namespace SameOutline

theorem refl (c : Coordinator κ) : SameOutline c c := ⟨rfl, rfl, rfl, rfl, rfl, rfl, rfl⟩

theorem places {c c' : Coordinator κ} (h : SameOutline c c') : c'.places = c.places := by
  have := congrArg (List.map Prod.fst) h.tasks
  simpa [Coordinator.places, Function.comp_def] using this

theorem forall_signalled {c c' : Coordinator κ} (h : SameOutline c c')
    (hc : ∀ task ∈ c.tasks, task.signalled = true) : ∀ task ∈ c'.tasks, task.signalled = true := by
  intro task ht
  have hm : (task.place, task.signalled) ∈
      c.tasks.map fun task => (task.place, task.signalled) := by
    rw [← h.tasks]; exact List.mem_map_of_mem ht
  obtain ⟨task', ht', he⟩ := List.mem_map.mp hm
  rw [← (Prod.mk.inj he).2]
  exact hc task' ht'

theorem queue (c : Coordinator κ) (queue : List Completion) :
    SameOutline c { c with queue } := ⟨rfl, rfl, rfl, rfl, rfl, rfl, rfl⟩

/-- Progress of one task. -/
theorem updateTask {c : Coordinator κ} {index : Nat} {task : Task κ} {progress : Progress}
    {queue : List Completion} (h : c.tasks[index]? = some task) :
    SameOutline c { c.updateTask index { task with progress } with queue } := by
  refine ⟨rfl, rfl, rfl, rfl, rfl, rfl, ?_⟩
  obtain ⟨before, after, htasks, hset⟩ := exists_around h
  simp only [Coordinator.updateTask, hset]
  rw [htasks, List.map_append, List.map_append]
  rfl

end SameOutline

namespace Coordinator

variable (P : Provisioner ω κ)

theorem endTask_outline (c : Coordinator κ) (index : Nat) (result : Except Fault Unit) :
    SameOutline c (c.endTask index result) := by
  unfold endTask
  split
  · rename_i task ht
    split
    · exact .updateTask ht
    · exact .refl c
  · exact .refl c

theorem closeTask_outline (c : Coordinator κ) (index : Nat) (w : ω) :
    SameOutline c (c.closeTask P index w).1 := by
  unfold closeTask
  split
  · rename_i task ht
    split
    · exact .updateTask ht
    · exact .refl c
  · exact .refl c

theorem reportTask_outline (c : Coordinator κ) (index : Nat) :
    SameOutline c (c.reportTask index) := by
  unfold reportTask
  split
  · rename_i task ht
    split
    · dsimp only
      split
      · exact .updateTask ht
      · split
        · exact .updateTask ht
        · exact .refl c
    · exact .refl c
  · exact .refl c

/-- Without tasks there is no listener to close. -/
theorem closeTask_of_places_eq_nil {c : Coordinator κ} (h : c.places = []) (index : Nat) (w : ω) :
    c.closeTask P index w = (c, w) := by
  simp [closeTask, tasks_eq_nil_of_places h]

end Coordinator

end StorageGateway.Lifecycle

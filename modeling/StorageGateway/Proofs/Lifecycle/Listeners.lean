import Mathlib.Data.List.Nodup
import StorageGateway.Lifecycle.Gateway
import StorageGateway.Lifecycle.Memory
import StorageGateway.Proofs.Lifecycle.Accounting
import StorageGateway.Proofs.Lifecycle.Trace
import StorageGateway.Proofs.Lifecycle.Transitions

/-!
# What becomes of the listeners

Either all listeners are opened or none is left open: when one cannot be opened, those before it are
closed, the last one first. Later each listener is closed by the task that serves it. The ledger
compares the log of a traced run to the tasks, so that no listener is forgotten and none is closed
twice.
-/

namespace StorageGateway.Lifecycle

variable {ω κ : Type}

/-! ## Opening all listeners or none -/

namespace Provisioner

/-- Opening listeners on addresses one after the other, each of which succeeds. -/
inductive Opens (P : Provisioner ω κ) : List String → ω → List κ → ω → Prop
  | nil (w : ω) : Opens P [] w [] w
  | cons {address : String} {rest : List String} {listener : κ} {listeners : List κ} {w w' w'' : ω}
      (first : P.openAt address w = (.ok listener, w')) (others : Opens P rest w' listeners w'') :
      Opens P (address :: rest) w (listener :: listeners) w''

/-- All addresses before one can be opened, and that one cannot. -/
def FailsAfter (P : Provisioner ω κ) (addresses : List String) (w : ω) (before : List String)
    (address : String) (fault : Fault) : Prop :=
  ∃ rest listeners w' w'', addresses = before ++ address :: rest ∧
    P.Opens before w listeners w' ∧ P.openAt address w' = (.error fault, w'')

/-- Closes listeners, the last one first. -/
def closeAll (P : Provisioner ω κ) (listeners : List κ) (w : ω) : ω :=
  listeners.foldr (fun listener w => (P.close listener w).2) w

variable {P : Provisioner ω κ}

theorem Opens.length_eq {addresses : List String} {w w' : ω} {listeners : List κ}
    (h : P.Opens addresses w listeners w') : listeners.length = addresses.length := by
  induction h with
  | nil w => rfl
  | cons first others ih => rw [List.length_cons, List.length_cons, ih]

theorem openAll_of_opens {addresses : List String} {w w' : ω} {listeners : List κ}
    (h : P.Opens addresses w listeners w') : P.openAll addresses w = (.ok listeners, w') := by
  induction h with
  | nil w => rfl
  | cons first others ih => simp only [openAll, first, ih]

theorem openAll_of_fails {before rest : List String} {address : String} {w w' w'' : ω}
    {listeners : List κ} {fault : Fault} (h : P.Opens before w listeners w')
    (hfail : P.openAt address w' = (.error fault, w'')) :
    P.openAll (before ++ address :: rest) w = (.error fault, P.closeAll listeners w'') := by
  induction h with
  | nil w => simp only [List.nil_append, openAll, hfail, closeAll, List.foldr_nil]
  | cons first others ih =>
    simp only [List.cons_append, openAll, first, ih hfail, closeAll, List.foldr_cons]

/-- Either all addresses can be opened, or there is a first one that cannot. -/
theorem opens_or_failsAfter (P : Provisioner ω κ) (addresses : List String) (w : ω) :
    (∃ listeners w', P.Opens addresses w listeners w') ∨
      ∃ before address fault, P.FailsAfter addresses w before address fault := by
  induction addresses generalizing w with
  | nil => exact .inl ⟨[], w, .nil w⟩
  | cons address rest ih =>
    rcases ho : P.openAt address w with ⟨fault | listener, w'⟩
    · exact .inr ⟨[], address, fault, rest, [], w, w', rfl, .nil w, ho⟩
    · rcases ih w' with ⟨ls, w'', h⟩ | ⟨before, other, fault, rest', ls, w'', w''', rfl, h, hfail⟩
      · exact .inl ⟨listener :: ls, w'', .cons ho h⟩
      · exact .inr ⟨address :: before, other, fault, rest', listener :: ls, w'', w''', rfl,
          .cons ho h, hfail⟩

end Provisioner

/-! ## What a traced provisioner writes down -/

/-- The deeds of opening listeners on addresses, with numbers from the given one on. -/
def openings (first : Nat) (addresses : List String) : List Deed :=
  (addresses.zipIdx first).map fun place => .opened place.2 place.1

/-- The deeds of an attempt to open listeners that fails after some. -/
def rollback (before : List String) (address : String) (fault : Fault) : List Deed :=
  openings 0 before ++ .refused address fault :: (List.range before.length).reverse.map .closed

namespace Provisioner

variable {P : Provisioner ω κ}

theorem Opens.traced {addresses : List String} {w w' : ω} {listeners : List κ}
    (h : P.Opens addresses w listeners w') (log : List Deed) :
    P.traced.Opens addresses (w, log)
      ((listeners.zipIdx (log.countP Deed.opens)).map Prod.swap)
      (w', log ++ openings (log.countP Deed.opens) addresses) := by
  induction h generalizing log with
  | nil w =>
    have hnone : log ++ openings (log.countP Deed.opens) [] = log := List.append_nil _
    rw [hnone]
    exact .nil _
  | @cons address rest listener listeners w w' w'' first others ih =>
    have hcount : (log ++ [Deed.opened (log.countP Deed.opens) address]).countP Deed.opens =
        log.countP Deed.opens + 1 := by
      simp [List.countP_append, Deed.opens]
    have hothers := ih (log ++ [.opened (log.countP Deed.opens) address])
    rw [hcount, List.append_assoc] at hothers
    exact .cons (openAt_traced_of_ok first) hothers

theorem closeAll_traced (P : Provisioner ω κ) (listeners : List (Nat × κ))
    (w : ω × List Deed) :
    (P.traced.closeAll listeners w).2 =
      w.2 ++ (listeners.map Prod.fst).reverse.map Deed.closed := by
  induction listeners with
  | nil => simp [closeAll]
  | cons listener listeners ih =>
    have hfirst : (P.traced.closeAll (listener :: listeners) w).2 =
        (P.traced.closeAll listeners w).2 ++ [.closed listener.1] := rfl
    rw [hfirst, ih, List.map_cons, List.reverse_cons, List.map_append, List.append_assoc]
    rfl

theorem map_fst_numbered (listeners : List κ) :
    ((listeners.zipIdx 0).map Prod.swap).map Prod.fst = List.range listeners.length := by
  rw [List.map_map]
  have hswap : (Prod.fst ∘ Prod.swap : κ × Nat → Nat) = Prod.snd := rfl
  rw [hswap, List.zipIdx_map_snd, List.range_eq_range']

theorem openAll_traced_of_opens {addresses : List String} {world w : ω} {listeners : List κ}
    (h : P.Opens addresses world listeners w) :
    P.traced.openAll addresses (world, []) =
      (.ok ((listeners.zipIdx 0).map Prod.swap), (w, openings 0 addresses)) :=
  openAll_of_opens (h.traced [])

theorem openAll_traced_of_fails {addresses before : List String} {world : ω} {address : String}
    {fault : Fault} (h : P.FailsAfter addresses world before address fault) :
    ∃ w, P.traced.openAll addresses (world, []) =
      (.error fault, (w, rollback before address fault)) := by
  obtain ⟨rest, listeners, w, w', rfl, hopens, hfail⟩ := h
  have hrefused : P.traced.openAt address (w, openings 0 before) =
      (.error fault, (w', openings 0 before ++ [.refused address fault])) :=
    openAt_traced_of_error hfail
  have hall : P.traced.openAll (before ++ address :: rest) (world, []) = _ :=
    openAll_of_fails (hopens.traced []) hrefused
  refine ⟨(P.traced.closeAll ((listeners.zipIdx 0).map Prod.swap)
    (w', openings 0 before ++ [.refused address fault])).1, hall.trans ?_⟩
  have hlog := P.closeAll_traced ((listeners.zipIdx 0).map Prod.swap)
    (w', openings 0 before ++ [.refused address fault])
  rw [map_fst_numbered, hopens.length_eq, List.append_assoc] at hlog
  exact Prod.ext rfl (Prod.ext rfl hlog)

-- The third address is refused: the first two are closed, though closing fails.
example : ((Network.provisioner (some 3) .notStarted true).traced.openAll ["a", "b", "c", "d"]
    ({}, [])).2.2 = rollback ["a", "b"] "c" .notStarted := rfl

theorem openAll_traced_ne_of_fails {addresses before : List String} {world : ω} {address : String}
    {fault : Fault} (h : P.FailsAfter addresses world before address fault)
    (listeners : List (Nat × κ)) (w : ω × List Deed) :
    P.traced.openAll addresses (world, []) ≠ (.ok listeners, w) := by
  obtain ⟨w', hall⟩ := openAll_traced_of_fails h
  intro ho
  cases hall.symm.trans ho

end Provisioner

/-! ## The ledger -/

/-- Whether a listener has been closed. -/
def Progress.isClosed : Progress → Bool
  | .closed _ | .reported _ => true
  | _ => false

theorem Progress.isClosed_of_isReported {progress : Progress} (h : progress.isReported = true) :
    progress.isClosed = true := by
  cases progress with
  | reported result => rfl
  | _ => cases h

/-- The number of the listener of a task, once it is closed. -/
def Task.closed? (task : Task (Nat × κ)) : Option Nat :=
  if task.progress.isClosed then some task.listener.1 else none

/-- The numbers of the listeners that have been closed, in the order of the tasks. -/
def Coordinator.closed (c : Coordinator (Nat × κ)) : List Nat := c.tasks.filterMap Task.closed?

/-- The ledger of an activity that began in a world with an empty log: nothing was done before the
listeners were opened, and afterwards each listener was closed that a task has closed, and no
other. -/
structure Ledger (P : Provisioner ω κ) (endpoints : List (String × Version)) (world : ω)
    (s : Activity (Nat × κ)) (w : ω × List Deed) : Prop where
  before : 0 < s.chances → w = (world, [])
  after : s.chances = 0 → ∃ closes : List Nat, closes.Perm s.coordinator.closed ∧
    w.2 = (P.traced.openAll (P.addresses endpoints) (world, [])).2.2 ++ closes.map Deed.closed

section Step

variable {P : Provisioner ω κ} {endpoints : List (String × Version)} {announces : Bool} {world : ω}
variable {s s' : Activity (Nat × κ)} {w w' : ω × List Deed}

theorem Ledger.start (P : Provisioner ω κ) (endpoints : List (String × Version))
    (announces : Bool) (world : ω) :
    Ledger P endpoints world (.unstarted endpoints announces) (world, []) where
  before _ := rfl
  after h := by simp [Activity.chances, Activity.unstarted] at h

/-- A step in which no listener is opened or closed. -/
theorem Ledger.quiet (h : Ledger P endpoints world s w) (hchances : s'.chances = s.chances)
    (hw : w' = w) (hclosed : s'.coordinator.closed = s.coordinator.closed) :
    Ledger P endpoints world s' w' where
  before hpos := by
    rw [hw]
    exact h.before (hchances ▸ hpos)
  after hzero := by
    rw [hw, hclosed]
    exact h.after (hchances ▸ hzero)

/-- Before the listeners are opened there is no task. -/
theorem Control.places_of_chances {ω κ : Type} {P : Provisioner ω κ} {world w : ω}
    {s : Activity κ} (h : Control P endpoints announces world s w) (hpos : 0 < s.chances) :
    s.coordinator.places = [] := by
  by_cases hs : s.coordinator.state = .unstarted
  · exact ((shape_of_unstarted hs).mp h.shape).2.1
  · rw [Activity.chances, if_neg hs, Nat.add_zero, List.countP_pos_iff] at hpos
    obtain ⟨call, hin, hopening⟩ := hpos
    have hfits := h.fits call hin
    cases call with
    | opening => exact hfits.2.1
    | _ => cases hopening

theorem Coordinator.closed_of_places {c : Coordinator (Nat × κ)} (h : c.places = []) :
    c.closed = [] := by
  rw [closed, tasks_eq_nil_of_places h, List.filterMap_nil]

theorem Coordinator.closed_cascade (c : Coordinator (Nat × κ)) :
    (Call.cascade c).closed = c.closed := by
  unfold Call.cascade stop
  cases c.state with
  | running => exact c.filterMap_signalled fun _ => rfl
  | _ => rfl

theorem Coordinator.closed_make (c : Coordinator (Nat × κ)) (request : Request) :
    (Call.make c request).2.closed = c.closed := by
  rcases Call.make_cases c request with ⟨-, hm⟩ | ⟨-, hm⟩ | ⟨-, -, hm⟩ | ⟨answer, hm, -, -⟩ <;>
    rw [hm]
  · rfl
  · exact c.filterMap_signalled fun _ => rfl
  · rfl

/-- A call that goes on closes nothing, and opens nothing unless it is the one that does. -/
theorem Call.advance_closed (P : Provisioner ω (Nat × κ)) (call : Call (Nat × κ))
    (c : Coordinator (Nat × κ)) (w : ω) :
    (call.advance P c w).2.1.closed = c.closed ∧
      (call.isOpening = false → (call.advance P c w).2.2 = w) := by
  cases call with
  | opening => exact ⟨rfl, fun h => by cases h⟩
  | refused fault => exact ⟨rfl, fun _ => rfl⟩
  | spawning left handles =>
    cases left with
    | nil => exact ⟨rfl, fun _ => rfl⟩
    | cons place left =>
      refine ⟨?_, fun _ => rfl⟩
      have hserving : ({ endpoint := place.1, listener := place.2 } : Task (Nat × κ)).closed? =
          none := rfl
      simp [advance, serveNext, Coordinator.closed, Coordinator.spawn, hserving]
  | announcing addresses announces => cases announces <;> exact ⟨rfl, fun _ => rfl⟩
  | awaiting expected =>
    simp only [advance]
    rcases c.receive_cases with ⟨-, hr⟩ | ⟨-, -, hr⟩ | ⟨received, queue, -, hr⟩ <;> rw [hr] <;>
      exact ⟨rfl, fun _ => rfl⟩
  | cascading expected failures => exact ⟨c.closed_cascade, fun _ => rfl⟩
  | collecting expected received failures =>
    simp only [advance]
    split
    · rcases c.receive_cases with ⟨-, hr⟩ | ⟨-, -, hr⟩ | ⟨next, queue, -, hr⟩ <;> rw [hr] <;>
        exact ⟨rfl, fun _ => rfl⟩
    · exact ⟨rfl, fun _ => rfl⟩
  | concluding failures => exact ⟨rfl, fun _ => rfl⟩
  | answered answer => exact ⟨rfl, fun _ => rfl⟩

namespace Coordinator

theorem closed_endTask (c : Coordinator (Nat × κ)) (index : Nat) (result : Except Fault Unit) :
    (c.endTask index result).closed = c.closed := by
  unfold endTask
  split
  · rename_i task ht
    split
    · rename_i hserving
      exact filterMap_set_of_eq ht (by simp [Task.closed?, Progress.isClosed, hserving])
    · rfl
  · rfl

theorem closed_reportTask (c : Coordinator (Nat × κ)) (index : Nat) :
    (c.reportTask index).closed = c.closed := by
  unfold reportTask
  split
  · rename_i task ht
    split
    · rename_i result hclosed
      have hsame : (c.tasks.set index { task with progress := .reported result }).filterMap
          Task.closed? = c.closed :=
        filterMap_set_of_eq ht (by simp [Task.closed?, Progress.isClosed, hclosed])
      dsimp only
      split
      · exact hsame
      · split
        · exact hsame
        · rfl
    · rfl
  · rfl

/-- Only the listener of a task that has ended is closed. -/
theorem closeTask_cases (P : Provisioner ω κ) (c : Coordinator κ) (index : Nat) (w : ω) :
    c.closeTask P index w = (c, w) ∨
      ∃ task result, c.tasks[index]? = some task ∧ task.progress = .ended result ∧
        c.closeTask P index w = (c.updateTask index { task with progress := .closed result },
          (P.close task.listener w).2) := by
  unfold closeTask
  split
  · rename_i task ht
    split
    · rename_i result hended
      exact .inr ⟨task, result, ht, hended, rfl⟩
    · exact .inl rfl
  · exact .inl rfl

end Coordinator

theorem Ledger.provisions (h : Ledger P endpoints world s w)
    (hc : Control P.traced endpoints announces (world, []) s w) {event : Event}
    (hprovisions : s.provisions event = true) :
    Ledger P endpoints world (s.step P.traced event w).1 (s.step P.traced event w).2 := by
  have hchances := hc.chances_step event
  rw [hprovisions, if_pos rfl] at hchances
  have hpos : 0 < s.chances := by omega
  have hzero : (s.step P.traced event w).1.chances = 0 := by
    have hle := hc.chances_le
    omega
  have hplaces := hc.places_of_chances hpos
  obtain ⟨index, rfl, hcall⟩ := s.opening_of_provisions hprovisions
  refine ⟨fun hagain => absurd hzero (by omega), fun _ => ⟨[], ?_, ?_⟩⟩
  all_goals simp only [Activity.step, Activity.advance, hcall, Call.advance]
  · rw [Coordinator.closed_of_places hplaces]
  · rw [Call.openListeners_world, hc.endpoints_eq, h.before hpos, List.map_nil, List.append_nil]
    rfl

/-- The listener of a task is closed, whose number stands in the log from now on. -/
theorem Ledger.taskCloses (h : Ledger P endpoints world s w)
    (hc : Control P.traced endpoints announces (world, []) s w) (index : Nat) :
    Ledger P endpoints world (s.step P.traced (.taskCloses index) w).1
      (s.step P.traced (.taskCloses index) w).2 := by
  simp only [Activity.step]
  rcases s.coordinator.closeTask_cases P.traced index w with
    hsame | ⟨task, result, ht, hended, hclose⟩
  · rw [hsame]
    exact h
  · have hpos : ¬ 0 < s.chances := fun hpos => by
      rw [Coordinator.tasks_eq_nil_of_places (hc.places_of_chances hpos)] at ht
      cases ht
    have hzero : s.chances = 0 := by omega
    obtain ⟨closes, hperm, hlog⟩ := h.after hzero
    rw [hclose]
    refine ⟨fun hagain => absurd hagain hpos, fun _ =>
      ⟨closes ++ [task.listener.1], ?_, ?_⟩⟩
    · have hadds : ((s.coordinator.tasks.set index
          { task with progress := .closed result }).filterMap Task.closed?).Perm
          (s.coordinator.closed ++ [task.listener.1]) :=
        filterMap_set_perm ht (by simp [Task.closed?, Progress.isClosed, hended]) rfl
      exact (hperm.append_right _).trans hadds.symm
    · have hdeed : (P.traced.close task.listener w).2.2 = w.2 ++ [.closed task.listener.1] := rfl
      rw [hdeed, hlog, List.map_append, List.append_assoc]
      rfl

theorem Ledger.step (h : Ledger P endpoints world s w)
    (hc : Control P.traced endpoints announces (world, []) s w) (event : Event) :
    Ledger P endpoints world (s.step P.traced event w).1 (s.step P.traced event w).2 := by
  cases hprovisions : s.provisions event with
  | true => exact h.provisions hc hprovisions
  | false =>
    have hchances := hc.chances_step event
    rw [hprovisions] at hchances
    cases event with
    | call request => exact h.quiet hchances rfl (s.coordinator.closed_make request)
    | advance index =>
      simp only [Activity.provisions] at hprovisions
      simp only [Activity.step, Activity.advance] at hchances ⊢
      split
      · rename_i call hcall
        rw [hcall] at hchances hprovisions
        obtain ⟨hclosed, hw⟩ := call.advance_closed P.traced s.coordinator w
        exact h.quiet hchances (hw hprovisions) hclosed
      · exact h
    | taskEnds index result =>
      exact h.quiet hchances rfl (s.coordinator.closed_endTask index result)
    | taskCloses index => exact h.taskCloses hc index
    | taskReports index => exact h.quiet hchances rfl (s.coordinator.closed_reportTask index)

theorem Ledger.run (P : Provisioner ω κ) (endpoints : List (String × Version))
    (announces : Bool) (world : ω) (events : List Event) :
    Ledger P endpoints world
      ((Activity.unstarted endpoints announces).run P.traced events (world, [])).1
      ((Activity.unstarted endpoints announces).run P.traced events (world, [])).2 := by
  have hrun := Activity.run_induction P.traced
    (motive := fun _ s w => Control P.traced endpoints announces (world, []) s w ∧
      Ledger P endpoints world s w)
    ⟨Control.start P.traced endpoints announces (world, []), .start P endpoints announces world⟩
    (fun _ _ _ event ⟨hc, h⟩ => ⟨hc.step event, h.step hc event⟩) events
  exact hrun.2

end Step

/-! ## What stands in the log -/

section Log

theorem countP_closes_map (closes : List Nat) (number : Nat) :
    (closes.map Deed.closed).countP (Deed.closes number) = closes.count number := by
  rw [List.countP_map]
  rfl

theorem countP_closes_openings (first : Nat) (addresses : List String) (number : Nat) :
    (openings first addresses).countP (Deed.closes number) = 0 := by
  rw [openings, List.countP_map]
  exact List.countP_eq_zero.mpr fun _ _ => Bool.false_ne_true

theorem lt_of_mem_openings {number : Nat} {address : String} {addresses : List String}
    (h : Deed.opened number address ∈ openings 0 addresses) : number < addresses.length := by
  obtain ⟨⟨a, i⟩, hin, heq⟩ := List.mem_map.mp h
  obtain ⟨rfl, -⟩ := Deed.opened.inj heq
  have hlt := List.snd_lt_of_mem_zipIdx hin
  omega

/-- An attempt that fails closes each listener that it has opened, and only once. -/
theorem countP_closes_rollback (before : List String) (address : String) (fault : Fault)
    (number : Nat) :
    (rollback before address fault).countP (Deed.closes number) =
      if number < before.length then 1 else 0 := by
  have hrefused : Deed.closes number (.refused address fault) = false := rfl
  rw [rollback, List.countP_append, countP_closes_openings,
    List.countP_cons_of_neg (by simp [hrefused]), countP_closes_map, List.count_reverse,
    List.count_range, Nat.zero_add]

theorem lt_of_mem_rollback {number : Nat} {address other : String} {before : List String}
    {fault : Fault} (h : Deed.opened number address ∈ rollback before other fault) :
    number < before.length := by
  rcases List.mem_append.mp h with hin | hin
  · exact lt_of_mem_openings hin
  · simp at hin

end Log

/-! ## The listeners of the tasks -/

section Numbers

variable {P : Provisioner ω κ} {endpoints : List (String × Version)} {announces : Bool} {world : ω}
variable {s : Activity (Nat × κ)} {w : ω × List Deed}

/-- The listeners of the tasks have the numbers of the tasks. -/
theorem Control.numbers_eq (h : Control P.traced endpoints announces (world, []) s w) :
    s.coordinator.tasks.map (fun task => task.listener.1) =
      List.range s.coordinator.tasks.length := by
  rcases h.places_begin with hnil | ⟨listeners, w', ho, hbegin⟩
  · rw [Coordinator.tasks_eq_nil_of_places hnil]
    rfl
  · rcases P.opens_or_failsAfter (P.addresses endpoints) world with
      ⟨ls, w'', hopens⟩ | ⟨before, address, fault, hfails⟩
    · have hall := Provisioner.openAll_traced_of_opens hopens
      obtain ⟨rfl, -⟩ : _ = listeners ∧ _ := by
        simpa using (hall.symm.trans ho)
      have hlen : ls.length = endpoints.length := by
        rw [hopens.length_eq, P.length_addresses]
      have hzip : ((endpoints.zip ((ls.zipIdx 0).map Prod.swap)).map fun place => place.2.1) =
          List.range ls.length := by
        calc ((endpoints.zip ((ls.zipIdx 0).map Prod.swap)).map fun place => place.2.1)
            = ((endpoints.zip ((ls.zipIdx 0).map Prod.swap)).map Prod.snd).map Prod.fst := by
              rw [List.map_map]; rfl
          _ = List.range ls.length := by
              rw [List.map_snd_zip (by simp [hlen]), Provisioner.map_fst_numbered]
      have hnumbers := hbegin.map fun place => place.2.1
      rw [hzip, List.prefix_iff_eq_take, Coordinator.places, List.map_map, List.length_map,
        List.take_range] at hnumbers
      have hle : s.coordinator.tasks.length ≤ ls.length := hlen ▸ h.length_tasks_le
      rw [Nat.min_eq_left hle] at hnumbers
      exact hnumbers
    · exact absurd ho (Provisioner.openAll_traced_ne_of_fails hfails _ _)

theorem Coordinator.closed_eq (c : Coordinator (Nat × κ)) :
    c.closed = (c.tasks.filter fun task => task.progress.isClosed).map
      fun task => task.listener.1 := by
  unfold closed
  induction c.tasks with
  | nil => rfl
  | cons task tasks ih =>
    rw [List.filterMap_cons, List.filter_cons, ih]
    unfold Task.closed?
    split <;> simp_all

theorem Control.nodup_closed (h : Control P.traced endpoints announces (world, []) s w) :
    s.coordinator.closed.Nodup := by
  have hsub : s.coordinator.closed.Sublist (s.coordinator.tasks.map fun task => task.listener.1) :=
    s.coordinator.closed_eq ▸ List.filter_sublist.map _
  rw [h.numbers_eq] at hsub
  exact List.nodup_range.sublist hsub

/-- The listener of a task stands among those that have been closed exactly when the task has closed
it. -/
theorem Control.count_closed (h : Control P.traced endpoints announces (world, []) s w)
    {task : Task (Nat × κ)} (ht : task ∈ s.coordinator.tasks) :
    s.coordinator.closed.count task.listener.1 = if task.progress.isClosed then 1 else 0 := by
  have hnodup : (s.coordinator.tasks.map fun task => task.listener.1).Nodup :=
    h.numbers_eq ▸ List.nodup_range
  by_cases hclosed : task.progress.isClosed = true
  · rw [if_pos hclosed]
    refine List.count_eq_one_of_mem h.nodup_closed ?_
    rw [Coordinator.closed_eq]
    exact List.mem_map_of_mem (List.mem_filter.mpr ⟨ht, hclosed⟩)
  · rw [if_neg hclosed, List.count_eq_zero, Coordinator.closed_eq]
    intro hin
    obtain ⟨other, hother, hsame⟩ := List.mem_map.mp hin
    obtain ⟨hin', hclosed'⟩ := List.mem_filter.mp hother
    obtain rfl := List.inj_on_of_nodup_map hnodup hin' ht hsame
    exact hclosed hclosed'

/-- When all listeners could be opened, the log tells of that and of the listeners that tasks have
closed since. -/
theorem Ledger.log_of_opens (h : Ledger P endpoints world s w)
    {listeners : List κ} {w' : ω}
    (hopens : P.Opens (P.addresses endpoints) world listeners w') :
    w.2 = [] ∧ 0 < s.chances ∨ ∃ closes : List Nat, closes.Perm s.coordinator.closed ∧
      w.2 = openings 0 (P.addresses endpoints) ++ closes.map Deed.closed := by
  rcases Nat.eq_zero_or_pos s.chances with hzero | hpos
  · obtain ⟨closes, hperm, hlog⟩ := h.after hzero
    rw [Provisioner.openAll_traced_of_opens hopens] at hlog
    exact .inr ⟨closes, hperm, hlog⟩
  · exact .inl ⟨by rw [h.before hpos], hpos⟩

theorem Ledger.countP_closes (h : Ledger P endpoints world s w)
    (hc : Control P.traced endpoints announces (world, []) s w) {listeners : List κ} {w' : ω}
    (hopens : P.Opens (P.addresses endpoints) world listeners w') (number : Nat) :
    w.2.countP (Deed.closes number) = s.coordinator.closed.count number := by
  rcases h.log_of_opens hopens with ⟨hlog, hpos⟩ | ⟨closes, hperm, hlog⟩
  · rw [hlog, Coordinator.closed_of_places (hc.places_of_chances hpos)]
    rfl
  · rw [hlog, List.countP_append, countP_closes_openings, countP_closes_map, Nat.zero_add,
      hperm.count_eq]

/-- When all tasks are over, all listeners that were opened have been closed. -/
theorem Ledger.closed_of_reported (h : Ledger P endpoints world s w)
    (hc : Control P.traced endpoints announces (world, []) s w) {listeners : List κ} {w' : ω}
    (hopens : P.Opens (P.addresses endpoints) world listeners w')
    (hlen : s.coordinator.tasks.length = endpoints.length)
    (hall : ∀ task ∈ s.coordinator.tasks, task.progress.isReported = true) {number : Nat}
    {address : String} (hin : Deed.opened number address ∈ w.2) :
    w.2.countP (Deed.closes number) = 1 := by
  rcases h.log_of_opens hopens with ⟨hlog, -⟩ | ⟨closes, -, hlog⟩
  · simp [hlog] at hin
  · have hopened : Deed.opened number address ∈ openings 0 (P.addresses endpoints) := by
      rw [hlog] at hin
      rcases List.mem_append.mp hin with hin | hin
      · exact hin
      · simp at hin
    have hlt := lt_of_mem_openings hopened
    rw [P.length_addresses, ← hlen] at hlt
    have hnumber : number ∈ s.coordinator.tasks.map fun task => task.listener.1 := by
      rw [hc.numbers_eq]
      exact List.mem_range.mpr hlt
    obtain ⟨task, htask, rfl⟩ := List.mem_map.mp hnumber
    rw [h.countP_closes hc hopens, hc.count_closed htask,
      if_pos (Progress.isClosed_of_isReported (hall task htask))]

/-- When a listener could not be opened, no endpoint is ever served. -/
theorem Control.of_fails (h : Control P.traced endpoints announces (world, []) s w)
    {before : List String} {address : String} {fault : Fault}
    (hfails : P.FailsAfter (P.addresses endpoints) world before address fault) :
    s.coordinator.tasks = [] ∧ s.coordinator.state.isUp = false := by
  have hnever := Provisioner.openAll_traced_ne_of_fails hfails
  constructor
  · rcases h.places_begin with hnil | ⟨listeners, w', ho, -⟩
    · exact Coordinator.tasks_eq_nil_of_places hnil
    · exact absurd ho (hnever listeners w')
  · by_contra hup
    obtain ⟨listeners, w', ho, -⟩ := h.served_of_isUp (by simpa using hup)
    exact hnever listeners w' ho

/-- When a listener could not be opened, the log tells of that attempt and of nothing else. -/
theorem Ledger.log_of_fails (h : Ledger P endpoints world s w)
    (hc : Control P.traced endpoints announces (world, []) s w) {before : List String}
    {address : String} {fault : Fault}
    (hfails : P.FailsAfter (P.addresses endpoints) world before address fault) :
    w.2 = if 0 < s.chances then [] else rollback before address fault := by
  split
  · rename_i hpos
    rw [h.before hpos]
  · rename_i hnot
    obtain ⟨closes, hperm, hlog⟩ := h.after (by omega)
    obtain ⟨w', hall⟩ := Provisioner.openAll_traced_of_fails hfails
    have hnone : s.coordinator.closed = [] := by
      rw [Coordinator.closed, (hc.of_fails hfails).1, List.filterMap_nil]
    rw [hnone, List.perm_nil] at hperm
    rw [hlog, hperm, hall, List.map_nil, List.append_nil]

theorem Ledger.countP_closes_le (h : Ledger P endpoints world s w)
    (hc : Control P.traced endpoints announces (world, []) s w) (number : Nat) :
    w.2.countP (Deed.closes number) ≤ 1 := by
  rcases P.opens_or_failsAfter (P.addresses endpoints) world with
    ⟨listeners, w', hopens⟩ | ⟨before, address, fault, hfails⟩
  · rw [h.countP_closes hc hopens]
    exact List.nodup_iff_count_le_one.mp hc.nodup_closed number
  · rw [h.log_of_fails hc hfails]
    split
    · exact Nat.zero_le 1
    · rw [countP_closes_rollback]
      split <;> omega

/-- The listener of a task has been closed once as soon as the task has closed it, and before that
not at all. -/
theorem Ledger.countP_closes_task (h : Ledger P endpoints world s w)
    (hc : Control P.traced endpoints announces (world, []) s w) {task : Task (Nat × κ)}
    (ht : task ∈ s.coordinator.tasks) :
    w.2.countP (Deed.closes task.listener.1) = if task.progress.isClosed then 1 else 0 := by
  rcases P.opens_or_failsAfter (P.addresses endpoints) world with
    ⟨listeners, w', hopens⟩ | ⟨before, address, fault, hfails⟩
  · rw [h.countP_closes hc hopens, hc.count_closed ht]
  · rw [(hc.of_fails hfails).1] at ht
    cases ht

/-- Before the listeners are opened, nobody has failed or stopped. -/
theorem Control.chances_eq_zero {ω κ : Type} {P : Provisioner ω κ} {world w : ω} {s : Activity κ}
    (h : Control P endpoints announces world s w)
    (hs : s.coordinator.state = .failedToStart ∨ s.coordinator.state = .stopped) :
    s.chances = 0 := by
  have hnot : s.coordinator.state ≠ .unstarted := by
    rcases hs with hs | hs <;> simp [hs]
  rw [Activity.chances, if_neg hnot, Nat.add_zero, List.countP_eq_zero]
  intro call hin hopening
  have hfits := h.fits call hin
  cases call with
  | opening =>
    have hstarting := hfits.1
    rcases hs with hs | hs <;> exact absurd (hs.symm.trans hstarting) (by simp)
  | _ => cases hopening

/-- All listeners that were opened have been closed when the start has failed or the set has
stopped. -/
theorem Ledger.countP_closes_opened (h : Ledger P endpoints world s w)
    (hc : Control P.traced endpoints announces (world, []) s w)
    {past : List (Activity (Nat × κ) × Event)} (haccounts : Accounts endpoints.length past s)
    (hs : s.coordinator.state = .failedToStart ∨ s.coordinator.state = .stopped) {number : Nat}
    {address : String} (hin : Deed.opened number address ∈ w.2) :
    w.2.countP (Deed.closes number) = 1 := by
  rcases P.opens_or_failsAfter (P.addresses endpoints) world with
    ⟨listeners, w', hopens⟩ | ⟨before, other, fault, hfails⟩
  · rcases hs with hs | hs
    · -- The start cannot have failed.
      obtain ⟨-, -, fault, w'', ho⟩ := (shape_of_failedToStart hs).mp hc.shape
      cases (Provisioner.openAll_traced_of_opens hopens).symm.trans ho
    · obtain ⟨-, hall⟩ := haccounts.all_reported hc (haccounts.dropped (hc.shape.of_stopped hs))
      have hserved := (hc.served_of_isUp (by rw [hs]; rfl)).length_places
      rw [Coordinator.length_places] at hserved
      exact h.closed_of_reported hc hopens hserved hall hin
  · have hrolled : w.2 = rollback before other fault := by
      rw [h.log_of_fails hc hfails, hc.chances_eq_zero hs]
      rfl
    rw [hrolled] at hin ⊢
    rw [countP_closes_rollback, if_pos (lt_of_mem_rollback hin)]

end Numbers

/-! ## A start that fails -/

section Fails

variable {P : Provisioner ω κ} {endpoints : List (String × Version)} {announces : Bool} {world : ω}
variable {before : List String} {address : String} {fault : Fault}

theorem Provisioner.openAll_of_failsAfter {addresses : List String}
    (h : P.FailsAfter addresses world before address fault) :
    ∃ w, P.openAll addresses world = (.error fault, w) := by
  obtain ⟨rest, listeners, w, w', rfl, hopens, hfail⟩ := h
  exact ⟨P.closeAll listeners w', openAll_of_fails hopens hfail⟩

/-- A call that is about to open the listeners ends in two steps when one of them cannot be
opened. -/
theorem Activity.run_of_opening_fails {s : Activity κ} {w w' : ω} {index : Nat}
    (hcall : s.calls[index]? = some .opening)
    (hfails : P.openAll (P.addresses s.coordinator.endpoints) w = (.error fault, w')) :
    s.run P [.advance index, .advance index] w =
      (⟨s.coordinator.refuse,
        s.calls.set index (.answered (.started (.error (.startupFailed [fault]))))⟩, w') := by
  obtain ⟨hi, -⟩ := List.getElem?_eq_some_iff.mp hcall
  have hrefused : s.step P (.advance index) w =
      (⟨s.coordinator, s.calls.set index (.refused fault)⟩, w') := by
    simp [step, advance, hcall, Call.advance, Call.openListeners, hfails]
  have hover : Activity.step P ⟨s.coordinator, s.calls.set index (.refused fault)⟩
      (.advance index) w' = (⟨s.coordinator.refuse,
        s.calls.set index (.answered (.started (.error (.startupFailed [fault]))))⟩, w') := by
    simp [step, advance, hi, Call.advance]
  simp only [run, hrefused, hover]

/-- Nothing happens to a call that is over. -/
theorem Activity.run_of_over {c : Coordinator κ} {answer : Answer} (count : Nat) (w : ω) :
    Activity.run P ⟨c, [.answered answer]⟩ (List.replicate count (.advance 0)) w =
      (⟨c, [.answered answer]⟩, w) := by
  induction count with
  | zero => rfl
  | succ count ih => exact ih

/-- A gateway that is started and cannot open a listener says why, and has no servers. -/
theorem Gateway.start_of_fails {descriptors : List (Endpoint.Descriptor ω)}
    (hfails : P.FailsAfter (P.addresses (descriptors.map Endpoint.Descriptor.key)) world before
      address fault) :
    ((Gateway.make P descriptors).start world).1 = .error (.startupFailed [fault]) ∧
      ((Gateway.make P descriptors).start world).2.1.servers = [] := by
  obtain ⟨w, hall⟩ := Provisioner.openAll_of_failsAfter hfails
  -- Of all steps of the call, the first two end it.
  have hrun : (Gateway.make P descriptors).happen (Gateway.make P descriptors).startEvents world =
      ({ Gateway.make P descriptors with
        activity := ⟨{ (Gateway.make P descriptors).coordinator with state := .failedToStart },
          [.answered (.started (.error (.startupFailed [fault])))]⟩ }, w) := by
    have hevents : (Gateway.make P descriptors).startEvents =
        [.call .start] ++ ([.advance 0, .advance 0] ++
          List.replicate (descriptors.length + 1) (.advance 0)) := rfl
    have hbegun : (Gateway.make P descriptors).activity.run P [.call .start] world =
        (⟨{ (Gateway.make P descriptors).coordinator with state := .starting }, [.opening]⟩,
          world) := rfl
    have hended : Activity.run P ⟨{ (Gateway.make P descriptors).coordinator with
        state := .starting }, [.opening]⟩ [.advance 0, .advance 0] world = _ :=
      Activity.run_of_opening_fails rfl hall
    have hprovisioner : (Gateway.make P descriptors).provisioner = P := rfl
    rw [Gateway.happen, hevents, hprovisioner, Activity.run_append, hbegun, Activity.run_append,
      hended]
    exact congrArg (fun done => (({ Gateway.make P descriptors with activity := done.1 } :
      Gateway ω κ), done.2)) (Activity.run_of_over _ _)
  simp only [Gateway.start, hrun]
  exact ⟨rfl, rfl⟩

/-- While no listener can be opened, a call that wants to start the set is told why, or that it
comes too late. -/
theorem Control.outcome_of_fails {s : Activity (Nat × κ)} {w : ω × List Deed}
    (h : Control P.traced endpoints announces (world, []) s w)
    (hfails : P.FailsAfter (P.addresses endpoints) world before address fault)
    {outcome : Except Fault Unit} (hin : Call.answered (.started outcome) ∈ s.calls) :
    outcome = .error .alreadyStarted ∨ outcome = .error (.startupFailed [fault]) := by
  have hfits := h.fits _ hin
  cases outcome with
  | ok done =>
    have hup : s.coordinator.state.isUp = true := hfits.1
    rw [(h.of_fails hfails).2] at hup
    cases hup
  | error cause =>
    rcases hfits with hlate | ⟨-, first, w', rfl, ho⟩
    · cases cause with
      | alreadyStarted => exact .inl rfl
      | _ => cases hlate
    · obtain ⟨w'', hall⟩ := Provisioner.openAll_traced_of_fails hfails
      have hsame := hall.symm.trans ho
      simp only [Prod.mk.injEq, Except.error.injEq] at hsame
      exact .inr (by rw [hsame.1])

/-- A call that is about to open the listeners, of which one cannot be opened, is told why in two
steps. -/
theorem Ledger.opening_fails {s : Activity (Nat × κ)} {w : ω × List Deed}
    (h : Ledger P endpoints world s w)
    (hc : Control P.traced endpoints announces (world, []) s w)
    (hfails : P.FailsAfter (P.addresses endpoints) world before address fault) {index : Nat}
    (hcall : s.calls[index]? = some .opening) :
    (s.run P.traced [.advance index, .advance index] w).1.calls[index]? =
        some (.answered (.started (.error (.startupFailed [fault])))) ∧
      (s.run P.traced [.advance index, .advance index] w).1.coordinator.state =
        .failedToStart := by
  obtain ⟨w', hall⟩ := Provisioner.openAll_traced_of_fails hfails
  have hpos : 0 < s.chances :=
    Nat.add_pos_left (List.countP_pos_iff.mpr ⟨_, List.mem_of_getElem? hcall, rfl⟩) _
  have hnow : P.traced.openAll (P.traced.addresses s.coordinator.endpoints) w =
      (.error fault, (w', rollback before address fault)) := by
    rw [hc.endpoints_eq, h.before hpos]
    exact hall
  obtain ⟨hi, -⟩ := List.getElem?_eq_some_iff.mp hcall
  rw [Activity.run_of_opening_fails hcall hnow]
  exact ⟨by simp [hi], rfl⟩

end Fails

/-! ## The whole -/

/-- A run with `Provisioner.traced` does what the run with the provisioner itself does, and its log
tells of each listener. When a listener cannot be opened (`Provisioner.FailsAfter`), the log is the
`rollback`: those before it were opened in order and are closed in the opposite order, each once,
whatever comes of that; nothing else is ever opened or closed, nothing is served, and whoever starts
the set is told `Fault.startupFailed` with why that one listener could not be opened, and nothing
else. In every run no listener is closed twice, the listener of a task is closed only after serving
has ended, and all that were opened are closed when the start has failed or the set has stopped. -/
theorem listeners_closed_once (P : Provisioner ω κ) (endpoints : List (String × Version))
    (announces : Bool) (world : ω) (events : List Event) :
    let start : Activity (Nat × κ) := .unstarted endpoints announces
    let activity := (start.run P.traced events (world, [])).1
    let now := (start.run P.traced events (world, [])).2
    let coordinator := activity.coordinator
    let log := now.2
    (Activity.unstarted endpoints announces).run P events world = (activity.untraced, now.1) ∧
    (∀ before address fault,
      P.FailsAfter (P.addresses endpoints) world before address fault →
      coordinator.tasks = [] ∧ coordinator.state.isUp = false ∧
      (log = [] ∨ log = rollback before address fault) ∧
      (coordinator.state = .failedToStart → log = rollback before address fault) ∧
      (∀ outcome, Call.answered (.started outcome) ∈ activity.calls →
        outcome = .error .alreadyStarted ∨ outcome = .error (.startupFailed [fault])) ∧
      (∀ index, activity.calls[index]? = some .opening →
        let ended := (activity.run P.traced [.advance index, .advance index] now).1
        ended.calls[index]? = some (.answered (.started (.error (.startupFailed [fault])))) ∧
        ended.coordinator.state = .failedToStart) ∧
      (∀ descriptors : List (Endpoint.Descriptor ω),
        descriptors.map Endpoint.Descriptor.key = endpoints →
        ((Gateway.make P descriptors).start world).1 = .error (.startupFailed [fault]) ∧
        ((Gateway.make P descriptors).start world).2.1.servers = [])) ∧
    (∀ listeners w, P.Opens (P.addresses endpoints) world listeners w →
      log = [] ∨ ∃ closes : List Nat, closes.Perm coordinator.closed ∧
        log = openings 0 (P.addresses endpoints) ++ closes.map Deed.closed) ∧
    (∀ number, log.countP (Deed.closes number) ≤ 1) ∧
    (∀ task ∈ coordinator.tasks, log.countP (Deed.closes task.listener.1) =
      if task.progress.isClosed then 1 else 0) ∧
    (coordinator.state = .failedToStart ∨ coordinator.state = .stopped →
      ∀ number address, Deed.opened number address ∈ log →
        log.countP (Deed.closes number) = 1) := by
  intro start activity now coordinator log
  have hc : Control P.traced endpoints announces (world, []) activity now :=
    Control.run P.traced endpoints announces (world, []) events
  have h : Ledger P endpoints world activity now :=
    Ledger.run P endpoints announces world events
  refine ⟨Activity.run_untraced P start (world, []) events, ?_, ?_, ?_, ?_, ?_⟩
  · intro before address fault hfails
    obtain ⟨htasks, hup⟩ := hc.of_fails hfails
    have hlog : log = _ := h.log_of_fails hc hfails
    refine ⟨htasks, hup, ?_, ?_, ?_, ?_, ?_⟩
    · rw [hlog]
      split
      · exact .inl rfl
      · exact .inr rfl
    · intro hs
      rw [hlog, hc.chances_eq_zero (.inl hs)]
      rfl
    · exact fun outcome hin => hc.outcome_of_fails hfails hin
    · exact fun index hcall => h.opening_fails hc hfails hcall
    · rintro descriptors rfl
      exact Gateway.start_of_fails hfails
  · intro listeners w hopens
    exact (h.log_of_opens hopens).imp_left And.left
  · exact fun number => h.countP_closes_le hc number
  · exact fun task htask => h.countP_closes_task hc htask
  · intro hs number address hin
    exact h.countP_closes_opened hc
      (Accounts.run P.traced endpoints announces (world, []) events) hs hin

end StorageGateway.Lifecycle

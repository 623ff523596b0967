import StorageGateway.Proofs.Adapter.Calls
import StorageGateway.Proofs.Host.Operations

/-!
# Rejected means that nothing was run

An operation that is done by scripts either turns a request away, and then by a rejection, or runs
one script and reads its output; and reading output gives no rejections. So a caller who is told of
a rejection may be sure that the host was not touched, and one who is not that it was asked once.
-/

namespace StorageGateway

open Host

/-- A fault that tells what the host has answered. -/
def Fault.isFinding : Fault → Bool
  | .notFound _ | .commandFailed _ _ => true
  | _ => false

namespace Host

/-! ## Reading output -/

/-- A meaning of output that fails by a finding only. -/
def Finds {α : Type} (meaning : String → Except Fault α) : Prop :=
  ∀ output fault, meaning output = .error fault → fault.isFinding = true

section
variable {ε α β : Type} {first : Except ε α} {e : ε}

theorem of_bind_eq_error {next : α → Except ε β} (h : first >>= next = .error e) :
    first = .error e ∨ ∃ a, first = .ok a ∧ next a = .error e := by
  cases first with
  | error found =>
    cases h
    exact .inl rfl
  | ok a => exact .inr ⟨a, rfl, h⟩

theorem of_map_eq_error {f : α → β} (h : first.map f = .error e) : first = .error e := by
  cases first with
  | error found =>
    cases h
    rfl
  | ok a => cases h

theorem finds_nothing : Finds Output.nothing := by
  intro output fault h
  cases h

theorem unexpected_of_value {read : Json.Reader α} {command output : String} {fault : Fault}
    (h : Output.value read command output = .error fault) :
    ∃ refusal, fault = Output.unexpected command refusal := by
  unfold Output.value at h
  split at h
  · cases h
  · cases h
    exact ⟨_, rfl⟩

theorem unexpected_of_item {read : Json.Reader α} {command : String} {json : Json} {fault : Fault}
    (h : Output.item read command json = .error fault) :
    ∃ refusal, fault = Output.unexpected command refusal := by
  unfold Output.item at h
  split at h
  · cases h
  · cases h
    exact ⟨_, rfl⟩

theorem unexpected_of_items {read : Json.Reader α} {command : String} {listed : List Json}
    {fault : Fault} (h : Output.items read command listed = .error fault) :
    ∃ refusal, fault = Output.unexpected command refusal := by
  induction listed with
  | nil => cases h
  | cons json rest ih =>
    rw [Output.items] at h
    rcases of_bind_eq_error h with hitem | ⟨first, -, h⟩
    · exact unexpected_of_item hitem
    · rcases of_bind_eq_error h with hrest | ⟨others, -, h⟩
      · exact ih hrest
      · cases h

theorem unexpected_of_list {read : Json.Reader α} {command output : String} {fault : Fault}
    (h : Output.list read command output = .error fault) :
    ∃ refusal, fault = Output.unexpected command refusal := by
  unfold Output.list at h
  split at h
  · cases h
  · split at h
    · rename_i found hvalue
      cases h
      exact unexpected_of_value hvalue
    · exact unexpected_of_items h
    · cases h
    · exact unexpected_of_item (of_map_eq_error h)

theorem finds_value (read : Json.Reader α) (command : String) :
    Finds (Output.value read command) := by
  intro output fault h
  obtain ⟨refusal, rfl⟩ := unexpected_of_value h
  rfl

theorem finds_list (read : Json.Reader α) (command : String) :
    Finds (Output.list read command) := by
  intro output fault h
  obtain ⟨refusal, rfl⟩ := unexpected_of_list h
  rfl

theorem Finds.map {meaning : String → Except Fault α} (h : Finds meaning) (f : α → β) :
    Finds fun output => (meaning output).map f := by
  intro output fault hmap
  exact h output fault (of_map_eq_error hmap)

/-- Output that is empty has a meaning of its own, which is a finding if it is a fault. -/
theorem Finds.ofEmpty {meaning : String → Except Fault α} (h : Finds meaning)
    {empty : Except Fault α} (hempty : ∀ fault, empty = .error fault → fault.isFinding = true) :
    Finds fun output => if Output.isEmpty output then empty else meaning output := by
  intro output fault hread
  dsimp only at hread
  split at hread
  · exact hempty fault hread
  · exact h output fault hread

end

/-! ## Checking requests -/

/-- A check that fails by a rejection only. -/
def Rejects (check : Except Fault Unit) : Prop :=
  ∀ fault, check = .error fault → fault.isRejection = true

theorem rejects_if (condition : Prop) [Decidable condition] (message : String) :
    Rejects (if condition then .error (.invalidArgument message) else .ok ()) := by
  intro fault h
  split at h
  · cases h
    rfl
  · cases h

theorem Rejects.both {first second : Except Fault Unit} (hfirst : Rejects first)
    (hsecond : Rejects second) : Rejects (do first; second) := by
  intro fault h
  rcases of_bind_eq_error h with hfault | ⟨-, -, hfault⟩
  · exact hfirst fault hfault
  · exact hsecond fault hfault

/-! ## Plans -/

/-- A plan that is turned away by a rejection only, and whose output is read with findings only. -/
structure Plan.Settled {α : Type} (plan : Plan α) : Prop where
  rejects : ∀ fault, plan = .error fault → fault.isRejection = true
  finds : ∀ command, plan = .ok command → Finds command.meaning

namespace Plan.Settled

variable {α : Type} {script : Script} {environment : Environment}
  {meaning : String → Except Fault α}

theorem ok (h : Finds meaning) : Plan.Settled (.ok ⟨script, environment, meaning⟩) where
  rejects fault hplan := by cases hplan
  finds other hplan := by
    cases hplan
    exact h

theorem checked {check : Except Fault Unit} (hcheck : Rejects check) (h : Finds meaning) :
    Plan.Settled (.checked check ⟨script, environment, meaning⟩) := by
  cases check with
  | error fault =>
    refine ⟨fun other hplan => ?_, fun other hplan => by cases hplan⟩
    cases hplan
    exact hcheck fault rfl
  | ok => exact .ok h

end Plan.Settled

end Host

/-! ## The plans of the groups -/

namespace Disk

theorem settled_listing {α : Type} (meaning : List Row → α) : (listing meaning).Settled :=
  .ok ((finds_list Row.reader "Get-Disk").map meaning)

theorem settled_asking {α : Type} (number : UInt32) (meaning : StateRow → α) :
    (asking number meaning).Settled := by
  have hread : Finds fun output =>
      (Output.value StateRow.reader "Get-Disk" output).map meaning :=
    (finds_value _ _).map meaning
  refine .ok (hread.ofEmpty ?_)
  rintro fault ⟨⟩
  rfl

theorem settled {operation : Scripted} (h : operation ∈ scripted) (request : operation.Request) :
    (operation.plan request).Settled := by
  simp only [scripted, List.mem_cons, List.not_mem_nil, or_false] at h
  rcases h with rfl | rfl | rfl | rfl | rfl | rfl | rfl
  · exact settled_listing Row.locations
  · exact .ok finds_nothing
  · exact .ok finds_nothing
  · exact settled_listing Row.identities
  · exact settled_asking request StateRow.size
  · exact .ok finds_nothing
  · exact settled_asking request fun row => !row.isOffline

end Disk

namespace Volume

theorem rejects_requireVolume (volume : String) : Rejects (requireVolume volume) := rejects_if _ _

theorem settled_isFormatted (volume : String) : (isFormatted volume).Settled := by
  have hread : Finds fun output =>
      (Output.value Json.Reader.string.optional "Get-Volume" output).map namesFileSystem :=
    (finds_value _ _).map namesFileSystem
  refine .checked (rejects_requireVolume volume) (hread.ofEmpty ?_)
  rintro fault ⟨⟩

theorem settled_usage (volume : String) : (usage volume).Settled := by
  have hread : Finds fun output =>
      (Output.value SizeRow.reader "Get-Volume" output).map SizeRow.usage :=
    (finds_value _ _).map SizeRow.usage
  refine .checked (rejects_requireVolume volume) (hread.ofEmpty ?_)
  rintro fault ⟨⟩
  rfl

theorem settled_disk (volume : String) : (disk volume).Settled := by
  refine .checked (rejects_requireVolume volume) fun output fault h => ?_
  split at h
  · rename_i found hlist
    cases h
    exact finds_list _ _ _ _ hlist
  · cases h
    rfl
  · cases h

theorem settled {operation : Scripted} (h : operation ∈ scripted) (request : operation.Request) :
    (operation.plan request).Settled := by
  simp only [scripted, List.mem_cons, List.not_mem_nil, or_false] at h
  rcases h with rfl | rfl | rfl | rfl | rfl | rfl | rfl | rfl
  · exact .ok (finds_list Json.Reader.string "Get-Partition")
  · exact .checked (rejects_requireVolume _) finds_nothing
  · exact .checked (rejects_requireVolume _) finds_nothing
  · exact settled_isFormatted request
  · exact .checked (rejects_requireVolume _) finds_nothing
  · exact .checked ((rejects_requireVolume _).both (rejects_if _ _)) finds_nothing
  · exact settled_usage request
  · exact settled_disk request

end Volume

namespace Smb

theorem settled {operation : Scripted} (h : operation ∈ scripted) (request : operation.Request) :
    (operation.plan request).Settled := by
  simp only [scripted, List.mem_cons, List.not_mem_nil, or_false] at h
  rcases h with rfl | rfl
  · exact .checked (rejects_if _ _) finds_nothing
  · exact .ok finds_nothing

end Smb

namespace Iscsi

theorem rejects_requireAddress (portal : Portal UInt32) : Rejects (requireAddress portal) :=
  rejects_if _ _

theorem rejects_requireTarget (iqn : String) : Rejects (requireTarget iqn) := rejects_if _ _

theorem settled_disks (target : Target UInt32) : (disks target).Settled := by
  have hread : Finds fun output => (Output.list Json.Reader.u32 "Get-IscsiSession" output).map
      fun numbers => numbers.map fun number => toString number.toNat :=
    (finds_list _ _).map _
  exact .checked (rejects_requireTarget target.iqn) hread

theorem settled {operation : Scripted} (h : operation ∈ scripted) (request : operation.Request) :
    (operation.plan request).Settled := by
  simp only [scripted, List.mem_cons, List.not_mem_nil, or_false] at h
  rcases h with rfl | rfl | rfl | rfl | rfl | rfl | rfl | rfl
  · exact .checked (rejects_requireAddress _) finds_nothing
  · exact .checked (rejects_requireAddress _) (finds_list Json.Reader.string "Get-IscsiTarget")
  · exact .ok (finds_list portalRow "Get-IscsiTargetPortal")
  · exact .checked (rejects_requireAddress _) finds_nothing
  · exact .checked ((rejects_requireTarget _).both (rejects_requireAddress _)) finds_nothing
  · exact .checked (rejects_requireTarget _) finds_nothing
  · exact settled_disks request
  · exact .ok finds_nothing

end Iscsi

namespace Services

theorem rejects_requireName (name : String) : Rejects (requireName name) := rejects_if _ _

theorem settled_serialNumber (request : Unit) : (serialNumber request).Settled := by
  have hread := (finds_value Json.Reader.string.optional "Get-CimInstance").map
    fun number => number.getD ""
  exact .ok hread

theorem settled_service (name : String) : (service name).Settled := by
  refine .checked (rejects_requireName name) ((finds_value serviceRow "Get-Service").ofEmpty ?_)
  rintro fault ⟨⟩
  rfl

theorem settled {operation : Scripted} (h : operation ∈ scripted) (request : operation.Request) :
    (operation.plan request).Settled := by
  simp only [scripted, List.mem_cons, List.not_mem_nil, or_false] at h
  rcases h with rfl | rfl | rfl | rfl
  · exact settled_serialNumber request
  · exact settled_service request
  · exact .checked (rejects_requireName _) finds_nothing
  · exact .checked (rejects_requireName _) finds_nothing

end Services

theorem Group.settled {group : Group} {operation : Scripted} (h : operation ∈ group.scripted)
    (request : operation.Request) : (operation.plan request).Settled := by
  cases group with
  | filesystem => cases h
  | disk => exact Disk.settled h request
  | volume => exact Volume.settled h request
  | smb => exact Smb.settled h request
  | iscsi => exact Iscsi.settled h request
  | system => exact Services.settled h request

/-! ## Calls -/

namespace Host

/-- What the shell of a machine answers to a script. -/
def Machine.answer (machine : Machine) (invocation : Invocation) : Except Fault String :=
  machine.shell.answer machine.shell.ran invocation

/-- The machine after a script was run. -/
def Machine.after (machine : Machine) (invocation : Invocation) : Machine :=
  { machine with shell := { machine.shell with ran := machine.shell.ran ++ [invocation] } }

theorem Command.perform_run {α : Type} (command : Command α) (machine : Machine) :
    command.run.perform machine =
      ((machine.answer command.invocation).bind command.meaning,
        machine.after command.invocation) := rfl

/-- The outcome is a rejection. -/
def Rejected {α : Type} (outcome : Except Fault α) : Prop :=
  ∃ fault, outcome = .error fault ∧ fault.isRejection = true

/-- A rejection leaves the machine alone, and anything else comes of one script: what its shell
fails with, or what can be made of the output. -/
structure RunsOnce (machine : Machine) (outcome : Except Fault Json) (after : Machine) : Prop where
  rejected : Rejected outcome → after = machine
  ran : ¬ Rejected outcome → ∃ invocation, after = machine.after invocation ∧
    (∀ fault, machine.answer invocation = .error fault → outcome = .error fault) ∧
    ∀ output fault, machine.answer invocation = .ok output → outcome = .error fault →
      fault.isFinding = true ∨ ∃ field message, fault = .unrepresentable field message

/-- Nobody is told of a rejection by the shell. -/
def Shell.RejectsNothing (shell : Shell) : Prop :=
  ∀ ran invocation fault, shell.answer ran invocation = .error fault → fault.isRejection = false

theorem RunsOnce.of_rejection {machine : Machine} {fault : Fault}
    (h : fault.isRejection = true) : RunsOnce machine (.error fault) machine where
  rejected _ := rfl
  ran hnot := absurd ⟨fault, rfl, h⟩ hnot

theorem isRejection_eq_false_of_isFinding {fault : Fault} (h : fault.isFinding = true) :
    fault.isRejection = false := by
  cases fault <;> first | rfl | cases h

/-- What is made of output is never a rejection, and neither is it a response that has no JSON where
every response has one. -/
theorem aftermath_of_deliver {route : Route Machine} (hwriter : route.writeResponse.Total)
    {meaning : Except Fault route.Response}
    (hmeaning : ∀ fault, meaning = .error fault → fault.isFinding = true) {fault : Fault}
    (h : meaning.bind route.deliver = .error fault) :
    fault.isFinding = true ∨ ∃ field message, fault = .unrepresentable field message := by
  have hgives := route.gives_bind_deliver meaning
  rw [h] at hgives
  cases hgives with
  | failed => exact .inl (hmeaning fault rfl)
  | unrepresentable => exact .inr ⟨_, _, rfl⟩
  | @unwritten response wire message _ hwrite =>
    obtain ⟨json, hwritten⟩ := hwriter wire
    cases hwrite.symm.trans hwritten

theorem RunsOnce.of_command (route : Route Machine) (hwriter : route.writeResponse.Total)
    {machine : Machine} (hshell : machine.shell.RejectsNothing) {command : Command route.Response}
    (hfinds : Finds command.meaning) :
    RunsOnce machine
      (((machine.answer command.invocation).bind command.meaning).bind route.deliver)
      (machine.after command.invocation) := by
  have hanswered : ∀ output fault, machine.answer command.invocation = .ok output →
      ((machine.answer command.invocation).bind command.meaning).bind route.deliver =
        .error fault →
      fault.isFinding = true ∨ ∃ field message, fault = .unrepresentable field message := by
    intro output fault hok herror
    rw [hok] at herror
    exact aftermath_of_deliver hwriter (fun other => hfinds output other) herror
  refine ⟨?_, fun _ => ⟨_, rfl, ?_, hanswered⟩⟩
  · rintro ⟨fault, herror, hrejection⟩
    cases hanswer : machine.answer command.invocation with
    | error other =>
      rw [hanswer] at herror
      cases herror
      rw [hshell _ _ _ hanswer] at hrejection
      cases hrejection
    | ok output =>
      rcases hanswered output fault hanswer herror with hfinding | ⟨field, message, rfl⟩
      · rw [isRejection_eq_false_of_isFinding hfinding] at hrejection
        cases hrejection
      · cases hrejection
  · intro fault hanswer
    rw [hanswer]
    rfl

/-- Calls of a route behind which an operation stands whose plans are settled. -/
theorem CarriesOut.runsOnce {route : Route Machine} {operation : Scripted}
    (h : CarriesOut route operation)
    (hsettled : ∀ request, (operation.plan request).Settled) (version : Version) (params : Json)
    {machine : Machine} (hshell : machine.shell.RejectsNothing) :
    RunsOnce machine ((route.call version params).perform machine).1
      ((route.call version params).perform machine).2 := by
  obtain ⟨operation, requestSchema, responseSchema, plan, blank, slots⟩ := h
  rw [Route.perform_call]
  cases haccept :
      (Plan.route operation requestSchema responseSchema plan).accept version params with
  | error fault =>
    exact .of_rejection (Route.isRejection_of_refuses (Route.accept_eq_error_iff.mp haccept))
  | ok request =>
    have hplan := hsettled request
    show RunsOnce machine (((plan request).run.perform machine).1.bind _)
      ((plan request).run.perform machine).2
    dsimp only at hplan
    cases hrequest : plan request with
    | error fault => exact .of_rejection (hplan.rejects fault hrequest)
    | ok command =>
      rw [Plan.run, Command.perform_run]
      exact .of_command (Plan.route operation requestSchema responseSchema plan)
        responseSchema.total_writer hshell (hplan.finds command hrequest)

end Host

/-- Whatever is called at whichever version of a group that drives the host by scripts, the call
`RunsOnce`: a rejection tells that nothing was run, and anything else that one script was. What the
shell fails with is the outcome as it is, and of output come a response, a finding
(`Fault.isFinding`) or a response that does not fit, but never `Fault.badJson`. -/
theorem Adapter.call_runs_one_script (roots : Roots) {group : Group} (hgroup : group ≠ .filesystem)
    {adapter : Adapter Machine} (hadapter : adapter ∈ group.adapters roots) (method : String)
    (params : Json) {machine : Machine} (hshell : machine.shell.RejectsNothing) :
    RunsOnce machine ((adapter.call method params).perform machine).1
      ((adapter.call method params).perform machine).2 := by
  unfold Adapter.call
  cases hroute : adapter.route? method with
  | none => exact .of_rejection rfl
  | some route =>
    obtain ⟨operation, hoperation, hcarries⟩ :=
      Group.exists_scripted hgroup hadapter (List.mem_of_find?_eq_some hroute)
    exact hcarries.runsOnce (Group.settled hoperation) adapter.version params hshell

/-- A request to mount a volume. -/
def mountRequest : Json :=
  .object [("target_path", .string "C:\\data"), ("volume_id", .string "Volume\x7b1\x7d")]

/-- A machine that finds no volume. -/
def emptyMachine : Machine where
  shell := { answer _ _ := .error (.commandFailed "Get-Volume" "exit code 1: no such volume") }

theorem Adapter.mount_runs_one_script :
    Group.volume ≠ .filesystem ∧
    Volume.stableAdapter ∈ Group.volume.adapters ⟨["kubelet"], ["plugin"]⟩ ∧
    emptyMachine.shell.RejectsNothing ∧
    ((Volume.stableAdapter.call "MountVolume" mountRequest).perform emptyMachine).2.shell.ran =
      [⟨"Get-Volume -UniqueId 'Volume\x7b1\x7d' | Get-Partition | Add-PartitionAccessPath" ++
        " -AccessPath 'C:\\data'", []⟩] ∧
    RunsOnce emptyMachine
      ((Volume.stableAdapter.call "MountVolume" mountRequest).perform emptyMachine).1
      ((Volume.stableAdapter.call "MountVolume" mountRequest).perform emptyMachine).2 := by
  have hgroup : Group.volume ≠ .filesystem := by decide
  have hadapter : Volume.stableAdapter ∈ Group.volume.adapters ⟨["kubelet"], ["plugin"]⟩ :=
    .tail _ (.head _)
  have hshell : emptyMachine.shell.RejectsNothing := by
    intro ran invocation fault h
    cases h
    rfl
  exact ⟨hgroup, hadapter, hshell, by decide +kernel,
    Adapter.call_runs_one_script ⟨["kubelet"], ["plugin"]⟩ hgroup hadapter "MountVolume"
      mountRequest hshell⟩

end StorageGateway

import StorageGateway.Proofs.Host.Literals
import StorageGateway.Proofs.Host.Operations

/-!
# What callers send stays in literals

A request may hold any text at all, and its texts are pasted into scripts. They are pasted as
literals and nowhere else, so they are read back as what they are, and a script has the same shape
whatever they say. Which literals there are and what stands around them is settled by the operation
and by what a request holds besides its texts.
-/

namespace StorageGateway

open Host

namespace Host

/-- Scripts that hold the texts of their requests in literals only. -/
structure Inert {Request : Type} (script : Request → Script) (blank : Request → Request)
    (slots : Request → List (Slot Request)) : Prop where
  separated (request : Request) : (script request).Separated
  outline (request : Request) : (script request).outline = (script (blank request)).outline
  values (request : Request) :
    (script request).values = (slots (blank request)).map (Slot.fill request)

@[simp]
theorem Slot.fill_constant {Request : Type} (request : Request) (value : String) :
    Slot.fill request (.constant value) = value := rfl

@[simp]
theorem Slot.fill_text {Request : Type} (request : Request) (field : Request → String) :
    Slot.fill request (.text field) = field request := rfl

namespace Inert

open Script

variable {Request : Type} {blank : Request → Request}

theorem ofCode {text : String} (h : Plain text) :
    Inert (fun _ : Request => [.code text]) blank fun _ => [] where
  separated _ := by simp [h]
  outline _ := rfl
  values _ := rfl

/-- One text of the request between code. -/
theorem ofText {before after : String} (hbefore : Plain before) (hafter : Plain after)
    (hne : after ≠ "") (field : Request → String) :
    Inert (fun request => [.code before, .literal (field request), .code after]) blank
      fun _ => [.text field] where
  separated _ := by simp [hbefore, hafter, hne]
  outline _ := rfl
  values _ := rfl

end Inert

namespace Scripted

/-- An operation whose scripts hold the texts of its requests in literals only. -/
def Inert (operation : Scripted) : Prop :=
  ∃ script : operation.Request → Script,
    (∀ request command, operation.plan request = .ok command → command.script = script request) ∧
    Host.Inert script operation.blank operation.slots

namespace Inert

variable {Request Response : Type} {plan : Request → Plan Response} {blank : Request → Request}
  {slots : Request → List (Slot Request)} {check : Request → Except Fault Unit}
  {script : Request → Script} {environment : Request → Environment}
  {meaning : Request → String → Except Fault Response}

theorem ofChecked (h : Host.Inert script blank slots)
    (hplan : ∀ request, plan request =
      .checked (check request) ⟨script request, environment request, meaning request⟩) :
    Inert ⟨plan, blank, slots⟩ := by
  refine ⟨script, fun request command hcommand => ?_, h⟩
  dsimp only at hcommand
  rw [hplan] at hcommand
  cases hcheck : check request with
  | error fault =>
    rw [hcheck] at hcommand
    cases hcommand
  | ok =>
    rw [hcheck] at hcommand
    cases hcommand
    rfl

theorem ofCommand (h : Host.Inert script blank slots)
    (hplan : ∀ request,
      plan request = .ok ⟨script request, environment request, meaning request⟩) :
    Inert ⟨plan, blank, slots⟩ := by
  have hchecked : ∀ request, plan request =
      .checked (.ok ()) ⟨script request, environment request, meaning request⟩ := hplan
  exact ofChecked h hchecked

end Inert

end Scripted

end Host

/-! ## The scripts of the groups -/

namespace Disk

open Script

theorem inert_listing {α : Type} (meaning : List Row → α) :
    Scripted.Inert (.ofNumbers (fun _ : Unit => listing meaning) []) :=
  .ofCommand (.ofCode (quote_not_mem_toList rfl (by decide))) fun _ => rfl

theorem inert_asking {α : Type} (meaning : StateRow → α) :
    Scripted.Inert (.ofNumbers (fun number => asking number meaning) []) := by
  refine .ofCommand ⟨?_, fun _ => rfl, by simp⟩ fun _ => rfl
  -- What is left to be shown of every piece of code is that no quote is among its characters.
  simp (disch := refine quote_not_mem_toList rfl ?_; decide) [plain_of_not_mem]

theorem inert {operation : Scripted} (h : operation ∈ scripted) : operation.Inert := by
  simp only [scripted, List.mem_cons, List.not_mem_nil, or_false] at h
  rcases h with rfl | rfl | rfl | rfl | rfl | rfl | rfl
  · exact inert_listing Row.locations
  · refine .ofCommand ⟨?_, fun _ => rfl, by simp⟩ fun _ => rfl
    simp (disch := refine quote_not_mem_toList rfl ?_; decide) [plain_of_not_mem]
  · exact .ofCommand (.ofCode (quote_not_mem_toList rfl (by decide))) fun _ => rfl
  · exact inert_listing Row.identities
  · exact inert_asking StateRow.size
  · refine .ofCommand ⟨?_, fun _ => rfl, by simp⟩ fun _ => rfl
    simp (disch := refine quote_not_mem_toList rfl ?_; decide) [plain_of_not_mem]
  · exact inert_asking fun row => !row.isOffline

end Disk

namespace Volume

open Script

theorem inert_list : Host.Inert (fun request : OnDisk =>
    [.code "Get-Partition -DiskNumber ", .number request.disk.toNat] ++
      (if request.partition = 0 then []
        else [.code " -PartitionNumber ", .number request.partition.toNat]) ++
      [.code " | Get-Volume | Select-Object -ExpandProperty UniqueId | ConvertTo-Json"])
    id fun _ => [] := by
  refine ⟨fun request => ?_, fun request => rfl, fun request => ?_⟩
  · split <;>
      simp (disch := refine quote_not_mem_toList rfl ?_; decide) [plain_of_not_mem]
  · split <;> simp

theorem inert_pick {after : String} (hafter : Plain after) (hne : after ≠ "") :
    Host.Inert (fun volume => pick volume ++ [.code after]) (fun _ => "") fun _ => [.text id] :=
  .ofText (quote_not_mem_toList rfl (by decide)) hafter hne id

/-- Something of what is picked is asked for, which stands in brackets. -/
theorem inert_member {after : String} (hafter : Plain after) (hne : after ≠ "") :
    Host.Inert (fun volume => [.code "("] ++ pick volume ++ [.code after]) (fun _ => "")
      fun _ => [.text id] where
  separated volume := by
    have hbracket : Plain "(" := quote_not_mem_toList rfl (by decide)
    exact ⟨hbracket, (inert_pick hafter hne).separated volume⟩
  outline _ := rfl
  values _ := rfl

theorem inert_mounting {between : String} (hbetween : Plain between) (hne : between ≠ "") :
    Host.Inert (fun request => pick request.volume ++ [.code between, .literal request.path])
      Mounting.blank fun _ => [.text Mounting.volume, .text Mounting.path] where
  separated request := by
    have hbefore : Plain "Get-Volume -UniqueId " := quote_not_mem_toList rfl (by decide)
    simp [pick, hbefore, hbetween, hne]
  outline _ := rfl
  values _ := rfl

theorem inert_resize : Host.Inert
    (fun request => pick request.volume ++
      [.code " | Get-Partition | Resize-Partition -Size "] ++ sizeScript request)
    Resizing.blank fun request =>
      if request.size = 0 then [.text Resizing.volume, .text Resizing.volume]
      else [.text Resizing.volume] := by
  refine ⟨fun request => ?_, fun request => ?_, fun request => ?_⟩
  · unfold sizeScript
    split <;>
      simp (disch := refine quote_not_mem_toList rfl ?_; decide) [pick, plain_of_not_mem]
  · by_cases hsize : request.size = 0
    · simp only [sizeScript, Resizing.blank, hsize, if_true]
      rfl
    · simp only [sizeScript, Resizing.blank, hsize, if_false]
      rfl
  · by_cases hsize : request.size = 0 <;> simp [pick, sizeScript, Resizing.blank, hsize]

theorem inert {operation : Scripted} (h : operation ∈ scripted) : operation.Inert := by
  simp only [scripted, List.mem_cons, List.not_mem_nil, or_false] at h
  rcases h with rfl | rfl | rfl | rfl | rfl | rfl | rfl | rfl
  · exact .ofCommand inert_list fun _ => rfl
  · refine .ofChecked (inert_mounting ?_ (by decide)) fun _ => rfl
    exact quote_not_mem_toList rfl (by decide)
  · refine .ofChecked (inert_mounting ?_ (by decide)) fun _ => rfl
    exact quote_not_mem_toList rfl (by decide)
  · refine .ofChecked (inert_member ?_ (by decide)) fun _ => rfl
    exact quote_not_mem_toList rfl (by decide)
  · refine .ofChecked (inert_pick ?_ (by decide)) fun _ => rfl
    exact quote_not_mem_toList rfl (by decide)
  · exact .ofChecked inert_resize fun _ => rfl
  · refine .ofChecked (inert_pick ?_ (by decide)) fun _ => rfl
    exact quote_not_mem_toList rfl (by decide)
  · refine .ofChecked (inert_member ?_ (by decide)) fun _ => rfl
    exact quote_not_mem_toList rfl (by decide)

end Volume

namespace Smb

open Script

theorem inert_map : Host.Inert
    (fun mapping : NewMapping =>
      [.code ("$secret = ConvertTo-SecureString -String $Env:" ++ passwordVariable ++
          " -AsPlainText -Force; "),
        .code ("$credential = New-Object System.Management.Automation.PSCredential" ++
          " -ArgumentList $Env:" ++ userVariable ++ ", $secret; "),
        .code "New-SmbGlobalMapping -RemotePath ", .literal mapping.remotePath,
        .code " -Credential $credential -RequirePrivacy $true | Out-Null"] ++
      linkScript mapping)
    NewMapping.blank fun mapping =>
      if mapping.localPath.isEmpty then [.text NewMapping.remotePath]
      else [.text NewMapping.remotePath, .text NewMapping.localPath,
        .text NewMapping.remotePath] := by
  refine ⟨fun mapping => ?_, fun mapping => ?_, fun mapping => ?_⟩
  · unfold linkScript userVariable passwordVariable
    split <;> simp (disch := refine quote_not_mem_toList rfl ?_; decide) [plain_of_not_mem]
  · by_cases hpath : mapping.localPath.isEmpty = true
    · simp only [linkScript, NewMapping.blank, hpath, if_true]
      rfl
    · simp only [linkScript, NewMapping.blank, hpath]
      rfl
  · by_cases hpath : mapping.localPath = "" <;> simp [linkScript, NewMapping.blank, hpath]

theorem inert {operation : Scripted} (h : operation ∈ scripted) : operation.Inert := by
  simp only [scripted, List.mem_cons, List.not_mem_nil, or_false] at h
  rcases h with rfl | rfl
  · exact .ofChecked inert_map fun _ => rfl
  · refine .ofCommand (.ofText ?_ ?_ (by decide) id) fun _ => rfl
    · exact quote_not_mem_toList rfl (by decide)
    · exact quote_not_mem_toList rfl (by decide)

end Smb

namespace Iscsi

open Script

/-- What the arguments of a portal put between two pieces of a script. -/
theorem inert_portal {before after : String} (hbefore : Plain before) (hafter : Plain after) :
    Host.Inert (fun portal => [.code before] ++ portalArguments portal ++ [.code after])
      Portal.blank fun _ => [.text Portal.address] := by
  refine ⟨?_, fun _ => rfl, by simp [portalArguments]⟩
  simp (disch := refine quote_not_mem_toList rfl ?_; decide)
    [portalArguments, plain_of_not_mem, hbefore, hafter]

theorem inert_connect : Host.Inert
    (fun login => [.code "Connect-IscsiTarget "] ++ portalArguments login.portal ++
      [.code " -NodeAddress ", .literal login.iqn,
        .code (" -IsPersistent $true -IsMultipathEnabled " ++ Script.truth login.isMultipath)] ++
      loginArguments login.authentication ++ [.code " | Out-Null"])
    Login.blank fun _ => [.text fun login => login.portal.address, .text Login.iqn] := by
  refine ⟨fun login => ?_, fun login => rfl, fun login => ?_⟩
  · cases login.authentication <;>
      simp (disch := refine quote_not_mem_toList rfl ?_; decide) [portalArguments, loginArguments,
        Authentication.keyword?, userVariable, secretVariable, plain_of_not_mem]
  · cases login.authentication <;>
      simp [portalArguments, loginArguments, Authentication.keyword?]

theorem inert {operation : Scripted} (h : operation ∈ scripted) : operation.Inert := by
  simp only [scripted, List.mem_cons, List.not_mem_nil, or_false] at h
  rcases h with rfl | rfl | rfl | rfl | rfl | rfl | rfl | rfl
  · refine .ofChecked (inert_portal ?_ ?_) fun _ => rfl
    · exact quote_not_mem_toList rfl (by decide)
    · exact quote_not_mem_toList rfl (by decide)
  · refine .ofChecked (inert_portal ?_ (plain_append.mpr ⟨?_, ?_⟩)) fun _ => rfl
    · exact quote_not_mem_toList rfl (by decide)
    · exact quote_not_mem_toList rfl (by decide)
    · exact quote_not_mem_toList rfl (by decide)
  · refine .ofCommand (.ofCode (plain_append.mpr ⟨?_, ?_⟩)) fun _ => rfl
    · exact quote_not_mem_toList rfl (by decide)
    · exact quote_not_mem_toList rfl (by decide)
  · refine .ofChecked (inert_portal ?_ ?_) fun _ => rfl
    · exact quote_not_mem_toList rfl (by decide)
    · exact quote_not_mem_toList rfl (by decide)
  · exact .ofChecked inert_connect fun _ => rfl
  · refine .ofChecked (.ofText ?_ ?_ (by decide) Target.iqn) fun _ => rfl
    · exact quote_not_mem_toList rfl (by decide)
    · exact quote_not_mem_toList rfl (by decide)
  · refine .ofChecked (.ofText ?_ (plain_append.mpr ⟨?_, ?_⟩) (by decide) Target.iqn) fun _ => rfl
    · exact quote_not_mem_toList rfl (by decide)
    · exact quote_not_mem_toList rfl (by decide)
    · exact quote_not_mem_toList rfl (by decide)
  · refine .ofCommand (.ofCode (plain_append.mpr ⟨?_, ?_⟩)) fun _ => rfl
    · exact quote_not_mem_toList rfl (by decide)
    · exact quote_not_mem_toList rfl (by decide)

end Iscsi

namespace Services

open Script

theorem inert {operation : Scripted} (h : operation ∈ scripted) : operation.Inert := by
  simp only [scripted, List.mem_cons, List.not_mem_nil, or_false] at h
  rcases h with rfl | rfl | rfl | rfl
  · exact .ofCommand (.ofCode (quote_not_mem_toList rfl (by decide))) fun _ => rfl
  · refine .ofChecked ⟨?_, fun _ => rfl, by simp⟩ fun _ => rfl
    simp (disch := refine quote_not_mem_toList rfl ?_; decide) [plain_of_not_mem]
  · refine .ofChecked ⟨?_, fun _ => rfl, by simp⟩ fun _ => rfl
    simp (disch := refine quote_not_mem_toList rfl ?_; decide) [plain_of_not_mem]
  · refine .ofChecked ⟨?_, fun _ => rfl, by simp⟩ fun _ => rfl
    simp (disch := refine quote_not_mem_toList rfl ?_; decide) [plain_of_not_mem]

end Services

theorem Group.inert {group : Group} {operation : Scripted} (h : operation ∈ group.scripted) :
    operation.Inert := by
  cases group with
  | filesystem => cases h
  | disk => exact Disk.inert h
  | volume => exact Volume.inert h
  | smb => exact Smb.inert h
  | iscsi => exact Iscsi.inert h
  | system => exact Services.inert h

/-- Behind every route of a group that drives the host by scripts stands one of the operations of
`Group.scripted`. The script for a request that is not turned away can be read back, and
`Script.literals?` finds there what `Scripted.slots` lists: texts of the request and constants, in
an order that the texts have no part in. Nor have they in what `Script.skeleton?` finds around the
literals, which is the same for all requests that differ in their texts only. -/
theorem Group.scripts_quote_texts (roots : Roots) {group : Group} (hgroup : group ≠ .filesystem) :
    (∀ adapter ∈ group.adapters roots, ∀ route ∈ adapter.routes,
      ∃ operation ∈ group.scripted, CarriesOut route operation) ∧
    ∀ operation ∈ group.scripted, ∀ request command, operation.plan request = .ok command →
      Script.literals? command.script.text =
        some ((operation.slots (operation.blank request)).map (Slot.fill request)) ∧
      ∃ skeleton, Script.skeleton? command.script.text = some skeleton ∧
        ∀ other otherCommand, operation.plan other = .ok otherCommand →
          operation.blank other = operation.blank request →
          Script.skeleton? otherCommand.script.text = some skeleton := by
  refine ⟨fun adapter hadapter route hroute => exists_scripted hgroup hadapter hroute,
    fun operation hoperation request command hcommand => ?_⟩
  obtain ⟨script, hscript, hinert⟩ := Group.inert hoperation
  rw [hscript request command hcommand]
  refine ⟨?_, (script request).outline, ?_, fun other otherCommand hother hblank => ?_⟩
  · rw [Script.literals?_text (hinert.separated request), hinert.values request]
  · exact Script.skeleton?_text (hinert.separated request)
  · rw [hscript other otherCommand hother, Script.skeleton?_text (hinert.separated other),
      hinert.outline other, hblank, ← hinert.outline request]

/-- A share whose name is bent on ending its literal. -/
def hostileShare : String := "\\\\host\\it's'; Stop-Computer; '"

theorem Group.unmap_quotes_texts :
    Group.smb ≠ .filesystem ∧ ∃ command, Smb.unmap hostileShare = .ok command ∧
      Script.literals? command.script.text = some [hostileShare] := by
  have hgroup : Group.smb ≠ .filesystem := by decide
  have hoperation : Scripted.ofText Smb.unmap [.text id] ∈ Group.smb.scripted := .tail _ (.head _)
  exact ⟨hgroup, _, rfl,
    ((Group.scripts_quote_texts ⟨["kubelet"], ["plugin"]⟩ hgroup).2 _ hoperation hostileShare _
      rfl).1⟩

/-- The address of a portal is a text of a request to disconnect a target that is in none of the
literals of the script. -/
theorem Iscsi.disconnect_leaves_address_out :
    ∃ command literals, Iscsi.disconnect ⟨⟨"10.0.0.5", 0⟩, "iqn.x"⟩ = .ok command ∧
      Script.literals? command.script.text = some literals ∧ "10.0.0.5" ∉ literals := by
  have hname : Text.isBlankText "iqn.x" = false := by decide +kernel
  unfold Iscsi.disconnect Iscsi.requireTarget
  rw [hname]
  exact ⟨_, ["iqn.x"], rfl, by decide +kernel, by decide⟩

end StorageGateway

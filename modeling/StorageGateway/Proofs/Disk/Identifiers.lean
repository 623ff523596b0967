import StorageGateway.Proofs.Adapter.OldVersions
import StorageGateway.Proofs.Disk.Maps
import StorageGateway.Proofs.Host.Rejection
import StorageGateway.Proofs.Version.Text

/-!
# Identifiers of disks

Some methods tell disks by the decimal texts of their numbers, and others take such texts. Whatever
text one of the former hands out, it is the text of the number in a row that the host printed, and
each of the latter runs its script for that number. Disks with different numbers have different
texts, so what is listed by number is listed by text without anything lost.
-/

namespace StorageGateway

open Host Json

/-! ## Numbers in decimal -/

namespace Conversion

theorem width_read?_toDigits {n : UInt32} :
    (Text.Width.unsigned 32).read? (Nat.toDigits 10 n.toNat) = some (n.toNat : Int) := by
  have hdigits : ∀ c ∈ Nat.toDigits 10 n.toNat, c.isDigit = true :=
    fun c hc => Nat.isDigit_of_mem_toDigits (by decide) (by decide) hc
  have hnatural : Text.readNatural? (Nat.toDigits 10 n.toNat) = some n.toNat := by
    rw [Version.readNatural?_eq_some_iff]
    exact ⟨⟨Nat.toDigits_ne_nil, hdigits⟩, Nat.ofDigitChars_ten_toDigits.symm⟩
  have hsigned : (Text.Width.unsigned 32).readSigned? (Nat.toDigits 10 n.toNat) =
      some (n.toNat : Int) := by
    unfold Text.Width.readSigned?
    split
    · rename_i hsign
      exact absurd (hdigits '+' (hsign ▸ List.mem_cons_self)) (by decide)
    · rename_i hsign
      exact absurd (hdigits '-' (hsign ▸ List.mem_cons_self)) (by decide)
    · rw [hnatural]
      rfl
  have hholds : (Text.Width.unsigned 32).holds n.toNat = true := by
    have hn := n.toNat_lt
    rw [Reader.holds_u32_iff]
    omega
  rw [Text.Width.read?, hsigned, Option.filter_some, if_pos hholds]

/-- The text of a number is read as the number. -/
theorem parseU32_toString (field : String) (n : UInt32) :
    parseU32 field (toString n.toNat) = .ok n := by
  have htrim : Text.trimBlanks (toString n.toNat).toList = Nat.toDigits 10 n.toNat := by
    rw [toList_toString]
    exact Text.trimBlanks_of_none fun c hc =>
      Text.isBlank_of_isDigit (Nat.isDigit_of_mem_toDigits (by decide) (by decide) hc)
  unfold parseU32 parseNumber
  rw [htrim, width_read?_toDigits]
  show Except.ok (UInt32.ofNat (n.toNat : Int).toNat) = _
  rw [Int.toNat_natCast, UInt32.ofNat_toNat]

end Conversion

/-! ## Scripts that are run -/

namespace Host.Script

theorem text_nil : text [] = "" := rfl

theorem text_code (code : String) (rest : Script) :
    text (.code code :: rest) = code ++ text rest := by
  rw [text, chars, List.flatMap_cons, String.ofList_append]
  exact congrArg (· ++ text rest) String.ofList_toList

theorem text_number (n : Nat) (rest : Script) :
    text (.number n :: rest) = toString n ++ text rest := text_code _ _

theorem text_literal (value : String) (rest : Script) :
    text (.literal value :: rest) = quote value ++ text rest := by
  rw [text, chars, List.flatMap_cons, String.ofList_append]
  rfl

end Host.Script

/-! ## Calls that come down to a script -/

namespace Host.Plan

section
variable {WireRequest Request Response WireResponse : Type}
  {operation : Operation WireRequest Request Response WireResponse}
  {requestSchema : Schema WireRequest} {responseSchema : Schema WireResponse}
  {plan : Request → Plan Response} {version : Version} {params : Json} {machine : Machine}

/-- A request that gets through and is planned runs the script of the plan. -/
theorem after_of_takes {request : Request}
    (htakes : (route operation requestSchema responseSchema plan).Takes version params request)
    {command : Command Response} (hplan : plan request = .ok command) :
    (((route operation requestSchema responseSchema plan).call version params).perform machine).2 =
      machine.after command.invocation := by
  rw [Route.perform_call, Route.accept_of_takes htakes]
  show ((plan request).run.perform machine).2 = _
  rw [hplan, Plan.run, Command.perform_run]

theorem after_of_routed {adapter : Adapter Machine} (hdistinct : adapter.Distinct)
    (hroute : route operation requestSchema responseSchema plan ∈ adapter.routes)
    {method : String} (hname : operation.name = method) (hsince : operation.since = none)
    {wire : WireRequest} (hread : requestSchema.read.ofJson params = .ok wire)
    {decode : Conversion WireRequest Request} {request : Request}
    (hdecoded : decode wire = .ok request) (hdecode : operation.decode = decode)
    {script : Script} {environment : Environment}
    {meaning : String → Except Fault Response}
    (hplan : plan request = .ok ⟨script, environment, meaning⟩) {text : String}
    (htext : script.text = text) :
    ((adapter.call method params).perform machine).2 = machine.after ⟨text, environment⟩ := by
  have htakes : (route operation requestSchema responseSchema plan).Takes adapter.version params
      request := ⟨hread, hdecode ▸ hdecoded, by simp [route, hsince]⟩
  rw [← htext, ← hname]
  exact (congrArg (fun act => (act.perform machine).2)
    (Adapter.call_eq_of_routed hdistinct hroute params)).trans (after_of_takes htakes hplan)

/-- A call that is answered has run the script of a plan, and the answer is what the version makes
of the output. -/
theorem exists_of_answered {adapter : Adapter Machine} (hdistinct : adapter.Distinct)
    (hroute : route operation requestSchema responseSchema plan ∈ adapter.routes)
    {method : String} (hname : operation.name = method) {response : Json} {after : Machine}
    (h : (adapter.call method params).perform machine = (.ok response, after)) :
    ∃ request command output answer wire, plan request = .ok command ∧
      after = machine.after command.invocation ∧
      machine.answer command.invocation = .ok output ∧ command.meaning output = .ok answer ∧
      operation.encode answer = .ok wire ∧ responseSchema.write wire = response := by
  have hcall : ((route operation requestSchema responseSchema plan).call adapter.version
      params).perform machine = (.ok response, after) := by
    rw [← h, ← hname]
    exact congrArg (·.perform machine) (Adapter.call_eq_of_routed hdistinct hroute params).symm
  rw [Route.perform_call] at hcall
  cases haccept : (route operation requestSchema responseSchema plan).accept adapter.version
      params with
  | error fault =>
    rw [haccept] at hcall
    cases hcall
  | ok request =>
    rw [haccept] at hcall
    have hanswered : ((plan request).run.perform machine).1.bind
        (route operation requestSchema responseSchema plan).deliver = .ok response :=
      congrArg Prod.fst hcall
    cases hplan : plan request with
    | error fault =>
      rw [hplan] at hanswered
      cases hanswered
    | ok command =>
      rw [hplan, Plan.run, Command.perform_run] at hanswered
      obtain ⟨answer, hmeaning, hdelivered⟩ := bind_eq_ok_iff.mp hanswered
      obtain ⟨output, houtput, hmeaning⟩ := bind_eq_ok_iff.mp hmeaning
      have hgives : (route operation requestSchema responseSchema plan).Gives (.ok answer)
          (.ok response) := by
        rw [← hdelivered]
        exact (route operation requestSchema responseSchema plan).gives_bind_deliver (.ok answer)
      cases hgives with
      | written hencoded hwrite =>
        have hafter : (((route operation requestSchema responseSchema plan).call adapter.version
            params).perform machine).2 = machine.after command.invocation :=
          after_of_takes (Route.accept_eq_ok_iff.mp haccept) hplan
        rw [Route.perform_call, haccept, hcall] at hafter
        exact ⟨request, command, output, answer, _, hplan, hafter, houtput, hmeaning, hencoded,
          Except.ok.inj hwrite⟩

/-- A call whose script prints something that means an answer is answered with it. -/
theorem perform_of_routed {adapter : Adapter Machine} (hdistinct : adapter.Distinct)
    (hroute : route operation requestSchema responseSchema plan ∈ adapter.routes)
    {method : String} (hname : operation.name = method) (hsince : operation.since = none)
    {wire : WireRequest} (hread : requestSchema.read.ofJson params = .ok wire)
    {request : Request} (hdecoded : operation.decode wire = .ok request)
    {command : Command Response} (hplan : plan request = .ok command) {output : String}
    (houtput : machine.answer command.invocation = .ok output) {answer : Response}
    (hmeaning : command.meaning output = .ok answer) {wireResponse : WireResponse}
    (hencoded : operation.encode answer = .ok wireResponse) :
    (adapter.call method params).perform machine =
      (.ok (responseSchema.write wireResponse), machine.after command.invocation) := by
  have htakes : (route operation requestSchema responseSchema plan).Takes adapter.version params
      request := ⟨hread, hdecoded, by simp [route, hsince]⟩
  have hdelivered : (route operation requestSchema responseSchema plan).deliver answer =
      .ok (responseSchema.write wireResponse) := by
    show (operation.deliver answer).bind responseSchema.writer.written = _
    rw [Operation.deliver, hencoded]
    rfl
  have hanswered : (((route operation requestSchema responseSchema plan).call adapter.version
      params).perform machine).1 = .ok (responseSchema.write wireResponse) := by
    rw [Route.perform_call, Route.accept_of_takes htakes, ← hdelivered]
    show ((plan request).run.perform machine).1.bind _ = _
    rw [hplan, Plan.run, Command.perform_run, houtput]
    show (command.meaning output).bind _ = _
    rw [hmeaning]
    rfl
  rw [← hname]
  refine (congrArg (·.perform machine) (Adapter.call_eq_of_routed hdistinct hroute params)).trans ?_
  exact Prod.ext hanswered (after_of_takes htakes hplan)

end

end Host.Plan

namespace Disk

/-! ## Methods that take identifiers -/

/-- A method that takes the identifier of a disk, with what else it is told. -/
inductive Addressed where
  /-- Gives the disk a partition. -/
  | partition
  /-- Tells the size of the disk. -/
  | size
  /-- Attaches the disk or detaches it. -/
  | setState (isOnline : Bool)
  /-- Tells whether the disk is attached. -/
  | getState
  /-- Lists the volumes on the disk. -/
  | volumes

namespace Addressed

/-- Calls the method. -/
def call : Addressed → Json → Act Machine Json
  | partition => betaAdapter.call "PartitionDisk"
  | size => betaAdapter.call "GetDiskStats"
  | setState _ => betaAdapter.call "SetAttachState"
  | getState => betaAdapter.call "GetAttachState"
  | volumes => Volume.betaAdapter.call "ListVolumesOnDisk"

/-- The parameters that name a disk. -/
def params (disk : String) : Addressed → Json
  | setState isOnline => .object [("disk_id", .string disk), ("is_online", .bool isOnline)]
  | _ => .object [("disk_id", .string disk)]

/-- The script about the disk with a number. -/
def script (number : String) : Addressed → String
  | partition =>
    "$disk = Get-Disk -Number " ++ number ++ "; if ($disk.PartitionStyle -eq " ++ "'RAW'" ++
      ") \x7b Initialize-Disk -Number " ++ number ++
      " -PartitionStyle GPT \x7d; if (-not (Get-Partition -DiskNumber " ++ number ++
      " -ErrorAction SilentlyContinue | Where-Object Type -ne " ++ "'Reserved'" ++
      ")) \x7b New-Partition -DiskNumber " ++ number ++ " -UseMaximumSize | Out-Null \x7d"
  | size | getState =>
    "Get-Disk -Number " ++ number ++ " | Select-Object Size, IsOffline | ConvertTo-Json"
  | setState isOnline =>
    "Set-Disk -Number " ++ number ++ (" -IsOffline " ++ Script.truth (!isOnline))
  | volumes =>
    "Get-Partition -DiskNumber " ++ number ++
      " | Get-Volume | Select-Object -ExpandProperty UniqueId | ConvertTo-Json"

end Addressed

/-- Whatever takes the identifier of a disk runs its script for the disk with the number. -/
def Addresses (disk : String) (number : UInt32) : Prop :=
  ∀ (about : Addressed) (machine : Machine),
    ((about.call (about.params disk)).perform machine).2 =
      machine.after ⟨about.script (toString number.toNat), []⟩

section
variable (number : Nat)

theorem text_partition :
    Script.text [.code "$disk = Get-Disk -Number ", .number number,
      .code "; if ($disk.PartitionStyle -eq ", .literal "RAW",
      .code ") \x7b Initialize-Disk -Number ", .number number,
      .code " -PartitionStyle GPT \x7d; if (-not (Get-Partition -DiskNumber ", .number number,
      .code " -ErrorAction SilentlyContinue | Where-Object Type -ne ", .literal "Reserved",
      .code ")) \x7b New-Partition -DiskNumber ", .number number,
      .code " -UseMaximumSize | Out-Null \x7d"] =
      Addressed.partition.script (toString number) := by
  have hraw : Script.quote "RAW" = "'RAW'" := by decide
  have hreserved : Script.quote "Reserved" = "'Reserved'" := by decide
  delta Addressed.script
  simp only [Script.text_code, Script.text_number, Script.text_literal, Script.text_nil, hraw,
    hreserved, String.append_assoc, String.append_empty]

theorem text_asking :
    Script.text [.code "Get-Disk -Number ", .number number,
      .code " | Select-Object Size, IsOffline | ConvertTo-Json"] =
      Addressed.size.script (toString number) := by
  delta Addressed.script
  simp only [Script.text_code, Script.text_number, Script.text_nil, String.append_assoc,
    String.append_empty]

theorem text_setState (isOnline : Bool) :
    Script.text [.code "Set-Disk -Number ", .number number,
      .code (" -IsOffline " ++ Script.truth (!isOnline))] =
      (Addressed.setState isOnline).script (toString number) := by
  delta Addressed.script
  simp only [Script.text_code, Script.text_number, Script.text_nil, String.append_assoc,
    String.append_empty]

theorem text_volumes :
    Script.text [.code "Get-Partition -DiskNumber ", .number number,
      .code " | Get-Volume | Select-Object -ExpandProperty UniqueId | ConvertTo-Json"] =
      Addressed.volumes.script (toString number) := by
  delta Addressed.script
  simp only [Script.text_code, Script.text_number, Script.text_nil, String.append_assoc,
    String.append_empty]

end

theorem distinct_betaAdapter : betaAdapter.Distinct :=
  Group.distinct (show betaAdapter ∈ Group.disk.adapters ⟨[], []⟩ from .head _)

theorem distinct_volumeAdapter : Volume.betaAdapter.Distinct :=
  Group.distinct (show Volume.betaAdapter ∈ Group.volume.adapters ⟨[], []⟩ from .head _)

theorem readsBack_string : Schema.string.ReadsBack := fun _ => rfl

theorem readsBack_setAttachState : Beta.SetAttachState.schema.ReadsBack := by
  intro state
  refine (Reader.record_of_members ?_ ?_).trans ?_
  · simp
  · simp
  · simp [List.lookup_cons]

/-- The text of a number is taken for the number wherever a disk is named. -/
theorem addresses_text (number : UInt32) : Addresses (toString number.toNat) number := by
  have hnumber : Beta.decodeDisk (toString number.toNat) = .ok number :=
    Conversion.parseU32_toString "disk_id" number
  have hread (record : String) : (Beta.diskRequest record).ReadsBack :=
    readsBack_string.single record "disk_id"
  intro about machine
  cases about with
  | partition =>
    have hroute : partitionRoute Beta.decodeDisk Beta.diskRequest ∈ betaAdapter.routes := by
      simp [betaAdapter]
    exact Plan.after_of_routed distinct_betaAdapter hroute rfl rfl
      (hread "PartitionDiskRequest" _) hnumber rfl rfl (text_partition _)
  | size =>
    have hroute : sizeRoute Beta.decodeDisk Beta.diskRequest Beta.sizeSchema ∈
        betaAdapter.routes := by simp [betaAdapter]
    exact Plan.after_of_routed distinct_betaAdapter hroute rfl rfl
      (hread "GetDiskStatsRequest" _) hnumber rfl rfl (text_asking _)
  | setState isOnline =>
    have hroute : setStateRoute "SetAttachState" Beta.decodeSetAttachState
        Beta.SetAttachState.schema ∈ betaAdapter.routes := by simp [betaAdapter]
    have hdecoded : Beta.decodeSetAttachState ⟨toString number.toNat, isOnline⟩ =
        .ok ⟨number, isOnline⟩ := by
      unfold Beta.decodeSetAttachState
      rw [hnumber]
      rfl
    exact Plan.after_of_routed distinct_betaAdapter hroute rfl rfl
      (readsBack_setAttachState ⟨_, isOnline⟩) hdecoded rfl rfl (text_setState _ isOnline)
  | getState =>
    have hroute : getStateRoute "GetAttachState" Beta.decodeDisk
        (Beta.diskRequest "GetAttachStateRequest") ∈ betaAdapter.routes := by simp [betaAdapter]
    exact Plan.after_of_routed distinct_betaAdapter hroute rfl rfl
      (hread "GetAttachStateRequest" _) hnumber rfl rfl (text_asking _)
  | volumes =>
    have hroute : Volume.listRoute Volume.Beta.decodeOnDisk Volume.Beta.onDiskSchema ∈
        Volume.betaAdapter.routes := by simp [Volume.betaAdapter]
    have hdecoded : Volume.Beta.decodeOnDisk (toString number.toNat) = .ok ⟨number, 0⟩ := by
      unfold Volume.Beta.decodeOnDisk
      rw [Conversion.parseU32_toString]
      rfl
    exact Plan.after_of_routed distinct_volumeAdapter hroute rfl rfl
      (readsBack_string.single "ListVolumesOnDiskRequest" "disk_id" _) hdecoded rfl rfl
      (text_volumes _)

/-! ## Methods that hand out identifiers -/

/-- The identifier of a disk. -/
def identifier (number : UInt32) : String := toString number.toNat

/-- What the script that a call has run has printed. -/
def Printed (machine after : Machine) (output : String) : Prop :=
  ∃ invocation, after = machine.after invocation ∧ machine.answer invocation = .ok output

/-- The table of what is told row by row. -/
def tabulate {α : Type} (told : Row → Option α) (rows : List Row) : Table UInt32 α :=
  .ofEntries (rows.filterMap fun row => (told row).map (row.number, ·))

/-- The location that a row tells. -/
def Row.toldLocation (row : Row) : Option Location :=
  row.location.bind fun words => location? words.toList

/-- The identity that a row tells. -/
def Row.toldIdentity (row : Row) : Option Identity :=
  some ⟨row.uniqueId.getD "", Text.trim (row.serialNumber.getD "")⟩

theorem tabulate_location (rows : List Row) :
    tabulate Row.toldLocation rows = Row.locations rows := rfl

theorem tabulate_identity (rows : List Row) :
    tabulate Row.toldIdentity rows = Row.identities rows := by
  unfold tabulate Row.identities Row.toldIdentity
  simp

section
variable {α : Type} {told : Row → Option α} {rows : List Row}

/-- A value in the table is told by the last row with its number that tells anything. -/
theorem exists_row_of_mem_tabulate {number : UInt32} {found : α}
    (h : (number, found) ∈ tabulate told rows) :
    ∃ before row rest, rows = before ++ row :: rest ∧ row.number = number ∧
      told row = some found ∧ ∀ later ∈ rest, later.number = number → told later = none := by
  obtain ⟨before, row, rest, hrows, hrow, hlater⟩ := Table.mem_ofEntries_filterMap_iff.mp h
  obtain ⟨_, hfound, hentry⟩ := Option.map_eq_some_iff.mp hrow
  obtain ⟨rfl, rfl⟩ := Prod.mk.inj hentry
  refine ⟨before, row, rest, hrows, rfl, hfound, fun later hin hnumber => ?_⟩
  by_contra htold
  obtain ⟨other, hother⟩ := Option.ne_none_iff_exists'.mp htold
  exact hlater later hin (later.number, other) (by rw [hother]; rfl) hnumber

/-- Whatever a row tells, there is a value for its number. -/
theorem exists_mem_tabulate {row : Row} (hrow : row ∈ rows) {found : α}
    (hfound : told row = some found) : ∃ kept, (row.number, kept) ∈ tabulate told rows := by
  have hentry : (row.number, found) ∈ rows.filterMap fun row => (told row).map (row.number, ·) :=
    List.mem_filterMap.mpr ⟨row, hrow, by rw [hfound]; rfl⟩
  obtain ⟨⟨number, kept⟩, hkept, hnumber⟩ := Table.exists_mem_ofEntries hentry
  obtain rfl : number = row.number := hnumber
  exact ⟨kept, hkept⟩

end

/-- The members of a response are what the rows tell, each under the identifier of its disk. -/
structure Keeps {α : Type} (told : Row → Option α) (value : Schema α) (rows : List Row)
    (members : List (String × Json)) : Prop where
  /-- No two members have one identifier. -/
  distinct : (members.map (·.1)).Nodup
  /-- The entries by number are the members, none lost and none merged. -/
  rekeyed : members.Perm ((tabulate told rows).map fun entry =>
    (identifier entry.1, value.write entry.2))
  /-- Every disk that a row tells something of is there. -/
  complete : ∀ row ∈ rows, ∀ found, told row = some found →
    ∃ member ∈ members, member.1 = identifier row.number
  /-- Every member has the value of the last row that tells of its disk, and its identifier is
  taken for the number in that row. -/
  origin : ∀ member ∈ members, ∃ before row rest found, rows = before ++ row :: rest ∧
    (∀ later ∈ rest, later.number = row.number → told later = none) ∧ told row = some found ∧
    member = (identifier row.number, value.write found) ∧ Addresses member.1 row.number

/-- A method that lists what the rows tell by the identifiers of the disks: whenever it answers. -/
def ListsByIdentifier {α : Type} (method field : String) (told : Row → Option α)
    (value : Schema α) : Prop :=
  ∀ params machine response after,
    (betaAdapter.call method params).perform machine = (.ok response, after) →
    ∃ output rows members, Printed machine after output ∧
      Output.list Row.reader "Get-Disk" output = .ok rows ∧
      response = .object [(field, .object members)] ∧ Keeps told value rows members

/-- The disks behind a target are listed by identifiers that are taken for the numbers printed. -/
def ListsTargetDisks (adapter : Adapter Machine) : Prop :=
  ∀ params machine response after,
    (adapter.call "GetTargetDisks" params).perform machine = (.ok response, after) →
    ∃ output numbers, Printed machine after output ∧
      Output.list .u32 "Get-IscsiSession" output = .ok numbers ∧
      response = .object [("disk_ids", .array (numbers.map fun n => .string (identifier n)))] ∧
      ∀ number ∈ numbers, Addresses (identifier number) number

theorem keeps_byText {α : Type} (told : Row → Option α) (value : Schema α) (rows : List Row) :
    Keeps told value rows (Table.mapValues value.write (Beta.byText (tabulate told rows))) := by
  have htable : (tabulate told rows).Sorted := Table.sorted_ofEntries _
  have hperm : (Beta.byText (tabulate told rows)).Perm
      ((tabulate told rows).map Beta.textEntry) := by
    refine (List.perm_ext_iff_of_nodup ((Beta.sorted_byText _).nodup.of_map _)
      ((Beta.nodup_texts_iff.mpr htable.nodup).of_map _)).mpr fun entry => ?_
    rw [Beta.mem_byText_iff htable, List.mem_map]
  have hmembers : (Table.mapValues value.write (Beta.byText (tabulate told rows))).Perm
      ((tabulate told rows).map fun entry => (identifier entry.1, value.write entry.2)) := by
    have hwritten := hperm.map fun entry => (entry.1, value.write entry.2)
    rwa [List.map_map] at hwritten
  refine ⟨?_, hmembers, fun row hrow found hfound => ?_, fun member hmember => ?_⟩
  · rw [Table.mapValues, List.map_map]
    exact (Beta.sorted_byText _).nodup
  · obtain ⟨kept, hkept⟩ := exists_mem_tabulate hrow hfound
    exact ⟨_, hmembers.mem_iff.mpr (List.mem_map_of_mem hkept), rfl⟩
  · obtain ⟨⟨number, found⟩, hentry, rfl⟩ := List.mem_map.mp (hmembers.mem_iff.mp hmember)
    obtain ⟨before, row, rest, hrows, rfl, hfound, hlater⟩ := exists_row_of_mem_tabulate hentry
    exact ⟨before, row, rest, found, hrows, hlater, hfound, rfl, addresses_text row.number⟩

/-- What a listing by number becomes when it is put under texts. -/
theorem lists_of_route {α : Type}
    {operation : Operation Unit Unit (Table UInt32 α) (Table String α)} {request : Schema Unit}
    {record field : String} {value : Schema α} {told : Row → Option α}
    {meaning : List Row → Table UInt32 α}
    (hroute : Plan.route operation request (.single record field (.named value))
      (fun _ => listing meaning) ∈ betaAdapter.routes)
    (hmeaning : ∀ rows, meaning rows = tabulate told rows)
    (hencode : ∀ table, operation.encode table = .ok (Beta.byText table)) :
    ListsByIdentifier operation.name field told value := by
  intro params machine response after hcall
  obtain ⟨_, command, output, table, wire, hplan, hafter, houtput, hread, hwire, rfl⟩ :=
    Plan.exists_of_answered distinct_betaAdapter hroute rfl hcall
  cases hplan
  obtain ⟨rows, hrows, rfl⟩ := map_eq_ok_iff.mp hread
  rw [hencode, hmeaning] at hwire
  cases hwire
  refine ⟨output, rows, _, ⟨_, hafter, houtput⟩, hrows, ?_, keeps_byText told value rows⟩
  rw [← Beta.write_named (Beta.sorted_byText _)]
  rfl

theorem listsTargetDisks {adapter : Adapter Machine} (hadapter : adapter ∈ Iscsi.adapters) :
    ListsTargetDisks adapter := by
  have hdistinct : adapter.Distinct :=
    Group.distinct (show adapter ∈ Group.iscsi.adapters ⟨[], []⟩ from hadapter)
  -- The route differs from version to version, but only in how the target is asked for.
  obtain ⟨Port, wire, hroute⟩ : ∃ (Port : Type) (wire : Iscsi.Wire Port),
      Iscsi.disksRoute wire ∈ adapter.routes := by
    simp only [Iscsi.adapters, List.mem_cons, List.not_mem_nil, or_false] at hadapter
    rcases hadapter with rfl | rfl | rfl
    · exact ⟨_, .alpha, by simp [Iscsi.alphaAdapter, Iscsi.routes]⟩
    · exact ⟨_, .alpha, by simp [Iscsi.alphaAdapter, Iscsi.routes]⟩
    · exact ⟨_, .stable, by simp [Iscsi.stableAdapter, Iscsi.routes]⟩
  intro params machine response after hcall
  obtain ⟨target, command, output, answer, ids, hplan, hafter, houtput, hread, hids, rfl⟩ :=
    Plan.exists_of_answered hdistinct hroute rfl hcall
  unfold Iscsi.disks Plan.checked at hplan
  split at hplan
  · cases hplan
    obtain ⟨numbers, hnumbers, rfl⟩ := map_eq_ok_iff.mp hread
    cases hids
    refine ⟨output, numbers, ⟨_, hafter, houtput⟩, hnumbers, ?_, fun n _ => addresses_text n⟩
    simp [Iscsi.disksSchema, Schema.single, Schema.list, Schema.string, identifier]
  · cases hplan

/-- Every `identifier` that is handed out is taken for the disk that it was handed out for: the
lists of locations and of identities, under texts as they are before the first stable version
(`ListsByIdentifier`), and the lists of disks behind a target at every version (`ListsTargetDisks`).
Different disks have different identifiers. -/
theorem disk_identifiers_are_taken_back :
    ListsByIdentifier "ListDiskLocations" "disk_locations" Row.toldLocation Location.schema ∧
    ListsByIdentifier "ListDiskIDs" "disk_ids" Row.toldIdentity Identity.schema ∧
    (∀ adapter ∈ Iscsi.adapters, ListsTargetDisks adapter) ∧
    Function.Injective identifier := by
  refine ⟨?_, ?_, fun adapter => listsTargetDisks, fun _ _ => toString_injective⟩
  · have hroute : listLocationsRoute Beta.encodeLocations Beta.locationsSchema ∈
        betaAdapter.routes := .head _
    exact lists_of_route hroute (fun rows => (tabulate_location rows).symm) fun _ => rfl
  · have hroute : listIdentitiesRoute Beta.encodeIdentities Beta.identitiesSchema ∈
        betaAdapter.routes := by simp [betaAdapter]
    exact lists_of_route hroute (fun rows => (tabulate_identity rows).symm) fun _ => rfl

/-- What a host with two disks prints. -/
def twoDisksOutput : String :=
  "[\x7b\"Number\":10,\"UniqueId\":\"naa.1\"\x7d, \x7b\"Number\":9\x7d]\r\n"

/-- A machine with two disks. -/
def twoDisks : Machine where
  shell := { answer _ _ := .ok twoDisksOutput }

theorem exists_of_isSome {α : Type} {outcome : Except Fault α × Machine}
    (h : outcome.1.toOption.isSome = true) : ∃ a after, outcome = (.ok a, after) := by
  obtain ⟨_ | a, after⟩ := outcome
  · cases h
  · exact ⟨a, after, rfl⟩

theorem identifiers_of_two_disks :
    ∃ members after, (betaAdapter.call "ListDiskIDs" (.object [])).perform twoDisks =
        (.ok (.object [("disk_ids", .object members)]), after) ∧
      Keeps Row.toldIdentity Identity.schema
        [⟨10, none, none, some "naa.1"⟩, ⟨9, none, none, none⟩] members := by
  have hanswered : ((betaAdapter.call "ListDiskIDs" (.object [])).perform
      twoDisks).1.toOption.isSome = true := by decide +kernel
  have hread : (Output.list Row.reader "Get-Disk" twoDisksOutput).toOption =
      some [⟨10, none, none, some "naa.1"⟩, ⟨9, none, none, none⟩] := by decide +kernel
  obtain ⟨response, after, hcall⟩ := exists_of_isSome hanswered
  obtain ⟨output, rows, members, ⟨invocation, -, houtput⟩, hrows, rfl, hkeeps⟩ :=
    disk_identifiers_are_taken_back.2.1 _ twoDisks response after hcall
  have hprinted : (.ok twoDisksOutput : Except Fault String) = .ok output := houtput
  rw [Except.ok.inj hprinted, hrows] at hread
  obtain rfl := Option.some.inj hread
  exact ⟨members, after, hcall, hkeeps⟩

end Disk

end StorageGateway

import StorageGateway.Disk.Plan
import StorageGateway.Proofs.Json.Layouts
import StorageGateway.Proofs.Json.Records

/-!
# Rows of the list of disks

The host prints a row for a disk as an object: with the number of the disk, and with texts for its
location, its serial number and its identifier, each of which may be missing or nothing. Such a row
is read whatever else the object holds.
-/

namespace StorageGateway

namespace Json

/-! ## Members that nobody asks for -/

section
variable {names : List String} {examine : String → Reader Unit} {origin : Origin}

/-- Members under other names make no difference. -/
theorem examineMembers_filter (kept : List (String × Document)) (members : List (String × Json)) :
    examineMembers names examine origin kept (memberDocuments members) =
      examineMembers names examine origin kept
        (memberDocuments (members.filter fun m => names.contains m.1)) := by
  induction members generalizing kept with
  | nil => rfl
  | cons m members ih =>
    obtain ⟨name, value⟩ := m
    rw [memberDocuments, memberDocument, examineMembers]
    by_cases hname : names.contains name = true
    · have hkeeps : ((name, value) :: members).filter (fun m => names.contains m.1) =
          (name, value) :: members.filter fun m => names.contains m.1 :=
        List.filter_cons_of_pos hname
      rw [if_pos hname, hkeeps, memberDocuments, memberDocument, examineMembers, if_pos hname]
      simp only [ih]
    · have hdrops : ((name, value) :: members).filter (fun m => names.contains m.1) =
          members.filter fun m => names.contains m.1 := List.filter_cons_of_neg hname
      rw [if_neg hname, if_pos (skippable_toDocument value), hdrops]
      exact ih kept

/-- Of members with names of their own each is found under its name. -/
theorem lookup_of_mem {members : List (String × Json)} (hdistinct : (members.map (·.1)).Nodup)
    {m : String × Json} (h : m ∈ members) : members.lookup m.1 = some m.2 := by
  obtain ⟨before, after, rfl⟩ := List.append_of_mem h
  refine List.lookup_eq_some_iff.mpr ⟨before, after, rfl, fun other hother => ?_⟩
  rw [List.map_append, List.nodup_append] at hdistinct
  have hne := hdistinct.2.2 other.1 (List.mem_map_of_mem hother) m.1 List.mem_cons_self
  exact bne_iff_ne.mpr hne.symm

/-- Members with names of their own are kept when those that are asked for can be read. -/
theorem exists_examineMembers {members : List (String × Json)}
    (hdistinct : (members.map (·.1)).Nodup)
    (hexamine : ∀ name ∈ names, ∀ value, members.lookup name = some value →
      examine name origin value.toDocument = .ok ()) :
    ∃ kept, examineMembers names examine origin [] (memberDocuments members) = .ok kept ∧
      ∀ name ∈ names, kept.lookup name = (members.lookup name).map toDocument := by
  have hall : ∀ m ∈ members.filter fun m => names.contains m.1,
      m.1 ∈ names ∧ examine m.1 origin m.2.toDocument = .ok () := by
    intro m hm
    obtain ⟨hmem, hname⟩ := List.mem_filter.mp hm
    have hname : m.1 ∈ names := List.contains_iff_mem.mp hname
    exact ⟨hname, hexamine m.1 hname m.2 (lookup_of_mem hdistinct hmem)⟩
  have hnodup : ((members.filter fun m => names.contains m.1).map (·.1)).Nodup :=
    hdistinct.sublist (List.filter_sublist.map _)
  have hkept := examineMembers_of_forall hall [] (by simpa using hnodup)
  rw [← examineMembers_filter] at hkept
  refine ⟨_, hkept, fun name hname => ?_⟩
  rw [lookup_of_examineMembers hkept hname, List.lookup_nil, Option.none_or,
    lookup_memberDocuments]

/-- A record is read from what stands under its names, whatever else there is. -/
theorem Reader.record_of_lookup {α : Type} {record : String} {fields : Fields α} {a : α}
    {members : List (String × Json)} (hdistinct : (members.map (·.1)).Nodup)
    (hexamine : ∀ name ∈ fields.names, ∀ value, members.lookup name = some value →
      fields.examine name .value value.toDocument = .ok ())
    (hfields : ∀ kept : List (String × Document), (∀ name ∈ fields.names,
      kept.lookup name = (members.lookup name).map toDocument) →
        fields.ofMembers .value kept = .ok a) :
    (Reader.record record fields).ofJson (.object members) = .ok a := by
  obtain ⟨kept, hkept, hlookup⟩ := exists_examineMembers hdistinct hexamine
  exact Reader.record_object_eq_ok_iff.mpr ⟨kept, hkept, hfields kept hlookup⟩

end

end Json

namespace Disk

open Json

/-! ## Rows -/

/-- A text that may be missing or nothing. -/
inductive Gives : Option Json → Option String → Prop
  | missing : Gives none none
  | null : Gives (some .null) none
  | text (s : String) : Gives (some (.string s)) (some s)

/-- A row as the host prints it: each name once, a number, and texts that may be missing. -/
structure IsRow (row : Json) : Prop where
  ofMembers : ∃ members, row = .object members ∧ (members.map (·.1)).Nodup
  number : ∃ number : UInt32, row.member? "Number" = some (.nat number.toNat)
  texts : ∀ name ∈ ["Location", "SerialNumber", "UniqueId"], ∃ text, Gives (row.member? name) text

section
variable {value : Option Json} {text : Option String}

/-- A text that may be missing is read as it is given. -/
theorem Gives.read (h : Gives value text) {name : String} {kept : List (String × Document)}
    (hkept : kept.lookup name = value.map toDocument) :
    (Fields.defaulted name Reader.string.optional none).ofMembers .value kept = .ok text := by
  rw [Fields.ofMembers_defaulted_eq_ok_iff, hkept]
  cases h with
  | missing => exact .inr ⟨rfl, rfl⟩
  | null => exact .inl ⟨_, rfl, rfl⟩
  | text s => exact .inl ⟨_, rfl, rfl⟩

theorem Gives.exists_read {given : Json} (h : Gives value text) (hvalue : value = some given) :
    ∃ s, Reader.string.optional .value given.toDocument = .ok s := by
  cases h with
  | missing => cases hvalue
  | null =>
    cases hvalue
    exact ⟨none, rfl⟩
  | text s =>
    cases hvalue
    exact ⟨some s, rfl⟩

theorem Gives.bind_text? (h : Gives value text) : value.bind text? = text := by
  cases h <;> rfl

end

theorem Gives.depth_eq_zero {given : Json} {text : Option String} (h : Gives (some given) text) :
    given.depth = 0 := by
  cases h <;> rfl

/-- A row that holds nothing but what the script selects is no deeper than any object. -/
theorem IsRow.depth_le {members : List (String × Json)} (h : IsRow (.object members))
    (hselected : ∀ m ∈ members, m.1 ∈ ["Number", "Location", "SerialNumber", "UniqueId"]) :
    (Json.object members).depth ≤ 1 := by
  obtain ⟨_, ⟨⟩, hdistinct⟩ := h.ofMembers
  obtain ⟨number, hnumber⟩ := h.number
  refine Nat.succ_le_succ (membersDepth_le_iff.mpr fun m hm => Nat.le_zero.mpr ?_)
  have hlookup : (Json.object members).member? m.1 = some m.2 := lookup_of_mem hdistinct hm
  rcases List.mem_cons.mp (hselected m hm) with hname | hname
  · rw [hname, hnumber] at hlookup
    rw [← Option.some.inj hlookup]
    rfl
  · obtain ⟨text, htext⟩ := h.texts m.1 hname
    rw [hlookup] at htext
    exact htext.depth_eq_zero

/-- A row is read, with the number and the location that it gives. -/
theorem IsRow.read {row : Json} (h : IsRow row) : ∃ read, Row.reader.ofJson row = .ok read ∧
    row.member? "Number" = some (.nat read.number.toNat) ∧
      Gives (row.member? "Location") read.location := by
  obtain ⟨members, rfl, hdistinct⟩ := h.ofMembers
  obtain ⟨number, hnumber⟩ := h.number
  obtain ⟨location, hlocation⟩ := h.texts "Location" (by simp)
  obtain ⟨serialNumber, hserialNumber⟩ := h.texts "SerialNumber" (by simp)
  obtain ⟨uniqueId, huniqueId⟩ := h.texts "UniqueId" (by simp)
  refine ⟨⟨number, location, serialNumber, uniqueId⟩, ?_, hnumber, hlocation⟩
  refine Reader.record_of_lookup hdistinct (fun name hname value hvalue => ?_)
    fun kept hkept => ?_
  · simp only [Fields.names_seq, Fields.names_map, Fields.names_required, Fields.names_defaulted,
      List.mem_append, List.mem_singleton] at hname
    rcases hname with ((rfl | rfl) | rfl) | rfl
    · have hread : ∃ n, Reader.u32 .value value.toDocument = .ok n := by
        rw [Option.some.inj (hvalue.symm.trans hnumber)]
        exact ⟨number, Reader.u32_toDocument number⟩
      simpa using hread
    · simpa using hlocation.exists_read hvalue
    · simpa using hserialNumber.exists_read hvalue
    · simpa using huniqueId.exists_read hvalue
  · have hkeptNumber := (hkept "Number" (by simp)).trans (congrArg _ hnumber)
    have hkeptLocation := hlocation.read (hkept "Location" (by simp))
    have hkeptSerialNumber := hserialNumber.read (hkept "SerialNumber" (by simp))
    have hkeptUniqueId := huniqueId.read (hkept "UniqueId" (by simp))
    refine Fields.ofMembers_seq_eq_ok_iff.mpr ⟨_, _, ?_, hkeptUniqueId, rfl⟩
    refine Fields.ofMembers_seq_eq_ok_iff.mpr ⟨_, _, ?_, hkeptSerialNumber, rfl⟩
    refine Fields.ofMembers_seq_eq_ok_iff.mpr ⟨_, _, ?_, hkeptLocation, rfl⟩
    refine Fields.ofMembers_map_eq_ok_iff.mpr ⟨number, ?_, rfl⟩
    exact Fields.ofMembers_required_eq_ok_iff.mpr
      ⟨_, hkeptNumber, Reader.u32_toDocument number⟩

end Disk

end StorageGateway

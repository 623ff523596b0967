import StorageGateway.Proofs.Disk.Identifiers
import StorageGateway.Proofs.Disk.Locations
import StorageGateway.Proofs.Disk.Rows
import StorageGateway.Proofs.Host.Listings

/-!
# Where disks are attached

A listing of locations holds an entry for every number that a row with a location has, and the entry
is what the last such row tells. Rows that tell no location make no difference, and neither does the
order of rows whose numbers differ.
-/

namespace StorageGateway.Disk

open Host Json

/-! ## What rows tell -/

/-- A row has a number. -/
def Numbered (row : Json) (number : UInt32) : Prop :=
  row.member? "Number" = some (.nat number.toNat)

/-- A location stands somewhere in the words of a row. -/
def HasLocation (row : Json) : Prop :=
  ∃ words before location after, row.member? "Location" = some (.string words) ∧
    Stands words.toList before location after

/-- The location that a row tells. -/
def LocatedAt (row : Json) (location : Location) : Prop :=
  ∃ words, row.member? "Location" = some (.string words) ∧ TellsLocation words.toList location

/-- The location in the words of a row. -/
def rowLocation? (row : Json) : Option Location :=
  (row.textMember? "Location").bind fun words => location? words.toList

/-- The number of a row. -/
def rowNumber? (row : Json) : Option UInt32 :=
  (row.member? "Number").bind fun value => (Reader.u32.ofJson value).toOption

/-- The entry that a row makes. -/
def rowTells? (row : Json) : Option (UInt32 × Location) :=
  (rowNumber? row).bind fun number => (rowLocation? row).map (number, ·)

section
variable {row : Json} {number : UInt32} {location : Location}

theorem textMember?_eq_some_iff {name text : String} :
    row.textMember? name = some text ↔ row.member? name = some (.string text) := by
  rw [textMember?, Option.bind_eq_some_iff]
  constructor
  · rintro ⟨value, hvalue, htext⟩
    cases value <;> cases htext
    exact hvalue
  · intro h
    exact ⟨_, h, rfl⟩

theorem rowNumber?_eq_some_iff : rowNumber? row = some number ↔ Numbered row number := by
  have hread (value : Json) : (Reader.u32.ofJson value).toOption = some number ↔
      value = .nat number.toNat := by
    rw [← Reader.u32_ofJson_eq_ok_iff]
    cases Reader.u32.ofJson value <;> simp [Except.toOption]
  rw [rowNumber?, Option.bind_eq_some_iff]
  simp only [hread, exists_eq_right]
  rfl

theorem rowLocation?_eq_some_iff : rowLocation? row = some location ↔ LocatedAt row location := by
  rw [rowLocation?, Option.bind_eq_some_iff]
  simp only [textMember?_eq_some_iff, location?_eq_some_iff]
  rfl

theorem rowTells?_eq_some_iff :
    rowTells? row = some (number, location) ↔ Numbered row number ∧ LocatedAt row location := by
  rw [rowTells?, Option.bind_eq_some_iff]
  simp only [Option.map_eq_some_iff, rowNumber?_eq_some_iff, rowLocation?_eq_some_iff]
  constructor
  · rintro ⟨_, hnumber, _, hlocation, heq⟩
    obtain ⟨rfl, rfl⟩ := Prod.mk.inj heq
    exact ⟨hnumber, hlocation⟩
  · rintro ⟨hnumber, hlocation⟩
    exact ⟨number, hnumber, location, hlocation, rfl⟩

/-- A row tells a location when one stands in its words, and no other row does. -/
theorem hasLocation_iff : HasLocation row ↔ ∃ location, LocatedAt row location := by
  constructor
  · rintro ⟨words, before, location, after, hwords, hstands⟩
    have hsome : location? words.toList ≠ none := fun hnone =>
      location?_eq_none_iff.mp hnone before location after hstands
    obtain ⟨found, hfound⟩ := Option.ne_none_iff_exists'.mp hsome
    exact ⟨found, words, hwords, location?_eq_some_iff.mp hfound⟩
  · rintro ⟨location, words, hwords, before, after, hstands, -⟩
    exact ⟨words, before, location, after, hwords, hstands⟩

instance : DecidablePred HasLocation := fun row =>
  decidable_of_iff ((rowLocation? row).isSome = true) <| by
    rw [hasLocation_iff, Option.isSome_iff_exists]
    simp only [rowLocation?_eq_some_iff]

/-- A row makes no entry for a number when it has another one or tells no location. -/
theorem forall_rowTells?_ne_iff :
    (∀ entry, rowTells? row = some entry → entry.1 ≠ number) ↔
      (Numbered row number → ¬ HasLocation row) := by
  constructor
  · intro h hnumber hlocation
    obtain ⟨location, hlocation⟩ := hasLocation_iff.mp hlocation
    exact h (number, location) (rowTells?_eq_some_iff.mpr ⟨hnumber, hlocation⟩) rfl
  · rintro h ⟨other, location⟩ hentry rfl
    obtain ⟨hnumber, hlocation⟩ := rowTells?_eq_some_iff.mp hentry
    exact h hnumber (hasLocation_iff.mpr ⟨location, hlocation⟩)

theorem rowTells?_of_not_hasLocation (h : ¬ HasLocation row) : rowTells? row = none := by
  by_contra hsome
  obtain ⟨⟨number, location⟩, hentry⟩ := Option.ne_none_iff_exists'.mp hsome
  exact h (hasLocation_iff.mpr ⟨location, (rowTells?_eq_some_iff.mp hentry).2⟩)

end

/-! ## What a list of rows tells -/

/-- The locations of disks by their numbers. -/
def located (rows : List Json) : Locations := .ofEntries (rows.filterMap rowTells?)

section
variable {rows other : List Json} {number : UInt32} {location : Location}

theorem sorted_located (rows : List Json) : Table.Sorted (located rows) := Table.sorted_ofEntries _

/-- A disk is where the last row says that has its number and says anything. -/
theorem mem_located_iff : (number, location) ∈ located rows ↔
    ∃ before row after, rows = before ++ row :: after ∧
      (Numbered row number ∧ LocatedAt row location) ∧
        ∀ later ∈ after, Numbered later number → ¬ HasLocation later := by
  rw [located, Table.mem_ofEntries_filterMap_iff]
  simp only [rowTells?_eq_some_iff, forall_rowTells?_ne_iff]

/-- A disk is somewhere when some row tells where. -/
theorem exists_mem_located_iff : (∃ location, (number, location) ∈ located rows) ↔
    ∃ row ∈ rows, Numbered row number ∧ HasLocation row := by
  constructor
  · rintro ⟨location, h⟩
    obtain ⟨before, row, after, rfl, ⟨hnumber, hlocation⟩, -⟩ := mem_located_iff.mp h
    exact ⟨row, by simp, hnumber, hasLocation_iff.mpr ⟨location, hlocation⟩⟩
  · rintro ⟨row, hrow, hnumber, hlocation⟩
    obtain ⟨location, hlocation⟩ := hasLocation_iff.mp hlocation
    have hentry : (number, location) ∈ rows.filterMap rowTells? :=
      List.mem_filterMap.mpr ⟨row, hrow, rowTells?_eq_some_iff.mpr ⟨hnumber, hlocation⟩⟩
    obtain ⟨⟨_, kept⟩, hkept, rfl⟩ := Table.exists_mem_ofEntries hentry
    exact ⟨kept, hkept⟩

/-- Rows that tell no location make no difference. -/
theorem located_filter (rows : List Json) :
    located (rows.filter fun row => HasLocation row) = located rows := by
  rw [located, located, List.filterMap_filter]
  congr 2
  funext row
  by_cases h : HasLocation row
  · simp [h]
  · simp [h, rowTells?_of_not_hasLocation h]

/-- Rows with numbers of their own make entries with numbers of their own. -/
theorem nodup_entries (h : (rows.map (member? "Number")).Nodup) :
    ((rows.filterMap rowTells?).map (·.1)).Nodup := by
  rw [List.Nodup, List.pairwise_map] at h ⊢
  refine List.pairwise_filterMap.mpr (h.imp fun {first second} hne entry hentry other hother => ?_)
  have hfirst : Numbered first entry.1 := (rowTells?_eq_some_iff.mp hentry).1
  have hsecond : Numbered second other.1 := (rowTells?_eq_some_iff.mp hother).1
  intro hsame
  rw [Numbered, ← hsame] at hsecond
  exact hne (hfirst.trans hsecond.symm)

/-- The order of rows with numbers of their own makes no difference. -/
theorem located_of_perm (hperm : rows.Perm other) (h : (rows.map (member? "Number")).Nodup) :
    located rows = located other := by
  -- With keys that differ a table is told by its entries, and these are the same in any order.
  have hentries := nodup_entries h
  have hothers := nodup_entries ((hperm.map _).nodup_iff.mp h)
  refine (sorted_located rows).ext (sorted_located other) fun entry => ?_
  rw [located, located, Table.mem_ofEntries_iff_of_nodup hentries,
    Table.mem_ofEntries_iff_of_nodup hothers]
  exact (hperm.filterMap rowTells?).mem_iff

end

/-! ## Rows as they are read -/

section
variable {rows : List Json} {reads : List Row}

/-- A row tells what is read from it. -/
theorem IsRow.entry_of_read {row : Json} (h : IsRow row) {read : Row}
    (hread : Row.reader.ofJson row = .ok read) :
    rowTells? row = read.toldLocation.map (read.number, ·) := by
  obtain ⟨same, hsame, hnumber, hgives⟩ := h.read
  obtain rfl : read = same := Except.ok.inj (hread.symm.trans hsame)
  rw [rowTells?, rowNumber?_eq_some_iff.mpr hnumber, rowLocation?, textMember?, hgives.bind_text?]
  rfl

/-- Rows that are read one by one tell what is read from them. -/
theorem located_of_reads (hrows : ∀ row ∈ rows, IsRow row)
    (hreads : List.Forall₂ (fun row read => Row.reader.ofJson row = .ok read) rows reads) :
    Row.locations reads = located rows := by
  have hentries : List.Forall₂ (fun row read =>
      rowTells? row = read.toldLocation.map (read.number, ·)) rows reads :=
    ((List.forall₂_and_left rows reads).mpr ⟨hrows, hreads⟩).imp fun _ _ h =>
      h.1.entry_of_read h.2
  -- From here on only the entries count, not where they come from.
  clear hrows hreads
  rw [← tabulate_location, tabulate, located]
  congr 1
  induction hentries with
  | nil => rfl
  | cons hentry _ ih => rw [List.filterMap_cons, List.filterMap_cons, hentry, ih]

end

/-! ## The answer -/

/-- Output that a list of rows is read from: as a list is printed, or within brackets however few
they are, or nothing said to be so. -/
inductive Lists : List Json → String → Prop
  | printed {rows : List Json} {output : String} (h : Prints rows output) : Lists rows output
  | bracketed {rows : List Json} {output : String} {text : List Char}
      (h : Spells (.array rows) text) (hshows : Shows output text) : Lists rows output
  | null {output : String} {text : List Char} (h : Spells .null text)
      (hshows : Shows output text) : Lists [] output

/-- What comes of a call for the locations, at whatever version, on a host that lists some rows. -/
inductive Listed (rows : List Json) : Except Fault Json → Prop
  | call {adapter : Adapter Machine} {params : Json} {machine : Machine} {output : String}
      (hadapter : adapter ∈ adapters)
      (hparams : (Schema.empty "ListDiskLocationsRequest").read.ofJson params = .ok ())
      (hanswer : machine.answer
        ⟨"Get-Disk | Select-Object Number, Location, SerialNumber, UniqueId | ConvertTo-Json", []⟩ =
          .ok output)
      (hlists : Lists rows output) (hrows : ∀ row ∈ rows, IsRow row)
      (hdepth : ∀ row ∈ rows, row.depth < greatestDepth) :
      Listed rows ((adapter.call "ListDiskLocations" params).perform machine).1

/-- The response that holds the locations in some rows. -/
def locationsResponse (rows : List Json) : Json :=
  .object [("disk_locations",
    .object (Table.mapValues Location.schema.write (Beta.byText (located rows))))]

section
variable {rows : List Json} {output : String} {adapter : Adapter Machine}

theorem IsRow.isSingle {row : Json} (h : IsRow row) : IsSingle row := by
  obtain ⟨members, rfl, -⟩ := h.ofMembers
  exact ⟨nofun, nofun⟩

/-- Rows are read whichever way they are listed. -/
theorem locations_of_lists (h : Lists rows output) (hrows : ∀ row ∈ rows, IsRow row)
    (hdepth : ∀ row ∈ rows, row.depth < greatestDepth) :
    (Output.list Row.reader "Get-Disk" output).map Row.locations = .ok (located rows) := by
  have hitems : Output.list Row.reader "Get-Disk" output =
      Output.items Row.reader "Get-Disk" rows := by
    have hnested : (Json.array rows).depth ≤ greatestDepth :=
      Nat.succ_le_succ (itemsDepth_le_iff.mpr fun row hrow => Nat.le_of_lt_succ (hdepth row hrow))
    cases h with
    | printed h =>
      refine Output.list_of_prints h (fun row hrow => (hrows row hrow).isSingle) ?_
      exact (printedDepth_le rows).trans hnested
    | bracketed h hshows => exact Output.list_of_array h hshows hnested
    | null h hshows => exact Output.list_of_null h hshows
  have hread : ∀ row ∈ rows, ∃ read, Row.reader.ofJson row = .ok read := fun row hrow =>
    let ⟨read, hread, _⟩ := (hrows row hrow).read
    ⟨read, hread⟩
  obtain ⟨reads, hreads⟩ := Output.exists_items_iff.mpr hread
  have hlocations := located_of_reads hrows (Output.items_eq_ok_iff.mp hreads)
  exact map_eq_ok_iff.mpr ⟨reads, hitems.trans hreads, hlocations⟩

/-- Both versions write locations under the texts of the numbers. -/
theorem exists_locationsRoute (h : adapter ∈ adapters) :
    ∃ (Wire : Type) (encode : Conversion Locations Wire) (response : Schema Wire),
      listLocationsRoute encode response ∈ adapter.routes ∧
        ∀ rows, ∃ wire, encode (located rows) = .ok wire ∧
          response.write wire = locationsResponse rows := by
  simp only [adapters, List.mem_cons, List.not_mem_nil, or_false] at h
  rcases h with rfl | rfl
  · refine ⟨_, Beta.encodeLocations, Beta.locationsSchema, .head _, fun rows => ⟨_, rfl, ?_⟩⟩
    exact congrArg (fun entries => Json.object [("disk_locations", entries)])
      (Beta.write_named (Beta.sorted_byText (located rows)))
  · refine ⟨_, .same, locationsSchema, .head _, fun rows => ⟨_, rfl, ?_⟩⟩
    exact congrArg (fun entries => Json.object [("disk_locations", entries)])
      (Beta.write_numbered (located rows))

/-- Every call is answered with the locations in the rows. -/
theorem Listed.eq {outcome : Except Fault Json} (h : Listed rows outcome) :
    outcome = .ok (locationsResponse rows) := by
  obtain ⟨hadapter, hparams, hanswer, hlists, hrows, hdepth⟩ := h
  obtain ⟨Wire, encode, response, hroute, hwrites⟩ := exists_locationsRoute hadapter
  obtain ⟨wire, hencoded, hwritten⟩ := hwrites rows
  have hdistinct := Group.distinct (show _ ∈ Group.disk.adapters ⟨[], []⟩ from hadapter)
  have hplan : listLocations () = .ok ⟨[.code
      "Get-Disk | Select-Object Number, Location, SerialNumber, UniqueId | ConvertTo-Json"], [],
      fun output => (Output.list Row.reader "Get-Disk" output).map Row.locations⟩ := rfl
  have hscript (code : String) : Script.text [.code code] = code := by
    rw [Script.text_code, Script.text_nil, String.append_empty]
  rw [← hscript
    "Get-Disk | Select-Object Number, Location, SerialNumber, UniqueId | ConvertTo-Json"] at hanswer
  have hperformed := Plan.perform_of_routed hdistinct hroute rfl rfl hparams rfl hplan hanswer
    (locations_of_lists hlists hrows hdepth) hencoded
  rw [hperformed, hwritten]

end

/-! ## What a listing of locations promises -/

/-- Members hold the locations in a list of rows. -/
structure Tabulates (rows : List Json) (members : List (String × Json)) : Prop where
  /-- No disk is listed twice. -/
  distinct : (members.map (·.1)).Nodup
  /-- The disks that are listed are those of which some row tells where they are. -/
  keys : ∀ key, key ∈ members.map (·.1) ↔
    ∃ row ∈ rows, ∃ number, Numbered row number ∧ HasLocation row ∧ key = identifier number
  /-- A disk is listed with what the last such row tells. -/
  values : ∀ member ∈ members, ∃ before row after number location,
    rows = before ++ row :: after ∧ Numbered row number ∧ LocatedAt row location ∧
      (∀ later ∈ after, Numbered later number → ¬ HasLocation later) ∧
        member = (identifier number, .object [("adapter", .string location.adapter),
          ("bus", .string location.bus), ("lun_id", .string location.lun),
          ("target", .string location.target)])

/-- What is promised about a call for the locations, made of a host that lists some rows. -/
structure LocatesDisks (rows : List Json) (outcome : Except Fault Json) : Prop where
  /-- The call is answered, with the locations in the rows. -/
  answered : ∃ members, outcome = .ok (.object [("disk_locations", .object members)]) ∧
    Tabulates rows members
  /-- Rows that tell no location make no difference. -/
  skips : ∀ other result, Listed other result →
    (rows.filter fun row => HasLocation row) = (other.filter fun row => HasLocation row) →
      outcome = result
  /-- Neither does the order of rows whose numbers differ. -/
  unordered : ∀ other result, Listed other result → rows.Perm other →
    (rows.map (member? "Number")).Nodup → outcome = result

/-- The members of the response hold the locations in the rows. -/
theorem tabulates_located (rows : List Json) :
    Tabulates rows (Table.mapValues Location.schema.write (Beta.byText (located rows))) := by
  have hmembers (member : String × Json) :
      member ∈ Table.mapValues Location.schema.write (Beta.byText (located rows)) ↔
        ∃ number location, (number, location) ∈ located rows ∧
          (identifier number, Location.schema.write location) = member := by
    simp only [Table.mapValues, List.mem_map, Beta.mem_byText_iff (sorted_located rows)]
    constructor
    · rintro ⟨_, ⟨⟨number, location⟩, hentry, rfl⟩, rfl⟩
      exact ⟨number, location, hentry, rfl⟩
    · rintro ⟨number, location, hentry, rfl⟩
      exact ⟨_, ⟨(number, location), hentry, rfl⟩, rfl⟩
  constructor
  case distinct =>
    rw [Table.mapValues, List.map_map]
    exact (Beta.sorted_byText _).nodup
  case keys =>
    intro key
    rw [List.mem_map]
    constructor
    · rintro ⟨member, hmember, rfl⟩
      obtain ⟨number, location, hentry, rfl⟩ := (hmembers member).mp hmember
      obtain ⟨row, hrow, hnumber, hlocation⟩ := exists_mem_located_iff.mp ⟨location, hentry⟩
      exact ⟨row, hrow, number, hnumber, hlocation, rfl⟩
    · rintro ⟨row, hrow, number, hnumber, hlocation, rfl⟩
      obtain ⟨location, hentry⟩ := exists_mem_located_iff.mpr ⟨row, hrow, hnumber, hlocation⟩
      exact ⟨_, (hmembers _).mpr ⟨number, location, hentry, rfl⟩, rfl⟩
  case values =>
    intro member hmember
    obtain ⟨number, location, hentry, rfl⟩ := (hmembers member).mp hmember
    obtain ⟨before, row, after, hrows, ⟨hnumber, hlocation⟩, hlater⟩ := mem_located_iff.mp hentry
    exact ⟨before, row, after, number, location, hrows, hnumber, hlocation, hlater, rfl⟩

/-- Where disks are attached is told by the last row of each disk that tells where it is, at every
version and however the rows are printed: what is `Listed` for the rows `LocatesDisks`. -/
theorem locations_are_listed {rows : List Json} {outcome : Except Fault Json}
    (h : Listed rows outcome) : LocatesDisks rows outcome where
  answered := ⟨_, h.eq, tabulates_located rows⟩
  skips other result hother hsame := by
    rw [h.eq, hother.eq, locationsResponse, locationsResponse, ← located_filter rows, hsame,
      located_filter]
  unordered other result hother hperm hnumbers := by
    rw [h.eq, hother.eq, locationsResponse, locationsResponse, located_of_perm hperm hnumbers]

/-- A disk with a location, the same disk with words that tell none, and a disk without words. -/
def attachedRows : List Json := [
  .object [("Location", .string "PCI Slot 3 : Adapter 2 : Port 1 : Target 4 : LUN 007"),
    ("Number", .nat 1)],
  .object [("Location", .string "Integrated : Bus 0"), ("Number", .nat 1)],
  .object [("Location", .null), ("Number", .nat 0)]]

/-- A host that prints the rows. -/
def attachedDisks : Machine where
  shell := { answer _ _ := .ok ((Json.array attachedRows).render ++ "\r\n") }

theorem isRow_attached : ∀ row ∈ attachedRows, IsRow row ∧ row.depth < greatestDepth := by
  have hrow (n : UInt32) {location : Json} (hlocation : ∃ text, Gives (some location) text) :
      IsRow (.object [("Location", location), ("Number", .nat n.toNat)]) ∧
        (Json.object [("Location", location), ("Number", .nat n.toNat)]).depth < greatestDepth := by
    have h : IsRow (.object [("Location", location), ("Number", .nat n.toNat)]) := by
      refine ⟨⟨_, rfl, by simp⟩, ⟨n, rfl⟩, ?_⟩
      simp only [List.forall_mem_cons]
      exact ⟨hlocation, ⟨none, .missing⟩, ⟨none, .missing⟩, List.forall_mem_nil _⟩
    exact ⟨h, Nat.lt_of_le_of_lt (h.depth_le (by simp)) (by decide)⟩
  simp only [attachedRows, List.forall_mem_cons]
  exact ⟨hrow 1 ⟨_, .text _⟩, hrow 1 ⟨_, .text _⟩, hrow 0 ⟨_, .null⟩, List.forall_mem_nil _⟩

theorem readable_attached : Json.Readable 2 (.array attachedRows) := by
  have hrow (n : Nat) (hn : n < 2 ^ 63) {location : Json} (hlocation : Json.Readable 0 location) :
      Json.Readable 1 (.object [("Location", location), ("Number", .nat n)]) := by
    have hnames : "Location" < "Number" := String.lt_iff_toList_lt.mpr (by decide)
    have hnumber : Json.Readable 0 (.nat n) :=
      .number 0 (Json.Token.numberReadsBack_int (by omega) (by omega))
    refine .object (List.pairwise_pair.mpr hnames) ?_
    simp only [List.forall_mem_cons]
    exact ⟨hlocation, hnumber, List.forall_mem_nil _⟩
  refine .array ?_
  simp only [attachedRows, List.forall_mem_cons]
  exact ⟨hrow 1 (by decide) (.string 0 _), hrow 1 (by decide) (.string 0 _),
    hrow 0 (by decide) (.null 0), List.forall_mem_nil _⟩

theorem listed_attached : Listed attachedRows
    ((stableAdapter.call "ListDiskLocations" (.object [])).perform attachedDisks).1 := by
  have hlists : Lists attachedRows ((Json.array attachedRows).render ++ "\r\n") :=
    .bracketed readable_attached.spells (shows_line _)
  exact .call (by simp [adapters]) rfl rfl hlists (fun row hrow => (isRow_attached row hrow).1)
    fun row hrow => (isRow_attached row hrow).2

theorem attached_disks_are_located :
    Listed attachedRows
        ((stableAdapter.call "ListDiskLocations" (.object [])).perform attachedDisks).1 ∧
      LocatesDisks attachedRows
        ((stableAdapter.call "ListDiskLocations" (.object [])).perform attachedDisks).1 :=
  ⟨listed_attached, locations_are_listed listed_attached⟩

example : locationsResponse attachedRows = .object [("disk_locations", .object [
    ("1", .object [("adapter", .string "2"), ("bus", .string "1"), ("lun_id", .string "007"),
      ("target", .string "4")])])] := by
  rfl

end StorageGateway.Disk

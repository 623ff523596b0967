import Mathlib.Data.Set.List
import StorageGateway.Proofs.Disk.Views
import StorageGateway.Proofs.Json.Keys

/-!
# Maps by number and by text

Locations and identities are listed by the numbers of the disks, and before the first stable version
by the texts of the numbers. There are two ways from one to the other: the encoder of the old
version enters every value under the text of its number, and the structural conversion writes the
map as JSON and reads it again, where numbers are written and read as names. Numbers with one text
are equal, so neither loses an entry, and both give the same map.
-/

namespace StorageGateway

namespace Conversion

variable {α β : Type} {source : Schema α} {target : Schema β}

theorem structural_eq_ok_iff {a : α} {b : β} :
    structural source target a = .ok b ↔ target.read.ofJson (source.write a) = .ok b := by
  unfold structural throughJson Schema.writer
  dsimp only
  split <;> simp [*]

/-- Between records with one field of the same name its value is converted. -/
theorem structural_single_eq_ok_iff {record other field : String} {a : α} {b : β} :
    structural (.single record field source) (.single other field target) a = .ok b ↔
      target.read.ofJson (source.write a) = .ok b := by
  rw [structural_eq_ok_iff]
  constructor
  · intro h
    obtain ⟨x, hx, hread⟩ := Json.Reader.exists_of_read_one h
    have hwritten : source.write a = x := by simpa [Schema.single, Json.field?] using hx
    rw [hwritten]
    exact hread
  · intro h
    unfold Json.Reader.ofJson at h
    refine (Json.Reader.record_of_members ?_ ?_).trans ?_
    · simp [h]
    · simp
    · simp [h]

end Conversion

namespace Disk

open Json

namespace Beta

section
variable {α : Type} {value : Schema α}

/-- An entry under the text of its number. -/
def textEntry (entry : UInt32 × α) : String × α := (toString entry.1.toNat, entry.2)

theorem byText_eq (table : Table UInt32 α) : byText table = Table.ofEntries (table.map textEntry) :=
  rfl

theorem textEntry_injective : Function.Injective (textEntry (α := α)) := by
  intro first second h
  obtain ⟨hnumber, hvalue⟩ := Prod.mk.inj h
  exact Prod.ext (toString_injective hnumber) hvalue

/-- Entries whose numbers differ have texts that differ, and the other way round. -/
theorem nodup_texts_iff {entries : List (UInt32 × α)} :
    ((entries.map textEntry).map (·.1)).Nodup ↔ (entries.map (·.1)).Nodup := by
  have htexts : (entries.map textEntry).map (·.1) =
      (entries.map (·.1)).map fun number : UInt32 => toString number.toNat := by simp [textEntry]
  rw [htexts]
  exact List.nodup_map_iff fun _ _ => toString_injective

theorem sorted_byText (table : Table UInt32 α) : Table.Sorted (byText table) :=
  Table.sorted_ofEntries _

/-- Every value stands under the text of its number, and there is nothing else. -/
theorem mem_byText_iff {table : Table UInt32 α} (h : Table.Sorted table) {entry : String × α} :
    entry ∈ byText table ↔ ∃ numbered ∈ table, textEntry numbered = entry := by
  rw [byText_eq, Table.mem_ofEntries_iff_of_nodup (nodup_texts_iff.mpr h.nodup), List.mem_map]

theorem exists_map_textEntry {entries : List (String × α)}
    (h : ∀ entry ∈ entries, ∃ number : UInt32, entry.1 = toString number.toNat) :
    ∃ numbered : List (UInt32 × α), numbered.map textEntry = entries := by
  have hrange : entries ∈ Set.range (List.map (textEntry (α := α))) := by
    rw [Set.range_list_map]
    intro entry hentry
    obtain ⟨number, hnumber⟩ := h entry hentry
    exact ⟨(number, entry.2), by rw [textEntry, ← hnumber]⟩
  exact hrange

/-- Putting values that stand under texts under the numbers and back changes nothing. -/
theorem byText_ofEntries {renamed : Table String α} (hsorted : Table.Sorted renamed)
    {numbered : List (UInt32 × α)} (h : numbered.map textEntry = renamed) :
    byText (Table.ofEntries numbered) = renamed := by
  have hnodup : (numbered.map (·.1)).Nodup := nodup_texts_iff.mp (h ▸ hsorted.nodup)
  refine (sorted_byText _).ext hsorted fun entry => ?_
  rw [mem_byText_iff (Table.sorted_ofEntries _), ← h, List.mem_map]
  simp only [Table.mem_ofEntries_iff_of_nodup hnodup]

/-- Putting values under texts and back under the numbers changes nothing. -/
theorem ofEntries_of_byText {table : Table UInt32 α} (hsorted : Table.Sorted table)
    {numbered : List (UInt32 × α)} (h : numbered.map textEntry = byText table) :
    Table.ofEntries numbered = table := by
  have hnodup : (numbered.map (·.1)).Nodup := nodup_texts_iff.mp (h ▸ (sorted_byText table).nodup)
  refine (Table.sorted_ofEntries _).ext hsorted fun entry => ?_
  rw [Table.mem_ofEntries_iff_of_nodup hnodup, ← List.mem_map_of_injective textEntry_injective, h,
    mem_byText_iff hsorted]
  simp [textEntry_injective.eq_iff]

/-! ## Maps as they are written and read -/

theorem write_named {renamed : Table String α} (h : Table.Sorted renamed) :
    (Schema.named value).write renamed = .object (Table.mapValues value.write renamed) := by
  have hentries : (Schema.named value).write renamed =
      .object (Table.ofEntries (Table.mapValues value.write renamed)) := rfl
  rw [hentries, Table.ofEntries_mapValues, h.ofEntries_eq]

theorem write_numbered (table : Table UInt32 α) :
    (Schema.numbered value).write table = .object (Table.mapValues value.write (byText table)) := by
  rw [← write_byText, write_named (sorted_byText table)]

/-- What is read from the members of an object whose values are written under texts. -/
theorem read_table {κ : Type} [LT κ] [DecidableLT κ] [DecidableEq κ]
    {readName : String → Except Refusal κ} {writeName : κ → String} (hvalue : value.ReadsBack)
    {renamed : List (String × α)} {table : Table κ α} :
    (Schema.table readName writeName value).read.ofJson
        (.object (Table.mapValues value.write renamed)) = .ok table ↔
      ∃ entries, List.Forall₂ (fun entry found => readName entry.1 = .ok found.1 ∧
        entry.2 = found.2) renamed entries ∧ Table.ofEntries entries = table := by
  have hread : (Schema.table readName writeName value).read.ofJson
      (.object (Table.mapValues value.write renamed)) =
      (Reader.entries readName value.read .value
        (memberDocuments (Table.mapValues value.write renamed))).map Table.ofEntries := rfl
  have hback (a b : α) : value.read .value (value.write a).toDocument = .ok b ↔ a = b := by
    rw [hvalue.toDocument a, Except.ok.injEq]
  rw [hread, map_eq_ok_iff]
  simp only [Reader.entries_eq_ok_iff, Table.mapValues, List.forall₂_map_left_iff, hback]

/-- A map under texts is read under numbers when its names are texts of numbers. -/
theorem read_numbered (hvalue : value.ReadsBack) {renamed : Table String α}
    (hsorted : Table.Sorted renamed) {table : Table UInt32 α} :
    (Schema.numbered value).read.ofJson ((Schema.named value).write renamed) = .ok table ↔
      ∃ numbered, numbered.map textEntry = renamed ∧ Table.ofEntries numbered = table := by
  have hentries (numbered : List (UInt32 × α)) :
      List.Forall₂ (fun entry found => Reader.u32Name entry.1 = .ok found.1 ∧
        entry.2 = found.2) renamed numbered ↔ numbered.map textEntry = renamed := by
    simp only [Reader.u32Name_eq_ok_iff]
    rw [eq_comm, ← List.forall₂_eq_eq_eq, List.forall₂_map_right_iff]
    simp only [textEntry, Prod.ext_iff]
  rw [write_named hsorted, Schema.numbered, read_table hvalue]
  simp only [hentries]

/-- A map under numbers is read under their texts. -/
theorem read_named (hvalue : value.ReadsBack) (table : Table UInt32 α) :
    (Schema.named value).read.ofJson ((Schema.numbered value).write table) =
      .ok (byText table) := by
  rw [write_numbered, Schema.named, read_table hvalue]
  refine ⟨byText table, ?_, (sorted_byText table).ofEntries_eq⟩
  exact List.forall₂_same.mpr fun entry _ => ⟨rfl, rfl⟩

/-! ## Both ways -/

/-- How a map by number and the same map by text are converted to each other, where an encoder of
its own goes from the first to the second. -/
structure Renames {α : Type} (stable : Schema (Table UInt32 α)) (beta : Schema (Table String α))
    (encode : Conversion (Table UInt32 α) (Table String α)) : Prop where
  /-- The encoder and the structural conversion give the same map, which is written alike and is
  converted back to where it comes from. -/
  forth : ∀ table : Table UInt32 α, table.Sorted → ∃ renamed : Table String α, renamed.Sorted ∧
    encode table = .ok renamed ∧ Conversion.structural stable beta table = .ok renamed ∧
    beta.write renamed = stable.write table ∧
    Conversion.structural beta stable renamed = .ok table
  /-- A map by text is converted when all its names are numbers in decimal, and no other. -/
  taken : ∀ renamed : Table String α, renamed.Sorted →
    ((∃ table, Conversion.structural beta stable renamed = .ok table) ↔
      ∀ entry ∈ renamed, ∃ number : UInt32, entry.1 = toString number.toNat)
  /-- What a map by text is converted to is converted back to it. -/
  back : ∀ renamed : Table String α, renamed.Sorted → ∀ table : Table UInt32 α,
    Conversion.structural beta stable renamed = .ok table →
      table.Sorted ∧ Conversion.structural stable beta table = .ok renamed

theorem structural_byText (hvalue : value.ReadsBack) (record other field : String)
    (table : Table UInt32 α) :
    Conversion.structural (.single record field (.numbered value))
      (.single other field (.named value)) table = .ok (byText table) :=
  Conversion.structural_single_eq_ok_iff.mpr (read_named hvalue table)

/-- The only maps by text that are converted are those of entries under the texts of numbers. -/
theorem structural_byNumber (hvalue : value.ReadsBack) {record other field : String}
    {renamed : Table String α} (hsorted : renamed.Sorted) {table : Table UInt32 α} :
    Conversion.structural (.single record field (.named value))
        (.single other field (.numbered value)) renamed = .ok table ↔
      ∃ numbered, numbered.map textEntry = renamed ∧ Table.ofEntries numbered = table := by
  rw [Conversion.structural_single_eq_ok_iff, read_numbered hvalue hsorted]

theorem renames_single (hvalue : value.ReadsBack) (record field : String) :
    Renames (.single record field (.numbered value)) (.single record field (.named value))
      fun table => .ok (byText table) where
  forth table hsorted := by
    refine ⟨byText table, sorted_byText table, rfl, structural_byText hvalue _ _ _ table,
      write_single_byText record record field value table, ?_⟩
    rw [structural_byNumber hvalue (sorted_byText table)]
    have htexts : ∀ entry ∈ byText table, ∃ number : UInt32, entry.1 = toString number.toNat := by
      intro entry hentry
      obtain ⟨numbered, -, rfl⟩ := (mem_byText_iff hsorted).mp hentry
      exact ⟨numbered.1, rfl⟩
    obtain ⟨numbered, hnumbered⟩ := exists_map_textEntry htexts
    exact ⟨numbered, hnumbered, ofEntries_of_byText hsorted hnumbered⟩
  taken renamed hsorted := by
    simp only [structural_byNumber hvalue hsorted]
    constructor
    · rintro ⟨_, numbered, rfl, -⟩ entry hentry
      obtain ⟨found, -, rfl⟩ := List.mem_map.mp hentry
      exact ⟨found.1, rfl⟩
    · intro htexts
      obtain ⟨numbered, hnumbered⟩ := exists_map_textEntry htexts
      exact ⟨_, numbered, hnumbered, rfl⟩
  back renamed hsorted table hconverted := by
    obtain ⟨numbered, hnumbered, rfl⟩ := (structural_byNumber hvalue hsorted).mp hconverted
    refine ⟨Table.sorted_ofEntries numbered, ?_⟩
    rw [structural_byText hvalue, byText_ofEntries hsorted hnumbered]

end

end Beta

theorem readsBack_location : Location.schema.ReadsBack := by
  intro location
  refine (Reader.record_of_members ?_ ?_).trans ?_
  · simp
  · simp
  · simp [List.lookup_cons]

theorem readsBack_identity : Identity.schema.ReadsBack := by
  intro identity
  refine (Reader.record_of_members ?_ ?_).trans ?_
  · simp
  · simp
  · simp [List.lookup_cons]

/-- Locations and identities by number are the same maps by text, in the sense of `Beta.Renames`.
The encoders of `v1beta3` do what `Conversion.structural` does, and write every list as `v1` does;
and the structural conversion goes back from every map whose names are numbers in decimal, and from
no other, without losing or changing an entry. -/
theorem disk_maps_are_renamed_both_ways :
    Beta.Renames locationsSchema Beta.locationsSchema Beta.encodeLocations ∧
    Beta.Renames identitiesSchema Beta.identitiesSchema Beta.encodeIdentities :=
  ⟨Beta.renames_single readsBack_location _ _, Beta.renames_single readsBack_identity _ _⟩

/-- Texts are not in the order of the numbers. -/
example : Conversion.structural Beta.identitiesSchema identitiesSchema
    [("10", ⟨"naa.1", "A"⟩), ("9", ⟨"naa.2", "B"⟩)] =
    .ok [(9, ⟨"naa.2", "B"⟩), (10, ⟨"naa.1", "A"⟩)] := by
  decide +kernel

end Disk

end StorageGateway

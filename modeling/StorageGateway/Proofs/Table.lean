import Mathlib.Data.List.Induction
import Mathlib.Data.List.Nodup
import Mathlib.Data.String.Basic
import Mathlib.Order.RelClasses
import StorageGateway.Table

/-!
# Sorted tables

Entering keeps a table sorted and does not look at values, so a table is the table of its own
entries, and values may be changed before they are entered or afterwards.
-/

namespace StorageGateway.Table

instance : IsStrictTotalOrder UInt32 (· < ·) where
  trichotomous _ _ hlt hgt := UInt32.le_antisymm (UInt32.not_lt.mp hgt) (UInt32.not_lt.mp hlt)
  irrefl n := UInt32.lt_irrefl n
  trans _ _ _ := UInt32.lt_trans

variable {κ α β : Type} [LT κ] [DecidableLT κ] [DecidableEq κ]

/-- Keys stand in ascending order. -/
def Sorted (table : Table κ α) : Prop := table.Pairwise fun first second => first.1 < second.1

/-- The same keys with other values. -/
def mapValues (f : α → β) (table : List (κ × α)) : List (κ × β) :=
  table.map fun entry => (entry.1, f entry.2)

theorem insert_mapValues (f : α → β) (key : κ) (value : α) (table : Table κ α) :
    insert key (f value) (mapValues f table) = mapValues f (insert key value table) := by
  induction table with
  | nil => rfl
  | cons entry table ih =>
    obtain ⟨other, old⟩ := entry
    show insert key (f value) ((other, f old) :: mapValues f table) = _
    by_cases hlt : key < other
    · simp [insert, hlt, mapValues]
    · by_cases heq : key = other
      · subst heq
        simp [insert, hlt, mapValues]
      · simp [insert, hlt, heq, ih]
        rfl

theorem ofEntries_concat (entries : List (κ × α)) (entry : κ × α) :
    ofEntries (entries ++ [entry]) = insert entry.1 entry.2 (ofEntries entries) := by
  simp [ofEntries]

theorem ofEntries_mapValues (f : α → β) (entries : List (κ × α)) :
    ofEntries (mapValues f entries) = mapValues f (ofEntries entries) := by
  induction entries using List.reverseRecOn with
  | nil => rfl
  | append_singleton entries entry ih =>
    have happend : mapValues f (entries ++ [entry]) =
        mapValues f entries ++ [(entry.1, f entry.2)] := List.map_append
    rw [happend, ofEntries_concat, ofEntries_concat, ih]
    exact insert_mapValues f entry.1 entry.2 (ofEntries entries)

section
variable [IsStrictTotalOrder κ (· < ·)]

omit [IsStrictTotalOrder κ (· < ·)] in
theorem mem_insert {key : κ} {value : α} {entry : κ × α} {table : Table κ α}
    (h : entry ∈ insert key value table) : entry = (key, value) ∨ entry ∈ table := by
  induction table with
  | nil => exact .inl (List.mem_singleton.mp h)
  | cons first table ih =>
    obtain ⟨other, old⟩ := first
    rw [insert] at h
    split at h
    · exact List.mem_cons.mp h
    · split at h
      · rcases List.mem_cons.mp h with rfl | hin
        · exact .inl rfl
        · exact .inr (.tail _ hin)
      · rcases List.mem_cons.mp h with rfl | hin
        · exact .inr (.head _)
        · exact (ih hin).imp_right (.tail _)

omit [IsStrictTotalOrder κ (· < ·)] in
theorem mem_of_mem_ofEntries {entries : List (κ × α)} {entry : κ × α}
    (h : entry ∈ ofEntries entries) : entry ∈ entries := by
  induction entries using List.reverseRecOn with
  | nil => cases h
  | append_singleton entries last ih =>
    rw [ofEntries_concat] at h
    rcases mem_insert h with rfl | hin
    · exact List.mem_append_right _ List.mem_cons_self
    · exact List.mem_append_left _ (ih hin)

theorem Sorted.insert {table : Table κ α} (h : Sorted table) (key : κ) (value : α) :
    Sorted (Table.insert key value table) := by
  induction table with
  | nil => exact List.pairwise_singleton _ _
  | cons first table ih =>
    obtain ⟨other, old⟩ := first
    obtain ⟨hfirst, htable⟩ := List.pairwise_cons.mp h
    rw [Table.insert]
    split
    · rename_i hlt
      refine List.pairwise_cons.mpr ⟨fun entry hentry => ?_, h⟩
      rcases List.mem_cons.mp hentry with rfl | hin
      · exact hlt
      · exact trans_of (· < ·) hlt (hfirst entry hin)
    · rename_i hnlt
      split
      · rename_i heq
        subst heq
        exact List.pairwise_cons.mpr ⟨hfirst, htable⟩
      · rename_i hne
        refine List.pairwise_cons.mpr ⟨fun entry hentry => ?_, ih htable⟩
        rcases mem_insert hentry with rfl | hin
        · rcases trichotomous_of (· < ·) key other with hlt | heq | hgt
          · exact absurd hlt hnlt
          · exact absurd heq hne
          · exact hgt
        · exact hfirst entry hin

theorem sorted_ofEntries (entries : List (κ × α)) : Sorted (ofEntries entries) := by
  induction entries using List.reverseRecOn with
  | nil => exact List.Pairwise.nil
  | append_singleton entries entry ih =>
    rw [ofEntries_concat]
    exact ih.insert entry.1 entry.2

/-- An entry whose key is above all others goes to the end. -/
theorem insert_of_forall_lt {table : Table κ α} {key : κ} (h : ∀ entry ∈ table, entry.1 < key)
    (value : α) : Table.insert key value table = table ++ [(key, value)] := by
  induction table with
  | nil => rfl
  | cons first table ih =>
    obtain ⟨other, old⟩ := first
    obtain ⟨hother, htable⟩ := List.forall_mem_cons.mp h
    have hne : key ≠ other := fun heq => irrefl_of (· < ·) other (heq ▸ hother)
    rw [Table.insert, if_neg (asymm_of (· < ·) hother), if_neg hne, ih htable]
    rfl

theorem Sorted.ofEntries_eq {table : Table κ α} (h : Sorted table) : ofEntries table = table := by
  induction table using List.reverseRecOn with
  | nil => rfl
  | append_singleton table entry ih =>
    obtain ⟨htable, -, hlast⟩ := List.pairwise_append.mp h
    rw [ofEntries_concat, ih htable]
    exact insert_of_forall_lt (fun other hother => hlast other hother entry (.head _)) entry.2

/-- A table is the table of its own entries, whatever is made of the values. -/
theorem ofEntries_mapValues_ofEntries (f : α → β) (entries : List (κ × α)) :
    ofEntries (mapValues f (ofEntries entries)) = ofEntries (mapValues f entries) := by
  rw [ofEntries_mapValues, (sorted_ofEntries entries).ofEntries_eq, ofEntries_mapValues]

omit [IsStrictTotalOrder κ (· < ·)] in
/-- What is entered is there. -/
theorem mem_insert_self (key : κ) (value : α) (table : Table κ α) :
    (key, value) ∈ insert key value table := by
  induction table with
  | nil => exact List.mem_cons_self
  | cons first table ih =>
    rw [insert]
    split
    · exact List.mem_cons_self
    · split
      · exact List.mem_cons_self
      · exact .tail _ ih

omit [IsStrictTotalOrder κ (· < ·)] in
/-- What stands under other keys stays. -/
theorem mem_insert_of_ne {entry : κ × α} {table : Table κ α} (h : entry ∈ table) {key : κ}
    (hne : entry.1 ≠ key) (value : α) : entry ∈ insert key value table := by
  induction table with
  | nil => cases h
  | cons first table ih =>
    rw [insert]
    split
    · exact .tail _ h
    · split
      · rename_i heq
        rcases List.mem_cons.mp h with rfl | hin
        · exact absurd heq.symm hne
        · exact .tail _ hin
      · rcases List.mem_cons.mp h with rfl | hin
        · exact .head _
        · exact .tail _ (ih hin)

omit [DecidableLT κ] [DecidableEq κ] in
/-- The keys of a sorted table differ. -/
theorem Sorted.nodup {table : Table κ α} (h : Sorted table) : (table.map (·.1)).Nodup := by
  rw [List.Nodup, List.pairwise_map]
  refine h.imp fun {first second} hlt heq => ?_
  rw [heq] at hlt
  exact irrefl_of (· < ·) second.1 hlt

/-- Whatever stood under the key of what is entered is gone. -/
theorem mem_insert_iff {entry : κ × α} {table : Table κ α} (h : Sorted table) (key : κ)
    (value : α) :
    entry ∈ insert key value table ↔ entry = (key, value) ∨ entry ∈ table ∧ entry.1 ≠ key := by
  constructor
  · intro hentry
    by_cases hkey : entry.1 = key
    · have hnodup := (h.insert key value).nodup
      exact .inl (List.inj_on_of_nodup_map hnodup hentry (mem_insert_self key value table) hkey)
    · exact (mem_insert hentry).imp_right fun hin => ⟨hin, hkey⟩
  · rintro (rfl | ⟨hin, hne⟩)
    · exact mem_insert_self _ _ _
    · exact mem_insert_of_ne hin hne value

/-- An entry is kept when no later one has its key. -/
theorem mem_ofEntries_iff {entries : List (κ × α)} {entry : κ × α} :
    entry ∈ ofEntries entries ↔
      ∃ before after, entries = before ++ entry :: after ∧ ∀ later ∈ after, later.1 ≠ entry.1 := by
  induction entries using List.reverseRecOn with
  | nil => simp [ofEntries]
  | append_singleton entries last ih =>
    rw [ofEntries_concat, mem_insert_iff (sorted_ofEntries entries), ih]
    constructor
    · rintro (rfl | ⟨⟨before, after, rfl, hlater⟩, hne⟩)
      · exact ⟨entries, [], rfl, by simp⟩
      · refine ⟨before, after ++ [last], by simp, fun later hin => ?_⟩
        rcases List.mem_append.mp hin with hin | hin
        · exact hlater later hin
        · exact List.mem_singleton.mp hin ▸ hne.symm
    · rintro ⟨before, after, heq, hlater⟩
      rcases List.eq_nil_or_concat after with rfl | ⟨after, other, rfl⟩
      · exact .inl (List.append_inj' heq rfl |>.2 |> List.singleton_inj.mp).symm
      · have hends : entries ++ [last] = (before ++ entry :: after) ++ [other] := by simpa using heq
        obtain ⟨hentries, hlast⟩ := List.append_inj' hends rfl
        obtain rfl := List.singleton_inj.mp hlast
        exact .inr ⟨⟨before, after, hentries, fun later hin => hlater later (by simp [hin])⟩,
          (hlater last (by simp)).symm⟩

/-- Of entries that are told one by one, an entry is kept when nothing is told later of its key. -/
theorem mem_ofEntries_filterMap_iff {ρ : Type} {told : ρ → Option (κ × α)} {tellers : List ρ}
    {entry : κ × α} : entry ∈ ofEntries (tellers.filterMap told) ↔
      ∃ before teller after, tellers = before ++ teller :: after ∧ told teller = some entry ∧
        ∀ later ∈ after, ∀ other, told later = some other → other.1 ≠ entry.1 := by
  rw [mem_ofEntries_iff]
  constructor
  · rintro ⟨front, back, hsplit, hlater⟩
    obtain ⟨before, rest, rfl, -, hrest⟩ := List.filterMap_eq_append_iff.mp hsplit
    obtain ⟨skipped, teller, after, rfl, -, hteller, rfl⟩ := List.filterMap_eq_cons_iff.mp hrest
    refine ⟨before ++ skipped, teller, after, (List.append_assoc _ _ _).symm, hteller, ?_⟩
    intro later hin other hother
    exact hlater other (List.mem_filterMap.mpr ⟨later, hin, hother⟩)
  · rintro ⟨before, teller, after, rfl, hteller, hlater⟩
    refine ⟨before.filterMap told, after.filterMap told, ?_, fun other hin => ?_⟩
    · rw [List.filterMap_append, List.filterMap_cons_some hteller]
    · obtain ⟨later, hin, hother⟩ := List.mem_filterMap.mp hin
      exact hlater later hin other hother

omit [IsStrictTotalOrder κ (· < ·)] in
/-- Every key that is entered is there. -/
theorem exists_mem_ofEntries {entries : List (κ × α)} {entry : κ × α} (h : entry ∈ entries) :
    ∃ kept ∈ ofEntries entries, kept.1 = entry.1 := by
  induction entries using List.reverseRecOn with
  | nil => cases h
  | append_singleton entries last ih =>
    rw [ofEntries_concat]
    rcases List.mem_append.mp h with hin | hin
    · obtain ⟨kept, hkept, hkey⟩ := ih hin
      by_cases hlast : kept.1 = last.1
      · exact ⟨last, mem_insert_self _ _ _, hlast.symm.trans hkey⟩
      · exact ⟨kept, mem_insert_of_ne hkept hlast _, hkey⟩
    · obtain rfl := List.mem_singleton.mp hin
      exact ⟨entry, mem_insert_self _ _ _, rfl⟩

omit [IsStrictTotalOrder κ (· < ·)] in
/-- Entries whose keys differ are all kept. -/
theorem mem_ofEntries_iff_of_nodup {entries : List (κ × α)} (h : (entries.map (·.1)).Nodup)
    {entry : κ × α} : entry ∈ ofEntries entries ↔ entry ∈ entries := by
  refine ⟨mem_of_mem_ofEntries, fun hentry => ?_⟩
  obtain ⟨kept, hkept, hkey⟩ := exists_mem_ofEntries hentry
  rwa [List.inj_on_of_nodup_map h hentry (mem_of_mem_ofEntries hkept) hkey.symm]

omit [DecidableLT κ] [DecidableEq κ] in
/-- A sorted table is told by its entries. -/
theorem Sorted.ext {table other : Table κ α} (htable : Sorted table) (hother : Sorted other)
    (h : ∀ entry, entry ∈ table ↔ entry ∈ other) : table = other := by
  have hperm : table.Perm other :=
    (List.perm_ext_iff_of_nodup (List.Nodup.of_map _ htable.nodup)
      (List.Nodup.of_map _ hother.nodup)).mpr h
  exact hperm.eq_of_pairwise (fun first second _ _ hlt hgt =>
    absurd (trans_of (· < ·) hlt hgt) (irrefl_of (· < ·) first.1)) htable hother

end

end StorageGateway.Table

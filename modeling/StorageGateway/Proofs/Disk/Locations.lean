import StorageGateway.Disk.Plan
import StorageGateway.Proofs.Text.Split

/-!
# Locations in words

The host words the location of a disk in a text that holds other things as well. The location is
taken from the leftmost place where its four numbers stand behind their labels, each number with all
its digits; there is none exactly where no such place is.
-/

namespace StorageGateway.Disk

open Text (Ends isDecimalDigit)

/-! ## A number behind its label -/

/-- A run of decimal digits, of whatever script. -/
def IsRun (run : String) : Prop :=
  run.toList ≠ [] ∧ ∀ c ∈ run.toList, isDecimalDigit c = true

section
variable {label run : String} {s rest : List Char}

theorem labelled?_of_run (hrun : IsRun run) (hends : Ends isDecimalDigit rest) :
    labelled? label (label.toList ++ (run.toList ++ rest)) = some (run, rest) := by
  have hafter : Text.afterPrefix? label.toList (label.toList ++ (run.toList ++ rest)) =
      some (run.toList ++ rest) := Text.afterPrefix?_eq_some_iff.mpr rfl
  have htake := Text.takeWhile_append hrun.2 hends
  have hdrop := Text.dropWhile_append hrun.2 hends
  obtain ⟨c, digits, hdigits⟩ := List.exists_cons_of_ne_nil hrun.1
  unfold labelled?
  rw [hafter, Option.bind_eq_bind, Option.bind_some, htake, hdrop, hdigits]
  show some (String.ofList (c :: digits), rest) = _
  rw [← hdigits, String.ofList_toList]

theorem run_of_labelled? (h : labelled? label s = some (run, rest)) :
    s = label.toList ++ (run.toList ++ rest) ∧ IsRun run ∧ Ends isDecimalDigit rest := by
  unfold labelled? at h
  obtain ⟨behind, hbehind, h⟩ := Option.bind_eq_some_iff.mp h
  have hall := List.takeWhile_append_dropWhile (p := isDecimalDigit) (l := behind)
  split at h
  · cases h
  · rename_i digits hsome
    obtain ⟨rfl, rfl⟩ := Prod.mk.inj (Option.some.inj h)
    refine ⟨?_, ⟨?_, ?_⟩, Text.ends_dropWhile isDecimalDigit behind⟩
    · rw [Text.afterPrefix?_eq_some_iff.mp hbehind, String.toList_ofList, hall]
    · rwa [String.toList_ofList]
    · intro c hc
      rw [String.toList_ofList] at hc
      exact List.mem_takeWhile_imp hc

end

/-! ## A location -/

/-- A location in the words of the host. -/
def Location.words (location : Location) : String :=
  "Adapter " ++ location.adapter ++ " : Port " ++ location.bus ++ " : Target " ++
    location.target ++ " : LUN " ++ location.lun

/-- The words of a location, with a run of digits for each number, stand in a text behind some
characters and before others. -/
structure Stands (text before : List Char) (location : Location) (after : List Char) : Prop where
  split : text = before ++ (location.words.toList ++ after)
  adapter : IsRun location.adapter
  bus : IsRun location.bus
  target : IsRun location.target
  lun : IsRun location.lun

/-- The location that a text tells: of the words of locations in it, those that begin first, and
with all the digits of the last number. -/
def TellsLocation (text : List Char) (location : Location) : Prop :=
  ∃ before after, Stands text before location after ∧ Ends isDecimalDigit after ∧
    ∀ earlier other behind, Stands text earlier other behind → before.length ≤ earlier.length

section
variable {text before after rest : List Char} {location : Location} {c : Char}

/-- A label that begins with a blank ends the number before it. -/
theorem ends_label {label : String} {behind : List Char} (h : label.toList.head? = some ' ') :
    Ends isDecimalDigit (label.toList ++ behind) := by
  obtain ⟨others, hlabel⟩ := List.head?_eq_some_iff.mp h
  rw [hlabel]
  exact Text.ends_cons (by decide) (others ++ behind)

/-- A location is read number by number. -/
theorem locationAt?_eq_some_iff_labelled : locationAt? text = some location ↔
    ∃ s t u after, labelled? "Adapter " text = some (location.adapter, s) ∧
      labelled? " : Port " s = some (location.bus, t) ∧
        labelled? " : Target " t = some (location.target, u) ∧
          labelled? " : LUN " u = some (location.lun, after) := by
  simp only [locationAt?, Option.bind_eq_bind, Option.bind_eq_some_iff, Prod.exists,
    Option.some.injEq]
  constructor
  · rintro ⟨adapter, s, hadapter, bus, t, hbus, target, u, htarget, lun, after, hlun, rfl⟩
    exact ⟨s, t, u, after, hadapter, hbus, htarget, hlun⟩
  · rintro ⟨s, t, u, after, hadapter, hbus, htarget, hlun⟩
    exact ⟨_, s, hadapter, _, t, hbus, _, u, htarget, _, after, hlun, rfl⟩

/-- Labels and numbers one after the other. The labels are variables here: nothing is to be gained
from their characters. -/
theorem toList_labelled (l₁ n₁ l₂ n₂ l₃ n₃ l₄ n₄ : String) (after : List Char) :
    (l₁ ++ n₁ ++ l₂ ++ n₂ ++ l₃ ++ n₃ ++ l₄ ++ n₄).toList ++ after =
      l₁.toList ++ (n₁.toList ++ (l₂.toList ++ (n₂.toList ++ (l₃.toList ++ (n₃.toList ++
        (l₄.toList ++ (n₄.toList ++ after))))))) := by
  simp only [String.toList_append, List.append_assoc]

theorem toList_words (location : Location) (after : List Char) :
    location.words.toList ++ after = "Adapter ".toList ++ (location.adapter.toList ++
      (" : Port ".toList ++ (location.bus.toList ++ (" : Target ".toList ++
        (location.target.toList ++ (" : LUN ".toList ++ (location.lun.toList ++ after))))))) :=
  toList_labelled _ _ _ _ _ _ _ _ after

theorem Stands.eq_append (h : Stands text [] location after) :
    text = location.words.toList ++ after := by
  rw [h.split, List.nil_append]

theorem locationAt?_of_stands (h : Stands text [] location after)
    (hends : Ends isDecimalDigit after) : locationAt? text = some location := by
  rw [locationAt?_eq_some_iff_labelled, h.eq_append, toList_words]
  exact ⟨_, _, _, after, labelled?_of_run h.adapter (ends_label rfl),
    labelled?_of_run h.bus (ends_label rfl), labelled?_of_run h.target (ends_label rfl),
    labelled?_of_run h.lun hends⟩

theorem stands_of_locationAt? (h : locationAt? text = some location) :
    ∃ after, Stands text [] location after ∧ Ends isDecimalDigit after := by
  obtain ⟨s, t, u, after, hadapter, hbus, htarget, hlun⟩ :=
    locationAt?_eq_some_iff_labelled.mp h
  obtain ⟨hs, hadapter, -⟩ := run_of_labelled? hadapter
  obtain ⟨ht, hbus, -⟩ := run_of_labelled? hbus
  obtain ⟨hu, htarget, -⟩ := run_of_labelled? htarget
  obtain ⟨hafter, hlun, hends⟩ := run_of_labelled? hlun
  refine ⟨after, ⟨?_, hadapter, hbus, htarget, hlun⟩, hends⟩
  rw [hs, ht, hu, hafter, List.nil_append, toList_words]

/-- More digits at the end belong to the last number. -/
theorem words_append (location : Location) (digits : String) :
    { location with lun := location.lun ++ digits }.words = location.words ++ digits :=
  String.append_assoc.symm

/-- Wherever a location begins, one is read. -/
theorem exists_locationAt?_of_stands (h : Stands text [] location after) :
    ∃ whole, locationAt? text = some whole := by
  -- What stands may end within a run of digits; what is read takes the rest of the run.
  obtain ⟨digits, hdigits⟩ : ∃ digits, digits = after.takeWhile isDecimalDigit := ⟨_, rfl⟩
  have hall : digits ++ after.dropWhile isDecimalDigit = after :=
    hdigits ▸ List.takeWhile_append_dropWhile
  have hwords : { location with lun := location.lun ++ String.ofList digits }.words.toList ++
      after.dropWhile isDecimalDigit = location.words.toList ++ after := by
    rw [words_append, String.toList_append, String.toList_ofList, List.append_assoc, hall]
  have hlun : (location.lun ++ String.ofList digits).toList = location.lun.toList ++ digits := by
    rw [String.toList_append, String.toList_ofList]
  have hrun : IsRun (location.lun ++ String.ofList digits) := by
    rw [IsRun, hlun]
    refine ⟨List.append_ne_nil_of_left_ne_nil h.lun.1 digits, fun c hc => ?_⟩
    rw [hdigits] at hc
    exact (List.mem_append.mp hc).elim (h.lun.2 c) List.mem_takeWhile_imp
  have hwhole : Stands text [] { location with lun := location.lun ++ String.ofList digits }
      (after.dropWhile isDecimalDigit) := by
    refine ⟨?_, h.adapter, h.bus, h.target, hrun⟩
    rw [List.nil_append, hwords, h.eq_append]
  exact ⟨_, locationAt?_of_stands hwhole (Text.ends_dropWhile isDecimalDigit after)⟩

theorem Stands.text_ne_nil (h : Stands text before location after) : text ≠ [] := by
  rw [h.split, toList_words]
  exact List.append_ne_nil_of_right_ne_nil _ (List.append_ne_nil_of_left_ne_nil (by decide) _)

theorem stands_cons {c : Char} (h : Stands rest before location after) :
    Stands (c :: rest) (c :: before) location after :=
  ⟨congrArg (c :: ·) h.split, h.adapter, h.bus, h.target, h.lun⟩

theorem stands_of_cons {c d : Char} (h : Stands (c :: rest) (d :: before) location after) :
    Stands rest before location after :=
  ⟨(List.cons.inj h.split).2, h.adapter, h.bus, h.target, h.lun⟩

/-- The location of a text is the one that stands leftmost. -/
theorem location?_eq_some_iff : location? text = some location ↔ TellsLocation text location := by
  induction text with
  | nil =>
    refine iff_of_false (by simp [location?]) ?_
    rintro ⟨before, after, hstands, -⟩
    exact hstands.text_ne_nil rfl
  | cons c rest ih =>
    rw [location?]
    cases hat : locationAt? (c :: rest) with
    | some found =>
      obtain ⟨after, hfound, hends⟩ := stands_of_locationAt? hat
      constructor
      · intro h
        cases h
        exact ⟨[], after, hfound, hends, fun _ _ _ _ => Nat.zero_le _⟩
      · rintro ⟨before, behind, hstands, hbehind, hfirst⟩
        -- What begins first begins here, and here only one is read.
        have hhere : before = [] := List.eq_nil_of_length_eq_zero
          (Nat.le_zero.mp (hfirst [] found after hfound))
        subst hhere
        exact hat.symm.trans (locationAt?_of_stands hstands hbehind)
    | none =>
      have hnone (other : Location) (behind : List Char) :
          ¬ Stands (c :: rest) [] other behind := by
        intro hstands
        obtain ⟨whole, hwhole⟩ := exists_locationAt?_of_stands hstands
        rw [hat] at hwhole
        cases hwhole
      show location? rest = some location ↔ _
      rw [ih]
      constructor
      · rintro ⟨before, after, hstands, hends, hfirst⟩
        refine ⟨c :: before, after, stands_cons hstands, hends, fun earlier other behind h => ?_⟩
        cases earlier with
        | nil => exact absurd h (hnone other behind)
        | cons d earlier => exact Nat.succ_le_succ (hfirst earlier other behind (stands_of_cons h))
      · rintro ⟨before, after, hstands, hends, hfirst⟩
        cases before with
        | nil => exact absurd hstands (hnone location after)
        | cons d before =>
          refine ⟨before, after, stands_of_cons hstands, hends, fun earlier other behind h => ?_⟩
          exact Nat.le_of_succ_le_succ (hfirst (c :: earlier) other behind (stands_cons h))

/-- A text tells no location exactly where none stands in it. -/
theorem location?_eq_none_iff :
    location? text = none ↔ ∀ before location after, ¬ Stands text before location after := by
  constructor
  · intro h before location after hstands
    induction text generalizing before with
    | nil => exact hstands.text_ne_nil rfl
    | cons c rest ih =>
      rw [location?] at h
      split at h
      · cases h
      · rename_i hat
        cases before with
        | nil =>
          obtain ⟨whole, hwhole⟩ := exists_locationAt?_of_stands hstands
          rw [hat] at hwhole
          cases hwhole
        | cons d before => exact ih h before (stands_of_cons hstands)
  · intro h
    by_contra hsome
    obtain ⟨location, hlocation⟩ := Option.ne_none_iff_exists'.mp hsome
    obtain ⟨before, after, hstands, -⟩ := location?_eq_some_iff.mp hlocation
    exact h before location after hstands

end

end StorageGateway.Disk

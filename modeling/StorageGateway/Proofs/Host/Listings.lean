import StorageGateway.Disk.Plan
import StorageGateway.Proofs.Host.Rejection
import StorageGateway.Proofs.Json.Records
import StorageGateway.Proofs.Json.RoundTrip

/-!
# Listings are read whole or not at all

The host prints nothing for no value, a single value as it is, and several as an array. All three
are read as the list that they were printed for, however they are laid out and whatever blanks stand
around them, as long as the text is no deeper than texts may be. The list is read when each of its
values is, and a failure always names the command.
-/

namespace StorageGateway.Host

open Json (Reader Spells greatestDepth)

/-! ## What is printed for a list -/

/-- A value that is neither nothing nor a list of its own. -/
def IsSingle (value : Json) : Prop := value ≠ .null ∧ ∀ items, value ≠ .array items

/-- The texts that are printed for some values. -/
inductive Printed : List Json → List Char → Prop
  /-- Nothing for none. -/
  | none : Printed [] []
  /-- A single value without brackets. -/
  | one {value : Json} {text : List Char} (h : Spells value text) : Printed [value] text
  /-- An array of several. -/
  | several {first second : Json} {others : List Json} {text : List Char}
      (h : Spells (.array (first :: second :: others)) text) :
      Printed (first :: second :: others) text

/-- How deep the text is that is printed for some values. -/
def printedDepth : List Json → Nat
  | [] => 0
  | [value] => value.depth
  | values => (Json.array values).depth

theorem printedDepth_le (values : List Json) : printedDepth values ≤ (Json.array values).depth := by
  match values with
  | [] => exact Nat.zero_le _
  | [value] => exact Nat.le_succ_of_le (Nat.le_max_left _ _)
  | _ :: _ :: _ => exact Nat.le_refl _

/-- Output that is a text with any blanks around it. -/
def Shows (output : String) (text : List Char) : Prop :=
  ∃ before after, output.toList = before ++ (text ++ after) ∧
    (∀ c ∈ before, Text.isBlank c = true) ∧ ∀ c ∈ after, Text.isBlank c = true

/-- A value on a line of its own. -/
theorem shows_line (value : Json) : Shows (value.render ++ "\r\n") value.print := by
  refine ⟨[], ['\r', '\n'], ?_, List.forall_mem_nil _,
    List.forall_mem_cons.mpr ⟨rfl, List.forall_mem_singleton.mpr rfl⟩⟩
  rw [String.toList_append, Json.render, String.toList_ofList]
  rfl

/-- Output that is printed for some values. -/
def Prints (values : List Json) (output : String) : Prop :=
  ∃ text, Printed values text ∧ Shows output text

namespace Output

variable {α : Type} {read : Reader α} {command output : String} {value : Json}
  {values : List Json} {text : List Char}

/-! ## Reading items -/

theorem item_eq_ok_iff {a : α} : item read command value = .ok a ↔ read.ofJson value = .ok a := by
  unfold item
  split <;> simp [*]

/-- All items are read, in their order. -/
theorem items_eq_ok_iff {as : List α} : items read command values = .ok as ↔
    List.Forall₂ (fun value a => read.ofJson value = .ok a) values as := by
  induction values generalizing as with
  | nil =>
    rw [items, List.forall₂_nil_left_iff, Except.ok.injEq, eq_comm]
  | cons value values ih =>
    rw [items, List.forall₂_cons_left_iff]
    simp only [Json.bind_eq_ok_iff, item_eq_ok_iff, ih, Except.ok.injEq]
    constructor
    · rintro ⟨a, ha, others, hothers, rfl⟩
      exact ⟨a, others, ha, hothers, rfl⟩
    · rintro ⟨a, others, ha, hothers, rfl⟩
      exact ⟨a, ha, others, hothers, rfl⟩

theorem exists_items_iff : (∃ as, items read command values = .ok as) ↔
    ∀ value ∈ values, ∃ a, read.ofJson value = .ok a := by
  induction values with
  | nil => simp [items]
  | cons value values ih =>
    rw [List.forall_mem_cons, ← ih]
    simp only [items, Json.bind_eq_ok_iff, item_eq_ok_iff]
    constructor
    · rintro ⟨_, a, ha, others, hothers, -⟩
      exact ⟨⟨a, ha⟩, others, hothers⟩
    · rintro ⟨⟨a, ha⟩, others, hothers⟩
      exact ⟨a :: others, a, ha, others, hothers, rfl⟩

/-! ## Reading output -/

theorem trimBlanks_of_shows (hshows : Shows output text) (hsolid : Text.Solid text) :
    Text.trimBlanks output.toList = text :=
  Text.Trims.eq ⟨hshows, hsolid.first, hsolid.last⟩

theorem isEmpty_of_spells (h : Spells value text) (hshows : Shows output text) :
    isEmpty output = false := by
  rw [isEmpty, Text.isBlankText, trimBlanks_of_shows hshows h.solid, List.isEmpty_eq_false_iff]
  exact h.ne_nil

/-- The value that output holds, laid out in any way. -/
theorem value_of_spells (h : Spells value text) (hshows : Shows output text) :
    Output.value .json command output =
      if value.depth ≤ greatestDepth then .ok value
      else .error (unexpected command .malformed) := by
  rw [Output.value, Reader.ofString, Text.trim, String.toList_ofList,
    trimBlanks_of_shows hshows h.solid, h.ofGlyphs]
  by_cases hdepth : value.depth ≤ greatestDepth
  · rw [Json.ifRoom_of_le hdepth, if_pos hdepth]
  · rw [Json.ifRoom_of_lt (Nat.lt_of_not_le hdepth), if_neg hdepth]

theorem list_of_deep (h : Spells value text) (hshows : Shows output text)
    (hdeep : greatestDepth < value.depth) :
    list read command output = .error (unexpected command .malformed) := by
  unfold list
  rw [isEmpty_of_spells h hshows, value_of_spells h hshows, if_neg (Nat.not_le.mpr hdeep)]
  rfl

/-- An array is read item by item, however many they are. -/
theorem list_of_array (h : Spells (.array values) text) (hshows : Shows output text)
    (hdepth : (Json.array values).depth ≤ greatestDepth) :
    list read command output = items read command values := by
  unfold list
  rw [isEmpty_of_spells h hshows, value_of_spells h hshows, if_pos hdepth]
  rfl

/-- A single value is read as the only item. -/
theorem list_of_single (h : Spells value text) (hshows : Shows output text)
    (hdepth : value.depth ≤ greatestDepth) (hsingle : IsSingle value) :
    list read command output = items read command [value] := by
  unfold list
  rw [isEmpty_of_spells h hshows, value_of_spells h hshows, if_pos hdepth]
  have hitem : (item read command value).map (fun one => [one]) = items read command [value] := by
    rw [items]
    cases item read command value <;> rfl
  cases value with
  | null => exact absurd rfl hsingle.1
  | array items => exact absurd rfl (hsingle.2 items)
  | _ => exact hitem

theorem list_of_nothing (hshows : Shows output []) : list read command output = .ok [] := by
  have hblank : isEmpty output = true := by
    rw [isEmpty, Text.isBlankText,
      trimBlanks_of_shows hshows (Text.solid_of_any rfl)]
    rfl
  exact if_pos hblank

/-- Nothing may be said to be so. -/
theorem list_of_null (h : Spells .null text) (hshows : Shows output text) :
    list read command output = .ok [] := by
  have hdepth : Json.null.depth ≤ greatestDepth := Nat.zero_le _
  unfold list
  rw [isEmpty_of_spells h hshows, value_of_spells h hshows, if_pos hdepth]
  rfl

/-- Whichever way some values are printed, they are read item by item. -/
theorem list_of_prints (h : Prints values output) (hsingle : ∀ value ∈ values, IsSingle value)
    (hdepth : printedDepth values ≤ greatestDepth) :
    list read command output = items read command values := by
  obtain ⟨text, hprinted, hshows⟩ := h
  cases hprinted with
  | none => exact list_of_nothing hshows
  | one h => exact list_of_single h hshows hdepth (hsingle _ List.mem_cons_self)
  | several h => exact list_of_array h hshows hdepth

theorem list_of_prints_deep (h : Prints values output)
    (hdeep : greatestDepth < printedDepth values) :
    list read command output = .error (unexpected command .malformed) := by
  obtain ⟨text, hprinted, hshows⟩ := h
  cases hprinted with
  | none => cases hdeep
  | one h => exact list_of_deep h hshows hdeep
  | several h => exact list_of_deep h hshows hdeep

end Output

/-! ## What a listing promises -/

/-- What is promised about reading listings of a command. -/
structure ReadsListings {α : Type} (read : Reader α) (command : String) : Prop where
  /-- A listing is read when every value that it was printed for can be. -/
  succeeds_iff : ∀ values output, Prints values output → (∀ value ∈ values, IsSingle value) →
    printedDepth values ≤ greatestDepth →
      ((∃ as, Output.list read command output = .ok as) ↔
        ∀ value ∈ values, ∃ a, read.ofJson value = .ok a)
  /-- What is read is what the values are read as, one for each and in their order. -/
  in_order : ∀ values output as, Prints values output → (∀ value ∈ values, IsSingle value) →
    Output.list read command output = .ok as →
      List.Forall₂ (fun value a => read.ofJson value = .ok a) values as ∧
        as.length = values.length
  /-- A text that is too deep is not read. -/
  refuses_deep : ∀ values output, Prints values output → greatestDepth < printedDepth values →
    Output.list read command output = .error (Output.unexpected command .malformed)
  /-- A single value is read alike in brackets, unless they make it too deep. -/
  brackets : ∀ value bare output text bracketed, Spells value bare → Shows output bare →
    Spells (.array [value]) text → Shows bracketed text → IsSingle value →
      (Json.array [value]).depth ≤ greatestDepth →
        Output.list read command bracketed = Output.list read command output
  /-- Whatever the output, a failure is one of the command. -/
  failure : ∀ output fault, Output.list read command output = .error fault →
    ∃ message, fault = .commandFailed command message

/-- A listing is read by `Output.list` as the list that was printed, all of it or none, as
`ReadsListings` has it. -/
theorem listings_are_read {α : Type} (read : Reader α) (command : String) :
    ReadsListings read command where
  succeeds_iff values output hprints hsingle hdepth := by
    rw [Output.list_of_prints hprints hsingle hdepth]
    exact Output.exists_items_iff
  in_order values output as hprints hsingle hread := by
    rcases Nat.lt_or_ge greatestDepth (printedDepth values) with hdeep | hdepth
    · rw [Output.list_of_prints_deep hprints hdeep] at hread
      cases hread
    · rw [Output.list_of_prints hprints hsingle hdepth] at hread
      have heach := Output.items_eq_ok_iff.mp hread
      exact ⟨heach, heach.length_eq.symm⟩
  refuses_deep values output hprints hdeep := Output.list_of_prints_deep hprints hdeep
  brackets value bare output text bracketed hbare hshows htext hbracketed hsingle hdepth := by
    have hless : value.depth ≤ greatestDepth :=
      (Json.itemsDepth_le_iff.mp (Nat.le_of_succ_le hdepth)) value List.mem_cons_self
    rw [Output.list_of_array htext hbracketed hdepth,
      Output.list_of_single hbare hshows hless hsingle]
  failure output fault hread := by
    obtain ⟨refusal, rfl⟩ := unexpected_of_list hread
    exact ⟨_, rfl⟩

/-! ## Two rows -/

/-- Two rows of the list of disks that hold something nobody asked for. -/
def twoRows (inside : Json) : List Json :=
  [.object [("Number", .nat 1), ("x", inside)], .object [("Number", .nat 2), ("x", inside)]]

/-- The rows in a line of output. -/
def twoRowsOutput (inside : Json) : String :=
  (Json.array (twoRows inside)).render ++ "\r\n"

theorem isSingle_twoRows (inside : Json) : ∀ row ∈ twoRows inside, IsSingle row := by
  simp [twoRows, IsSingle]

theorem prints_twoRows {room : Nat} {inside : Json} (h : Json.Readable room inside) :
    Prints (twoRows inside) (twoRowsOutput inside) := by
  have hnumber (n : Nat) (hn : n < 2 ^ 63) : Json.Readable room (.nat n) :=
    .number room (Json.Token.numberReadsBack_int (by omega) (by omega))
  have hrow (n : Nat) (hn : n < 2 ^ 63) :
      Json.Readable (room + 1) (.object [("Number", .nat n), ("x", inside)]) := by
    have hnames : "Number" < "x" := String.lt_iff_toList_lt.mpr (by decide)
    refine .object (List.pairwise_pair.mpr hnames) ?_
    simp only [List.forall_mem_cons]
    exact ⟨hnumber n hn, h, List.forall_mem_nil _⟩
  have hrows : Json.Readable (room + 2) (.array (twoRows inside)) := by
    refine .array ?_
    simp only [twoRows, List.forall_mem_cons]
    exact ⟨hrow 1 (by decide), hrow 2 (by decide), List.forall_mem_nil _⟩
  exact ⟨_, .several hrows.spells, shows_line _⟩

/-- What nobody asked for is skipped. -/
theorem exists_row_of_twoRows (inside : Json) :
    ∀ row ∈ twoRows inside, ∃ read, Disk.Row.reader.ofJson row = .ok read := by
  have hrow (n : UInt32) :
      Disk.Row.reader.ofJson (.object [("Number", .nat n.toNat), ("x", inside)]) =
        .ok ⟨n, none, none, none⟩ := by
    have hexamine : (Json.Fields.required "Number" .u32).examine "Number" .value
        (Json.nat n.toNat).toDocument = .ok () :=
      Json.Fields.examine_required_eq_ok_iff.mpr ⟨n, Reader.u32_toDocument n⟩
    have hmissing {name : String} (hname : (name == "Number") = false) :
        (Json.Fields.defaulted name Reader.string.optional none).ofMembers .value
          [("Number", (Json.nat n.toNat).toDocument)] = .ok none :=
      Json.Fields.ofMembers_defaulted_eq_ok_iff.mpr (.inr ⟨by simp [List.lookup_cons, hname], rfl⟩)
    refine Reader.record_object_eq_ok_iff.mpr ⟨[("Number", (Json.nat n.toNat).toDocument)], ?_, ?_⟩
    · simp [Json.memberDocuments, Json.memberDocument, Json.examineMembers,
        inside.skippable_toDocument, hexamine, Json.bind_eq_ok_iff]
    · refine Json.Fields.ofMembers_seq_eq_ok_iff.mpr
        ⟨.mk n none none, none, ?_, hmissing rfl, rfl⟩
      refine Json.Fields.ofMembers_seq_eq_ok_iff.mpr ⟨.mk n none, none, ?_, hmissing rfl, rfl⟩
      refine Json.Fields.ofMembers_seq_eq_ok_iff.mpr ⟨.mk n, none, ?_, hmissing rfl, rfl⟩
      exact Json.Fields.ofMembers_map_eq_ok_iff.mpr
        ⟨n, Json.Fields.ofMembers_required_eq_ok_iff.mpr ⟨_, rfl, Reader.u32_toDocument n⟩, rfl⟩
  simp only [twoRows, List.forall_mem_cons]
  exact ⟨⟨_, hrow 1⟩, ⟨_, hrow 2⟩, List.forall_mem_nil _⟩

theorem printedDepth_twoRows (inside : Json) :
    printedDepth (twoRows inside) = inside.depth + 2 := by
  simp [twoRows, printedDepth, Json.depth, Json.itemsDepth, Json.membersDepth, Json.memberDepth,
    Json.nat, Json.int]

/-- Two ordinary rows are listed. -/
theorem two_rows_are_listed : Prints (twoRows .null) (twoRowsOutput .null) ∧
    ∃ rows, Output.list Disk.Row.reader "Get-Disk" (twoRowsOutput .null) = .ok rows ∧
      rows.length = 2 := by
  have hprints := prints_twoRows (Json.Readable.null 0)
  have hreads := listings_are_read Disk.Row.reader "Get-Disk"
  obtain ⟨rows, hrows⟩ := (hreads.succeeds_iff _ _ hprints (isSingle_twoRows _) (by decide)).mpr
    (exists_row_of_twoRows _)
  exact ⟨hprints, rows, hrows, (hreads.in_order _ _ _ hprints (isSingle_twoRows _) hrows).2⟩

/-- Nothing in so many brackets. -/
def nest : Nat → Json
  | 0 => .null
  | depth + 1 => .array [nest depth]

theorem readable_nest (depth : Nat) : Json.Readable depth (nest depth) := by
  induction depth with
  | zero => exact .null 0
  | succ depth ih => exact .array (List.forall_mem_singleton.mpr ih)

theorem depth_nest (depth : Nat) : (nest depth).depth = depth := by
  induction depth with
  | zero => rfl
  | succ depth ih => simp [nest, Json.depth, Json.itemsDepth, ih]

/-- Rows can be read one by one and be too deep for an array of them. -/
theorem deep_rows_are_refused :
    Prints (twoRows (nest 126)) (twoRowsOutput (nest 126)) ∧
      (∀ row ∈ twoRows (nest 126), IsSingle row) ∧
        (∀ row ∈ twoRows (nest 126), ∃ read, Disk.Row.reader.ofJson row = .ok read) ∧
          Output.list Disk.Row.reader "Get-Disk" (twoRowsOutput (nest 126)) =
            .error (.commandFailed "Get-Disk" "unexpected output: <json syntax>") := by
  have hprints := prints_twoRows (readable_nest 126)
  have hdeep : greatestDepth < printedDepth (twoRows (nest 126)) := by
    rw [printedDepth_twoRows, depth_nest]
    decide
  exact ⟨hprints, isSingle_twoRows _, exists_row_of_twoRows _,
    Output.list_of_prints_deep hprints hdeep⟩

end StorageGateway.Host

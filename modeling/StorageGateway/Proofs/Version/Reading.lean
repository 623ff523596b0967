import StorageGateway.Proofs.Version.Grammar

/-!
# What is read as a version

Of the texts that have the form of a version, those are read whose numbers are ASCII digits with a
value below `2 ^ 64`, and the version that is read has these values. A text of the form with another
run of digits in it is refused for its numbers, and a text without the form for its form; either way
the refusal carries the text as it was given, with the blanks around it.
-/

namespace StorageGateway

namespace Text

theorem isDecimalDigit_of_isDigit {c : Char} (h : c.isDigit = true) : isDecimalDigit c = true := by
  simp only [Char.isDigit, Bool.and_eq_true, decide_eq_true_eq, ge_iff_le, UInt32.le_iff_toNat_le]
    at h
  have hlow : 0x30 ≤ c.toNat := h.1
  have hhigh : c.toNat ≤ 0x30 + 9 := h.2
  simp [isDecimalDigit, digitBlocks, hlow, hhigh]

end Text

namespace Version

/-! ## Numbers -/

/-- The value of a run of ASCII digits. -/
def valueOf (digits : List Char) : Nat := Nat.ofDigitChars 10 digits 0

/-- A run of ASCII digits whose value is below `2 ^ 64`. -/
structure Word (digits : List Char) : Prop where
  ne_nil : digits ≠ []
  ascii : ∀ c ∈ digits, c.isDigit = true
  fits : valueOf digits < UInt64.size

theorem Word.digitRun {digits : List Char} (h : Word digits) : DigitRun digits :=
  ⟨h.ne_nil, fun c hc => Text.isDecimalDigit_of_isDigit (h.ascii c hc)⟩

theorem readNatural?_eq_some_iff {digits : List Char} {n : Nat} :
    Text.readNatural? digits = some n ↔
      (digits ≠ [] ∧ ∀ c ∈ digits, c.isDigit = true) ∧ n = valueOf digits := by
  have htest : (!digits.isEmpty && digits.all Char.isDigit) = true ↔
      digits ≠ [] ∧ ∀ c ∈ digits, c.isDigit = true := by
    simp
  unfold Text.readNatural?
  split
  · rename_i h
    rw [Option.some.injEq]
    exact ⟨fun hn => ⟨htest.mp h, hn.symm⟩, fun hn => hn.2.symm⟩
  · rename_i h
    exact ⟨nofun, fun hn => absurd (htest.mpr hn.1) h⟩

theorem readWord?_eq_some_iff {digits : List Char} {n : UInt64} :
    Text.readWord? digits = some n ↔ Word digits ∧ n.toNat = valueOf digits := by
  constructor
  · intro h
    unfold Text.readWord? at h
    split at h
    · rename_i m hread
      obtain ⟨⟨hne, hascii⟩, rfl⟩ := readNatural?_eq_some_iff.mp hread
      split at h
      · rename_i hfits
        cases h
        exact ⟨⟨hne, hascii, hfits⟩, UInt64.toNat_ofNat_of_lt hfits⟩
      · cases h
    · cases h
  · rintro ⟨hword, hvalue⟩
    have hread := readNatural?_eq_some_iff.mpr ⟨⟨hword.ne_nil, hword.ascii⟩, rfl⟩
    have hfits : valueOf digits < UInt64.size := hword.fits
    rw [Text.readWord?, hread]
    dsimp only
    rw [if_pos hfits, ← hvalue, UInt64.ofNat_toNat]

theorem Word.exists_read {digits : List Char} (h : Word digits) :
    ∃ n, Text.readWord? digits = some n :=
  ⟨.ofNat (valueOf digits),
    readWord?_eq_some_iff.mpr ⟨h, UInt64.toNat_ofNat_of_lt h.fits⟩⟩

namespace Shape

theorem optionalWord?_eq_some_iff {digits : Option (List Char)} {n : Option UInt64} :
    optionalWord? digits = some n ↔
      (∀ run ∈ digits, Word run) ∧ n.map UInt64.toNat = digits.map valueOf := by
  cases digits with
  | none =>
    cases n with
    | none => simp [optionalWord?]
    | some n => simp [optionalWord?]
  | some digits =>
    cases n with
    | none => simp [optionalWord?]
    | some n => simp [optionalWord?, readWord?_eq_some_iff]

theorem exists_optionalWord? {digits : Option (List Char)} (h : ∀ run ∈ digits, Word run) :
    ∃ n, optionalWord? digits = some n := by
  cases digits with
  | none => exact ⟨none, rfl⟩
  | some digits =>
    obtain ⟨n, hn⟩ := (h digits rfl).exists_read
    exact ⟨some n, by rw [optionalWord?, hn]; rfl⟩

/-! ## The version of a form -/

/-- The numbers of a written form. -/
def numbers (shape : Shape) : List (List Char) :=
  shape.major :: (shape.minor.toList ++ (shape.patch.toList ++ (shape.qualifier.bind (·.2)).toList))

/-- The version has the numbers of a written form, zero for what is left out, and its qualifier. -/
structure Holds (shape : Shape) (v : Version) : Prop where
  major : v.major.toNat = valueOf shape.major
  minor : v.minor.toNat = (shape.minor.map valueOf).getD 0
  patch : v.patch.toNat = (shape.patch.map valueOf).getD 0
  qualifier : v.qualifier.map (fun q => (q.stage, q.number.map UInt64.toNat)) =
    shape.qualifier.map fun q => (q.1, q.2.map valueOf)

theorem Holds.eq {shape : Shape} {v w : Version} (hv : shape.Holds v) (hw : shape.Holds w) :
    v = w := by
  obtain ⟨major, minor, patch, qualifier⟩ := v
  obtain ⟨major', minor', patch', qualifier'⟩ := w
  obtain rfl : major = major' := UInt64.toNat.inj (hv.major.trans hw.major.symm)
  obtain rfl : minor = minor' := UInt64.toNat.inj (hv.minor.trans hw.minor.symm)
  obtain rfl : patch = patch' := UInt64.toNat.inj (hv.patch.trans hw.patch.symm)
  have hinjective :
      Function.Injective fun q : Qualifier => (q.stage, q.number.map UInt64.toNat) := by
    rintro ⟨stage, number⟩ ⟨stage', number'⟩ h
    obtain ⟨rfl, hnumber⟩ := Prod.mk.inj h
    obtain rfl : number = number' :=
      Option.map_injective (fun _ _ => UInt64.toNat.inj) hnumber
    rfl
  obtain rfl : qualifier = qualifier' :=
    Option.map_injective hinjective (hv.qualifier.trans hw.qualifier.symm)
  rfl

theorem forall_numbers {shape : Shape} {p : List Char → Prop} :
    (∀ digits ∈ shape.numbers, p digits) ↔ p shape.major ∧ (∀ digits ∈ shape.minor, p digits) ∧
      (∀ digits ∈ shape.patch, p digits) ∧ ∀ digits ∈ shape.qualifier.bind (·.2), p digits := by
  simp [numbers, or_imp, forall_and]

theorem toNat_getD_zero {n : Option UInt64} {value : Option Nat} (h : n.map UInt64.toNat = value) :
    (n.getD 0).toNat = value.getD 0 := by
  subst h
  cases n <;> rfl

theorem holds_of_version?_eq_some {shape : Shape} {v : Version} (h : shape.version? = some v) :
    (∀ digits ∈ shape.numbers, Word digits) ∧ shape.Holds v := by
  obtain ⟨first, second, third, qualifier⟩ := shape
  obtain ⟨major, hmajor, h⟩ := Option.bind_eq_some_iff.mp h
  obtain ⟨minor, hminor, h⟩ := Option.bind_eq_some_iff.mp h
  obtain ⟨patch, hpatch, h⟩ := Option.bind_eq_some_iff.mp h
  obtain ⟨hmajor, majorValue⟩ := readWord?_eq_some_iff.mp hmajor
  obtain ⟨hminor, minorValue⟩ := optionalWord?_eq_some_iff.mp hminor
  obtain ⟨hpatch, patchValue⟩ := optionalWord?_eq_some_iff.mp hpatch
  have hminorValue := toNat_getD_zero minorValue
  have hpatchValue := toNat_getD_zero patchValue
  cases qualifier with
  | none =>
    cases h
    exact ⟨forall_numbers.mpr ⟨hmajor, hminor, hpatch, nofun⟩,
      majorValue, hminorValue, hpatchValue, rfl⟩
  | some q =>
    obtain ⟨number, hnumber, h⟩ := Option.bind_eq_some_iff.mp h
    cases h
    obtain ⟨hnumber, numberValue⟩ := optionalWord?_eq_some_iff.mp hnumber
    exact ⟨forall_numbers.mpr ⟨hmajor, hminor, hpatch, hnumber⟩,
      majorValue, hminorValue, hpatchValue,
      congrArg (fun value => some (q.1, value)) numberValue⟩

theorem exists_version? {shape : Shape} (h : ∀ digits ∈ shape.numbers, Word digits) :
    ∃ v, shape.version? = some v := by
  obtain ⟨hmajor, hminor, hpatch, hnumber⟩ := forall_numbers.mp h
  obtain ⟨major, hmajor⟩ := hmajor.exists_read
  obtain ⟨minor, hminor⟩ := exists_optionalWord? hminor
  obtain ⟨patch, hpatch⟩ := exists_optionalWord? hpatch
  obtain ⟨number, hnumber⟩ := exists_optionalWord? hnumber
  obtain ⟨first, second, third, qualifier⟩ := shape
  cases qualifier with
  | none => simp [version?, hmajor, hminor, hpatch]
  | some q =>
    have hnumber : optionalWord? q.2 = some number := hnumber
    simp [version?, hmajor, hminor, hpatch, hnumber]

/-- A form has a version when all its numbers have a value, and the version has these values. -/
theorem version?_eq_some_iff {shape : Shape} {v : Version} :
    shape.version? = some v ↔ (∀ digits ∈ shape.numbers, Word digits) ∧ shape.Holds v := by
  constructor
  · exact holds_of_version?_eq_some
  · rintro ⟨hwords, hholds⟩
    obtain ⟨w, hw⟩ := exists_version? hwords
    rw [hw, (holds_of_version?_eq_some hw).2.eq hholds]

theorem exists_holds {shape : Shape} (h : ∀ digits ∈ shape.numbers, Word digits) :
    ∃ v, shape.Holds v := by
  obtain ⟨v, hv⟩ := exists_version? h
  exact ⟨v, (holds_of_version?_eq_some hv).2⟩

theorem version?_eq_none_iff {shape : Shape} :
    shape.version? = none ↔ ∃ digits ∈ shape.numbers, ¬Word digits := by
  rw [Option.eq_none_iff_forall_ne_some]
  constructor
  · intro hnone
    by_contra hall
    obtain ⟨v, hv⟩ := exists_version? fun digits hdigits =>
      by_contra fun hnot => hall ⟨digits, hdigits, hnot⟩
    exact hnone v hv
  · rintro ⟨digits, hdigits, hnot⟩ v hv
    exact hnot ((holds_of_version?_eq_some hv).1 digits hdigits)

end Shape

/-! ## Forms with narrower numbers -/

section Narrower

variable {M N : List Char → Prop} {s : List Char}

theorem numbers_iff (hwider : ∀ digits, M digits → N digits) {major : List Char}
    {minor patch : Option (List Char)} : Numbers M s major minor patch ↔
      Numbers N s major minor patch ∧ M major ∧ (∀ digits ∈ minor, M digits) ∧
        ∀ digits ∈ patch, M digits := by
  constructor
  · intro h
    cases h with
    | one hmajor => exact ⟨.one (hwider _ hmajor), hmajor, nofun, nofun⟩
    | two hmajor hminor =>
      exact ⟨.two (hwider _ hmajor) (hwider _ hminor), hmajor, by simpa using hminor, nofun⟩
    | three hmajor hminor hpatch =>
      exact ⟨.three (hwider _ hmajor) (hwider _ hminor) (hwider _ hpatch), hmajor,
        by simpa using hminor, by simpa using hpatch⟩
  · rintro ⟨h, hmajor, hminor, hpatch⟩
    cases h with
    | one => exact .one hmajor
    | two => exact .two hmajor (hminor _ rfl)
    | three => exact .three hmajor (hminor _ rfl) (hpatch _ rfl)

theorem ending_iff (hwider : ∀ digits, M digits → N digits)
    {qualifier : Option (Stage × Option (List Char))} : Ending M s qualifier ↔
      Ending N s qualifier ∧ ∀ digits ∈ qualifier.bind (·.2), M digits := by
  constructor
  · intro h
    cases h with
    | stable => exact ⟨.stable, nofun⟩
    | unnumbered hdash stage => exact ⟨.unnumbered hdash stage, nofun⟩
    | numbered hdash stage hpoint hnumber =>
      exact ⟨.numbered hdash stage hpoint (hwider _ hnumber), by simpa using hnumber⟩
  · rintro ⟨h, hnumber⟩
    cases h with
    | stable => exact .stable
    | unnumbered hdash stage => exact .unnumbered hdash stage
    | numbered hdash stage hpoint => exact .numbered hdash stage hpoint (hnumber _ rfl)

/-- A text has the form with numbers of one kind when it has the form with numbers of a wider kind
and all of them are of the first. -/
theorem written_iff (hwider : ∀ digits, M digits → N digits) {shape : Shape} :
    Written M s shape ↔ Written N s shape ∧ ∀ digits ∈ shape.numbers, M digits := by
  rw [Shape.forall_numbers]
  constructor
  · rintro ⟨hsign, hnumbers, hending⟩
    obtain ⟨hnumbers, hmajor, hminor, hpatch⟩ := (numbers_iff hwider).mp hnumbers
    obtain ⟨hending, hnumber⟩ := (ending_iff hwider).mp hending
    exact ⟨.form hsign hnumbers hending, hmajor, hminor, hpatch, hnumber⟩
  · rintro ⟨⟨hsign, hnumbers, hending⟩, hmajor, hminor, hpatch, hnumber⟩
    exact .form hsign ((numbers_iff hwider).mpr ⟨hnumbers, hmajor, hminor, hpatch⟩)
      ((ending_iff hwider).mpr ⟨hending, hnumber⟩)

end Narrower

/-! ## Reading -/

theorem read_eq_ok_iff {s : String} {v : Version} : read s = .ok v ↔
    ∃ shape, Written Word (Text.trimBlanks s.toList) shape ∧ shape.Holds v := by
  constructor
  · intro h
    unfold read at h
    split at h
    · cases h
    · rename_i shape hshape
      split at h
      · cases h
      · rename_i w hversion
        cases h
        obtain ⟨hwords, hholds⟩ := Shape.version?_eq_some_iff.mp hversion
        exact ⟨shape, (written_iff @Word.digitRun).mpr
          ⟨Shape.ofText?_eq_some_iff.mp hshape, hwords⟩, hholds⟩
  · rintro ⟨shape, hwritten, hholds⟩
    obtain ⟨hshape, hwords⟩ := (written_iff @Word.digitRun).mp hwritten
    have hversion := Shape.version?_eq_some_iff.mpr ⟨hwords, hholds⟩
    rw [read, Shape.ofText?_eq_some_iff.mpr hshape]
    simp only [hversion]

theorem read_eq_range_iff {s : String} : read s = .error .range ↔
    ∃ shape, Written DigitRun (Text.trimBlanks s.toList) shape ∧
      ∃ digits ∈ shape.numbers, ¬Word digits := by
  constructor
  · intro h
    unfold read at h
    split at h
    · cases h
    · rename_i shape hshape
      split at h
      · rename_i hnone
        exact ⟨shape, Shape.ofText?_eq_some_iff.mp hshape, Shape.version?_eq_none_iff.mp hnone⟩
      · cases h
  · rintro ⟨shape, hwritten, hnone⟩
    rw [read, Shape.ofText?_eq_some_iff.mpr hwritten]
    simp only [Shape.version?_eq_none_iff.mpr hnone]

theorem read_eq_form_iff {s : String} : read s = .error .form ↔
    ¬∃ shape, Written DigitRun (Text.trimBlanks s.toList) shape := by
  constructor
  · intro h ⟨shape, hwritten⟩
    rw [read, Shape.ofText?_eq_some_iff.mpr hwritten] at h
    cases hversion : shape.version? <;> simp [hversion] at h
  · intro h
    have hnone : Shape.ofText? (Text.trimBlanks s.toList) = none :=
      Option.eq_none_iff_forall_ne_some.mpr fun shape hshape =>
        h ⟨shape, Shape.ofText?_eq_some_iff.mp hshape⟩
    rw [read, hnone]

theorem message_injective : Function.Injective Misread.message := by
  intro m n h
  cases m <;> cases n <;> first | rfl | exact absurd h (by decide)

theorem parse_eq_ok_iff {s : String} {v : Version} : parse s = .ok v ↔ read s = .ok v := by
  unfold parse
  cases read s <;> simp

theorem parse_eq_error_iff {s : String} {fault : Fault} : parse s = .error fault ↔
    ∃ misread, read s = .error misread ∧ fault = .misreadVersion s misread.message := by
  unfold parse
  cases read s <;> simp [eq_comm]

theorem parse_eq_misread_iff {s : String} (misread : Misread) :
    parse s = .error (.misreadVersion s misread.message) ↔ read s = .error misread := by
  rw [parse_eq_error_iff]
  constructor
  · rintro ⟨other, hread, heq⟩
    injection heq with _ hmessage
    rwa [message_injective hmessage]
  · exact fun hread => ⟨misread, hread, rfl⟩

/-- A text is read by `parse` as a version when, without the blanks around it, it is `Written` in
the form of a version with words of 64 bits for numbers, and as the version of these numbers
(`Shape.Holds`). The form alone is not enough: with other runs of digits in it (`DigitRun`) the
numbers are out of range, and every other text is refused for its form. A refusal,
`Fault.misreadVersion`, carries the text as it was given. -/
theorem parse_follows_grammar (s : String) : ∃ t, (∀ other, Text.Trims s.toList other ↔ other = t) ∧
    ((∃ v, parse s = .ok v) ↔ ∃ shape, Written Word t shape) ∧
    (∀ v, parse s = .ok v ↔ ∃ shape, Written Word t shape ∧ shape.Holds v) ∧
    (parse s = .error (.misreadVersion s "numeric component out of range") ↔
      ∃ shape, Written DigitRun t shape ∧ ∃ digits ∈ shape.numbers, ¬Word digits) ∧
    (parse s =
        .error (.misreadVersion s "expected v<major>[.<minor>[.<patch>]][alpha|beta|rc[N]]") ↔
      ¬∃ shape, Written DigitRun t shape) ∧
    ∀ fault, parse s = .error fault →
      fault = .misreadVersion s "numeric component out of range" ∨
      fault = .misreadVersion s "expected v<major>[.<minor>[.<patch>]][alpha|beta|rc[N]]" := by
  refine ⟨Text.trimBlanks s.toList, fun other => Text.trims_iff, ?_,
    fun v => parse_eq_ok_iff.trans read_eq_ok_iff,
    (parse_eq_misread_iff .range).trans read_eq_range_iff,
    (parse_eq_misread_iff .form).trans read_eq_form_iff, ?_⟩
  · constructor
    · rintro ⟨v, hv⟩
      obtain ⟨shape, hwritten, -⟩ := read_eq_ok_iff.mp (parse_eq_ok_iff.mp hv)
      exact ⟨shape, hwritten⟩
    · rintro ⟨shape, hwritten⟩
      obtain ⟨v, hholds⟩ := Shape.exists_holds ((written_iff @Word.digitRun).mp hwritten).2
      exact ⟨v, parse_eq_ok_iff.mpr (read_eq_ok_iff.mpr ⟨shape, hwritten, hholds⟩)⟩
  · intro fault hfault
    obtain ⟨misread, -, rfl⟩ := parse_eq_error_iff.mp hfault
    cases misread with
    | range => exact .inl rfl
    | form => exact .inr rfl

example : parse " 1.02-beta.3 " = .ok ⟨1, 2, 0, some ⟨.beta, some 3⟩⟩ := rfl

end Version

end StorageGateway

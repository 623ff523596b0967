import StorageGateway.Proofs.Text.Split
import StorageGateway.Version.Shape

/-!
# The grammar of versions

A version is written as `v? N (. N (. N)?)? (-? (alpha|beta|rc) (.? N)?)?`, with blanks around it if
one likes. Reading recognises exactly the texts of that form whose numbers are runs of decimal
digits of any script, and gives a version for exactly those whose numbers are ASCII digits and fit
64 bits: the one that holds their values.
-/

namespace StorageGateway

theorem Stage.exists_word (stage : Stage) : ∃ first letters,
    stage.word.toList = first :: letters ∧ first ≠ '.' ∧ first ≠ '-' ∧
      Text.isDecimalDigit first = false := by
  cases stage with
  | alpha => exact ⟨'a', "lpha".toList, rfl, by decide⟩
  | beta => exact ⟨'b', "eta".toList, rfl, by decide⟩
  | rc => exact ⟨'r', "c".toList, rfl, by decide⟩

namespace Version

open Text (Ends isDecimalDigit)

/-! ## The form -/

/-- A sign, or nothing where it is left out. -/
def Optionally (sign : Char) (s : List Char) : Prop := s = [] ∨ s = [sign]

/-- A text behind a sign at its front, if it has one there. -/
def behind (sign : Char) : List Char → List Char
  | [] => []
  | c :: rest => if c = sign then rest else c :: rest

@[simp] theorem behind_self (sign : Char) (rest : List Char) :
    behind sign (sign :: rest) = rest := if_pos rfl

theorem behind_of_ne {sign : Char} {s : List Char} (h : ∀ rest, s ≠ sign :: rest) :
    behind sign s = s := by
  cases s with
  | nil => rfl
  | cons c rest => exact if_neg fun hc => h rest (by rw [hc])

theorem exists_behind (sign : Char) (s : List Char) :
    ∃ front, Optionally sign front ∧ s = front ++ behind sign s := by
  by_cases h : ∃ rest, s = sign :: rest
  · obtain ⟨rest, rfl⟩ := h
    exact ⟨[sign], .inr rfl, by rw [behind_self]; rfl⟩
  · exact ⟨[], .inl rfl, (behind_of_ne fun rest hs => h ⟨rest, hs⟩).symm⟩

theorem behind_append {sign : Char} {front s : List Char} (hfront : Optionally sign front)
    (h : s.head? ≠ some sign) : behind sign (front ++ s) = s := by
  rcases hfront with rfl | rfl
  · exact behind_of_ne fun rest hs => h (by rw [List.nil_append] at hs; rw [hs]; rfl)
  · exact behind_self sign s

/-- One to three numbers with points between them. -/
inductive Numbers (N : List Char → Prop) :
    List Char → List Char → Option (List Char) → Option (List Char) → Prop where
  | one {major : List Char} (hmajor : N major) : Numbers N major major none none
  | two {major minor : List Char} (hmajor : N major) (hminor : N minor) :
    Numbers N (major ++ '.' :: minor) major (some minor) none
  | three {major minor patch : List Char} (hmajor : N major) (hminor : N minor)
    (hpatch : N patch) :
    Numbers N (major ++ '.' :: (minor ++ '.' :: patch)) major (some minor) (some patch)

/-- Nothing, or the word for a stage behind an optional dash, and an optional number behind an
optional point. -/
inductive Ending (N : List Char → Prop) :
    List Char → Option (Stage × Option (List Char)) → Prop where
  | stable : Ending N [] none
  | unnumbered {dash : List Char} (hdash : Optionally '-' dash) (stage : Stage) :
    Ending N (dash ++ stage.word.toList) (some (stage, none))
  | numbered {dash point number : List Char} (hdash : Optionally '-' dash) (stage : Stage)
    (hpoint : Optionally '.' point) (hnumber : N number) :
    Ending N (dash ++ (stage.word.toList ++ (point ++ number))) (some (stage, some number))

/-- The form of a version, with the given form of its numbers. -/
inductive Written (N : List Char → Prop) : List Char → Shape → Prop where
  | form {sign numbers ending major : List Char} {minor patch : Option (List Char)}
    {qualifier : Option (Stage × Option (List Char))} (hsign : Optionally 'v' sign)
    (hnumbers : Numbers N numbers major minor patch) (hending : Ending N ending qualifier) :
    Written N (sign ++ (numbers ++ ending)) ⟨major, minor, patch, qualifier⟩

/-- A run of decimal digits of any script. -/
structure DigitRun (digits : List Char) : Prop where
  ne_nil : digits ≠ []
  digit : ∀ c ∈ digits, isDecimalDigit c = true

theorem ends_point (rest : List Char) : Ends isDecimalDigit ('.' :: rest) :=
  Text.ends_cons (by decide) rest

theorem DigitRun.exists_cons {digits : List Char} (h : DigitRun digits) :
    ∃ c rest, digits = c :: rest ∧ isDecimalDigit c = true := by
  obtain ⟨c, rest, rfl⟩ := List.exists_cons_of_ne_nil h.ne_nil
  exact ⟨c, rest, rfl, h.digit c List.mem_cons_self⟩

theorem DigitRun.head?_ne {digits : List Char} (h : DigitRun digits) (rest : List Char)
    {sign : Char} (hsign : isDecimalDigit sign = false) : (digits ++ rest).head? ≠ some sign := by
  obtain ⟨c, others, rfl, hc⟩ := h.exists_cons
  intro hhead
  obtain rfl : c = sign := Option.some.inj hhead
  rw [hc] at hsign
  cases hsign

theorem Numbers.head?_ne {s major : List Char} {minor patch : Option (List Char)}
    (h : Numbers DigitRun s major minor patch) (rest : List Char) {sign : Char}
    (hsign : isDecimalDigit sign = false) : (s ++ rest).head? ≠ some sign := by
  cases h with
  | one hmajor => exact hmajor.head?_ne rest hsign
  | two hmajor hminor =>
    rw [List.append_assoc]
    exact hmajor.head?_ne _ hsign
  | three hmajor hminor hpatch =>
    rw [List.append_assoc]
    exact hmajor.head?_ne _ hsign

theorem Ending.ends {N : List Char → Prop} {s : List Char}
    {qualifier : Option (Stage × Option (List Char))} (h : Ending N s qualifier) :
    Ends isDecimalDigit s ∧ s.head? ≠ some '.' := by
  have hword {dash : List Char} (hdash : Optionally '-' dash) (stage : Stage) (rest : List Char) :
      Ends isDecimalDigit (dash ++ (stage.word.toList ++ rest)) ∧
        (dash ++ (stage.word.toList ++ rest)).head? ≠ some '.' := by
    obtain ⟨first, letters, hfirst, hpoint, -, hdigit⟩ := stage.exists_word
    rcases hdash with rfl | rfl
    · rw [hfirst]
      exact ⟨Text.ends_cons hdigit _, fun h => hpoint (Option.some.inj h)⟩
    · exact ⟨Text.ends_cons (by decide) _, fun h => by cases h⟩
  cases h with
  | stable => exact ⟨Text.ends_nil, fun h => by cases h⟩
  | @unnumbered dash hdash stage =>
    have h := hword hdash stage []
    rwa [List.append_nil] at h
  | numbered hdash stage hpoint hnumber => exact hword hdash stage _

namespace Shape

variable {s digits rest : List Char}

/-! ## Recognising the form -/

theorem run?_eq_some_iff :
    run? s = some (digits, rest) ↔
      DigitRun digits ∧ Ends isDecimalDigit rest ∧ s = digits ++ rest := by
  constructor
  · intro h
    unfold run? at h
    split at h
    · cases h
    · rename_i hne
      cases h
      exact ⟨⟨hne, fun c hc => List.mem_takeWhile_imp hc⟩, Text.ends_dropWhile _ s,
        List.takeWhile_append_dropWhile.symm⟩
  · rintro ⟨hdigits, hrest, rfl⟩
    rw [run?, Text.takeWhile_append hdigits.digit hrest, Text.dropWhile_append hdigits.digit hrest]
    obtain ⟨c, digits, rfl, -⟩ := hdigits.exists_cons
    rfl

theorem pointAndRun?_eq_some_iff :
    pointAndRun? s = some (digits, rest) ↔
      DigitRun digits ∧ Ends isDecimalDigit rest ∧ s = '.' :: (digits ++ rest) := by
  unfold pointAndRun?
  split
  · rename_i behind
    rw [run?_eq_some_iff, List.cons.injEq]
    simp
  · rename_i hpoint
    constructor
    · intro h
      cases h
    · rintro ⟨-, -, rfl⟩
      exact absurd rfl (hpoint _)

theorem pointAndRun?_eq_none (h : s.head? ≠ some '.') : pointAndRun? s = none := by
  unfold pointAndRun?
  split
  · exact absurd rfl h
  · rfl

theorem stage?_eq_some_iff {stage : Stage} :
    stage? s = some (stage, rest) ↔ s = stage.word.toList ++ rest := by
  constructor
  · intro h
    obtain ⟨other, -, hother⟩ := List.exists_of_findSome?_eq_some h
    obtain ⟨behind, hbehind, heq⟩ := Option.map_eq_some_iff.mp hother
    cases heq
    exact Text.afterPrefix?_eq_some_iff.mp hbehind
  · rintro rfl
    cases stage <;> rfl

theorem behind_point (s : List Char) :
    (match s with | '.' :: rest => rest | other => other) = behind '.' s := by
  split
  · exact (behind_self _ _).symm
  · rename_i hne
    exact (behind_of_ne hne).symm

theorem behind_dash (s : List Char) :
    (match s with | '-' :: rest => rest | other => other) = behind '-' s := by
  split
  · exact (behind_self _ _).symm
  · rename_i hne
    exact (behind_of_ne hne).symm

theorem qualifierNumber?_of_ne_nil (h : s ≠ []) :
    qualifierNumber? s =
      match run? (behind '.' s) with
      | some (number, []) => some (some number)
      | _ => none := by
  cases s with
  | nil => exact absurd rfl h
  | cons c rest =>
    rw [← behind_point]
    rfl

theorem qualifier?_of_ne_nil (h : s ≠ []) :
    qualifier? s = (stage? (behind '-' s)).bind fun found =>
      (qualifierNumber? found.2).bind fun number => some (some (found.1, number)) := by
  cases s with
  | nil => exact absurd rfl h
  | cons c rest =>
    rw [← behind_dash]
    rfl

theorem ofText?_eq (s : List Char) : ofText? s = ofNumbers? (behind 'v' s) := by
  unfold ofText?
  split
  · rw [behind_self]
  · rename_i hne
    rw [behind_of_ne hne]

theorem head?_word_ne (stage : Stage) (rest : List Char) :
    (stage.word.toList ++ rest).head? ≠ some '-' := by
  obtain ⟨first, letters, hfirst, -, hdash, -⟩ := stage.exists_word
  rw [hfirst]
  exact fun h => hdash (Option.some.inj h)

/-- The number of a qualifier is what stands behind an optional point, up to the end. -/
theorem qualifierNumber?_eq_some_iff {number : Option (List Char)} :
    qualifierNumber? s = some number ↔ s = [] ∧ number = none ∨
      ∃ point digits, Optionally '.' point ∧ DigitRun digits ∧ s = point ++ digits ∧
        number = some digits := by
  by_cases hs : s = []
  · subst hs
    refine ⟨fun h => .inl ⟨rfl, (Option.some.inj h).symm⟩, ?_⟩
    rintro (⟨-, rfl⟩ | ⟨point, digits, -, hdigits, hnil, -⟩)
    · rfl
    · exact absurd (List.append_eq_nil_iff.mp hnil.symm).2 hdigits.ne_nil
  · rw [qualifierNumber?_of_ne_nil hs]
    constructor
    · intro h
      split at h
      · rename_i digits hrun
        obtain ⟨hdigits, -, hbehind⟩ := run?_eq_some_iff.mp hrun
        obtain ⟨point, hpoint, hfront⟩ := exists_behind '.' s
        rw [hbehind, List.append_nil] at hfront
        exact .inr ⟨point, digits, hpoint, hdigits, hfront, (Option.some.inj h).symm⟩
      · cases h
    · rintro (⟨hnil, -⟩ | ⟨point, digits, hpoint, hdigits, rfl, rfl⟩)
      · exact absurd hnil hs
      · have hhead : (digits ++ []).head? ≠ some '.' := hdigits.head?_ne [] (by decide)
        have hrun := run?_eq_some_iff.mpr ⟨hdigits, Text.ends_nil, rfl⟩
        rw [List.append_nil] at hhead hrun
        rw [behind_append hpoint hhead, hrun]

theorem qualifier?_eq_some_iff {qualifier : Option (Stage × Option (List Char))} :
    qualifier? s = some qualifier ↔ Ending DigitRun s qualifier := by
  constructor
  · intro h
    by_cases hs : s = []
    · subst hs
      cases h
      exact .stable
    · obtain ⟨dash, hdash, hfront⟩ := exists_behind '-' s
      rw [qualifier?_of_ne_nil hs] at h
      obtain ⟨⟨stage, rest⟩, hstage, h⟩ := Option.bind_eq_some_iff.mp h
      obtain ⟨number, hnumber, heq⟩ := Option.bind_eq_some_iff.mp h
      obtain rfl : some (stage, number) = qualifier := Option.some.inj heq
      rw [stage?_eq_some_iff.mp hstage] at hfront
      rcases qualifierNumber?_eq_some_iff.mp hnumber with
        ⟨hrest, rfl⟩ | ⟨point, digits, hpoint, hdigits, hrest, rfl⟩
      · obtain rfl : rest = [] := hrest
        rw [hfront, List.append_nil]
        exact .unnumbered hdash stage
      · obtain rfl : rest = point ++ digits := hrest
        rw [hfront]
        exact .numbered hdash stage hpoint hdigits
  · intro h
    have hread {dash rest : List Char} (hdash : Optionally '-' dash) {stage : Stage}
        {number : Option (List Char)} (hnumber : qualifierNumber? rest = some number) :
        qualifier? (dash ++ (stage.word.toList ++ rest)) = some (some (stage, number)) := by
      have hne : dash ++ (stage.word.toList ++ rest) ≠ [] := by
        intro hnil
        obtain ⟨first, letters, hfirst, -⟩ := stage.exists_word
        rw [hfirst] at hnil
        exact absurd (List.append_eq_nil_iff.mp hnil).2 (List.cons_ne_nil _ _)
      rw [qualifier?_of_ne_nil hne, behind_append hdash (head?_word_ne stage rest),
        stage?_eq_some_iff.mpr rfl, Option.bind_some, hnumber]
      rfl
    cases h with
    | stable => rfl
    | @unnumbered dash hdash stage =>
      have h : qualifier? (dash ++ (stage.word.toList ++ [])) = some (some (stage, none)) :=
        hread hdash (qualifierNumber?_eq_some_iff.mpr (.inl ⟨rfl, rfl⟩))
      rwa [List.append_nil] at h
    | numbered hdash stage hpoint hnumber =>
      exact hread hdash (qualifierNumber?_eq_some_iff.mpr (.inr ⟨_, _, hpoint, hnumber, rfl, rfl⟩))

theorem ofNumbers?_append {numbers ending major : List Char} {minor patch : Option (List Char)}
    {qualifier : Option (Stage × Option (List Char))}
    (hnumbers : Numbers DigitRun numbers major minor patch)
    (hending : Ending DigitRun ending qualifier) :
    ofNumbers? (numbers ++ ending) = some ⟨major, minor, patch, qualifier⟩ := by
  -- Neither a digit nor a point follows the numbers, so each of them is cut off at its end.
  obtain ⟨hends, hpoint⟩ := hending.ends
  have hnone := pointAndRun?_eq_none hpoint
  have hqualifier := qualifier?_eq_some_iff.mpr hending
  cases hnumbers with
  | one hmajor =>
    have hfirst := run?_eq_some_iff.mpr ⟨hmajor, hends, rfl⟩
    simp [ofNumbers?, hfirst, hnone, hqualifier]
  | @two major minor hmajor hminor =>
    have hfirst := run?_eq_some_iff.mpr ⟨hmajor, ends_point (minor ++ ending), rfl⟩
    have hsecond := pointAndRun?_eq_some_iff.mpr ⟨hminor, hends, rfl⟩
    rw [List.append_assoc, List.cons_append]
    simp [ofNumbers?, hfirst, hsecond, hnone, hqualifier]
  | @three major minor patch hmajor hminor hpatch =>
    have hfirst :=
      run?_eq_some_iff.mpr ⟨hmajor, ends_point (minor ++ '.' :: (patch ++ ending)), rfl⟩
    have hsecond := pointAndRun?_eq_some_iff.mpr ⟨hminor, ends_point (patch ++ ending), rfl⟩
    have hthird := pointAndRun?_eq_some_iff.mpr ⟨hpatch, hends, rfl⟩
    rw [List.append_assoc, List.cons_append, List.append_assoc, List.cons_append]
    simp [ofNumbers?, hfirst, hsecond, hthird, hqualifier]

theorem ofNumbers?_eq_some_iff {shape : Shape} :
    ofNumbers? s = some shape ↔ ∃ numbers ending,
      Numbers DigitRun numbers shape.major shape.minor shape.patch ∧
        Ending DigitRun ending shape.qualifier ∧ s = numbers ++ ending := by
  constructor
  · intro h
    unfold ofNumbers? at h
    obtain ⟨⟨major, afterMajor⟩, hrun, hread⟩ := Option.bind_eq_some_iff.mp h
    clear h
    obtain ⟨hmajor, -, rfl⟩ := run?_eq_some_iff.mp hrun
    dsimp only at hread
    split at hread
    · obtain ⟨qualifier, hqualifier, heq⟩ := Option.bind_eq_some_iff.mp hread
      cases heq
      exact ⟨major, afterMajor, .one hmajor, qualifier?_eq_some_iff.mp hqualifier, rfl⟩
    · rename_i minor afterMinor hsecond
      obtain ⟨hminor, -, rfl⟩ := pointAndRun?_eq_some_iff.mp hsecond
      split at hread
      · obtain ⟨qualifier, hqualifier, heq⟩ := Option.bind_eq_some_iff.mp hread
        cases heq
        refine ⟨_, afterMinor, .two hmajor hminor, qualifier?_eq_some_iff.mp hqualifier, ?_⟩
        rw [List.append_assoc, List.cons_append]
      · rename_i patch afterPatch hthird
        obtain ⟨hpatch, -, rfl⟩ := pointAndRun?_eq_some_iff.mp hthird
        obtain ⟨qualifier, hqualifier, heq⟩ := Option.bind_eq_some_iff.mp hread
        cases heq
        refine ⟨_, afterPatch, .three hmajor hminor hpatch,
          qualifier?_eq_some_iff.mp hqualifier, ?_⟩
        rw [List.append_assoc, List.cons_append, List.append_assoc, List.cons_append]
  · rintro ⟨numbers, ending, hnumbers, hending, rfl⟩
    exact ofNumbers?_append hnumbers hending

theorem ofText?_eq_some_iff {shape : Shape} :
    ofText? s = some shape ↔ Written DigitRun s shape := by
  constructor
  · intro h
    obtain ⟨sign, hsign, hfront⟩ := exists_behind 'v' s
    rw [ofText?_eq] at h
    obtain ⟨numbers, ending, hnumbers, hending, hbehind⟩ := ofNumbers?_eq_some_iff.mp h
    rw [hfront, hbehind]
    exact .form hsign hnumbers hending
  · rintro ⟨hsign, hnumbers, hending⟩
    rw [ofText?_eq, behind_append hsign (hnumbers.head?_ne _ (by decide))]
    exact ofNumbers?_eq_some_iff.mpr ⟨_, _, hnumbers, hending, rfl⟩

end Shape

end Version

end StorageGateway

import Mathlib.Data.List.Forall2
import Mathlib.Data.List.Induction
import StorageGateway.Proofs.Json.Numerals
import StorageGateway.Proofs.Json.Records

/-!
# Numbers as names

A member may be named by a number of 32 bits. Its name is the number in decimal and no other text:
a numeral that reads as an integer is a run of digits without leading zeros, and such a run is what
is written for its value.
-/

namespace StorageGateway.Json

open Text (Glyph)

/-! ## Numerals without leading zeros -/

namespace Token

theorem digitChar_of_isDigit {c : Char} (h : c.isDigit = true) :
    c.toNat - '0'.toNat < 10 ∧ (c.toNat - '0'.toNat).digitChar = c := by
  simp only [Char.isDigit, Bool.and_eq_true, decide_eq_true_eq, ge_iff_le,
    UInt32.le_iff_toNat_le] at h
  have hlow : 48 ≤ c.toNat := h.1
  have hhigh : c.toNat ≤ 57 := h.2
  have hall : ∀ n, n < 10 → n.digitChar = Char.ofNat (n + 48) := by decide
  have hzero : '0'.toNat = 48 := rfl
  have hlt : c.toNat - '0'.toNat < 10 := by omega
  refine ⟨hlt, ?_⟩
  rw [hall _ hlt, hzero, Nat.sub_add_cancel hlow, Char.ofNat_toNat]

theorem isWhole_of_append {digits : List Char} {last : Char}
    (h : isWhole (digits ++ [last]) = true) (hne : digits ≠ []) :
    isWhole digits = true ∧ digits ≠ ['0'] := by
  match digits, hne with
  | [d], _ =>
    have hd : d ≠ '0' := by
      rintro rfl
      cases h
    exact ⟨by simp [isWhole], by simpa using hd⟩
  | d :: e :: digits, _ =>
    have hd : d ≠ '0' := by
      rintro rfl
      cases h
    exact ⟨by simp [isWhole, hd], by simp⟩

/-- A run of digits without leading zeros is what is written for its value. -/
theorem toDigits_ofDigitChars {digits : List Char} (h : ∀ c ∈ digits, c.isDigit = true)
    (hwhole : isWhole digits = true) :
    Nat.toDigits 10 (Nat.ofDigitChars 10 digits 0) = digits := by
  induction digits using List.reverseRecOn with
  | nil => cases hwhole
  | append_singleton digits last ih =>
    obtain ⟨hlt, hlast⟩ := digitChar_of_isDigit (h last (by simp))
    have hstep : Nat.ofDigitChars 10 (digits ++ [last]) 0 =
        10 * Nat.ofDigitChars 10 digits 0 + (last.toNat - '0'.toNat) := by
      rw [Nat.ofDigitChars_append, Nat.ofDigitChars_cons, Nat.ofDigitChars_nil]
    rw [hstep]
    by_cases hnil : digits = []
    · subst hnil
      rw [Nat.ofDigitChars_nil, Nat.mul_zero, Nat.zero_add, Nat.toDigits_of_lt_base hlt, hlast]
      rfl
    · obtain ⟨hfirst, hzero⟩ := isWhole_of_append hwhole hnil
      have hdigits := ih (fun c hc => h c (List.mem_append_left _ hc)) hfirst
      have hpos : 0 < Nat.ofDigitChars 10 digits 0 := by
        refine Nat.pos_of_ne_zero fun hvalue => hzero ?_
        rw [hvalue] at hdigits
        exact hdigits.symm
      rw [← Nat.toDigits_append_toDigits (by decide) hpos hlt, hdigits,
        Nat.toDigits_of_lt_base hlt, hlast]

/-- Digits that are all kept have the value that is kept. -/
theorem ofDigitChars_of_keepDigits {digits : List Char} {kept n : Nat}
    (h : keepDigits kept digits = (n, 0)) : Nat.ofDigitChars 10 digits kept = n := by
  induction digits generalizing kept with
  | nil =>
    cases h
    rfl
  | cons d digits ih =>
    unfold keepDigits at h
    dsimp only at h
    split at h
    · rw [Nat.ofDigitChars_cons, Nat.mul_comm]
      exact ih h
    · cases h

/-- A numeral has an integer for its value when it has neither a fraction nor an exponent and its
digits are all kept. -/
theorem of_value_eq_int {n : Numeral} {i : Int} (h : n.value = some (.int i)) :
    n.fraction = [] ∧ n.exponent = none ∧ ∃ whole : Nat, keepDigits 0 n.whole = (whole, 0) ∧
      (n.negative = false ∧ i = whole ∨ n.negative = true ∧ 0 < whole ∧ i = -whole) := by
  have hfloat {x : Option Binary64} : x.map JsonNumber.float ≠ some (.int i) := by
    cases x <;> simp
  unfold Numeral.value at h
  rcases hkept : keepDigits 0 n.whole with ⟨whole, left⟩
  rw [hkept] at h
  dsimp only at h
  split at h
  · rename_i hplain
    simp only [Bool.and_eq_true, List.isEmpty_iff, Option.isNone_iff_eq_none, beq_iff_eq] at hplain
    obtain ⟨⟨hfraction, hexponent⟩, rfl⟩ := hplain
    refine ⟨hfraction, hexponent, whole, rfl, ?_⟩
    cases hsign : n.negative with
    | false =>
      rw [hsign] at h
      cases h
      exact .inl ⟨rfl, rfl⟩
    | true =>
      rw [hsign] at h
      simp only [Bool.not_true, Bool.false_eq_true, if_false] at h
      split at h
      · rename_i hsize
        cases h
        have hpos : 0 < whole := by
          refine Nat.pos_of_ne_zero fun hzero => ?_
          simp [hzero] at hsize
        exact .inr ⟨rfl, hpos, rfl⟩
      · exact absurd h hfloat
  · exact absurd h hfloat

/-- A whole numeral that is an integer other than a negative one is what is written for it. -/
theorem eq_toDigits_of_numeral {text : List Glyph} {negative : Bool} {numeral : Numeral} {n : Nat}
    (h : Token.numeral negative text = some (numeral, []))
    (hvalue : numeral.value = some (.int n)) :
    negative = false ∧ text = (Nat.toDigits 10 n).map some := by
  obtain ⟨hwhole, fraction, behind, exponent, hfraction, hexponent, rfl⟩ :=
    numeral_eq_some_iff.mp h
  obtain ⟨hnone, hplain, whole, hkept, hsign⟩ := of_value_eq_int hvalue
  dsimp only at hnone hplain hkept hsign
  subst hnone hplain
  obtain ⟨rfl, hwholeValue⟩ : negative = false ∧ n = whole := by
    rcases hsign with ⟨hpositive, hvalue⟩ | ⟨-, hpos, hvalue⟩
    · exact ⟨hpositive, by omega⟩
    · omega
  -- Behind the digits nothing is left, as there is neither a point nor an exponent.
  have hbehind : (digitRun text).2 = behind := by
    unfold optionalFraction at hfraction
    split at hfraction
    · split at hfraction
      · cases hfraction
      · rename_i hne _
        cases hfraction
        exact absurd rfl hne
    · cases hfraction
      rfl
  have hend : behind = [] := by
    unfold optionalExponent at hexponent
    split at hexponent
    · obtain ⟨_, -, heq⟩ := Option.map_eq_some_iff.mp hexponent
      cases heq
    · obtain ⟨_, -, heq⟩ := Option.map_eq_some_iff.mp hexponent
      cases heq
    · cases hexponent
      rfl
  obtain ⟨htext, hdigits⟩ := of_digitRun (Eq.refl (digitRun text))
  refine ⟨rfl, ?_⟩
  rw [hwholeValue, ← ofDigitChars_of_keepDigits hkept, toDigits_ofDigitChars hdigits hwhole]
  rw [hbehind, hend, List.append_nil] at htext
  exact htext

end Token

/-! ## Names of members -/

theorem toList_toString (n : Nat) : (toString n).toList = Nat.toDigits 10 n := Nat.toList_repr

/-- A name is read as a number when it is the number in decimal. -/
theorem Reader.u32Name_eq_ok_iff {name : String} {n : UInt32} :
    Reader.u32Name name = .ok n ↔ name = toString n.toNat := by
  have hcomplete {negative : Bool} {text : List Glyph}
      (h : Reader.u32Name.complete (Token.numeral negative text) = .ok n) :
      negative = false ∧ text = (Nat.toDigits 10 n.toNat).map some := by
    rcases hnumeral : Token.numeral negative text with _ | ⟨numeral, rest⟩
    · rw [hnumeral] at h
      cases h
    · rw [hnumeral] at h
      obtain ⟨value, hvalue, h⟩ := bind_eq_ok_iff.mp h
      split at h
      · rename_i hrest
        cases h
        obtain rfl := List.isEmpty_iff.mp hrest
        exact Token.eq_toDigits_of_numeral hnumeral
          (by simpa using Reader.u32_eq_ok_iff.mp hvalue)
      · cases h
  have hback {text : List Char} (h : name.toList.map some = text.map some) :
      name.toList = text := (List.map_inj_right fun _ _ => Option.some.inj).mp h
  constructor
  · intro h
    have htext : name.toList.map some = (Nat.toDigits 10 n.toNat).map some := by
      unfold Reader.u32Name at h
      dsimp only at h
      split at h
      · exact absurd (hcomplete h).1 (by decide)
      · split at h
        · exact (hcomplete h).2
        · cases h
      · cases h
    exact String.toList_injective ((hback htext).trans (toList_toString _).symm)
  · rintro rfl
    have hfits : n.toNat < 2 ^ 64 := by
      have := n.toNat_lt
      omega
    have hread : Reader.u32Name.complete
        (Token.numeral false ((Nat.toDigits 10 n.toNat).map some)) = .ok n := by
      rw [Token.numeral_toDigits]
      show (do
        let value ← u32 .value (.number _)
        if ([] : List Glyph).isEmpty then .ok value else .error .nameNotNumeric) = _
      rw [Token.value_toDigits hfits, u32_eq_ok_iff.mpr rfl]
      rfl
    have hdigits : ∀ c ∈ Nat.toDigits 10 n.toNat, c.isDigit = true :=
      fun c hc => Nat.isDigit_of_mem_toDigits (by decide) (by decide) hc
    unfold Reader.u32Name
    rw [toList_toString]
    cases hcase : Nat.toDigits 10 n.toNat with
    | nil => exact absurd hcase Nat.toDigits_ne_nil
    | cons d digits =>
      rw [hcase] at hread hdigits
      have hd := hdigits d List.mem_cons_self
      dsimp only [List.map_cons] at hread ⊢
      split
      · rename_i heq
        cases heq
        cases hd
      · rename_i heq
        cases heq
        rw [if_pos hd]
        exact hread
      · rename_i hne
        exact absurd rfl (hne d (digits.map some))

theorem toString_injective {n m : UInt32} (h : toString n.toNat = toString m.toNat) : n = m := by
  have hread := Reader.u32Name_eq_ok_iff.mpr h
  rw [Reader.u32Name_eq_ok_iff.mpr rfl] at hread
  exact Except.ok.inj hread

/-- The members of a map are read one by one. -/
theorem Reader.entries_eq_ok_iff {κ α : Type} {readName : String → Except Refusal κ}
    {read : Reader α} {origin : Origin} {members : List (String × Json)}
    {entries : List (κ × α)} :
    Reader.entries readName read origin (memberDocuments members) = .ok entries ↔
      List.Forall₂ (fun m entry => readName m.1 = .ok entry.1 ∧
        read origin m.2.toDocument = .ok entry.2) members entries := by
  induction members generalizing entries with
  | nil =>
    rw [List.forall₂_nil_left_iff]
    exact ⟨fun h => (Except.ok.inj h).symm, fun h => congrArg Except.ok h.symm⟩
  | cons m members ih =>
    obtain ⟨name, value⟩ := m
    rw [memberDocuments, memberDocument, Reader.entries, List.forall₂_cons_left_iff]
    simp only [bind_eq_ok_iff]
    constructor
    · rintro ⟨key, hkey, first, hfirst, others, hothers, h⟩
      cases h
      exact ⟨(key, first), others, ⟨hkey, hfirst⟩, ih.mp hothers, rfl⟩
    · rintro ⟨⟨key, first⟩, others, ⟨hkey, hfirst⟩, hothers, rfl⟩
      exact ⟨key, hkey, first, hfirst, others, ih.mpr hothers, rfl⟩

end StorageGateway.Json

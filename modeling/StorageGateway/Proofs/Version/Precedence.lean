import StorageGateway.Version.Precedence

/-!
# Precedence is an order

Every comparison that precedence is made of compares keys one after the other, so precedence leads
on from version to version: what is not below a second version, which is not below a third, is not
below the third.
-/

namespace StorageGateway.Version

open Std

theorem compareText_eq_compareLex : compareText = List.compareLex (compareOn Char.toNat) := by
  funext s t
  induction s generalizing t with
  | nil => cases t <;> rfl
  | cons a s ih =>
    cases t with
    | nil => rfl
    | cons b t =>
      rw [compareText, List.compareLex_cons_cons, ih]
      rfl

/-- Digits come before text; digits are compared by their length before they are compared as
text. -/
theorem compareIdentifier_eq_compareLex :
    compareIdentifier =
      compareLex (compareOn fun s => if s.all Char.isDigit then 0 else 1)
        (compareLex (compareOn fun s => if s.all Char.isDigit then s.length else 0)
          compareText) := by
  funext s t
  unfold compareIdentifier
  cases hs : s.all Char.isDigit <;> cases ht : t.all Char.isDigit <;>
    simp [compareLex, compareOn, hs, ht] <;> rfl

theorem compareIdentifiers_eq_compareLex :
    compareIdentifiers = List.compareLex compareIdentifier := by
  funext s t
  induction s generalizing t with
  | nil => cases t <;> rfl
  | cons a s ih =>
    cases t with
    | nil => rfl
    | cons b t => rw [compareIdentifiers, List.compareLex_cons_cons, ih]

/-- A pre-release part that is there comes before one that is not. -/
theorem comparePreRelease_eq_compareLex :
    comparePreRelease =
      compareLex (compareOn fun parts => if parts.isEmpty then 1 else 0) compareIdentifiers := by
  funext s t
  cases s <;> cases t <;> rfl

theorem precedence_eq_compareLex :
    precedence =
      compareLex (compareOn fun v => v.major.toNat)
        (compareLex (compareOn fun v => v.minor.toNat)
          (compareLex (compareOn fun v => v.patch.toNat)
            fun v w => comparePreRelease v.preRelease w.preRelease)) := rfl

/-! ## The comparisons lead on -/

instance : TransCmp compareText := by
  rw [compareText_eq_compareLex]
  infer_instance

instance : TransCmp compareIdentifier := by
  rw [compareIdentifier_eq_compareLex]
  infer_instance

instance : TransCmp compareIdentifiers := by
  rw [compareIdentifiers_eq_compareLex]
  infer_instance

instance : TransCmp comparePreRelease := by
  rw [comparePreRelease_eq_compareLex]
  infer_instance

instance : TransCmp fun v w : Version => comparePreRelease v.preRelease w.preRelease where
  eq_swap := OrientedCmp.eq_swap
  isLE_trans := TransCmp.isLE_trans

instance : TransCmp precedence := by
  rw [precedence_eq_compareLex]
  infer_instance

theorem atLeast_eq_isGE (v minimum : Version) :
    v.atLeast minimum = (precedence v minimum).isGE := by
  unfold atLeast
  cases precedence v minimum <;> rfl

/-- Whatever is at least a version is at least all that this version is at least. -/
theorem atLeast_trans {v w minimum : Version} (hvw : v.atLeast w = true)
    (hw : w.atLeast minimum = true) : v.atLeast minimum = true := by
  rw [atLeast_eq_isGE] at hvw hw ⊢
  exact TransCmp.isGE_trans hvw hw

end StorageGateway.Version

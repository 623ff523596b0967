import Mathlib.Data.Prod.Lex
import StorageGateway.Proofs.Version.Precedence
import StorageGateway.Proofs.Version.Text

/-!
# Precedence is the lexicographic order

Precedence looks at the words and digits of pre-release identifiers. What it finds is the order of
the numbers that they stand for: versions come in the lexicographic order of their three numbers,
their stage and the number of their draft, where a stable version comes after all stages and a
version without a draft number before all numbered ones.
-/

namespace StorageGateway

namespace Stage

/-- The place of a stage among the stages. -/
def rank : Stage → ℕ
  | .alpha => 0
  | .beta => 1
  | .rc => 2

theorem rank_lt (stage : Stage) : stage.rank < 3 := by
  cases stage <;> decide

theorem rank_injective : Function.Injective rank := by
  intro s t h
  cases s <;> cases t <;> first | rfl | cases h

end Stage

namespace Version

/-- How mature a version is: the place of its stage, and the place after all stages when it is
stable. -/
def maturity : Option Qualifier → ℕ
  | none => 3
  | some q => q.stage.rank

/-- The place of a draft among those of its stage: the one without a number is the first, and the
one with number zero is next. -/
def draft : Option Qualifier → ℕ
  | some ⟨_, some n⟩ => n.toNat + 1
  | _ => 0

/-- What versions are ordered by, the first part before the second and so on. -/
def key (v : Version) : ℕ ×ₗ ℕ ×ₗ ℕ ×ₗ ℕ ×ₗ ℕ :=
  toLex (v.major.toNat, toLex (v.minor.toNat, toLex (v.patch.toNat,
    toLex (maturity v.qualifier, draft v.qualifier))))

/-! ## Digits -/

/-- A digit behind two numbers decides between them only when they are the same. -/
theorem compare_append_digit {a b : ℕ} (ha : a < 10) (hb : b < 10) (m n : ℕ) :
    compare (10 * m + a) (10 * n + b) = (compare m n).then (compare a b) := by
  simp only [Nat.compare_eq_ite_lt]
  split_ifs <;> first | rfl | omega

theorem compare_digits {a b : Char} (ha : a.isDigit = true) (hb : b.isDigit = true) (m n : ℕ) :
    compare (10 * m + (a.toNat - '0'.toNat)) (10 * n + (b.toNat - '0'.toNat)) =
      (compare m n).then (compare a.toNat b.toNat) := by
  have hzero : '0'.toNat = 48 := rfl
  have hnine : '9'.toNat = 57 := rfl
  obtain ⟨halow, hahigh⟩ := Char.isDigit_iff_toNat.mp ha
  obtain ⟨hblow, hbhigh⟩ := Char.isDigit_iff_toNat.mp hb
  have hshift : compare (a.toNat - '0'.toNat) (b.toNat - '0'.toNat) =
      compare a.toNat b.toNat := by
    simp only [Nat.compare_eq_ite_lt]
    split_ifs <;> first | rfl | omega
  rw [compare_append_digit (by omega) (by omega), hshift]

/-- Runs of digits of one length behind two numbers compare as text where the numbers are the
same. -/
theorem compare_ofDigitChars {s t : List Char} (hs : ∀ c ∈ s, c.isDigit = true)
    (ht : ∀ c ∈ t, c.isDigit = true) (hlength : s.length = t.length) (m n : ℕ) :
    compare (Nat.ofDigitChars 10 s m) (Nat.ofDigitChars 10 t n) =
      (compare m n).then (compareText s t) := by
  induction s generalizing t m n with
  | nil =>
    obtain rfl : t = [] := List.length_eq_zero_iff.mp hlength.symm
    exact Ordering.then_eq.symm
  | cons a s ih =>
    cases t with
    | nil => cases hlength
    | cons b t =>
      obtain ⟨ha, hs⟩ := List.forall_mem_cons.mp hs
      obtain ⟨hb, ht⟩ := List.forall_mem_cons.mp ht
      have hrest := ih hs ht (Nat.succ_inj.mp hlength) (10 * m + (a.toNat - '0'.toNat))
        (10 * n + (b.toNat - '0'.toNat))
      rw [Nat.ofDigitChars_cons, Nat.ofDigitChars_cons, hrest, compare_digits ha hb,
        Ordering.then_assoc]
      rfl

theorem all_isDigit_numberText (n : UInt64) : (numberText n).all Char.isDigit = true :=
  List.all_eq_true.mpr fun _ hc => isDigit_of_mem_numberText hc

/-- A number that is written with fewer digits is less. -/
theorem lt_of_length_numberText_lt {m n : UInt64}
    (h : (numberText m).length < (numberText n).length) : m.toNat < n.toNat := by
  have hlength (n : UInt64) : 0 < (numberText n).length :=
    List.length_pos_iff.mpr (numberText_ne_nil n)
  have hbound {n : UInt64} {k : ℕ} (hk : 0 < k) : (numberText n).length ≤ k ↔ n.toNat < 10 ^ k :=
    Nat.length_toDigits_le_iff (by decide) hk
  have hless : m.toNat < 10 ^ (numberText m).length := (hbound (hlength m)).mp (Nat.le_refl _)
  have hmore : ¬ n.toNat < 10 ^ (numberText m).length := by
    rw [← hbound (hlength m)]
    omega
  omega

/-- Identifiers that are written numbers compare as the numbers. -/
theorem compareIdentifier_numberText (m n : UInt64) :
    compareIdentifier (numberText m) (numberText n) = compare m.toNat n.toNat := by
  have hvalue (n : UInt64) : Nat.ofDigitChars 10 (numberText n) 0 = n.toNat := valueOf_numberText n
  unfold compareIdentifier
  rw [all_isDigit_numberText, all_isDigit_numberText]
  dsimp only
  rcases Nat.lt_trichotomy (numberText m).length (numberText n).length with hlt | heq | hgt
  · rw [compare_lt_iff_lt.mpr hlt, compare_lt_iff_lt.mpr (lt_of_length_numberText_lt hlt)]
    rfl
  · have hdigits := compare_ofDigitChars (fun _ hc => isDigit_of_mem_numberText hc)
      (fun _ hc => isDigit_of_mem_numberText hc) heq 0 0
    rw [hvalue, hvalue] at hdigits
    rw [compare_eq_iff_eq.mpr heq, hdigits]
    rfl
  · rw [compare_gt_iff_gt.mpr hgt, compare_gt_iff_gt.mpr (lt_of_length_numberText_lt hgt)]
    rfl

/-! ## Pre-release parts -/

/-- Identifiers that are words of stages compare as the stages. -/
theorem compareIdentifier_word (s t : Stage) :
    compareIdentifier s.word.toList t.word.toList = compare s.rank t.rank := by
  cases s <;> cases t <;> rfl

theorem compare_succ (m n : ℕ) : compare (m + 1) (n + 1) = compare m n := by
  simp only [Nat.compare_eq_ite_lt, Nat.add_lt_add_iff_right]

theorem maturity_lt_stable (q : Qualifier) : maturity (some q) < maturity none :=
  q.stage.rank_lt

/-- Without a number comes first, and numbers compare as numbers. -/
theorem compareIdentifiers_number (s t : Stage) (m n : Option UInt64) :
    compareIdentifiers (m.map numberText).toList (n.map numberText).toList =
      compare (draft (some ⟨s, m⟩)) (draft (some ⟨t, n⟩)) := by
  cases m with
  | none =>
    cases n with
    | none => exact (compare_eq_iff_eq.mpr rfl).symm
    | some n => exact (compare_lt_iff_lt.mpr (Nat.succ_pos _)).symm
  | some m =>
    cases n with
    | none => exact (compare_gt_iff_gt.mpr (Nat.succ_pos _)).symm
    | some n =>
      show (compareIdentifier (numberText m) (numberText n)).then .eq = _
      rw [compareIdentifier_numberText, Ordering.then_eq]
      exact (compare_succ _ _).symm

theorem preRelease_eq_cons {v : Version} {s : Stage} {m : Option UInt64}
    (h : v.qualifier = some ⟨s, m⟩) :
    v.preRelease = s.word.toList :: (m.map numberText).toList := by
  unfold preRelease
  rw [h]
  cases m <;> rfl

theorem preRelease_eq_nil {v : Version} (h : v.qualifier = none) : v.preRelease = [] := by
  unfold preRelease
  rw [h]

/-- Pre-release parts compare by stage and draft, and having none comes last. -/
theorem comparePreRelease_eq_compare (v w : Version) :
    comparePreRelease v.preRelease w.preRelease =
      (compare (maturity v.qualifier) (maturity w.qualifier)).then
        (compare (draft v.qualifier) (draft w.qualifier)) := by
  cases hv : v.qualifier with
  | none =>
    rw [preRelease_eq_nil hv]
    cases hw : w.qualifier with
    | none =>
      rw [preRelease_eq_nil hw, compare_eq_iff_eq.mpr rfl, compare_eq_iff_eq.mpr rfl]
      rfl
    | some q =>
      rw [preRelease_eq_cons hw, compare_gt_iff_gt.mpr (maturity_lt_stable q)]
      rfl
  | some p =>
    rw [preRelease_eq_cons hv]
    cases hw : w.qualifier with
    | none =>
      rw [preRelease_eq_nil hw, compare_lt_iff_lt.mpr (maturity_lt_stable p)]
      rfl
    | some q =>
      rw [preRelease_eq_cons hw]
      show (compareIdentifier p.stage.word.toList q.stage.word.toList).then _ = _
      rw [compareIdentifier_word, compareIdentifiers_number p.stage q.stage]
      rfl

/-! ## Versions -/

theorem precedence_eq_compare_key (v w : Version) : precedence v w = compare v.key w.key := by
  unfold precedence
  rw [comparePreRelease_eq_compare]
  rfl

/-- A qualifier is known from its place and the number of its draft. -/
theorem qualifier_eq {p q : Option Qualifier} (hmaturity : maturity p = maturity q)
    (hdraft : draft p = draft q) : p = q := by
  cases p with
  | none =>
    cases q with
    | none => rfl
    | some q => exact absurd hmaturity.symm (maturity_lt_stable q).ne
  | some p =>
    cases q with
    | none => exact absurd hmaturity (maturity_lt_stable p).ne
    | some q =>
      obtain ⟨s, m⟩ := p
      obtain ⟨t, n⟩ := q
      obtain rfl : s = t := Stage.rank_injective hmaturity
      cases m with
      | none =>
        cases n with
        | none => rfl
        | some n => exact absurd hdraft (Nat.succ_ne_zero _).symm
      | some m =>
        cases n with
        | none => exact absurd hdraft (Nat.succ_ne_zero _)
        | some n =>
          obtain rfl : m = n := UInt64.toNat_inj.mp (Nat.succ_inj.mp hdraft)
          rfl

theorem key_injective : Function.Injective key := by
  rintro ⟨major, minor, patch, p⟩ ⟨major', minor', patch', q⟩ h
  have hparts : (major.toNat, minor.toNat, patch.toNat, maturity p, draft p) =
      (major'.toNat, minor'.toNat, patch'.toNat, maturity q, draft q) := h
  simp only [Prod.mk.injEq] at hparts
  obtain ⟨hmajor, hminor, hpatch, hmaturity, hdraft⟩ := hparts
  obtain rfl := UInt64.toNat_inj.mp hmajor
  obtain rfl := UInt64.toNat_inj.mp hminor
  obtain rfl := UInt64.toNat_inj.mp hpatch
  obtain rfl := qualifier_eq hmaturity hdraft
  rfl

theorem precedence_eq_eq_iff (v w : Version) : precedence v w = .eq ↔ v = w := by
  rw [precedence_eq_compare_key, compare_eq_iff_eq, key_injective.eq_iff]

theorem atLeast_iff (v minimum : Version) : v.atLeast minimum = true ↔ minimum.key ≤ v.key := by
  unfold atLeast
  rw [precedence_eq_compare_key, bne_iff_ne, ne_eq, compare_lt_iff_lt, not_lt]

/-- `precedence` is the order of `Version.key`; so it is total, and two versions are equal for it
only if they are the same. The `comparison` by number changes its sign with its sides, and
`Version.atLeast` a minimum is not to be below it, which whatever is not below such a version is as
well. -/
theorem precedence_is_lexicographic :
    (∀ v w : Version, precedence v w = compare v.key w.key) ∧
    (∀ v w : Version, precedence v w = .eq ↔ v = w) ∧
    (∀ v w : Version, precedence w v = (precedence v w).swap) ∧
    (∀ u v w : Version, precedence u v ≠ .gt → precedence v w ≠ .gt → precedence u w ≠ .gt) ∧
    (∀ v w : Version, comparison v w = -comparison w v ∧
      (comparison v w < 0 ↔ precedence v w = .lt) ∧ (comparison v w = 0 ↔ v = w)) ∧
    (∀ v minimum : Version, v.atLeast minimum = true ↔ precedence v minimum ≠ .lt) ∧
    (∀ v w minimum : Version, v.atLeast minimum = true → precedence w v ≠ .lt →
      w.atLeast minimum = true) := by
  have hge (v w : Version) : precedence v w ≠ .lt ↔ w.key ≤ v.key := by
    rw [precedence_eq_compare_key, ne_eq, compare_lt_iff_lt, not_lt]
  have hle (v w : Version) : precedence v w ≠ .gt ↔ v.key ≤ w.key := by
    rw [precedence_eq_compare_key, ne_eq, compare_gt_iff_gt, not_lt]
  refine ⟨precedence_eq_compare_key, precedence_eq_eq_iff, fun v w => Std.OrientedCmp.eq_swap,
    fun u v w huv hvw => ?_, fun v w => ⟨?_, ?_, ?_⟩, fun v minimum => ?_,
    fun v w minimum hv hw => ?_⟩
  · rw [hle] at huv hvw ⊢
    exact huv.trans hvw
  · have hswap : precedence w v = (precedence v w).swap := Std.OrientedCmp.eq_swap
    rw [comparison, comparison, hswap]
    cases precedence v w <;> rfl
  · unfold comparison
    cases precedence v w <;> decide
  · rw [← precedence_eq_eq_iff, comparison]
    cases precedence v w <;> decide
  · rw [atLeast_iff, hge]
  · rw [atLeast_iff] at hv ⊢
    exact hv.trans ((hge w v).mp hw)

end Version

end StorageGateway

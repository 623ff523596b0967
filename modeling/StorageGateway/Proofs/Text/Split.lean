import Mathlib.Data.List.TakeWhile
import StorageGateway.Text.Split

/-!
# Beginnings, runs of characters, and blanks around a text

A beginning is taken off exactly the texts that have it, and a run of characters of a class is cut
off where the first other character stands. Of the blanks around a text nothing is left when it is
trimmed, and everything else is.
-/

namespace StorageGateway.Text

variable {s t rest : List Char}

/-! ## Beginnings -/

theorem afterPrefix?_eq_some_iff {beginning : List Char} :
    afterPrefix? beginning s = some rest ↔ s = beginning ++ rest := by
  induction beginning generalizing s with
  | nil =>
    rw [List.nil_append, eq_comm]
    exact ⟨fun h => (Option.some.inj h).symm, fun h => congrArg some h.symm⟩
  | cons p ps ih =>
    cases s with
    | nil => simp [afterPrefix?]
    | cons c cs =>
      by_cases h : p = c
      · simp [afterPrefix?, h, ih]
      · simp [afterPrefix?, h, Ne.symm h]

theorem withoutPrefix_append (beginning s : String) :
    withoutPrefix beginning (beginning ++ s) = s := by
  have hafter : afterPrefix? beginning.toList (beginning ++ s).toList = some s.toList :=
    afterPrefix?_eq_some_iff.mpr String.toList_append
  unfold withoutPrefix
  rw [hafter]
  exact String.ofList_toList

/-- A text that goes on in another way keeps its beginning. -/
theorem withoutPrefix_of_ne {beginning s : String}
    (h : ∀ rest, s.toList ≠ beginning.toList ++ rest) : withoutPrefix beginning s = s := by
  unfold withoutPrefix
  cases hafter : afterPrefix? beginning.toList s.toList with
  | none => rfl
  | some rest => exact absurd (afterPrefix?_eq_some_iff.mp hafter) (h rest)

/-! ## Runs -/

section Runs

variable {p : Char → Bool} {run : List Char}

/-- A text does not begin with a character of a class. -/
def Ends (p : Char → Bool) (rest : List Char) : Prop := ∀ c, rest.head? = some c → p c = false

theorem ends_cons {c : Char} (h : p c = false) (rest : List Char) : Ends p (c :: rest) := by
  intro other hother
  obtain rfl : c = other := Option.some.inj hother
  exact h

theorem ends_nil : Ends p [] := by
  intro c hc
  cases hc

theorem Ends.append (h : Ends p s) (hne : s ≠ []) (rest : List Char) : Ends p (s ++ rest) := by
  cases s with
  | nil => exact absurd rfl hne
  | cons c s => exact ends_cons (h c rfl) (s ++ rest)

theorem Ends.of_append (h : Ends p (s ++ t)) : Ends p s := by
  cases s with
  | nil => exact ends_nil
  | cons c s => exact ends_cons (h c rfl) s

theorem ends_dropWhile (p : Char → Bool) (s : List Char) : Ends p (s.dropWhile p) := by
  intro c hc
  have hnot := List.head?_dropWhile_not p s
  rw [hc] at hnot
  exact hnot

theorem takeWhile_append (hrun : ∀ c ∈ run, p c = true) (hrest : Ends p rest) :
    (run ++ rest).takeWhile p = run := by
  have hnone : rest.takeWhile p = [] := by
    cases rest with
    | nil => rfl
    | cons c rest => rw [List.takeWhile_cons_of_neg (by simp [hrest c rfl])]
  rw [List.takeWhile_append_of_pos hrun, hnone, List.append_nil]

theorem dropWhile_append (hrun : ∀ c ∈ run, p c = true) (hrest : Ends p rest) :
    (run ++ rest).dropWhile p = rest := by
  have hall : rest.dropWhile p = rest := by
    cases rest with
    | nil => rfl
    | cons c rest => rw [List.dropWhile_cons_of_neg (by simp [hrest c rfl])]
  rw [List.dropWhile_append_of_pos hrun, hall]

end Runs

/-! ## Blanks -/

theorem isBlank_of_isDigit {c : Char} (h : c.isDigit = true) : isBlank c = false := by
  simp only [Char.isDigit, Bool.and_eq_true, decide_eq_true_eq, ge_iff_le, UInt32.le_iff_toNat_le]
    at h
  have hlow : 48 ≤ c.toNat := h.1
  have hhigh : c.toNat ≤ 57 := h.2
  simp only [isBlank, Bool.or_eq_false_iff, Bool.and_eq_false_iff, decide_eq_false_iff_not,
    beq_eq_false_iff_ne]
  omega

/-- No blanks surround a text. -/
structure Solid (t : List Char) : Prop where
  first : Ends isBlank t
  last : Ends isBlank t.reverse

theorem solid_of_none (h : ∀ c ∈ s, isBlank c = false) : Solid s where
  first c hc := h c (List.mem_of_head? hc)
  last c hc := h c (List.mem_reverse.mp (List.mem_of_head? hc))

theorem solid_of_any (h : s.any isBlank = false) : Solid s :=
  solid_of_none fun c hc => by simpa using List.any_eq_false.mp h c hc

/-- Between two such texts there may be blanks. -/
theorem Solid.append (hs : Solid s) (hsome : s ≠ []) (ht : Solid t) (hother : t ≠ [])
    (between : List Char) : Solid (s ++ (between ++ t)) where
  first := hs.first.append hsome _
  last := by
    rw [List.reverse_append, List.reverse_append, List.append_assoc]
    exact ht.last.append (fun hnil => hother (List.reverse_eq_nil_iff.mp hnil)) _

/-- What a text is without the blanks around it. -/
structure Trims (s t : List Char) : Prop where
  around : ∃ before after, s = before ++ (t ++ after) ∧ (∀ c ∈ before, isBlank c = true) ∧
    ∀ c ∈ after, isBlank c = true
  first : Ends isBlank t
  last : Ends isBlank t.reverse

theorem Trims.eq (h : Trims s t) : trimBlanks s = t := by
  obtain ⟨before, after, rfl, hbefore, hafter⟩ := h.around
  have hbehind : ∀ c ∈ after.reverse, isBlank c = true :=
    fun c hc => hafter c (List.mem_reverse.mp hc)
  unfold trimBlanks
  cases t with
  | nil =>
    -- Nothing but blanks: all of them are dropped at once.
    have hall : ∀ c ∈ before ++ ([] ++ after), isBlank c = true :=
      fun c hc => (List.mem_append.mp hc).elim (hbefore c) (hafter c)
    have hnone := dropWhile_append hall ends_nil
    rw [List.append_nil] at hnone
    rw [hnone]
    rfl
  | cons c t =>
    have hfirst : Ends isBlank (c :: t ++ after) := ends_cons (h.first c rfl) (t ++ after)
    rw [dropWhile_append hbefore hfirst, List.reverse_append, dropWhile_append hbehind h.last,
      List.reverse_reverse]

theorem trims_trimBlanks (s : List Char) : Trims s (trimBlanks s) := by
  have hleft := List.takeWhile_append_dropWhile (p := isBlank) (l := s)
  have hright := List.takeWhile_append_dropWhile (p := isBlank) (l := (s.dropWhile isBlank).reverse)
  have hkept : trimBlanks s ++ ((s.dropWhile isBlank).reverse.takeWhile isBlank).reverse =
      s.dropWhile isBlank := by
    rw [trimBlanks, ← List.reverse_append, hright, List.reverse_reverse]
  refine ⟨⟨s.takeWhile isBlank, ((s.dropWhile isBlank).reverse.takeWhile isBlank).reverse, ?_,
    fun c hc => List.mem_takeWhile_imp hc,
    fun c hc => List.mem_takeWhile_imp (List.mem_reverse.mp hc)⟩, ?_, ?_⟩
  · rw [hkept, hleft]
  · have hfirst := ends_dropWhile isBlank s
    rw [← hkept] at hfirst
    exact hfirst.of_append
  · rw [trimBlanks, List.reverse_reverse]
    exact ends_dropWhile isBlank _

theorem trimBlanks_of_none (h : ∀ c ∈ s, isBlank c = false) : trimBlanks s = s := by
  obtain ⟨hfirst, hlast⟩ := solid_of_none h
  exact Trims.eq ⟨⟨[], [], (List.append_nil s).symm, List.forall_mem_nil _, List.forall_mem_nil _⟩,
    hfirst, hlast⟩

/-- Trimming leaves the text without the blanks around it, and there is but one. -/
theorem trims_iff : Trims s t ↔ t = trimBlanks s := by
  constructor
  · exact fun h => h.eq.symm
  · rintro rfl
    exact trims_trimBlanks s

end StorageGateway.Text

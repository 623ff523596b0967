import Mathlib.Algebra.Group.Nat.Defs
import Mathlib.Algebra.Ring.Int.Defs
import StorageGateway.Json.Printer
import StorageGateway.Json.Token

/-!
# Numbers in texts

A number is spelled by digits, with a fraction and an exponent if it has any. It is read from every
text that begins so, unless it goes on there, and whatever text is read as a number to its end is
such a spelling. An integer that 64 bits hold is read from its digits as itself.
-/

namespace StorageGateway.Json

open Text (Glyph)

/-- The characters that a number may go on with. -/
def goesOn (c : Char) : Bool := c.isDigit || c == '.' || c == 'e' || c == 'E'

/-- A number does not go on here. -/
def Delimited (rest : List Glyph) : Prop := ∀ c after, rest = some c :: after → goesOn c = false

theorem delimited_nil : Delimited [] := fun _ _ h => by cases h

theorem delimited_cons {c : Char} (h : goesOn c = false) (after : List Glyph) :
    Delimited (some c :: after) := by
  rintro _ _ heq
  cases heq
  exact h

/-- Whether a number goes on is decided by the first character. -/
theorem Delimited.append {first : List Glyph} (h : Delimited first) (hne : first ≠ [])
    (rest : List Glyph) : Delimited (first ++ rest) := by
  cases first with
  | nil => exact absurd rfl hne
  | cons g first =>
    intro c after heq
    obtain rfl : g = some c := (List.cons.inj heq).1
    exact h c first rfl

namespace Token

variable {text after rest : List Glyph}

/-! ## Spellings of numbers -/

/-- The text of a fraction: nothing, or a point and digits. -/
inductive SpelledFraction : List Char → List Char → Prop
  | none : SpelledFraction [] []
  | some {digits : List Char} (hne : digits ≠ []) (hdigits : ∀ c ∈ digits, c.isDigit = true) :
      SpelledFraction digits ('.' :: digits)

/-- The text of a sign, by whether it is a minus. -/
inductive SpelledSign : Bool → List Char → Prop
  | none : SpelledSign false []
  | plus : SpelledSign false ['+']
  | minus : SpelledSign true ['-']

/-- The text of an exponent: nothing, or a letter, a sign and digits. -/
inductive SpelledExponent : Option Int → List Char → Prop
  | none : SpelledExponent none []
  | some {letter : Char} {negative : Bool} {sign digits : List Char} {size : Int}
      (hletter : letter = 'e' ∨ letter = 'E') (hsign : SpelledSign negative sign)
      (hne : digits ≠ []) (hdigits : ∀ c ∈ digits, c.isDigit = true)
      (hsize : size = Text.valueOfDigits digits) :
      SpelledExponent (some (if negative then -size else size)) (letter :: (sign ++ digits))

/-- Whether digits may stand before the point: there is one, and a zero leads no other. -/
def isWhole : List Char → Bool
  | [] | '0' :: _ :: _ => false
  | _ => true

/-- The text of a number behind its sign. -/
inductive SpelledNumeral : Numeral → List Char → Prop
  | intro {negative : Bool} {whole fraction fractionText exponentText : List Char}
      {exponent : Option Int} (hdigits : ∀ c ∈ whole, c.isDigit = true)
      (hwhole : isWhole whole = true) (hfraction : SpelledFraction fraction fractionText)
      (hexponent : SpelledExponent exponent exponentText) :
      SpelledNumeral ⟨negative, whole, fraction, exponent⟩
        (whole ++ (fractionText ++ exponentText))

/-! ## Spellings are read -/

theorem digitRun_append {digits : List Char} (hdigits : ∀ c ∈ digits, c.isDigit = true)
    (hrest : ∀ c after, rest = some c :: after → c.isDigit = false) :
    digitRun (digits.map some ++ rest) = (digits, rest) := by
  induction digits with
  | nil =>
    cases rest with
    | nil => rfl
    | cons g rest =>
      cases g with
      | none => rfl
      | some c => simp [digitRun, hrest c rest rfl]
  | cons d digits ih =>
    obtain ⟨hd, hdigits⟩ := List.forall_mem_cons.mp hdigits
    simp [digitRun, hd, ih hdigits]

theorem optionalFraction_of_spelled {fraction spelling : List Char}
    (h : SpelledFraction fraction spelling)
    (hrest : ∀ c after, rest = some c :: after → c.isDigit = false ∧ c ≠ '.') :
    optionalFraction (spelling.map some ++ rest) = some (fraction, rest) := by
  cases h with
  | none =>
    show optionalFraction rest = _
    unfold optionalFraction
    split
    · exact absurd rfl (hrest _ _ rfl).2
    · rfl
  | some hne hdigits =>
    show optionalFraction (some '.' :: (fraction.map some ++ rest)) = _
    rw [optionalFraction, digitRun_append hdigits fun c after hc => (hrest c after hc).1]
    cases fraction with
    | nil => exact absurd rfl hne
    | cons d digits => rfl

/-- The exponent that a sign and a run of digits make, and what follows the digits. -/
def exponentOf (negative : Bool) : List Char × List Glyph → Option (Int × List Glyph)
  | ([], _) => none
  | (digits, left) =>
    let size : Int := Text.valueOfDigits digits
    some (if negative then -size else size, left)

theorem exponentPart_sign {negative : Bool} {sign : List Char} (h : SpelledSign negative sign)
    (hrest : ∀ c after, rest = some c :: after → sign = [] → c ≠ '+' ∧ c ≠ '-') :
    exponentPart (sign.map some ++ rest) = exponentOf negative (digitRun rest) := by
  cases h with
  | plus => rfl
  | minus => rfl
  | none =>
    show exponentPart rest = _
    cases rest with
    | nil => rfl
    | cons g rest =>
      cases g with
      | none => rfl
      | some c =>
        obtain ⟨hplus, hminus⟩ := hrest c rest rfl rfl
        simp [exponentPart, hplus, hminus]
        rfl

theorem optionalExponent_of_spelled {exponent : Option Int} {spelling : List Char}
    (h : SpelledExponent exponent spelling) (hrest : Delimited rest) :
    optionalExponent (spelling.map some ++ rest) = some (exponent, rest) := by
  cases h with
  | none =>
    show optionalExponent rest = _
    unfold optionalExponent
    split
    · exact absurd (hrest _ _ rfl) (by decide)
    · exact absurd (hrest _ _ rfl) (by decide)
    · rfl
  | @some letter negative sign digits size hletter hsign hne hdigits hsize =>
    have hletters (more : List Glyph) : optionalExponent (some letter :: more) =
        (exponentPart more).map fun read => (some read.1, read.2) := by
      rcases hletter with rfl | rfl <;> rfl
    have hrun : digitRun (digits.map some ++ rest) = (digits, rest) :=
      digitRun_append hdigits fun c after hc => by
        have hstop := hrest c after hc
        simp only [goesOn, Bool.or_eq_false_iff] at hstop
        exact hstop.1.1.1
    have hfirst : ∀ c after, digits.map some ++ rest = some c :: after → sign = [] →
        c ≠ '+' ∧ c ≠ '-' := by
      intro c after hc _
      cases digits with
      | nil => exact absurd rfl hne
      | cons d digits =>
        obtain rfl : d = c := Option.some.inj (List.cons.inj hc).1
        have hd := hdigits d List.mem_cons_self
        have hne (other : Char) (hother : other.isDigit = false) : d ≠ other := fun heq => by
          rw [heq, hother] at hd
          cases hd
        exact ⟨hne '+' rfl, hne '-' rfl⟩
    rw [List.map_cons, List.map_append, List.cons_append, List.append_assoc, hletters,
      exponentPart_sign hsign hfirst, hrun, hsize]
    cases digits with
    | nil => exact absurd rfl hne
    | cons d digits => rfl

theorem numeral_eq_some_iff {negative : Bool} {n : Numeral} :
    numeral negative text = some (n, after) ↔
      isWhole (digitRun text).1 = true ∧ ∃ fraction behind exponent,
        optionalFraction (digitRun text).2 = some (fraction, behind) ∧
          optionalExponent behind = some (exponent, after) ∧
            n = ⟨negative, (digitRun text).1, fraction, exponent⟩ := by
  have hread (whole : List Char) (left : List Glyph) :
      ((optionalFraction left).bind fun part => (optionalExponent part.2).bind fun last =>
          some ((⟨negative, whole, part.1, last.1⟩ : Numeral), last.2)) = some (n, after) ↔
        ∃ fraction behind exponent, optionalFraction left = some (fraction, behind) ∧
          optionalExponent behind = some (exponent, after) ∧
            n = ⟨negative, whole, fraction, exponent⟩ := by
    constructor
    · intro h
      obtain ⟨⟨fraction, behind⟩, hfraction, h⟩ := Option.bind_eq_some_iff.mp h
      obtain ⟨⟨exponent, after'⟩, hexponent, h⟩ := Option.bind_eq_some_iff.mp h
      cases h
      exact ⟨fraction, behind, exponent, hfraction, hexponent, rfl⟩
    · rintro ⟨fraction, behind, exponent, hfraction, hexponent, rfl⟩
      rw [hfraction, Option.bind_some, hexponent]
      rfl
  unfold numeral
  rcases digitRun text with ⟨whole, left⟩
  dsimp only
  rw [← hread whole left]
  split
  · rename_i heq
    cases heq
    constructor
    · intro h
      cases h
    · rintro ⟨hwhole, -⟩
      cases hwhole
  · rename_i heq
    cases heq
    constructor
    · intro h
      cases h
    · rintro ⟨hwhole, -⟩
      cases hwhole
  · rename_i whole' left' hnil hzero heq
    cases heq
    have hwhole : isWhole whole = true := by
      unfold isWhole
      split
      · exact absurd rfl hnil
      · exact absurd rfl (hzero _ _)
      · rfl
    exact ⟨fun h => ⟨hwhole, h⟩, fun h => h.2⟩

/-- A number is read from its spelling, whatever follows, unless it goes on there. -/
theorem numeral_of_spelled {n : Numeral} {spelling : List Char} (h : SpelledNumeral n spelling)
    (hrest : Delimited rest) :
    numeral n.negative (spelling.map some ++ rest) = some (n, rest) := by
  obtain ⟨hdigits, hwhole, hfraction, hexponent⟩ := h
  rename_i negative whole fraction fractionText exponentText exponent
  -- What follows the fraction begins with the letter of the exponent or is what follows the number.
  have hbehind : ∀ c after, exponentText.map some ++ rest = some c :: after →
      c.isDigit = false ∧ c ≠ '.' := by
    intro c after hc
    cases hexponent with
    | none =>
      have hstop := hrest c after hc
      simp only [goesOn, Bool.or_eq_false_iff, beq_eq_false_iff_ne] at hstop
      exact ⟨hstop.1.1.1, hstop.1.1.2⟩
    | some hletter =>
      cases hc
      rcases hletter with rfl | rfl <;> decide
  have hpoint : ∀ c after, fractionText.map some ++ (exponentText.map some ++ rest) =
      some c :: after → c.isDigit = false := by
    intro c after hc
    cases hfraction with
    | none => exact (hbehind c after hc).1
    | some =>
      cases hc
      decide
  have hrun := digitRun_append hdigits hpoint
  rw [List.map_append, List.map_append, List.append_assoc, List.append_assoc, numeral_eq_some_iff,
    hrun]
  exact ⟨hwhole, fraction, _, exponent, optionalFraction_of_spelled hfraction hbehind,
    optionalExponent_of_spelled hexponent hrest, rfl⟩

/-! ## What is read is spelled -/

theorem of_digitRun {digits : List Char} (h : digitRun text = (digits, after)) :
    text = digits.map some ++ after ∧ ∀ c ∈ digits, c.isDigit = true := by
  induction text generalizing digits with
  | nil =>
    cases h
    exact ⟨rfl, List.forall_mem_nil _⟩
  | cons g text ih =>
    cases g with
    | none =>
      cases h
      exact ⟨rfl, List.forall_mem_nil _⟩
    | some c =>
      rw [digitRun] at h
      split at h
      · rename_i hdigit
        cases h
        obtain ⟨htext, hall⟩ := ih rfl
        refine ⟨?_, List.forall_mem_cons.mpr ⟨hdigit, hall⟩⟩
        rw [List.map_cons, List.cons_append, ← htext]
      · cases h
        exact ⟨rfl, List.forall_mem_nil _⟩

theorem spelled_of_optionalFraction {fraction : List Char}
    (h : optionalFraction text = some (fraction, after)) :
    ∃ spelling, SpelledFraction fraction spelling ∧ text = spelling.map some ++ after := by
  unfold optionalFraction at h
  split at h
  · rename_i rest
    rcases hrun : digitRun rest with ⟨_ | ⟨d, digits⟩, left⟩
    · rw [hrun] at h
      cases h
    · rw [hrun] at h
      cases h
      obtain ⟨htext, hdigits⟩ := of_digitRun hrun
      exact ⟨_, .some (List.cons_ne_nil d digits) hdigits, congrArg (some '.' :: ·) htext⟩
  · cases h
    exact ⟨[], .none, rfl⟩

theorem spelled_of_exponentOf {exponent : Int} {negative : Bool} {sign : List Char}
    (hsign : SpelledSign negative sign)
    (h : exponentOf negative (digitRun text) = some (exponent, after)) {letter : Char}
    (hletter : letter = 'e' ∨ letter = 'E') :
    ∃ spelling, SpelledExponent (some exponent) (letter :: spelling) ∧
      sign.map some ++ text = spelling.map some ++ after := by
  rcases hrun : digitRun text with ⟨_ | ⟨d, digits⟩, left⟩
  · rw [hrun] at h
    cases h
  · rw [hrun] at h
    cases h
    obtain ⟨rfl, hdigits⟩ := of_digitRun hrun
    refine ⟨sign ++ d :: digits, .some hletter hsign (List.cons_ne_nil d digits) hdigits rfl, ?_⟩
    rw [List.map_append, List.append_assoc]

theorem spelled_of_exponentPart {exponent : Int} (h : exponentPart text = some (exponent, after))
    {letter : Char} (hletter : letter = 'e' ∨ letter = 'E') :
    ∃ spelling, SpelledExponent (some exponent) (letter :: spelling) ∧
      text = spelling.map some ++ after := by
  by_cases hplus : ∃ rest, text = some '+' :: rest
  · obtain ⟨rest, rfl⟩ := hplus
    exact spelled_of_exponentOf .plus h hletter
  by_cases hminus : ∃ rest, text = some '-' :: rest
  · obtain ⟨rest, rfl⟩ := hminus
    exact spelled_of_exponentOf .minus h hletter
  have hunsigned : exponentPart text = exponentOf false (digitRun text) :=
    exponentPart_sign .none fun c rest hc _ =>
      ⟨fun heq => hplus ⟨rest, heq ▸ hc⟩, fun heq => hminus ⟨rest, heq ▸ hc⟩⟩
  exact spelled_of_exponentOf .none (hunsigned.symm.trans h) hletter

theorem spelled_of_optionalExponent {exponent : Option Int}
    (h : optionalExponent text = some (exponent, after)) :
    ∃ spelling, SpelledExponent exponent spelling ∧ text = spelling.map some ++ after := by
  have hletters {letter : Char} {rest : List Glyph} (hletter : letter = 'e' ∨ letter = 'E')
      (hread : (exponentPart rest).map (fun read => (some read.1, read.2)) =
        some (exponent, after)) : ∃ spelling, SpelledExponent exponent spelling ∧
          some letter :: rest = spelling.map some ++ after := by
    obtain ⟨⟨e, left⟩, hpart, heq⟩ := Option.map_eq_some_iff.mp hread
    cases heq
    obtain ⟨spelling, hspelled, rfl⟩ := spelled_of_exponentPart hpart hletter
    exact ⟨letter :: spelling, hspelled, rfl⟩
  unfold optionalExponent at h
  split at h
  · exact hletters (.inl rfl) h
  · exact hletters (.inr rfl) h
  · cases h
    exact ⟨[], .none, rfl⟩

/-- What is read as a number to its end is a spelling of it. -/
theorem spelled_of_numeral {negative : Bool} {n : Numeral} {spelling : List Char}
    (h : numeral negative (spelling.map some) = some (n, [])) :
    n.negative = negative ∧ SpelledNumeral n spelling := by
  obtain ⟨hwhole, fraction, behind, exponent, hfraction, hexponent, rfl⟩ := numeral_eq_some_iff.mp h
  rcases hrun : digitRun (spelling.map some) with ⟨whole, left⟩
  rw [hrun] at hwhole hfraction
  obtain ⟨htext, hdigits⟩ := of_digitRun hrun
  obtain ⟨fractionText, hfractionText, rfl⟩ := spelled_of_optionalFraction hfraction
  obtain ⟨exponentText, hexponentText, rfl⟩ := spelled_of_optionalExponent hexponent
  rw [List.append_nil, ← List.map_append, ← List.map_append] at htext
  obtain rfl : spelling = whole ++ (fractionText ++ exponentText) :=
    (List.map_inj_right fun _ _ => Option.some.inj).mp htext
  exact ⟨rfl, .intro hdigits hwhole hfractionText hexponentText⟩

/-- The token of a number: a minus sign and digits, or digits alone. -/
theorem next_eq_number_iff {fuel : Nat} {c : Char} {value : Option JsonNumber} :
    next fuel c text = some (.number value, after) ↔
      (c = '-' ∧ ∃ n, numeral true text = some (n, after) ∧ n.value = value) ∨
        (c.isDigit = true ∧ ∃ n, numeral false (some c :: text) = some (n, after) ∧
          n.value = value) := by
  have hread (negative : Bool) (body : List Glyph) :
      ((numeral negative body).map fun read => (Token.number read.1.value, read.2)) =
          some (.number value, after) ↔
        ∃ n, numeral negative body = some (n, after) ∧ n.value = value := by
    rw [Option.map_eq_some_iff]
    constructor
    · rintro ⟨⟨n, left⟩, hn, heq⟩
      cases heq
      exact ⟨n, hn, rfl⟩
    · rintro ⟨n, hn, rfl⟩
      exact ⟨(n, after), hn, rfl⟩
  have hminus : next fuel '-' text =
      (numeral true text).map fun read => (.number read.1.value, read.2) := rfl
  by_cases hsign : c = '-'
  · subst hsign
    rw [hminus, hread]
    simp
  · by_cases hdigit : c.isDigit = true
    · have hnext : next fuel c text =
          (numeral false (some c :: text)).map fun read => (.number read.1.value, read.2) := by
        unfold next
        split <;> first | exact absurd hdigit (by decide) | exact if_pos hdigit
      rw [hnext, hread]
      simp [hsign, hdigit]
    · have hother : next fuel c text ≠ some (.number value, after) := by
        unfold next
        split
        case h_10 =>
          intro h
          obtain ⟨read, -, heq⟩ := Option.map_eq_some_iff.mp h
          cases heq
        case h_11 => exact absurd rfl hsign
        case h_12 =>
          rw [if_neg hdigit]
          exact fun h => by cases h
        all_goals exact fun h => by cases h
      simp [hsign, hdigit, hother]

end Token

/-- A number reads back: what is printed for it is a token of that number, up to its end. -/
def NumberReadsBack (n : JsonNumber) : Prop :=
  ∃ first others, printNumber n = first :: others ∧
    Token.next 0 first (others.map some) = some (.number (some n), [])

namespace Token

/-! ## Integers -/

theorem le_ofDigitChars (digits : List Char) (kept : Nat) :
    kept ≤ Nat.ofDigitChars 10 digits kept := by
  induction digits generalizing kept with
  | nil => exact Nat.le_refl kept
  | cons d digits ih =>
    have hnext := ih (10 * kept + (d.toNat - '0'.toNat))
    exact Nat.le_trans (by omega) hnext

/-- Digits are all kept whose value 64 bits hold. -/
theorem keepDigits_of_lt {digits : List Char} {kept : Nat}
    (h : Nat.ofDigitChars 10 digits kept < UInt64.size) :
    keepDigits kept digits = (Nat.ofDigitChars 10 digits kept, 0) := by
  induction digits generalizing kept with
  | nil => rfl
  | cons d digits ih =>
    have hnext : 10 * kept + (d.toNat - '0'.toNat) < UInt64.size :=
      Nat.lt_of_le_of_lt (le_ofDigitChars digits _) h
    unfold keepDigits
    dsimp only
    rw [Nat.mul_comm kept 10, if_pos hnext]
    exact ih h

/-- No positive number begins with a zero. -/
theorem head?_toDigits_ne {n : Nat} (h : 0 < n) : (Nat.toDigits 10 n).head? ≠ some '0' := by
  induction n using Nat.strongRecOn with
  | ind n ih =>
    by_cases hsmall : n < 10
    · rw [Nat.toDigits_of_lt_base hsmall]
      have hall : ∀ m, m < 10 → 0 < m → [Nat.digitChar m].head? ≠ some '0' := by decide
      exact hall n hsmall h
    · rw [Nat.toDigits_of_base_le (by decide) (Nat.le_of_not_lt hsmall)]
      have htenth := ih (n / 10) (by omega) (by omega)
      cases hdigits : Nat.toDigits 10 (n / 10) with
      | nil => exact absurd hdigits Nat.toDigits_ne_nil
      | cons d digits =>
        rw [hdigits] at htenth
        exact htenth

theorem isWhole_toDigits (n : Nat) : isWhole (Nat.toDigits 10 n) = true := by
  unfold isWhole
  split
  · rename_i hnil
    exact absurd hnil Nat.toDigits_ne_nil
  · rename_i c digits hzero
    by_cases hn : n = 0
    · subst hn
      cases hzero
    · have hhead := head?_toDigits_ne (Nat.pos_of_ne_zero hn)
      rw [hzero] at hhead
      exact absurd rfl hhead
  · rfl

theorem numeral_toDigits (negative : Bool) (n : Nat) :
    numeral negative ((Nat.toDigits 10 n).map some) =
      some (⟨negative, Nat.toDigits 10 n, [], none⟩, []) := by
  have hdigits : ∀ c ∈ Nat.toDigits 10 n, c.isDigit = true :=
    fun c hc => Nat.isDigit_of_mem_toDigits (by decide) (by decide) hc
  have hrun : digitRun ((Nat.toDigits 10 n).map some ++ []) = (Nat.toDigits 10 n, []) :=
    digitRun_append hdigits fun _ _ hnil => by cases hnil
  rw [List.append_nil] at hrun
  rw [numeral_eq_some_iff, hrun]
  exact ⟨isWhole_toDigits n, [], [], none, rfl, rfl, rfl⟩

/-- Digits whose value 64 bits hold are all kept. -/
theorem keepDigits_toDigits {n : Nat} (h : n < 2 ^ 64) :
    keepDigits 0 (Nat.toDigits 10 n) = (n, 0) := by
  have hvalue : Nat.ofDigitChars 10 (Nat.toDigits 10 n) 0 = n :=
    Nat.ofDigitChars_toDigits (by decide) (by decide)
  rw [keepDigits_of_lt (by rw [hvalue]; exact h), hvalue]

theorem value_toDigits {n : Nat} (h : n < 2 ^ 64) :
    (⟨false, Nat.toDigits 10 n, [], none⟩ : Numeral).value = some (.int n) := by
  unfold Numeral.value
  rw [keepDigits_toDigits h]
  rfl

theorem value_toDigits_succ {n : Nat} (h : n + 1 ≤ 2 ^ 63) :
    (⟨true, Nat.toDigits 10 (n + 1), [], none⟩ : Numeral).value = some (.int (Int.negSucc n)) := by
  have hfits : (n + 1 != 0 && decide (n + 1 ≤ UInt64.size / 2)) = true := by
    have hhalf : UInt64.size / 2 = 2 ^ 63 := rfl
    rw [hhalf]
    simpa using h
  unfold Numeral.value
  rw [keepDigits_toDigits (by omega)]
  simp only [List.isEmpty_nil, Option.isNone_none, beq_self_eq_true, Bool.and_self, if_true,
    Bool.not_true, Bool.false_eq_true, if_false, hfits]
  rfl

/-- An integer that 64 bits hold reads back. -/
theorem numberReadsBack_int {i : Int} (hleast : -(2 ^ 63) ≤ i) (hgreatest : i < 2 ^ 64) :
    NumberReadsBack (.int i) := by
  cases i with
  | ofNat n =>
    have hn : n < 2 ^ 64 := by
      have hcast : ((n : Nat) : Int) < 2 ^ 64 := hgreatest
      omega
    have hprint : printNumber (.int (Int.ofNat n)) = Nat.toDigits 10 n := Nat.toList_repr
    cases hdigits : Nat.toDigits 10 n with
    | nil => exact absurd hdigits Nat.toDigits_ne_nil
    | cons first others =>
      refine ⟨first, others, hprint.trans hdigits, next_eq_number_iff.mpr
        (.inr ⟨?_, ⟨false, Nat.toDigits 10 n, [], none⟩, ?_, value_toDigits hn⟩)⟩
      · exact Nat.isDigit_of_mem_toDigits (by decide) (by decide)
          (hdigits ▸ List.mem_cons_self : first ∈ Nat.toDigits 10 n)
      · rw [← List.map_cons, ← hdigits]
        exact numeral_toDigits false n
  | negSucc n =>
    have hn : n + 1 ≤ 2 ^ 63 := by
      rw [Int.negSucc_eq] at hleast
      omega
    refine ⟨'-', Nat.toDigits 10 (n + 1), ?_, next_eq_number_iff.mpr
      (.inl ⟨rfl, ⟨true, Nat.toDigits 10 (n + 1), [], none⟩, numeral_toDigits true (n + 1),
        value_toDigits_succ hn⟩)⟩
    show ("-" ++ (n + 1).repr).toList = _
    rw [String.toList_append, Nat.toList_repr]
    rfl

end Token

end StorageGateway.Json

import Mathlib.Data.List.Basic
import StorageGateway.Proofs.Host.Literals
import StorageGateway.Proofs.Text.Split

/-!
# Quotes of other forms

The host does not only take the apostrophe for a single quote, but its four typographic forms as
well: any of them opens and closes a literal, and any two of them in a row stand for one character.
A literal is written with its apostrophes doubled and with the others as they are. So it is read
back exactly when its value holds none of the others; the first of them that stands alone ends it,
and what follows is read as code.
-/

namespace StorageGateway.Host.Script

open Text (Ends)

/-! ## The reader -/

/-- Whether the host takes a character for a single quote. -/
def isSingleQuote (c : Char) : Bool :=
  ['\'', '\u2018', '\u2019', '\u201A', '\u201B'].contains c

/-- Reads the rest of a literal, behind its opening quote: its value, and what stands behind its
closing quote. Two quotes in a row stand for the second of them. There is nothing to be read where
no quote closes the literal. -/
def body? : List Char → Option (List Char × List Char)
  | [] => none
  | c :: text =>
    if isSingleQuote c then
      match text with
      | [] => some ([], [])
      | next :: text =>
        if isSingleQuote next then (body? text).map fun read => (next :: read.1, read.2)
        else some ([], next :: text)
    else (body? text).map fun read => (c :: read.1, read.2)

/-- Reads a literal from its opening quote on. -/
def quoted? : List Char → Option (List Char × List Char)
  | [] => none
  | c :: text => if isSingleQuote c then body? text else none

example : quoted? "‘it''s’ -Path".toList = some ("it's".toList, " -Path".toList) := by
  decide +kernel

/-! ## What is read -/

/-- The only single quotes in a text are apostrophes. -/
def Straight (text : List Char) : Prop := ∀ c ∈ text, isSingleQuote c = true → c = '\''

instance (text : List Char) : Decidable (Straight text) :=
  List.decidableBAll (fun c => isSingleQuote c = true → c = '\'') text

variable {text value following front back : List Char} {c : Char}

theorem straight_cons : Straight (c :: text) ↔
    (isSingleQuote c = true → c = '\'') ∧ Straight text := List.forall_mem_cons

theorem isSingleQuote_apostrophe : isSingleQuote '\'' = true := by decide

/-- A quote that stands alone closes a literal. -/
theorem body?_of_alone (hc : isSingleQuote c = true) (h : Ends isSingleQuote text) :
    body? (c :: text) = some ([], text) := by
  cases text with
  | nil => rw [body?.eq_2, if_pos hc]
  | cons next text =>
    have hnext : ¬ isSingleQuote next = true := by
      rw [h next rfl]
      exact Bool.false_ne_true
    rw [body?.eq_3, if_pos hc, if_neg hnext]

/-- A character that is no quote stands for itself. -/
theorem body?_of_plain (hc : isSingleQuote c = false) (text : List Char) :
    body? (c :: text) = (body? text).map fun read => (c :: read.1, read.2) := by
  have hplain : ¬ isSingleQuote c = true := by simp [hc]
  cases text with
  | nil => rw [body?.eq_2, if_neg hplain]
  | cons next text => rw [body?.eq_3, if_neg hplain]

/-- Two quotes in a row stand for the second of them. -/
theorem body?_of_pair {next : Char} (hc : isSingleQuote c = true)
    (hnext : isSingleQuote next = true) (text : List Char) :
    body? (c :: next :: text) = (body? text).map fun read => (next :: read.1, read.2) := by
  rw [body?.eq_3, if_pos hc, if_pos hnext]

/-- Doubled apostrophes never close the literal they stand in. -/
theorem body?_doubleQuotes (h : Straight front) (text : List Char) :
    body? (doubleQuotes front ++ text) =
      (body? text).map fun read => (front ++ read.1, read.2) := by
  induction front with
  | nil => exact (congrFun Option.map_id (body? text)).symm
  | cons c front ih =>
    obtain ⟨hc, hfront⟩ := straight_cons.mp h
    by_cases hquote : c = '\''
    · subst hquote
      show body? ('\'' :: '\'' :: (doubleQuotes front ++ text)) = _
      rw [body?_of_pair isSingleQuote_apostrophe isSingleQuote_apostrophe, ih hfront,
        Option.map_map]
      rfl
    · have hplain : isSingleQuote c = false := by
        rw [← Bool.not_eq_true]
        exact fun hsingle => hquote (hc hsingle)
      rw [doubleQuotes_cons_of_ne hquote, List.cons_append, body?_of_plain hplain, ih hfront,
        Option.map_map]
      rfl

/-- Each single quote of a value that is read takes two characters of the text, and any other
character takes one. -/
theorem length_of_body? {value rest : List Char} (h : body? text = some (value, rest)) :
    text.length = value.length + value.countP isSingleQuote + 1 + rest.length := by
  fun_induction body? text generalizing value rest with
  | case1 => cases h
  | case2 c hc =>
    cases h
    rfl
  | case3 c hc next text hnext ih =>
    obtain ⟨read, hread, heq⟩ := Option.map_eq_some_iff.mp h
    cases heq
    have hlength := ih hread
    simp only [List.length_cons, List.countP_cons, hnext, if_true]
    omega
  | case4 c hc next text hnext =>
    cases h
    simp only [List.length_cons, List.length_nil, List.countP_nil]
    omega
  | case5 c text hc ih =>
    obtain ⟨read, hread, heq⟩ := Option.map_eq_some_iff.mp h
    cases heq
    have hlength := ih hread
    simp only [List.length_cons, List.countP_cons, if_neg hc]
    omega

theorem length_doubleQuotes (value : List Char) :
    (doubleQuotes value).length = value.length + value.count '\'' := by
  induction value with
  | nil => rfl
  | cons c value ih =>
    by_cases hquote : c = '\''
    · subst hquote
      show (doubleQuotes value).length + 1 + 1 = _
      rw [ih, List.length_cons, List.count_cons_self]
      omega
    · rw [doubleQuotes_cons_of_ne hquote, List.length_cons, ih, List.length_cons,
        List.count_cons_of_ne hquote]
      omega

/-- A text with no more single quotes than apostrophes has no others. -/
theorem straight_of_countP_le (h : text.countP isSingleQuote ≤ text.count '\'') :
    Straight text := by
  have hsub : (text.filter (· == '\'')).Sublist (text.filter isSingleQuote) := by
    refine List.monotone_filter_right text fun c hc => ?_
    rw [beq_iff_eq.mp hc]
    exact isSingleQuote_apostrophe
  have hall : text.filter (· == '\'') = text.filter isSingleQuote := by
    refine hsub.eq_of_length_le ?_
    rw [← List.countP_eq_length_filter, ← List.countP_eq_length_filter]
    exact h
  intro c hc hsingle
  have hin : c ∈ text.filter (· == '\'') := by
    rw [hall]
    exact List.mem_filter.mpr ⟨hc, hsingle⟩
  exact beq_iff_eq.mp (List.mem_filter.mp hin).2

/-- A literal is read from the text of its value and the apostrophe at its end. -/
theorem quoted?_literalChars (value : String) (following : List Char) :
    quoted? (literalChars value ++ following) =
      body? (doubleQuotes value.toList ++ '\'' :: following) := by
  rw [literalChars, List.append_assoc, List.cons_append, quoted?.eq_2,
    if_pos isSingleQuote_apostrophe]
  rfl

/-- What `literalChars` writes is read back by `quoted?` exactly when the value is `Straight`: it
holds no single quotes but apostrophes. Otherwise the first other one, if it stands alone, ends the
literal, and the rest of the value is read as code. -/
theorem literals_are_read_back_iff_straight (value : String) {following : List Char}
    (h : Ends isSingleQuote following) :
    (quoted? (literalChars value ++ following) = some (value.toList, following) ↔
      Straight value.toList) ∧
    ∀ front c back, value.toList = front ++ c :: back → Straight front →
      isSingleQuote c = true → c ≠ '\'' → back ≠ [] → Ends isSingleQuote back →
        quoted? (literalChars value ++ following) =
          some (front, doubleQuotes back ++ '\'' :: following) := by
  rw [quoted?_literalChars]
  have hclosed : body? ('\'' :: following) = some ([], following) :=
    body?_of_alone isSingleQuote_apostrophe h
  refine ⟨⟨fun hread => ?_, fun hstraight => ?_⟩, ?_⟩
  · -- What is read takes up as many characters as have been written.
    have hlength := length_of_body? hread
    rw [List.length_append, length_doubleQuotes, List.length_cons] at hlength
    exact straight_of_countP_le (by omega)
  · rw [body?_doubleQuotes hstraight, hclosed, Option.map_some, List.append_nil]
  · intro front c back hvalue hfront hc hother hback hends
    have hsplit : doubleQuotes value.toList ++ '\'' :: following =
        doubleQuotes front ++ c :: (doubleQuotes back ++ '\'' :: following) := by
      rw [hvalue, doubleQuotes, List.flatMap_append, List.append_assoc]
      show doubleQuotes front ++ (doubleQuotes (c :: back) ++ _) = _
      rw [doubleQuotes_cons_of_ne hother, List.cons_append]
    obtain ⟨next, back, rfl⟩ := List.exists_cons_of_ne_nil hback
    have hnext : isSingleQuote next = false := hends next rfl
    have hne : next ≠ '\'' := by
      rintro rfl
      cases hnext
    have halone : Ends isSingleQuote (doubleQuotes (next :: back) ++ '\'' :: following) := by
      rw [doubleQuotes_cons_of_ne hne]
      exact Text.ends_cons hnext _
    rw [hsplit, body?_doubleQuotes hfront, body?_of_alone hc halone, Option.map_some,
      List.append_nil]

theorem apostrophe_is_read_back :
    Ends isSingleQuote " -Force".toList ∧
      quoted? (literalChars "it's" ++ " -Force".toList) =
        some ("it's".toList, " -Force".toList) := by
  have hends : Ends isSingleQuote " -Force".toList := Text.ends_cons (by decide) _
  have hstraight : Straight "it's".toList := by decide
  exact ⟨hends, (literals_are_read_back_iff_straight "it's" hends).1.mpr hstraight⟩

/-- A curly quote ends the literal of a value that holds it. -/
theorem curly_quote_ends_literal :
    Ends isSingleQuote [] ∧
      quoted? (literalChars "a’b" ++ []) = some ("a".toList, "b'".toList) ∧
      quoted? (literalChars "a’b" ++ []) ≠ some ("a’b".toList, []) := by
  exact ⟨Text.ends_nil, by decide +kernel, by decide +kernel⟩

end StorageGateway.Host.Script

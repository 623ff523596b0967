import Mathlib.Data.List.Forall2
import Mathlib.Tactic.IntervalCases
import StorageGateway.Proofs.Json.Numerals
import StorageGateway.Proofs.Text.Split

/-!
# A text is cut into the tokens that it spells

A token can be spelled in several ways: a character of a string stands for itself or is escaped, and
a number has its fraction and exponent or not. Between tokens there may be blanks. However a text
spells its tokens, it is cut into them.
-/

namespace StorageGateway

theorem Text.Utf8.glyphs_encode (s : String) : glyphs (encode s) = s.toList.map some := by
  have hbytes : (⟨(encode s).toArray⟩ : ByteArray) = s.toByteArray := by
    rw [encode, Array.toArray_toList]
    rfl
  have hread : String.fromUTF8? s.toByteArray = some s := by
    unfold String.fromUTF8?
    rw [dif_pos s.isValidUTF8]
    rfl
  rw [glyphs, hbytes, hread]

namespace Json

open Text (Glyph)

namespace Token

/-! ## Spellings -/

/-- The ways to write a character in a string. -/
inductive SpelledChar : Char → List Char → Prop
  /-- As it is. -/
  | plain {c : Char} (hquote : c ≠ '"') (hslash : c ≠ '\\') (hcontrol : 0x20 ≤ c.toNat) :
      SpelledChar c [c]
  /-- By a letter behind a backslash. -/
  | letter {c e : Char} (h : letterEscape? e = some c) : SpelledChar c ['\\', e]
  /-- By its number. -/
  | unit {c x y z w : Char} (h : hexQuad? x y z w = some c.toNat) :
      SpelledChar c ['\\', 'u', x, y, z, w]
  /-- By the numbers of the two halves of a surrogate pair. -/
  | pair {high low : Nat} {x y z w x' y' z' w' : Char} (hhigh : hexQuad? x y z w = some high)
      (hlow : hexQuad? x' y' z' w' = some low) (hfirst : isHighSurrogate high = true)
      (hsecond : isLowSurrogate low = true) :
      SpelledChar (surrogatePair high low) ['\\', 'u', x, y, z, w, '\\', 'u', x', y', z', w']

/-- The ways to write a token. -/
inductive Spelled : Token → List Char → Prop
  | openArray : Spelled .openArray ['[']
  | closeArray : Spelled .closeArray [']']
  | openObject : Spelled .openObject ['\x7b']
  | closeObject : Spelled .closeObject ['\x7d']
  | colon : Spelled .colon [':']
  | comma : Spelled .comma [',']
  | null : Spelled .null ['n', 'u', 'l', 'l']
  | yes : Spelled (.bool true) ['t', 'r', 'u', 'e']
  | no : Spelled (.bool false) ['f', 'a', 'l', 's', 'e']
  | number {n : Numeral} {body : List Char} (h : SpelledNumeral n body) :
      Spelled (.number n.value) (if n.negative then '-' :: body else body)
  | string {s : String} {pieces : List (List Char)}
      (h : List.Forall₂ SpelledChar s.toList pieces) :
      Spelled (.string (some s)) ('"' :: (pieces.flatten ++ ['"']))

/-! ## Strings -/

/-- A character is not half a surrogate pair. -/
theorem unitPiece_char (c : Char) (rest : List Glyph) :
    unitPiece c.toNat rest = (.char c, rest) := by
  have hvalid : c.toNat < 0xD800 ∨ 0xDFFF < c.toNat ∧ c.toNat < 0x110000 := c.valid
  have hhigh : isHighSurrogate c.toNat = false := by
    simp only [isHighSurrogate, Bool.and_eq_false_iff, decide_eq_false_iff_not]
    omega
  have hlow : isLowSurrogate c.toNat = false := by
    simp only [isLowSurrogate, Bool.and_eq_false_iff, decide_eq_false_iff_not]
    omega
  simp [unitPiece, hhigh, hlow, Char.ofNat_toNat]

theorem piece_of_spelled {c : Char} {spelling : List Char} (h : SpelledChar c spelling)
    (rest : List Glyph) : piece (spelling.map some ++ rest) = some (.char c, rest) := by
  cases h with
  | plain hquote hslash hcontrol =>
    simp [piece, hquote, hslash, Nat.not_lt.mpr hcontrol]
  | @letter _ e h =>
    have hu : e ≠ 'u' := by
      rintro rfl
      cases h
    simp [piece, hu, h]
  | @unit _ x y z w h =>
    show (hexQuad? x y z w).map (fun unit => unitPiece unit rest) = _
    rw [h, Option.map_some, unitPiece_char]
  | @pair high low x y z w x' y' z' w' hhigh hlow hfirst hsecond =>
    show (hexQuad? x y z w).map (fun unit => unitPiece unit
      (some '\\' :: some 'u' :: some x' :: some y' :: some z' :: some w' :: rest)) = _
    rw [hhigh, Option.map_some]
    simp [unitPiece, hfirst, hlow, hsecond]

/-- The first of the pieces that a string is read in, whatever they look like. -/
theorem stringBody_pieces {characters read : List Char} {pieces : List (List Char)}
    (h : List.Forall₂ SpelledChar characters pieces) {fuel : Nat} (rest : List Glyph)
    (hfuel : characters.length < fuel) :
    stringBody fuel (some read) (pieces.flatten.map some ++ some '"' :: rest) =
      some (some (String.ofList (read.reverse ++ characters)), rest) := by
  induction h generalizing read fuel with
  | nil =>
    obtain ⟨fuel, rfl⟩ : ∃ left, fuel = left + 1 := ⟨fuel - 1, by omega⟩
    rw [List.append_nil]
    rfl
  | @cons c spelling characters pieces hc _ ih =>
    rw [List.length_cons] at hfuel
    obtain ⟨fuel, rfl⟩ : ∃ left, fuel = left + 1 := ⟨fuel - 1, by omega⟩
    have hpiece := piece_of_spelled hc (pieces.flatten.map some ++ some '"' :: rest)
    rw [List.flatten_cons, List.map_append, List.append_assoc, stringBody, hpiece]
    show stringBody fuel (some (c :: read)) _ = _
    rw [ih (by omega), List.reverse_cons, List.append_assoc]
    rfl

theorem length_le_pieces {characters : List Char} {pieces : List (List Char)}
    (h : List.Forall₂ SpelledChar characters pieces) :
    characters.length ≤ pieces.flatten.length := by
  induction h with
  | nil => exact Nat.le_refl 0
  | @cons c spelling characters pieces hc _ ih =>
    have hone : 1 ≤ spelling.length := by cases hc <;> simp
    rw [List.flatten_cons, List.length_append, List.length_cons]
    omega

/-- What is written for a character is a way to write it. -/
theorem spelled_escapedChar (c : Char) : SpelledChar c (escapedChar c) := by
  by_cases hcontrol : c.toNat < 0x20
  · have hall : ∀ n, n < 0x20 → SpelledChar (Char.ofNat n) (escapedChar (Char.ofNat n)) := by
      intro n hn
      interval_cases n <;> first | exact .letter rfl | exact .unit rfl
    have hc := hall c.toNat hcontrol
    rwa [Char.ofNat_toNat] at hc
  · by_cases hquote : c = '"'
    · subst hquote
      exact .letter rfl
    · by_cases hslash : c = '\\'
      · subst hslash
        exact .letter rfl
      · have hne (d : Char) (hd : d.toNat < 0x20) : c ≠ d := by
          rintro rfl
          exact hcontrol hd
        have hplain : escapedChar c = [c] := by
          simp [escapedChar, hquote, hslash, hne '\x08' (by decide), hne '\t' (by decide),
            hne '\n' (by decide), hne '\x0c' (by decide), hne '\r' (by decide), hcontrol]
        rw [hplain]
        exact .plain hquote hslash (Nat.le_of_not_lt hcontrol)

theorem spelled_printString (s : String) : Spelled (.string (some s)) (printString s) := by
  have hpieces : List.Forall₂ SpelledChar s.toList (s.toList.map escapedChar) := by
    rw [List.forall₂_map_right_iff]
    exact List.forall₂_same.mpr fun c _ => spelled_escapedChar c
  have hprint : printString s = '"' :: ((s.toList.map escapedChar).flatten ++ ['"']) := by
    rw [← List.flatMap_def]
    rfl
  rw [hprint]
  exact .string hpieces

/-! ## Tokens -/

/-- A number that something follows does not go on there. -/
def Leaves (token : Token) (rest : List Glyph) : Prop :=
  ∀ value, token = .number value → Delimited rest

theorem isSpace_of_isDigit {c : Char} (h : c.isDigit = true) : isSpace c = false := by
  by_contra hspace
  simp only [isSpace, Bool.not_eq_false, Bool.or_eq_true, beq_iff_eq] at hspace
  rcases hspace with ((rfl | rfl) | rfl) | rfl <;> cases h

theorem SpelledNumeral.exists_digit {n : Numeral} {body : List Char} (h : SpelledNumeral n body) :
    ∃ d others, body = d :: others ∧ d.isDigit = true := by
  obtain ⟨hdigits, hwhole, -, -⟩ := h
  rename_i whole _ _ _ _
  cases whole with
  | nil => cases hwhole
  | cons d digits => exact ⟨d, _, rfl, hdigits d List.mem_cons_self⟩

/-- A spelled token is read first, whatever follows. -/
theorem next_of_spelled {token : Token} {spelling : List Char} (h : Spelled token spelling) :
    ∃ first others, spelling = first :: others ∧ isSpace first = false ∧
      ∀ fuel rest, Leaves token rest → others.length ≤ fuel →
        next fuel first (others.map some ++ rest) = some (token, rest) := by
  cases h with
  | @number n body h =>
    have hread (rest : List Glyph) (hleaves : Leaves (.number n.value) rest) :=
      numeral_of_spelled h (hleaves _ rfl)
    cases hsign : n.negative with
    | true =>
      rw [hsign] at hread
      exact ⟨'-', body, rfl, rfl, fun fuel rest hleaves _ =>
        next_eq_number_iff.mpr (.inl ⟨rfl, n, hread rest hleaves, rfl⟩)⟩
    | false =>
      rw [hsign] at hread
      obtain ⟨d, others, rfl, hd⟩ := h.exists_digit
      exact ⟨d, others, rfl, isSpace_of_isDigit hd, fun fuel rest hleaves _ =>
        next_eq_number_iff.mpr (.inr ⟨hd, n, hread rest hleaves, rfl⟩)⟩
  | @string s pieces h =>
    refine ⟨'"', _, rfl, rfl, fun fuel rest _ hfuel => ?_⟩
    have hlength := length_le_pieces h
    rw [List.length_append, List.length_singleton] at hfuel
    have hbody : stringBody fuel (some []) (pieces.flatten.map some ++ some '"' :: rest) =
        some (some s, rest) := by
      rw [stringBody_pieces h rest (by omega)]
      simp
    rw [List.map_append, List.append_assoc]
    show (stringBody fuel (some []) (pieces.flatten.map some ++ some '"' :: rest)).map _ = _
    rw [hbody]
    rfl
  | _ => exact ⟨_, _, rfl, rfl, fun fuel rest _ _ => rfl⟩

theorem scan_blanks {blanks : List Char} (h : ∀ c ∈ blanks, isSpace c = true) (fuel : Nat)
    (rest : List Glyph) :
    scan (blanks.length + fuel) (blanks.map some ++ rest) = scan fuel rest := by
  induction blanks with
  | nil => rw [List.length_nil, Nat.zero_add, List.map_nil, List.nil_append]
  | cons c blanks ih =>
    obtain ⟨hc, hblanks⟩ := List.forall_mem_cons.mp h
    rw [List.length_cons, Nat.add_right_comm, List.map_cons, List.cons_append, scan, if_pos hc,
      ih hblanks]

/-- What a text spells: one token after the other, with blanks between them. -/
inductive Spaced : List Token → List Char → Prop
  | one {token : Token} {spelling : List Char} (h : Spelled token spelling) :
      Spaced [token] spelling
  | more {token : Token} {tokens : List Token} {spelling blanks others : List Char}
      (h : Spelled token spelling) (hblanks : ∀ c ∈ blanks, isSpace c = true)
      (hleaves : Leaves token ((blanks ++ others).map some)) (hothers : Spaced tokens others) :
      Spaced (token :: tokens) (spelling ++ (blanks ++ others))

/-- A spelled token is cut off, and what follows is scanned. -/
theorem scan_spelled {token : Token} {spelling : List Char} (h : Spelled token spelling)
    {fuel : Nat} {rest : List Glyph} (hleaves : Leaves token rest)
    (hfuel : spelling.length ≤ fuel) :
    ∃ left, fuel ≤ left + spelling.length ∧
      scan fuel (spelling.map some ++ rest) = token :: scan left rest := by
  obtain ⟨first, others, rfl, hsolid, hnext⟩ := next_of_spelled h
  rw [List.length_cons] at hfuel
  obtain ⟨fuel, rfl⟩ : ∃ left, fuel = left + 1 := ⟨fuel - 1, by omega⟩
  refine ⟨fuel, by simp, ?_⟩
  show scan (fuel + 1) (some first :: (others.map some ++ rest)) = _
  rw [scan, hsolid, hnext fuel rest hleaves (by omega)]
  rfl

/-- A text is cut into the tokens that it spells. -/
theorem Spaced.scan {tokens : List Token} {text : List Char} (h : Spaced tokens text) {fuel : Nat}
    (hfuel : text.length ≤ fuel) : Token.scan fuel (text.map some) = tokens := by
  induction h generalizing fuel with
  | @one token spelling h =>
    obtain ⟨left, -, hscan⟩ := scan_spelled h (fun _ _ => delimited_nil) hfuel
    have hend : Token.scan left [] = [] := by cases left <;> rfl
    rwa [List.append_nil, hend] at hscan
  | @more token tokens spelling blanks others h hblanks hleaves _ ih =>
    simp only [List.length_append] at hfuel
    obtain ⟨left, hleft, hscan⟩ := scan_spelled h hleaves (show spelling.length ≤ fuel by omega)
    obtain ⟨left, rfl⟩ : ∃ less, left = blanks.length + less :=
      ⟨left - blanks.length, by omega⟩
    rw [List.map_append, hscan, List.map_append, scan_blanks hblanks, ih (by omega)]

theorem Spaced.ofText {tokens : List Token} {text : List Char} (h : Spaced tokens text) :
    Token.ofText (text.map some) = tokens := by
  rw [Token.ofText, List.length_map, h.scan (Nat.le_refl _)]

theorem Spelled.ne_nil {token : Token} {spelling : List Char} (h : Spelled token spelling) :
    spelling ≠ [] := by
  obtain ⟨first, others, rfl, -⟩ := next_of_spelled h
  exact List.cons_ne_nil first others

theorem Spaced.ne_nil {tokens : List Token} {text : List Char} (h : Spaced tokens text) :
    text ≠ [] := by
  cases h with
  | one h => exact h.ne_nil
  | more h => exact fun hnil => h.ne_nil (List.append_eq_nil_iff.mp hnil).1

/-! ## No blanks around -/

theorem SpelledFraction.isBlank {fraction spelling : List Char}
    (h : SpelledFraction fraction spelling) : ∀ c ∈ spelling, Text.isBlank c = false := by
  cases h with
  | none => exact List.forall_mem_nil _
  | some _ hdigits =>
    exact List.forall_mem_cons.mpr ⟨rfl, fun c hc => Text.isBlank_of_isDigit (hdigits c hc)⟩

theorem SpelledExponent.isBlank {exponent : Option Int} {spelling : List Char}
    (h : SpelledExponent exponent spelling) : ∀ c ∈ spelling, Text.isBlank c = false := by
  cases h with
  | none => exact List.forall_mem_nil _
  | some hletter hsign _ hdigits =>
    refine List.forall_mem_cons.mpr ⟨by rcases hletter with rfl | rfl <;> rfl,
      List.forall_mem_append.mpr ⟨?_, fun c hc => Text.isBlank_of_isDigit (hdigits c hc)⟩⟩
    cases hsign with
    | none => exact List.forall_mem_nil _
    | plus => exact List.forall_mem_singleton.mpr rfl
    | minus => exact List.forall_mem_singleton.mpr rfl

theorem SpelledNumeral.isBlank {n : Numeral} {body : List Char} (h : SpelledNumeral n body) :
    ∀ c ∈ body, Text.isBlank c = false := by
  obtain ⟨hdigits, -, hfraction, hexponent⟩ := h
  exact List.forall_mem_append.mpr ⟨fun c hc => Text.isBlank_of_isDigit (hdigits c hc),
    List.forall_mem_append.mpr ⟨hfraction.isBlank, hexponent.isBlank⟩⟩

/-- There may be blanks in a string, but not outside of its quotes. -/
theorem Spelled.solid {token : Token} {spelling : List Char} (h : Spelled token spelling) :
    Text.Solid spelling := by
  cases h with
  | @number n body h =>
    refine Text.solid_of_none ?_
    split
    · exact List.forall_mem_cons.mpr ⟨rfl, h.isBlank⟩
    · exact h.isBlank
  | @string s pieces h =>
    have hquote : Text.Solid ['"'] := Text.solid_of_any rfl
    exact hquote.append (List.cons_ne_nil _ _) hquote (List.cons_ne_nil _ _) pieces.flatten
  | _ => exact Text.solid_of_any rfl

theorem Spaced.solid {tokens : List Token} {text : List Char} (h : Spaced tokens text) :
    Text.Solid text := by
  induction h with
  | one h => exact h.solid
  | more h hblanks hleaves hothers ih => exact h.solid.append h.ne_nil ih hothers.ne_nil _

/-! ## Texts one after the other -/

/-- Texts one after the other spell the tokens of both, unless a number goes on from one to the
other. -/
theorem Spaced.append {tokens tokens' : List Token} {text text' : List Char}
    (h : Spaced tokens text) (h' : Spaced tokens' text') (hleaves : Delimited (text'.map some)) :
    Spaced (tokens ++ tokens') (text ++ text') := by
  induction h with
  | @one token spelling h =>
    have hmore : Spaced (token :: tokens') (spelling ++ ([] ++ text')) :=
      .more h (List.forall_mem_nil _) (fun _ _ => hleaves) h'
    exact hmore
  | @more token tokens spelling blanks others h hblanks hfirst hothers ih =>
    have hne : (blanks ++ others).map some ≠ ([] : List Glyph) := by simp [hothers.ne_nil]
    have hstill : Leaves token ((blanks ++ (others ++ text')).map some) := by
      intro value hvalue
      rw [← List.append_assoc, List.map_append]
      exact (hfirst value hvalue).append hne _
    rw [List.append_assoc, List.append_assoc]
    exact .more h hblanks hstill ih

/-- A sign behind a text ends whatever number the text ends with. -/
theorem Spaced.append_sign {tokens tokens' : List Token} {text text' : List Char} {c : Char}
    (h : Spaced tokens text) (h' : Spaced tokens' (c :: text')) (hc : goesOn c = false) :
    Spaced (tokens ++ tokens') (text ++ c :: text') :=
  h.append h' (delimited_cons hc _)

/-- A text behind a sign. -/
theorem Spaced.cons {token : Token} {tokens : List Token} {text : List Char} {c : Char}
    (hspelled : Spelled token [c]) (hne : ∀ value, token ≠ .number value)
    (h : Spaced tokens text) : Spaced (token :: tokens) (c :: text) := by
  have hmore : Spaced (token :: tokens) ([c] ++ ([] ++ text)) :=
    .more hspelled (List.forall_mem_nil _) (fun value hvalue => absurd hvalue (hne value)) h
  exact hmore

end Token

end Json

end StorageGateway

import StorageGateway.Host.Script

/-!
# Reading scripts back

A script is read from its text the way the host does: a single quote opens a literal, two of them in
a literal stand for one, and a single quote on its own closes it. The reader knows nothing of the
pieces a script was put together from. It finds them again when code holds no single quotes and no
literal is followed by another one; what the values of the literals hold does not matter.
-/

namespace StorageGateway.Host.Script

/-! ## The reader -/

/-- What is found in the text of a script. -/
inductive Token where
  /-- A character of code. -/
  | code (c : Char)
  /-- A literal with the given value. -/
  | literal (value : List Char)
deriving DecidableEq, Repr

/-- Where a reader is. -/
inductive Place where
  /-- Outside of literals. -/
  | outside
  /-- In a literal of which the given characters have been read. -/
  | within (value : List Char)
  /-- In such a literal, behind a single quote. -/
  | behind (value : List Char)

/-- Reads characters. There is nothing to be found in a text that ends in a literal. -/
def tokens? : Place → List Char → Option (List Token)
  | .outside, [] => some []
  | .outside, c :: rest =>
    if c = '\'' then tokens? (.within []) rest else (tokens? .outside rest).map (.code c :: ·)
  | .within _, [] => none
  | .within value, c :: rest =>
    if c = '\'' then tokens? (.behind value) rest else tokens? (.within (value ++ [c])) rest
  | .behind value, [] => some [.literal value]
  | .behind value, c :: rest =>
    if c = '\'' then tokens? (.within (value ++ ['\''])) rest
    else (tokens? .outside rest).map fun tokens => .literal value :: .code c :: tokens

/-- The character that stands there, or nothing in the place of a literal. -/
def Token.shape : Token → Option Char
  | .code c => some c
  | .literal _ => none

/-- The value of a literal. -/
def Token.value? : Token → Option String
  | .code _ => none
  | .literal value => some (String.ofList value)

/-- The text of a script with a gap for every literal. -/
def skeleton? (text : String) : Option (List (Option Char)) :=
  (tokens? .outside text.toList).map fun tokens => tokens.map Token.shape

/-- The values of the literals in the text of a script, in order. -/
def literals? (text : String) : Option (List String) :=
  (tokens? .outside text.toList).map fun tokens => tokens.filterMap Token.value?

example : literals? "Get-Volume 'it''s' -Path '' | Out-Null" = some ["it's", ""] := by
  decide +kernel

/-! ## What is to be found -/

/-- What is to be found of a piece. -/
def fragmentTokens : Fragment → List Token
  | .code text => text.toList.map .code
  | .literal value => [.literal value.toList]

/-- A piece with a gap for a literal. -/
def fragmentOutline : Fragment → List (Option Char)
  | .code text => text.toList.map some
  | .literal _ => [none]

/-- The value of a literal. -/
def fragmentValues : Fragment → List String
  | .code _ => []
  | .literal value => [value]

/-- A script with a gap for every literal. -/
def outline (script : Script) : List (Option Char) := script.flatMap fragmentOutline

/-- The values of the literals of a script. -/
def values (script : Script) : List String := script.flatMap fragmentValues

/-- Text without single quotes. -/
def Plain (text : String) : Prop := '\'' ∉ text.toList

/-- Code stands in front, or nothing at all. -/
def StartsWithCode : Script → Prop
  | [] => True
  | .code text :: _ => text ≠ ""
  | .literal _ :: _ => False

/-- No code holds single quotes, and behind a literal comes code or nothing. -/
def Separated : Script → Prop
  | [] => True
  | .code text :: rest => Plain text ∧ Separated rest
  | .literal _ :: rest => StartsWithCode rest ∧ Separated rest

/-- The characters of a text that is written down are told by unification, which spares their
decoding. -/
theorem quote_not_mem_toList {text : String} {chars : List Char} (htext : text = .ofList chars)
    (h : '\'' ∉ chars) : '\'' ∉ text.toList := by
  rwa [htext, String.toList_ofList]

theorem plain_of_not_mem {text : String} (h : '\'' ∉ text.toList) : Plain text := h

@[simp]
theorem plain_append {first second : String} :
    Plain (first ++ second) ↔ Plain first ∧ Plain second := by
  simp [Plain]

@[simp]
theorem plain_truth (value : Bool) : Plain (truth value) := by
  cases value
  · exact quote_not_mem_toList rfl (by decide)
  · exact quote_not_mem_toList rfl (by decide)

theorem plain_repr (n : Nat) : Plain n.repr := by
  intro h
  rw [Nat.toList_repr] at h
  have hdigit : ('\'').isDigit = true := Nat.isDigit_of_mem_toDigits (by decide) (by decide) h
  exact absurd hdigit (by decide)

theorem plain_toString (n : Int) : Plain (toString n) := by
  cases n with
  | ofNat n => exact plain_repr n
  | negSucc n =>
    have hsign : Plain "-" := quote_not_mem_toList rfl (by decide)
    exact plain_append.mpr ⟨hsign, plain_repr n.succ⟩

section
variable (text : String) (n : Int) (value : String) (rest : Script)

@[simp]
theorem startsWithCode_nil : StartsWithCode [] := trivial

@[simp]
theorem startsWithCode_code : StartsWithCode (.code text :: rest) ↔ text ≠ "" := Iff.rfl

@[simp]
theorem separated_nil : Separated [] := trivial

@[simp]
theorem separated_code : Separated (.code text :: rest) ↔ Plain text ∧ Separated rest := Iff.rfl

@[simp]
theorem separated_literal :
    Separated (.literal value :: rest) ↔ StartsWithCode rest ∧ Separated rest := Iff.rfl

@[simp]
theorem separated_number : Separated (.number n :: rest) ↔ Separated rest :=
  and_iff_right (plain_toString n)

@[simp]
theorem outline_nil : outline [] = [] := rfl

@[simp]
theorem outline_code :
    outline (.code text :: rest) = text.toList.map some ++ outline rest := rfl

@[simp]
theorem outline_literal : outline (.literal value :: rest) = none :: outline rest := rfl

@[simp]
theorem outline_number :
    outline (.number n :: rest) = (toString n).toList.map some ++ outline rest := rfl

@[simp]
theorem values_nil : values [] = [] := rfl

@[simp]
theorem values_code : values (.code text :: rest) = values rest := rfl

@[simp]
theorem values_literal : values (.literal value :: rest) = value :: values rest := rfl

@[simp]
theorem values_number : values (.number n :: rest) = values rest := rfl

end

theorem tokens?_code {text : List Char} (h : '\'' ∉ text) (rest : List Char) :
    tokens? .outside (text ++ rest) = (tokens? .outside rest).map (text.map .code ++ ·) := by
  induction text with
  | nil => simp
  | cons c text ih =>
    obtain ⟨hc, htext⟩ := not_or.mp (mt List.mem_cons.mpr h)
    rw [List.cons_append, tokens?, if_neg (Ne.symm hc), ih htext, Option.map_map]
    rfl

theorem tokens?_behind (value : List Char) {rest : List Char} (h : rest.head? ≠ some '\'') :
    tokens? (.behind value) rest = (tokens? .outside rest).map (.literal value :: ·) := by
  cases rest with
  | nil => rfl
  | cons c rest =>
    have hc : c ≠ '\'' := fun heq => h (congrArg some heq)
    rw [tokens?, tokens?, if_neg hc, if_neg hc, Option.map_map]
    rfl

theorem doubleQuotes_cons_of_ne {c : Char} (h : c ≠ '\'') (value : List Char) :
    doubleQuotes (c :: value) = c :: doubleQuotes value := by
  simp [doubleQuotes, h]

/-- Doubled quotes never close the literal they stand in, whatever is around them. -/
theorem tokens?_within (value before : List Char) {rest : List Char}
    (h : rest.head? ≠ some '\'') :
    tokens? (.within before) (doubleQuotes value ++ '\'' :: rest) =
      (tokens? .outside rest).map (.literal (before ++ value) :: ·) := by
  induction value generalizing before with
  | nil =>
    show tokens? (.within before) ('\'' :: rest) = _
    rw [tokens?, if_pos rfl, tokens?_behind before h, List.append_nil]
  | cons c value ih =>
    by_cases hc : c = '\''
    -- The first of two quotes leads behind the literal, and the second one back into it.
    · subst hc
      show tokens? (.within before) ('\'' :: '\'' :: (doubleQuotes value ++ '\'' :: rest)) = _
      rw [tokens?, if_pos rfl, tokens?, if_pos rfl, ih, List.append_assoc]
      rfl
    · rw [doubleQuotes_cons_of_ne hc, List.cons_append, tokens?, if_neg hc, ih,
        List.append_assoc]
      rfl

theorem head?_chars_ne {script : Script} (hcode : StartsWithCode script)
    (h : Separated script) : script.chars.head? ≠ some '\'' := by
  cases script with
  | nil => simp [chars]
  | cons fragment rest =>
    cases fragment with
    | literal value => exact hcode.elim
    | code text =>
      have htext : text.toList ≠ [] := mt String.toList_eq_nil_iff.mp hcode
      obtain ⟨c, cs, hcs⟩ := List.exists_cons_of_ne_nil htext
      have hquote : '\'' ∉ text.toList := h.1
      rw [hcs] at hquote
      intro hhead
      simp only [chars, List.flatMap_cons, fragmentChars, hcs, List.cons_append, List.head?_cons,
        Option.some.injEq] at hhead
      subst hhead
      exact hquote (List.mem_cons_self ..)

/-- The pieces of a script are found again in its text. -/
theorem tokens?_chars {script : Script} (h : Separated script) :
    tokens? .outside script.chars = some (script.flatMap fragmentTokens) := by
  induction script with
  | nil => rfl
  | cons fragment rest ih =>
    cases fragment with
    | code text =>
      obtain ⟨hquote, hrest⟩ := h
      show tokens? .outside (text.toList ++ chars rest) = _
      rw [tokens?_code hquote, ih hrest]
      rfl
    | literal value =>
      obtain ⟨hcode, hrest⟩ := h
      have hnext := head?_chars_ne hcode hrest
      show tokens? .outside ('\'' :: (doubleQuotes value.toList ++ ['\''] ++ chars rest)) = _
      rw [tokens?, if_pos rfl, List.append_assoc, List.singleton_append,
        tokens?_within value.toList [] hnext, ih hrest]
      rfl

theorem skeleton?_text {script : Script} (h : Separated script) :
    skeleton? script.text = some script.outline := by
  have houtline : ∀ fragment, (fragmentTokens fragment).map Token.shape =
      fragmentOutline fragment := by
    rintro (text | value)
    · simp [fragmentTokens, fragmentOutline, Token.shape]
    · rfl
  unfold skeleton? text
  rw [String.toList_ofList, tokens?_chars h, Option.map_some, List.map_flatMap]
  simp only [houtline]
  rfl

theorem literals?_text {script : Script} (h : Separated script) :
    literals? script.text = some script.values := by
  have hvalues : ∀ fragment, (fragmentTokens fragment).filterMap Token.value? =
      fragmentValues fragment := by
    rintro (text | value)
    · simp [fragmentTokens, fragmentValues, Token.value?]
    · simp [fragmentTokens, fragmentValues, Token.value?]
  unfold literals? text
  rw [String.toList_ofList, tokens?_chars h, Option.map_some, List.filterMap_flatMap]
  simp only [hvalues]
  rfl

end StorageGateway.Host.Script

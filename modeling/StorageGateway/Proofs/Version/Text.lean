import StorageGateway.Proofs.Json.RoundTrip
import StorageGateway.Proofs.Version.Reading
import StorageGateway.Version.Precedence

/-!
# The text of a version is read back

The text of a version has the form of a version, with the version's numbers. So reading it gives
that version back, and two versions with one text are the same. The text has digits, points and the
letters of the stages in it, and nothing else.
-/

namespace StorageGateway

/-! ## What the text is made of -/

/-- The letters of a version's text, and the point. -/
def Version.textSigns : List Char := ['v', '.', 'a', 'l', 'p', 'h', 'b', 'e', 't', 'r', 'c']

namespace Stage

theorem mem_textSigns {stage : Stage} {c : Char} (h : c ∈ stage.word.toList) :
    c ∈ Version.textSigns := by
  have hall : stage.word.toList.all Version.textSigns.contains = true := by
    cases stage <;> decide
  simpa using List.all_eq_true.mp hall c h

end Stage

namespace Version

theorem isDigit_of_mem_numberText {n : UInt64} {c : Char} (h : c ∈ numberText n) :
    c.isDigit = true :=
  Nat.isDigit_of_mem_toDigits (by decide) (by decide) h

theorem numberText_ne_nil (n : UInt64) : numberText n ≠ [] := Nat.toDigits_ne_nil

theorem valueOf_numberText (n : UInt64) : valueOf (numberText n) = n.toNat :=
  Nat.ofDigitChars_toDigits (by decide) (by decide)

theorem word_numberText (n : UInt64) : Word (numberText n) where
  ne_nil := numberText_ne_nil n
  ascii _ hc := isDigit_of_mem_numberText hc
  fits := by
    rw [valueOf_numberText]
    exact n.toNat_lt_size

theorem mem_textChars {v : Version} {c : Char} (h : c ∈ v.textChars) :
    c.isDigit = true ∨ c ∈ textSigns := by
  have hpart {present : Bool} {n : UInt64}
      (hc : c ∈ if present then '.' :: numberText n else []) :
      c.isDigit = true ∨ c ∈ textSigns := by
    split at hc
    · rcases List.mem_cons.mp hc with rfl | hdigit
      · exact .inr (by decide)
      · exact .inl (isDigit_of_mem_numberText hdigit)
    · cases hc
  rw [textChars] at h
  rcases List.mem_append.mp h with h | hqualifier
  · rcases List.mem_append.mp h with h | hpatch
    · rcases List.mem_append.mp h with hmajor | hminor
      · rcases List.mem_cons.mp hmajor with rfl | hdigit
        · exact .inr (by decide)
        · exact .inl (isDigit_of_mem_numberText hdigit)
      · exact hpart hminor
    · exact hpart hpatch
  · cases hq : v.qualifier with
    | none =>
      rw [hq] at hqualifier
      cases hqualifier
    | some q =>
      rw [hq] at hqualifier
      rcases List.mem_append.mp hqualifier with hword | hnumber
      · exact .inr (Stage.mem_textSigns hword)
      · split at hnumber
        · exact .inl (isDigit_of_mem_numberText hnumber)
        · cases hnumber

/-- A character that is neither a digit nor one of the signs is not in the text of a version. -/
theorem not_mem_text (v : Version) {c : Char} (hdigit : c.isDigit = false) (hsign : c ∉ textSigns) :
    c ∉ v.text.toList := by
  rw [text, String.toList_ofList]
  intro hin
  rcases mem_textChars hin with h | h
  · rw [hdigit] at h
    cases h
  · exact hsign h

theorem trimBlanks_textChars (v : Version) : Text.trimBlanks v.textChars = v.textChars := by
  refine Text.trimBlanks_of_none fun c hc => ?_
  rcases mem_textChars hc with hdigit | hsign
  · exact Text.isBlank_of_isDigit hdigit
  · have hall : textSigns.all (fun c => !Text.isBlank c) = true := by decide
    simpa using List.all_eq_true.mp hall c hsign

/-! ## The form of the text -/

/-- The written form of a version. -/
def ofVersion (v : Version) : Shape where
  major := numberText v.major
  minor := if v.minor != 0 || v.patch != 0 then some (numberText v.minor) else none
  patch := if v.patch != 0 then some (numberText v.patch) else none
  qualifier := v.qualifier.map fun q => (q.stage, q.number.map numberText)

theorem numbers_ofVersion (v : Version) : Numbers Word
    (numberText v.major ++
      (if v.minor != 0 || v.patch != 0 then '.' :: numberText v.minor else []) ++
      (if v.patch != 0 then '.' :: numberText v.patch else []))
    (ofVersion v).major (ofVersion v).minor (ofVersion v).patch := by
  have hmajor := word_numberText v.major
  have hminor := word_numberText v.minor
  by_cases hpatch : v.patch = 0
  · by_cases hzero : v.minor = 0
    · simpa [ofVersion, hpatch, hzero] using Numbers.one hmajor
    · simpa [ofVersion, hpatch, hzero] using Numbers.two hmajor hminor
  · simpa [ofVersion, hpatch] using Numbers.three hmajor hminor (word_numberText v.patch)

theorem ending_ofVersion (v : Version) :
    Ending Word (qualifierText v.qualifier) (ofVersion v).qualifier := by
  unfold ofVersion
  rcases v.qualifier with - | ⟨stage, - | n⟩
  · exact .stable
  · have h : Ending Word ([] ++ stage.word.toList) (some (stage, none)) :=
      .unnumbered (.inl rfl) stage
    rw [List.nil_append] at h
    rw [qualifierText, List.append_nil]
    exact h
  · have h : Ending Word ([] ++ (stage.word.toList ++ ([] ++ numberText n)))
        (some (stage, some (numberText n))) :=
      .numbered (.inl rfl) stage (.inl rfl) (word_numberText n)
    exact h

theorem written_textChars (v : Version) : Written Word v.textChars (ofVersion v) := by
  have h := Written.form (.inr rfl) (numbers_ofVersion v) (ending_ofVersion v)
  rwa [← List.append_assoc] at h

theorem holds_ofVersion (v : Version) : (ofVersion v).Holds v := by
  refine ⟨(valueOf_numberText v.major).symm, ?_, ?_, ?_⟩
  · by_cases h : v.minor = 0 <;> by_cases hpatch : v.patch = 0 <;>
      simp [ofVersion, h, hpatch, valueOf_numberText]
  · by_cases hpatch : v.patch = 0 <;> simp [ofVersion, hpatch, valueOf_numberText]
  · rw [ofVersion, Option.map_map]
    congr 1
    funext q
    simp [Function.comp_def, valueOf_numberText]

/-! ## The pre-release part -/

theorem readWord?_numberText (n : UInt64) : Text.readWord? (numberText n) = some n :=
  readWord?_eq_some_iff.mpr ⟨word_numberText n, (valueOf_numberText n).symm⟩

/-- The text of the pre-release part says what the qualifier is. -/
theorem qualifierOf?_preReleaseText (v : Version) :
    qualifierOf? v.preReleaseText = v.qualifier := by
  unfold preReleaseText preRelease
  rcases v.qualifier with - | ⟨stage, - | n⟩
  · rfl
  · cases stage <;> rfl
  · have hall : stage.word.toList.all (· != '.') = true := by
      cases stage <;> rfl
    have hword : ∀ c ∈ stage.word.toList, (c != '.') = true := List.all_eq_true.mp hall
    have hpoint : Text.Ends (· != '.') ('.' :: numberText n) := Text.ends_cons (by decide) _
    have hstage : Stage.ofWord? (String.ofList stage.word.toList) = some stage := by
      cases stage <;> rfl
    have htext : ['.'].intercalate [stage.word.toList, numberText n] =
        stage.word.toList ++ '.' :: numberText n := by
      simp [List.intercalate]
    dsimp only
    rw [htext]
    unfold qualifierOf?
    rw [Text.takeWhile_append hword hpoint, Text.dropWhile_append hword hpoint, hstage]
    simp [readWord?_numberText]

/-! ## The whole -/

theorem parse_text (v : Version) : parse v.text = .ok v := by
  rw [parse_eq_ok_iff, read_eq_ok_iff, text, String.toList_ofList, trimBlanks_textChars]
  exact ⟨ofVersion v, written_textChars v, holds_ofVersion v⟩

theorem text_injective {v w : Version} (h : v.text = w.text) : v = w := by
  have hread := parse_text v
  rw [h, parse_text w] at hread
  exact (Except.ok.inj hread).symm

theorem read_toDocument (v : Version) (origin : Json.Origin) :
    reader origin v.toJson.toDocument = .ok v := by
  have hstring : Json.Reader.string origin v.toJson.toDocument = .ok v.text := rfl
  rw [reader, hstring]
  simp only [parse_text]

theorem ofBytes_render (v : Version) :
    reader.ofBytes (Text.Utf8.encode v.toJson.render) = .ok v :=
  (Json.Reader.ofBytes_render (.string v.text) reader).trans (read_toDocument v _)

theorem ofString_render (v : Version) : reader.ofString v.toJson.render = .ok v := by
  have hbytes := ofBytes_render v
  rwa [Json.Reader.ofBytes, Text.Utf8.glyphs_encode] at hbytes

theorem ofJson_toJson (v : Version) : reader.ofJson v.toJson = .ok v := by
  rw [Json.Reader.ofJson, read_toDocument]

/-- A version has one `Version.text`, which stands for all its spellings. Reading it by `parse`
gives the version back, alone and as a JSON value, so it is a fixed point, and versions with one
text are the same. The qualifier in it is what `Version.preReleaseText` says. Every other spelling
of a version's numbers, whatever sign, zeros, dash, point, left-out numbers and blanks it has, leads
to that text. -/
theorem text_is_canonical :
    (∀ v : Version, parse v.text = .ok v) ∧
    (∀ v : Version, reader.ofBytes (Text.Utf8.encode v.toJson.render) = .ok v ∧
      reader.ofString v.toJson.render = .ok v ∧ reader.ofJson v.toJson = .ok v) ∧
    (∀ v w : Version, v = w ↔ v.text = w.text) ∧
    (∀ v : Version, qualifierOf? v.preReleaseText = v.qualifier) ∧
    (∀ s v, parse s = .ok v → ∃ w, parse v.text = .ok w ∧ w.text = v.text) ∧
    ∀ s t shape v, Text.Trims s.toList t → Written Word t shape → shape.Holds v →
      ∃ w, parse s = .ok w ∧ w.text = v.text := by
  refine ⟨parse_text, fun v => ⟨ofBytes_render v, ofString_render v, ofJson_toJson v⟩,
    fun v w => ⟨congrArg text, text_injective⟩, qualifierOf?_preReleaseText,
    fun s v _ => ⟨v, parse_text v, rfl⟩, ?_⟩
  intro s t shape v htrims hwritten hholds
  rw [← htrims.eq] at hwritten
  exact ⟨v, parse_eq_ok_iff.mpr (read_eq_ok_iff.mpr ⟨shape, hwritten, hholds⟩), rfl⟩

end Version

end StorageGateway

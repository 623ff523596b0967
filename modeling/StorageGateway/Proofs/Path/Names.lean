import StorageGateway.Path.Roots

/-!
# The names on a path

Cutting a text at slashes and putting the pieces together again are inverse to each other. The names
that reading a path keeps are free of slashes, of `.` and of `..`, so the text of a path that was
read is read back as the same names.
-/

namespace StorageGateway

namespace Text

theorem splitWhere_eq_splitOnP (separates : Char → Bool) (s : List Char) :
    splitWhere separates s = s.splitOnP separates := by
  induction s with
  | nil => rfl
  | cons c rest ih =>
    rw [List.splitOnP_cons_eq_if_modifyHead, splitWhere, ih]
    split
    · rfl
    · obtain ⟨piece, pieces, h⟩ := List.exists_cons_of_ne_nil (List.splitOnP_ne_nil separates rest)
      rw [h]
      rfl

theorem splitOn_eq (separator : Char) (s : List Char) : splitOn separator s = s.splitOn separator :=
  splitWhere_eq_splitOnP _ s

/-- No piece of a text contains the character at which it was cut. -/
theorem not_mem_of_mem_splitOn {separator : Char} {s piece : List Char}
    (h : piece ∈ splitOn separator s) : separator ∉ piece := by
  unfold splitOn at h
  induction s generalizing piece with
  | nil =>
    rw [splitWhere, List.mem_singleton] at h
    simp [h]
  | cons c rest ih =>
    rw [splitWhere] at h
    split at h
    · rcases List.mem_cons.mp h with rfl | h
      · simp
      · exact ih h
    · rename_i hc
      have hne : separator ≠ c := fun he => hc (by simp [he])
      split at h
      · rw [List.mem_singleton.mp h]
        simp [hne]
      · rename_i first pieces hpieces
        rcases List.mem_cons.mp h with rfl | h
        · have hfirst : separator ∉ first := ih (hpieces ▸ List.mem_cons_self)
          simp [hne, hfirst]
        · exact ih (hpieces ▸ List.mem_cons_of_mem _ h)

/-- Cutting at a character takes back putting pieces together with it. -/
theorem splitOn_intercalate {separator : Char} {pieces : List (List Char)}
    (h : ∀ piece ∈ pieces, separator ∉ piece) (hne : pieces ≠ []) :
    splitOn separator ([separator].intercalate pieces) = pieces := by
  rw [splitOn_eq]
  exact List.splitOn_intercalate separator h hne

end Text

namespace Path

/-- A name that leads from a directory to something in it: not to the directory itself, not out of
it, and no further than into it. -/
structure IsName (name : String) : Prop where
  ne_empty : name ≠ ""
  ne_here : name ≠ "."
  ne_up : name ≠ ".."
  no_slash : '/' ∉ name.toList

theorem no_slash_of_mem_components {text name : String} (h : name ∈ components text) :
    '/' ∉ name.toList := by
  obtain ⟨piece, hpiece, rfl⟩ := List.mem_map.mp h
  rw [String.toList_ofList]
  exact Text.not_mem_of_mem_splitOn hpiece

/-- Resolving keeps names that it was given, and drops all that stand for something else. -/
theorem mem_resolve {kept names : List String} {name : String} (h : name ∈ resolve kept names) :
    name ∈ kept ∨ name ∈ names ∧ name ≠ "" ∧ name ≠ "." ∧ name ≠ ".." := by
  induction names generalizing kept with
  | nil => exact .inl (List.mem_reverse.mp h)
  | cons first rest ih =>
    rw [resolve] at h
    split at h
    · exact (ih h).imp_right fun hrest => ⟨List.mem_cons_of_mem _ hrest.1, hrest.2⟩
    · rename_i hfirst
      split at h
      · rcases ih h with htail | hrest
        · exact .inl (List.mem_of_mem_tail htail)
        · exact .inr ⟨List.mem_cons_of_mem _ hrest.1, hrest.2⟩
      · rename_i hup
        rcases ih h with hkept | hrest
        · rcases List.mem_cons.mp hkept with rfl | hkept
          · obtain ⟨hempty, hhere⟩ := not_or.mp hfirst
            exact .inr ⟨List.mem_cons_self, hempty, hhere, hup⟩
          · exact .inl hkept
        · exact .inr ⟨List.mem_cons_of_mem _ hrest.1, hrest.2⟩

theorem isName_of_mem_ofText {text name : String} (h : name ∈ (ofText text).names) :
    IsName name := by
  rcases mem_resolve h with hnone | ⟨hin, hempty, hhere, hup⟩
  · cases hnone
  · exact ⟨hempty, hhere, hup, no_slash_of_mem_components hin⟩

theorem components_append_slash (front back : List Char) :
    components (String.ofList (front ++ '/' :: back)) =
      components (String.ofList front) ++ components (String.ofList back) := by
  have hslash : ('/' == '/') = true := rfl
  simp only [components, String.toList_ofList, Text.splitOn, Text.splitWhere_eq_splitOnP]
  rw [@List.splitOnP_append_cons Char (· == '/') front back '/' hslash, List.map_append]

theorem components_of_isName {name : String} (h : IsName name) : components name = [name] := by
  have hnone : ∀ c ∈ name.toList, (c == '/') = false := by
    intro c hc
    rw [beq_eq_false_iff_ne]
    rintro rfl
    exact h.no_slash hc
  rw [components, Text.splitOn, Text.splitWhere_eq_splitOnP, List.splitOnP_eq_singleton hnone]
  simp

theorem isAbsoluteText_text (names : List String) : isAbsoluteText (text ⟨true, names⟩) = true := by
  simp [isAbsoluteText, text]

/-- The pieces of the text of an absolute path are its names and what is before the first slash. -/
theorem components_text {names : List String} (h : ∀ name ∈ names, IsName name)
    (hne : names ≠ []) : components (text ⟨true, names⟩) = "" :: names := by
  have htext : (text ⟨true, names⟩).toList =
      '/' :: ['/'].intercalate (names.map String.toList) := by
    simp [text]
  have hpieces : ∀ piece ∈ names.map String.toList, '/' ∉ piece := by
    intro piece hpiece
    obtain ⟨name, hname, rfl⟩ := List.mem_map.mp hpiece
    exact (h name hname).no_slash
  have hsplit : Text.splitOn '/' ('/' :: ['/'].intercalate (names.map String.toList)) =
      [] :: names.map String.toList := by
    have hjoined := Text.splitOn_intercalate hpieces (by simpa using hne)
    rw [Text.splitOn, Text.splitWhere, if_pos (by rfl)]
    exact congrArg (List.cons []) hjoined
  rw [components, htext, hsplit]
  simp

/-- Reading the text of an absolute path back gives its names. -/
theorem filter_components_text {names : List String} (h : ∀ name ∈ names, IsName name) :
    (components (text ⟨true, names⟩)).filter (fun name => name != "") = names := by
  by_cases hne : names = []
  · rw [hne]
    decide
  · rw [components_text h hne, List.filter_cons_of_neg (by simp)]
    exact List.filter_eq_self.mpr fun name hname => by simpa using (h name hname).ne_empty

end Path

/-! ## Admitted names -/

namespace Roots

theorem covers_iff (roots : Roots) (names : List String) :
    roots.covers names = true ↔ roots.kubelet <+: names ∨ roots.plugin <+: names := by
  simp [covers]

/-- What is below a covered place is covered. -/
theorem covers_append {roots : Roots} {names : List String} (h : roots.covers names = true)
    (more : List String) : roots.covers (names ++ more) = true := by
  rw [covers_iff] at h ⊢
  exact h.imp (·.trans (List.prefix_append _ _)) (·.trans (List.prefix_append _ _))

theorem covers_of_begin {roots : Roots} {names longer : List String}
    (h : roots.covers names = true) (hbegin : names <+: longer) : roots.covers longer = true := by
  obtain ⟨more, rfl⟩ := hbegin
  exact covers_append h more

/-- Admitted names are covered and lead nowhere but down. -/
theorem of_allow {roots : Roots} {text : String} {names : List String}
    (h : roots.allow text = .ok names) :
    roots.covers names = true ∧ ∀ name ∈ names, Path.IsName name := by
  unfold allow at h
  dsimp only at h
  split at h
  · cases h
  · split at h
    · rename_i hcovers
      cases h
      exact ⟨hcovers, fun name hname => Path.isName_of_mem_ofText hname⟩
    · cases h

end Roots

end StorageGateway

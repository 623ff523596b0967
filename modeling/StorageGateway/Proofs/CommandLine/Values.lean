import StorageGateway.CommandLine
import StorageGateway.Proofs.Json.Records
import StorageGateway.Proofs.Text.Split

/-!
# What arguments give for the groups

The values given for the groups stand in the arguments: behind an equals sign, or in the argument
behind the option. When the arguments are accepted, these values have been collected in their order
and cut at commas, whatever other options stand between them.
-/

namespace StorageGateway.CommandLine

open Json (bind_eq_ok_iff)

/-! ## The values in the arguments -/

/-- The value that an argument gives for the groups by itself. -/
def attachedValue? (argument : String) : Option String :=
  (Text.afterPrefix? "--groups=".toList argument.toList).map String.ofList

/-- The values that arguments give for the groups, in their order. -/
def groupValues : List String → List String
  | [] => []
  | [argument] => (attachedValue? argument).toList
  | argument :: next :: rest =>
    if argument = "--groups" then next :: groupValues rest
    else (attachedValue? argument).toList ++ groupValues (next :: rest)

/-- What stands between the commas of a value. -/
def pieces (value : String) : List String := (Text.splitOn ',' value.toList).map String.ofList

/-- An argument that gives no value for the groups and asks for none. -/
def Silent (argument : String) : Prop :=
  argument ≠ "--groups" ∧ attachedValue? argument = none

theorem attachedValue?_append (value : String) :
    attachedValue? ("--groups=" ++ value) = some value := by
  have hafter : Text.afterPrefix? "--groups=".toList ("--groups=" ++ value).toList =
      some value.toList := Text.afterPrefix?_eq_some_iff.mpr String.toList_append
  rw [attachedValue?, hafter, Option.map_some, String.ofList_toList]

theorem attachedValue?_eq_some_iff {argument value : String} :
    attachedValue? argument = some value ↔ argument = "--groups=" ++ value := by
  constructor
  · intro h
    obtain ⟨rest, hrest, rfl⟩ := Option.map_eq_some_iff.mp h
    refine String.toList_injective ?_
    rw [Text.afterPrefix?_eq_some_iff.mp hrest, String.toList_append, @String.toList_ofList rest]
  · rintro rfl
    exact attachedValue?_append value

theorem groupValues_next (value : String) (rest : List String) :
    groupValues ("--groups" :: value :: rest) = value :: groupValues rest := by
  rw [groupValues, if_pos rfl]

theorem groupValues_of_ne {argument : String} (h : argument ≠ "--groups") (rest : List String) :
    groupValues (argument :: rest) = (attachedValue? argument).toList ++ groupValues rest := by
  cases rest with
  | nil => simp [groupValues]
  | cons next rest => rw [groupValues, if_neg h]

theorem groupValues_attached (value : String) (rest : List String) :
    groupValues (("--groups=" ++ value) :: rest) = value :: groupValues rest := by
  have hne : "--groups=" ++ value ≠ "--groups" := by
    intro h
    have hlength := congrArg String.length h
    have hlong : "--groups=".length = "--groups".length + 1 := rfl
    rw [String.length_append] at hlength
    omega
  rw [groupValues_of_ne hne, attachedValue?_append]
  rfl

theorem Silent.groupValues {argument : String} (h : Silent argument) (rest : List String) :
    groupValues (argument :: rest) = groupValues rest := by
  rw [groupValues_of_ne h.1, h.2]
  rfl

/-! ## Arguments by their form -/

/-- A long option as it is spelled. -/
def longText (name : String) : Option String → List Char
  | none => '-' :: '-' :: name.toList
  | some value => '-' :: '-' :: (name.toList ++ '=' :: value.toList)

theorem toList_of_long {argument name : String} {value : Option String}
    (h : Form.of argument = .long name value) : argument.toList = longText name value := by
  unfold Form.of at h
  split at h
  · cases h
  · rename_i rest _ htext
    rw [htext]
    have hparts := List.takeWhile_append_dropWhile (p := (· != '=')) (l := rest)
    split at h
    · rename_i hnone
      cases h
      rw [longText, String.toList_ofList]
    · rename_i c behind hbehind
      cases h
      obtain rfl : c = '=' := by
        have hhead := List.head?_dropWhile_not (· != '=') rest
        rw [hbehind] at hhead
        simpa using hhead
      rw [longText, String.toList_ofList, String.toList_ofList, ← hbehind, hparts]
  · cases h
  · cases h

theorem of_groups : Form.of "--groups" = .long "groups" none := rfl

theorem toList_attached (value : String) :
    ("--groups=" ++ value).toList = longText "groups" (some value) := String.toList_append

theorem of_groups_attached (value : String) :
    Form.of ("--groups=" ++ value) = .long "groups" (some value) := by
  have hform : Form.of ("--groups=" ++ value) =
      .long "groups" (some (String.ofList value.toList)) := by
    unfold Form.of
    rw [toList_attached]
    rfl
  rw [hform, String.ofList_toList]

theorem eq_groups_iff {argument : String} :
    argument = "--groups" ↔ Form.of argument = .long "groups" none := by
  constructor
  · rintro rfl
    exact of_groups
  · intro h
    exact String.toList_injective (toList_of_long h)

theorem eq_attached_iff {argument value : String} :
    argument = "--groups=" ++ value ↔ Form.of argument = .long "groups" (some value) := by
  constructor
  · rintro rfl
    exact of_groups_attached value
  · intro h
    exact String.toList_injective ((toList_of_long h).trans (toList_attached value).symm)

/-- Only the option of the groups is anything to them. -/
theorem silent_of_form {argument : String}
    (h : ∀ value, Form.of argument ≠ .long "groups" value) : Silent argument := by
  refine ⟨fun heq => h none (eq_groups_iff.mp heq), ?_⟩
  by_contra hsome
  obtain ⟨value, hvalue⟩ := Option.ne_none_iff_exists'.mp hsome
  exact h (some value) (eq_attached_iff.mp (attachedValue?_eq_some_iff.mp hvalue))

theorem eq_of_plain {argument text : String} (h : Form.of argument = .plain text) :
    text = argument := by
  unfold Form.of at h
  split at h
  · cases h
  · split at h <;> cases h
  · cases h
  · cases h
    rfl

theorem longOption?_eq_groups {name : String} (h : longOption? name = some (.value .groups)) :
    name = "groups" := by
  unfold longOption? at h
  split at h <;> cases h
  rfl

theorem silent_of_long {argument name : String} {value : Option String}
    (hform : Form.of argument = .long name value)
    (hname : longOption? name ≠ some (.value .groups)) : Silent argument := by
  refine silent_of_form fun other hother => ?_
  rw [hform] at hother
  cases hother
  exact hname rfl

/-! ## What has been collected -/

/-- The arguments of an option for the groups whose value has not been looked at. -/
def Pending.arguments : Pending → List String
  | .waiting .groups => ["--groups"]
  | .given .groups value => ["--groups", value]
  | _ => []

/-- What is collected for the groups when all arguments are read. -/
def collected (a : Arguments) (pending : Pending) (rest : List String) : List String :=
  a.groups ++ (groupValues (pending.arguments ++ rest)).flatMap pieces

section
variable {a b parsed : Arguments} {pending : Pending} {rest : List String} {value : String}

theorem groups_of_setValue_groups (h : a.setValue .groups value = .ok b) :
    b.groups = a.groups ++ pieces value := by
  cases h
  rfl

theorem groups_of_setValue {option : ValueOption} (hoption : option ≠ .groups)
    (h : a.setValue option value = .ok b) : b.groups = a.groups := by
  cases option with
  | groups => exact absurd rfl hoption
  | socketDirectory | kubeletPath | pluginPath =>
    obtain ⟨path, -, h⟩ := bind_eq_ok_iff.mp h
    cases h
    rfl

theorem groups_of_setSwitch {switch : Switch} (h : a.setSwitch switch = .ok b) :
    b.groups = a.groups := by
  cases switch with
  | help => cases h
  | debug | jsonLogs =>
    simp only [Arguments.setSwitch] at h
    split at h
    · cases h
    · cases h
      rfl

theorem groups_of_setLetters {letters : List Char} (h : a.setLetters letters = .ok b) :
    b.groups = a.groups := by
  induction letters generalizing a with
  | nil =>
    cases h
    rfl
  | cons c letters ih =>
    rw [Arguments.setLetters] at h
    split at h
    · cases h
    · obtain ⟨next, hnext, h⟩ := bind_eq_ok_iff.mp h
      rw [ih h, groups_of_setSwitch hnext]

theorem collected_of_groups (h : b.groups = a.groups) :
    collected b pending rest = collected a pending rest := by
  rw [collected, collected, h]

/-- Completing an option collects what its arguments give. -/
theorem collected_of_settle (h : a.settle pending = .ok b) :
    collected b .nothing rest = collected a pending rest := by
  cases pending with
  | nothing =>
    cases h
    rfl
  | waiting option => cases h
  | given option value =>
    by_cases hoption : option = .groups
    · subst hoption
      have hvalues : groupValues ((Pending.given .groups value).arguments ++ rest) =
          value :: groupValues rest := groupValues_next value rest
      rw [collected, collected, groups_of_setValue_groups h, hvalues, List.flatMap_cons,
        List.append_assoc]
      rfl
    · have hnone : (Pending.given option value).arguments = [] := by
        cases option with
        | groups => exact absurd rfl hoption
        | socketDirectory | kubeletPath | pluginPath => rfl
      rw [collected, collected, groups_of_setValue hoption h, hnone]
      rfl

theorem collected_nothing : collected a .nothing [] = a.groups := by
  simp [collected, Pending.arguments, groupValues]

theorem collected_silent {argument : String} (h : Silent argument) :
    collected a .nothing (argument :: rest) = collected a .nothing rest := by
  show a.groups ++ (groupValues (argument :: rest)).flatMap pieces = _
  rw [h.groupValues]
  rfl

/-- The argument behind an option is its value. -/
theorem collected_given {option : ValueOption} (h : Silent value) :
    collected a (.given option value) rest = collected a (.waiting option) (value :: rest) := by
  cases option with
  | groups => rfl
  | socketDirectory | kubeletPath | pluginPath => exact (collected_silent h).symm

/-- An option with its value attached is collected when its value is looked at. -/
theorem collected_of_setValue {option : ValueOption} {argument name : String}
    (hform : Form.of argument = .long name (some value))
    (hname : longOption? name = some (.value option)) (h : a.setValue option value = .ok b) :
    collected b .nothing rest = collected a .nothing (argument :: rest) := by
  by_cases hoption : option = .groups
  · subst hoption
    rw [longOption?_eq_groups hname] at hform
    have hvalues : groupValues (argument :: rest) = value :: groupValues rest := by
      rw [eq_attached_iff.mpr hform]
      exact groupValues_attached value rest
    show b.groups ++ (groupValues rest).flatMap pieces =
      a.groups ++ (groupValues (argument :: rest)).flatMap pieces
    rw [groups_of_setValue_groups h, hvalues, List.flatMap_cons, List.append_assoc]
  · have hsilent : Silent argument := by
      refine silent_of_long hform fun hgroups => hoption ?_
      rw [hname] at hgroups
      cases hgroups
      rfl
    rw [collected_silent hsilent, collected_of_groups (groups_of_setValue hoption h)]

/-- An option without its value waits for it. -/
theorem collected_waiting {option : ValueOption} {argument name : String}
    (hform : Form.of argument = .long name none)
    (hname : longOption? name = some (.value option)) :
    collected a (.waiting option) rest = collected a .nothing (argument :: rest) := by
  by_cases hoption : option = .groups
  · subst hoption
    rw [longOption?_eq_groups hname] at hform
    rw [eq_groups_iff.mpr hform]
    rfl
  · have hsilent : Silent argument := by
      refine silent_of_long hform fun hgroups => hoption ?_
      rw [hname] at hgroups
      cases hgroups
      rfl
    have hnone : (Pending.waiting option).arguments = [] := by
      cases option with
      | groups => exact absurd rfl hoption
      | socketDirectory | kubeletPath | pluginPath => rfl
    rw [collected_silent hsilent, collected, hnone]
    rfl

/-- What is read is what has been collected before and what the arguments give. -/
theorem groups_of_read {arguments : List String} (h : read a pending arguments = .ok parsed) :
    parsed.groups = collected a pending arguments := by
  -- An option that has not been looked at yet is part of what is collected, so that each argument
  -- leaves all of it as it is.
  induction arguments generalizing a pending with
  | nil => rw [← collected_of_settle h, collected_nothing]
  | cons argument rest ih =>
    rw [read] at h
    cases hform : Form.of argument with
    | separator =>
      rw [hform] at h
      have hsilent : Silent argument := silent_of_form fun value => by simp [hform]
      cases rest with
      | nil => rw [← collected_of_settle h, collected_silent hsilent, collected_nothing]
      | cons next rest => cases h
    | plain text =>
      rw [hform] at h
      have hsilent : Silent argument := silent_of_form fun value => by simp [hform]
      rw [eq_of_plain hform] at h
      cases pending with
      | nothing => cases h
      | given option value => cases h
      | waiting option => rw [ih h, collected_given hsilent]
    | short letters =>
      rw [hform] at h
      have hsilent : Silent argument := silent_of_form fun value => by simp [hform]
      cases letters with
      | nil => cases h
      | cons c letters =>
        simp only at h
        split at h
        · cases h
        · obtain ⟨settled, hsettled, h⟩ := bind_eq_ok_iff.mp h
          obtain ⟨next, hnext, h⟩ := bind_eq_ok_iff.mp h
          rw [ih h, collected_of_groups (groups_of_setLetters hnext), ← collected_silent hsilent,
            collected_of_settle hsettled]
    | long name value =>
      rw [hform] at h
      simp only at h
      split at h
      · cases h
      · cases h
      · rename_i switch hname
        have hsilent : Silent argument := silent_of_long hform (by rw [hname]; simp)
        obtain ⟨settled, hsettled, h⟩ := bind_eq_ok_iff.mp h
        obtain ⟨next, hnext, h⟩ := bind_eq_ok_iff.mp h
        rw [ih h, collected_of_groups (groups_of_setSwitch hnext), ← collected_silent hsilent,
          collected_of_settle hsettled]
      · rename_i option value hname
        obtain ⟨settled, hsettled, h⟩ := bind_eq_ok_iff.mp h
        obtain ⟨next, hnext, h⟩ := bind_eq_ok_iff.mp h
        rw [ih h, collected_of_setValue hform hname hnext, collected_of_settle hsettled]
      · rename_i option hname
        obtain ⟨settled, hsettled, h⟩ := bind_eq_ok_iff.mp h
        rw [ih h, collected_waiting hform hname, collected_of_settle hsettled]

end

/-- Arguments that are accepted say what they give for the groups. -/
theorem groups_of_parse {arguments : List String} {parsed : Arguments}
    (h : parse arguments = .ok parsed) :
    parsed.groups = (groupValues arguments).flatMap pieces :=
  (groups_of_read h).trans (List.nil_append _)

end StorageGateway.CommandLine

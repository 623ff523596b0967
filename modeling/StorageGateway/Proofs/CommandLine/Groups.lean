import StorageGateway.Proofs.CommandLine.Values
import StorageGateway.Proofs.Endpoint.Registrations

/-!
# Groups that are asked for

The groups that are served are those whose names are given, in whatever order and however often.
A name that no group has is refused, and it is the first such name that is complained of. Where no
name is left when blanks and empty pieces are taken away, all groups are served, no matter whether
groups have been asked for or not.
-/

namespace StorageGateway

/-! ## Names of groups -/

namespace Group

/-- Some group has a name. -/
def Named (name : String) : Prop := ∃ group : Group, group.name = name

theorem contains_names_iff {name : String} :
    (all.map Group.name).contains name = true ↔ Named name := by
  rw [List.contains_iff_mem, List.mem_map]
  constructor
  · rintro ⟨group, -, rfl⟩
    exact ⟨group, rfl⟩
  · rintro ⟨group, rfl⟩
    exact ⟨group, Endpoint.Registry.mem_allGroups group, rfl⟩

end Group

namespace CommandLine

/-! ## Names that are asked for -/

/-- The names that arguments ask for: what stands between the commas of the values for the groups,
without the blanks around it, where anything is left. -/
def askedNames (arguments : List String) : List String :=
  (((groupValues arguments).flatMap pieces).map Text.trim).filter (!·.isEmpty)

/-- What comes of names that are asked for, with the directories that are permitted. -/
structure Restricts (names : List String) (permitted : Except Fault Roots)
    (outcome : Except Fault Settings) : Prop where
  /-- The first name that no group has is refused, whatever else is wrong. -/
  refuses : ∀ before name after, names = before ++ name :: after →
    (∀ earlier ∈ before, Group.Named earlier) → ¬ Group.Named name →
      outcome = .error (.configuration ("Unknown API group '" ++ name ++
        "' (expected one of: filesystem, disk, volume, smb, iscsi, system)"))
  /-- Names of groups are accepted wherever the directories are. -/
  accepts : (∀ name ∈ names, Group.Named name) → ∀ roots, permitted = .ok roots →
    ∃ settings, outcome = .ok settings ∧ settings.roots = roots
  /-- The groups served are those with the names; all of them where there is no name. -/
  serves : ∀ settings, outcome = .ok settings → (∀ name ∈ names, Group.Named name) ∧
    ∀ group : Group, settings.hosts group.name = true ↔ names = [] ∨ group.name ∈ names
  /-- The endpoints that are entered are those of these groups. -/
  enters : ∀ settings, outcome = .ok settings → ∃ registry,
    Endpoint.Registry.registerAll {} settings.roots settings.hosts = (.ok (), registry) ∧
      ∀ descriptor, descriptor ∈ registry.descriptors ↔ ∃ group : Group,
        (names = [] ∨ group.name ∈ names) ∧
          ∃ adapter ∈ group.adapters settings.roots, .ofAdapter adapter = descriptor

section
variable {arguments : List String} {parsed : Arguments}
  {runtimeDirectory : Option String} {settings : Settings}

theorem groupNames_of_parse (h : parse arguments = .ok parsed) :
    parsed.groupNames = askedNames arguments := by
  rw [Arguments.groupNames, groups_of_parse h]
  rfl

/-- The directories that arguments permit. -/
def Arguments.permitted (a : Arguments) : Except Fault Roots :=
  Roots.make (a.kubeletPath.getD defaultKubeletPath) (a.pluginPath.getD defaultPluginPath)

theorem unknownGroup_eq (name : String) :
    unknownGroup name = .configuration ("Unknown API group '" ++ name ++
      "' (expected one of: filesystem, disk, volume, smb, iscsi, system)") := by
  have hlist : "' (expected one of: " ++ (", ".intercalate (Group.all.map Group.name) ++ ")") =
      "' (expected one of: filesystem, disk, volume, smb, iscsi, system)" := by decide +kernel
  rw [unknownGroup, String.append_assoc, String.append_assoc, hlist]

theorem settings_of_unknown {before after : List String} {name : String}
    (hnames : parsed.groupNames = before ++ name :: after)
    (hbefore : ∀ earlier ∈ before, Group.Named earlier) (hname : ¬ Group.Named name) :
    parsed.settings runtimeDirectory = .error (unknownGroup name) := by
  have hfirst : (parsed.groupNames.find? fun name =>
      !(Group.all.map Group.name).contains name) = some name := by
    rw [List.find?_eq_some_iff_append]
    refine ⟨?_, before, after, hnames, fun earlier hearlier => ?_⟩
    · rw [Bool.not_eq_true', ← Bool.not_eq_true, Group.contains_names_iff]
      exact hname
    · rw [Group.contains_names_iff.mpr (hbefore earlier hearlier)]
      rfl
  rw [Arguments.settings, hfirst]

theorem settings_of_known (h : ∀ name ∈ parsed.groupNames, Group.Named name) :
    parsed.settings runtimeDirectory = parsed.permitted.map fun roots =>
      ⟨parsed.socketDirectory.getD (defaultSocketDirectory runtimeDirectory), roots,
        parsed.groupNames⟩ := by
  have hnone : (parsed.groupNames.find? fun name =>
      !(Group.all.map Group.name).contains name) = none := by
    rw [List.find?_eq_none]
    intro name hname
    rw [Group.contains_names_iff.mpr (h name hname)]
    decide
  rw [Arguments.settings, hnone, Arguments.permitted]
  cases Roots.make (parsed.kubeletPath.getD defaultKubeletPath)
    (parsed.pluginPath.getD defaultPluginPath) <;> rfl

/-- Settings there are only for names of groups, and the names are in them. -/
theorem groups_of_settings (h : parsed.settings runtimeDirectory = .ok settings) :
    (∀ name ∈ parsed.groupNames, Group.Named name) ∧ settings.groups = parsed.groupNames := by
  have hknown : ∀ name ∈ parsed.groupNames, Group.Named name := by
    rw [Arguments.settings] at h
    split at h
    · cases h
    · rename_i hnone
      intro name hname
      have hfound := List.find?_eq_none.mp hnone name hname
      rw [Bool.not_eq_true', Bool.not_eq_false] at hfound
      exact Group.contains_names_iff.mp hfound
  rw [settings_of_known hknown] at h
  obtain ⟨roots, -, rfl⟩ := Json.map_eq_ok_iff.mp h
  exact ⟨hknown, rfl⟩

theorem hosts_iff {name : String} :
    settings.hosts name = true ↔ settings.groups = [] ∨ name ∈ settings.groups := by
  rw [Settings.hosts, includesGroup, Bool.or_eq_true, List.isEmpty_iff, List.contains_iff_mem]

theorem restricts (h : parse arguments = .ok parsed) (runtimeDirectory : Option String) :
    Restricts (askedNames arguments) parsed.permitted (parsed.settings runtimeDirectory) where
  refuses before name after hnames hbefore hname := by
    rw [← unknownGroup_eq]
    exact settings_of_unknown ((groupNames_of_parse h).trans hnames) hbefore hname
  accepts hknown roots hroots := by
    rw [← groupNames_of_parse h] at hknown
    rw [settings_of_known hknown, hroots]
    exact ⟨_, rfl, rfl⟩
  serves settings hsettings := by
    obtain ⟨hknown, hgroups⟩ := groups_of_settings hsettings
    rw [groupNames_of_parse h] at hknown hgroups
    refine ⟨hknown, fun group => ?_⟩
    rw [hosts_iff, hgroups]
  enters settings hsettings := by
    obtain ⟨-, hgroups⟩ := groups_of_settings hsettings
    rw [groupNames_of_parse h] at hgroups
    obtain ⟨registry, hentered, hlist⟩ :=
      Endpoint.Registry.exists_registerAll settings.roots settings.hosts
    refine ⟨registry, hentered, fun descriptor => ?_⟩
    simp only [hlist, Endpoint.Registry.mem_endpointsOf_iff, hosts_iff, hgroups]

end

/-- The groups that are served are those whose names are given (`askedNames`), or all where no name
is given, and the endpoints entered are theirs; the first name that no group has is refused, which
`Restricts` puts together. Neither the order nor the repetition of names makes a difference to
`Settings.hosts`. -/
theorem groups_are_restricted_to_names {arguments : List String} {parsed : Arguments}
    (h : parse arguments = .ok parsed) (runtimeDirectory : Option String) :
    Restricts (askedNames arguments) parsed.permitted (parsed.settings runtimeDirectory) ∧
    ∀ others parsed', parse others = .ok parsed' →
      (∀ name, name ∈ askedNames arguments ↔ name ∈ askedNames others) →
        ∀ otherDirectory settings settings', parsed.settings runtimeDirectory = .ok settings →
          parsed'.settings otherDirectory = .ok settings' → settings.hosts = settings'.hosts := by
  refine ⟨restricts h runtimeDirectory, ?_⟩
  intro others parsed' hothers hsame _ settings settings' hfirst hsecond
  have hgroups : settings.groups = askedNames arguments :=
    (groups_of_settings hfirst).2.trans (groupNames_of_parse h)
  have hgroups' : settings'.groups = askedNames others :=
    (groups_of_settings hsecond).2.trans (groupNames_of_parse hothers)
  have hempty : askedNames arguments = [] ↔ askedNames others = [] := by
    rw [List.eq_nil_iff_forall_not_mem, List.eq_nil_iff_forall_not_mem]
    exact forall_congr' fun name => not_congr (hsame name)
  funext name
  rw [Bool.eq_iff_iff, hosts_iff, hosts_iff, hgroups, hgroups']
  exact or_congr hempty (hsame name)

/-- Two groups, one of them named twice. -/
def twoGroups : List String := ["--groups", " system ,,disk", "-d", "--groups=disk"]

theorem two_groups_are_served : ∃ parsed settings, parse twoGroups = .ok parsed ∧
    parsed.settings none = .ok settings ∧
      ∀ group : Group, settings.hosts group.name = true ↔ group = .system ∨ group = .disk := by
  have hparsed : parse twoGroups =
      .ok { groups := [" system ", "", "disk", "disk"], debug := true } := by decide +kernel
  have hasked : askedNames twoGroups = ["system", "disk", "disk"] := by decide +kernel
  have hknown : ∀ name ∈ askedNames twoGroups, Group.Named name := by
    simp only [hasked, List.forall_mem_cons]
    exact ⟨⟨.system, rfl⟩, ⟨.disk, rfl⟩, ⟨.disk, rfl⟩, List.forall_mem_nil _⟩
  obtain ⟨hrestricts, -⟩ := groups_are_restricted_to_names hparsed none
  obtain ⟨settings, hsettings, -⟩ := hrestricts.accepts hknown _ rfl
  refine ⟨_, settings, hparsed, hsettings, fun group => ?_⟩
  rw [(hrestricts.serves settings hsettings).2 group, hasked]
  cases group <;> decide

/-- Groups are asked for, but there is nothing but blanks: all of them are served. -/
theorem blank_names_serve_all_groups : groupValues ["--groups", ""] = [""] ∧
    ∃ parsed settings, parse ["--groups", ""] = .ok parsed ∧
      parsed.settings none = .ok settings ∧ ∀ group : Group, settings.hosts group.name = true := by
  have hparsed : parse ["--groups", ""] = .ok { groups := [""] } := by decide +kernel
  have hasked : askedNames ["--groups", ""] = [] := by decide +kernel
  have hrestricts := restricts hparsed none
  obtain ⟨settings, hsettings, -⟩ := hrestricts.accepts (by simp [hasked]) _ rfl
  refine ⟨by decide +kernel, _, settings, hparsed, hsettings, fun group => ?_⟩
  exact ((hrestricts.serves settings hsettings).2 group).mpr (.inl hasked)

end CommandLine

end StorageGateway

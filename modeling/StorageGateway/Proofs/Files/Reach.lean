import StorageGateway.Proofs.Adapter.Calls
import StorageGateway.Proofs.Files.Confinement
import StorageGateway.Proofs.Files.Ways
import StorageGateway.Proofs.Json.Records

/-!
# How far a request reaches

Paths are admitted by their text alone, whatever the files are, and the operating system follows the
links on the way afterwards. So every change is where an admitted path of the request leads, and it
is inside the roots, unless a link stands on the way or a directory that leads to a root had to be
made.
-/

namespace StorageGateway.Files

open Host

/-- A request names the path on which it works. -/
def WorksOn (params : Json) (path : String) : Prop :=
  params.field? "path" 0 = some (.string path) ∨
    params.field? "target_path" 1 = some (.string path)

/-- A link stands on the way along names, before the last one. -/
def Crosses (tree : FileTree) (names : List String) : Prop :=
  ∃ place target, place <+: names ∧ place ≠ names ∧ tree.node? place = some (.link target)

/-- A change of what is at a place, for the names on which a request works. -/
inductive Change (names : List String) (before after : FileTree) (place : Place) : Prop where
  /-- A directory is made where the names lead, or those at their beginning. -/
  | directory {begun : List String} (begins : begun <+: names)
      (leads : after.locate false begun = .ok place) (absent : before.node? place = none)
      (present : after.node? place = some .directory)
  /-- A link is made where the names lead. -/
  | link {target : String} (leads : before.locate false names = .ok place)
      (absent : before.node? place = none) (present : after.node? place = some (.link target))
  /-- What has been where the names lead is removed, and all below it. -/
  | removal {goal : Place} (leads : before.locate false names = .ok goal) (below : goal <+: place)
      (absent : after.node? place = none)

/-- A missing directory is made that leads to a root. -/
def LeadsUp (roots : Roots) (before after : FileTree) (place : Place) : Prop :=
  before.node? place = none ∧ after.node? place = some .directory ∧
    (place <+: roots.kubelet ∨ place <+: roots.plugin)

/-- Whatever differs between two trees comes of working on a path: it has been admitted, and the
difference is where it leads. -/
def Follows (roots : Roots) (path : String) (before after : FileTree) : Prop :=
  ∀ place, after.node? place ≠ before.node? place →
    ∃ names, admitted roots path = .ok names ∧ Change names before after place ∧
      (roots.covers place = true ∨ Crosses before names ∨ LeadsUp roots before after place)

section

variable {roots : Roots} {path : String} {names : List String} {before after tree : FileTree}
  {place goal : Place}

theorem Follows.refl (roots : Roots) (path : String) (tree : FileTree) :
    Follows roots path tree tree :=
  fun _ hchanged => absurd rfl hchanged

/-- Names lead to the place that they spell, unless a link stands on the way. -/
theorem crosses_or_eq (hnames : ∀ name ∈ names, Path.IsName name) {begun : List String}
    (hbegins : begun <+: names) (hl : tree.locate false begun = .ok goal) :
    Crosses tree names ∨ goal = begun := by
  by_cases hlink : ∃ place target, place <+: begun ∧ place ≠ begun ∧
      tree.node? place = some (.link target)
  · obtain ⟨place, target, hplace, hne, hnode⟩ := hlink
    refine .inl ⟨place, target, hplace.trans hbegins, ?_, hnode⟩
    rintro rfl
    exact hne (hplace.eq_of_length_le hbegins.length_le)
  · have hbegun : ∀ name ∈ begun, Path.IsName name :=
      fun name hname => hnames name (hbegins.subset hname)
    refine .inr (FileTree.eq_of_locate hbegun (fun place target hplace hne hnode => ?_) hl)
    exact hlink ⟨place, target, hplace, hne, hnode⟩

/-- What is at the beginning of covered names is covered, or it leads to a root. -/
theorem covers_or_leads_up {begun : List String} (hcovers : roots.covers names = true)
    (hbegins : begun <+: names) :
    roots.covers begun = true ∨ begun <+: roots.kubelet ∨ begun <+: roots.plugin := by
  rw [roots.covers_iff] at hcovers ⊢
  rcases hcovers with hroot | hroot
  · rcases List.prefix_or_prefix_of_prefix hbegins hroot with hup | hbelow
    · exact .inr (.inl hup)
    · exact .inl (.inl hbelow)
  · rcases List.prefix_or_prefix_of_prefix hbegins hroot with hup | hbelow
    · exact .inr (.inr hup)
    · exact .inl (.inr hbelow)

theorem covers_or_crosses (hadmitted : admitted roots path = .ok names)
    (hl : tree.locate false names = .ok goal) (hbelow : goal <+: place) :
    roots.covers place = true ∨ Crosses tree names := by
  obtain ⟨hcovers, hnames⟩ := of_admitted hadmitted
  rcases crosses_or_eq hnames (List.prefix_refl names) hl with hcrosses | rfl
  · exact .inr hcrosses
  · exact .inl (roots.covers_of_begin hcovers hbelow)

/-! ## Links and removals -/

theorem follows_makeLink {target : String} (hadmitted : admitted roots path = .ok names)
    (hm : tree.makeLink target names = .ok after) : Follows roots path tree after := by
  unfold FileTree.makeLink at hm
  split at hm
  · cases hm
  · split at hm
    · cases hm
    · split at hm
      · cases hm
      · obtain ⟨goal, hl, hput⟩ := exists_of_bind_eq_ok hm
        split at hput
        · cases hput
        · rename_i hnone
          cases hput
          have hne : goal ≠ [] := by
            rintro rfl
            cases hnone
          intro place hchanged
          rw [tree.node?_put hne] at hchanged
          by_cases hplace : place = goal
          · subst hplace
            have hpresent : (tree.put place (.link target)).node? place = some (.link target) := by
              rw [tree.node?_put hne, if_pos rfl]
            have hwhere := covers_or_crosses hadmitted hl (List.prefix_refl place)
            exact ⟨names, hadmitted, .link hl hnone hpresent, hwhere.imp_right .inl⟩
          · rw [if_neg hplace] at hchanged
            exact absurd rfl hchanged

theorem follows_erase (hadmitted : admitted roots path = .ok names)
    (hl : tree.locate false names = .ok goal) (hne : goal ≠ []) :
    Follows roots path tree (tree.erase goal) := by
  intro place hchanged
  rw [tree.node?_erase hne] at hchanged
  by_cases hplace : place = goal
  · subst hplace
    have habsent : (tree.erase place).node? place = none := by
      rw [tree.node?_erase hne, if_pos rfl]
    have hwhere := covers_or_crosses hadmitted hl (List.prefix_refl place)
    exact ⟨names, hadmitted, .removal hl (List.prefix_refl place) habsent, hwhere.imp_right .inl⟩
  · rw [if_neg hplace] at hchanged
    exact absurd rfl hchanged

theorem follows_eraseBelow (hadmitted : admitted roots path = .ok names)
    (hl : tree.locate false names = .ok goal) (hne : goal ≠ []) :
    Follows roots path tree (tree.eraseBelow goal) := by
  intro place hchanged
  rw [tree.node?_eraseBelow hne] at hchanged
  by_cases hbelow : goal <+: place
  · have habsent : (tree.eraseBelow goal).node? place = none := by
      rw [tree.node?_eraseBelow hne, if_pos hbelow]
    have hwhere := covers_or_crosses hadmitted hl hbelow
    exact ⟨names, hadmitted, .removal hl hbelow habsent, hwhere.imp_right .inl⟩
  · rw [if_neg hbelow] at hchanged
    exact absurd rfl hchanged

theorem follows_removeDirectory (hadmitted : admitted roots path = .ok names)
    (hr : tree.removeDirectory names = .ok after) : Follows roots path tree after := by
  obtain ⟨goal, hl, herase⟩ := exists_of_bind_eq_ok hr
  split at herase
  · cases herase
  · split at herase
    · cases herase
    · rename_i hne
      split at herase
      · cases herase
      · cases herase
        exact follows_erase hadmitted hl (by simpa using hne)
  · cases herase

theorem follows_removeTree (hadmitted : admitted roots path = .ok names)
    (hr : tree.removeTree names = .ok after) : Follows roots path tree after := by
  obtain ⟨goal, hl, herase⟩ := exists_of_bind_eq_ok hr
  split at herase
  · cases herase
  · split at herase
    · cases herase
    · rename_i hne
      cases herase
      exact follows_eraseBelow hadmitted hl (by simpa using hne)
  · rename_i hlink
    cases herase
    refine follows_erase hadmitted hl ?_
    rintro rfl
    cases hlink
  · cases herase

/-! ## Directories and those that lead to them -/

theorem follows_of_builds (hadmitted : admitted roots path = .ok names)
    (h : FileTree.Builds names before after) : Follows roots path before after := by
  intro place hchanged
  obtain ⟨hcovers, hnames⟩ := of_admitted hadmitted
  obtain ⟨habsent, hpresent, begun, hbegins, hl⟩ := h.made place hchanged
  refine ⟨names, hadmitted, .directory hbegins hl habsent hpresent, ?_⟩
  rcases crosses_or_eq hnames hbegins hl with ⟨link, target, hlink, hne, hnode⟩ | rfl
  · exact .inr (.inl ⟨link, target, hlink, hne, (h.extended.links link target).mp hnode⟩)
  · rcases covers_or_leads_up hcovers hbegins with hcovered | hup
    · exact .inl hcovered
    · exact .inr (.inr ⟨habsent, hpresent, hup⟩)

end

/-! ## Requests -/

section

variable {roots : Roots}

/-- An action changes files only where a path leads on which a request works. -/
def Obeys (roots : Roots) (params : Json) (before after : Machine) : Prop :=
  ∀ place, after.files.node? place ≠ before.files.node? place →
    ∃ path names, WorksOn params path ∧ admitted roots path = .ok names ∧
      Change names before.files after.files place ∧
      (roots.covers place = true ∨ Crosses before.files names ∨
        LeadsUp roots before.files after.files place)

theorem obeys_of_follows {params : Json} {path : String} (hworks : WorksOn params path)
    {before after : Machine} (h : Follows roots path before.files after.files) :
    Obeys roots params before after := by
  intro place hchanged
  obtain ⟨names, hadmitted, hchange, hwhere⟩ := h place hchanged
  exact ⟨path, names, hworks, hadmitted, hchange, hwhere⟩

theorem Obeys.refl (params : Json) (machine : Machine) : Obeys roots params machine machine :=
  fun _ hchanged => absurd rfl hchanged

theorem look_obeys {α : Type} {params : Json} (path : String)
    (question : List String → FileTree → Except SystemError α) :
    (Act.ofExcept (admitted roots path) >>= fun names => look names (question names)).Ensures
      (Obeys roots params) := by
  refine .ofExcept_bind (.refl params) fun names _ machine => ?_
  have hsame : ((look names (question names)).perform machine).2 = machine := by
    show (look names (question names) machine).2 = machine
    unfold look
    split <;> rfl
  rw [hsame]
  exact .refl params machine

theorem change_obeys {params : Json} {path : String} {names : List String}
    (hworks : WorksOn params path) (attempt : FileTree → Except SystemError FileTree)
    (h : ∀ tree after, attempt tree = .ok after → Follows roots path tree after) :
    (change names attempt).Ensures (Obeys roots params) := by
  intro machine
  show Obeys roots params machine (change names attempt machine).2
  unfold change
  split
  · rename_i files hattempt
    exact obeys_of_follows hworks (h machine.files files hattempt)
  · exact .refl params machine

theorem makeDirectory_obeys {params : Json} {path : String} (hworks : WorksOn params path) :
    (makeDirectory roots path).Ensures (Obeys roots params) := by
  refine .ofExcept_bind (.refl params) fun names hadmitted machine => ?_
  have hbuilds : FileTree.Builds names machine.files (machine.files.makeDirectories names).2 :=
    FileTree.builds_makeDirectories names
  exact obeys_of_follows hworks (follows_of_builds hadmitted hbuilds)

theorem removeDirectory_obeys {params : Json} {request : Removal}
    (hworks : WorksOn params request.path) :
    (removeDirectory roots request).Ensures (Obeys roots params) := by
  refine .ofExcept_bind (.refl params) fun names hadmitted => ?_
  refine change_obeys hworks _ fun tree after hremove => ?_
  split at hremove
  · exact follows_removeTree hadmitted hremove
  · exact follows_removeDirectory hadmitted hremove

theorem makeLink_obeys {params : Json} {request : Linking}
    (hworks : WorksOn params request.target) :
    (makeLink roots request).Ensures (Obeys roots params) := by
  refine .ofExcept_bind (.refl params) fun source hsource => ?_
  refine .ofExcept_bind (.refl params) fun target htarget => ?_
  exact change_obeys hworks _ fun tree after hmake => follows_makeLink htarget hmake

/-! ### The paths of requests -/

theorem worksOn_of_read_path {name path : String} {params : Json}
    (h : (pathRequest name).read.ofJson params = .ok path) : WorksOn params path := by
  obtain ⟨x, hx, hread⟩ := Json.Reader.exists_of_read_one h
  exact .inl (Json.Reader.string_ofJson_eq_ok_iff.mp hread ▸ hx)

theorem worksOn_of_read_removal {params : Json} {request : Removal}
    (h : Removal.schema.read.ofJson params = .ok request) : WorksOn params request.path := by
  obtain ⟨x, path, force, hx, hread, rfl⟩ := Json.Reader.exists_of_read_first h
  exact .inl (Json.Reader.string_ofJson_eq_ok_iff.mp hread ▸ hx)

theorem worksOn_of_read_linking {name : String} {params : Json} {request : Linking}
    (h : (Linking.schema name).read.ofJson params = .ok request) :
    WorksOn params request.target := by
  obtain ⟨x, y, source, target, -, hy, -, hread, rfl⟩ := Json.Reader.exists_of_read_two h
  exact .inr (Json.Reader.string_ofJson_eq_ok_iff.mp hread ▸ hy)

theorem call_obeys {adapter : Adapter Machine} (hadapter : adapter ∈ adapters roots)
    (method : String) (params : Json) :
    (adapter.call method params).Ensures (Obeys roots params) := by
  refine adapter.call_ensures_of_accept (.refl params) method params
    fun route hroute request haccept => ?_
  obtain ⟨hread, hdecoded, -⟩ := Route.accept_eq_ok_iff.mp haccept
  have hcases : adapter = betaAdapter roots ∨ adapter = stableAdapter roots := by
    simpa [adapters] using hadapter
  rcases hcases with rfl | rfl
  · simp only [betaAdapter, List.mem_cons, List.not_mem_nil, or_false] at hroute
    rcases hroute with rfl | rfl | rfl | rfl | rfl
    · exact look_obeys request _
    · cases hdecoded
      exact makeDirectory_obeys (worksOn_of_read_path hread)
    · cases hdecoded
      exact removeDirectory_obeys (worksOn_of_read_removal hread)
    · cases hdecoded
      exact makeLink_obeys (worksOn_of_read_linking hread)
    · exact look_obeys request _
  · simp only [stableAdapter, List.mem_cons, List.not_mem_nil, or_false] at hroute
    rcases hroute with rfl | rfl | rfl | rfl | rfl
    · exact look_obeys request _
    · cases hdecoded
      exact makeDirectory_obeys (worksOn_of_read_path hread)
    · cases hdecoded
      exact removeDirectory_obeys (worksOn_of_read_removal hread)
    · cases hdecoded
      exact makeLink_obeys (worksOn_of_read_linking hread)
    · exact look_obeys request _

/-- Whatever the files are, links included, a request to the filesystem API changes them only where
a path leads that it names and that `admitted` lets through: the `Change` is that a directory or a
link is made there, or that what is there is removed. That is inside the roots, unless the path
`Crosses` a link before its last name, or a missing directory is made that `LeadsUp` to a root. -/
theorem changes_follow_admitted_paths {adapter : Adapter Machine}
    (hadapter : adapter ∈ adapters roots) (method : String) (params : Json) (machine : Machine)
    (place : Place)
    (hchanged : ((adapter.call method params).perform machine).2.files.node? place ≠
      machine.files.node? place) :
    ∃ path names, WorksOn params path ∧ admitted roots path = .ok names ∧
      Change names machine.files ((adapter.call method params).perform machine).2.files place ∧
      (roots.covers place = true ∨ Crosses machine.files names ∨
        LeadsUp roots machine.files ((adapter.call method params).perform machine).2.files place) :=
  call_obeys hadapter method params machine place hchanged

end

/-- A machine with a link that leads from one of the roots to a directory in neither. The other root
is not there yet, nor is the directory that it is to be in. -/
def leakyMachine : Machine where
  files := ⟨[(["k"], .directory), (["out"], .directory), (["k", "l"], .link "/out")]⟩
  shell := .scripted []

/-- Roots in different directories. -/
def distantRoots : Roots := ⟨["k"], ["var", "p"]⟩

/-- Asks for a directory at a path. -/
def directoryParams (path : String) : Json := .object [("path", .string path)]

theorem directory_made_behind_link :
    leakyMachine.files.node? ["out", "x"] = none ∧
    ∃ path names,
      WorksOn (directoryParams "/k/l/x") path ∧ admitted distantRoots path = .ok names ∧
      Change names leakyMachine.files
        (((stableAdapter distantRoots).call "Mkdir" (directoryParams "/k/l/x")).perform
          leakyMachine).2.files ["out", "x"] ∧
      (distantRoots.covers ["out", "x"] = true ∨ Crosses leakyMachine.files names ∨
        LeadsUp distantRoots leakyMachine.files
          (((stableAdapter distantRoots).call "Mkdir" (directoryParams "/k/l/x")).perform
            leakyMachine).2.files ["out", "x"]) :=
  ⟨by decide, changes_follow_admitted_paths (by simp [adapters]) "Mkdir"
    (directoryParams "/k/l/x") leakyMachine ["out", "x"] (by decide +kernel)⟩

/-- Directories are made outside both roots: behind a link, and on the way to a root. -/
theorem directories_made_outside_roots :
    (distantRoots.covers ["out", "x"] = false ∧
      leakyMachine.files.node? ["out", "x"] = none ∧
      (((stableAdapter distantRoots).call "Mkdir" (directoryParams "/k/l/x")).perform
        leakyMachine).2.files.node? ["out", "x"] = some .directory) ∧
    distantRoots.covers ["var"] = false ∧
      leakyMachine.files.node? ["var"] = none ∧
      (((stableAdapter distantRoots).call "Mkdir" (directoryParams "/var/p/y")).perform
        leakyMachine).2.files.node? ["var"] = some .directory := by
  decide +kernel

end StorageGateway.Files

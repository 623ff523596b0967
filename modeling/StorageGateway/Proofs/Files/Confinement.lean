import StorageGateway.Files.Adapters
import StorageGateway.Proofs.Adapter.Effects
import StorageGateway.Proofs.Files.Tree
import StorageGateway.Proofs.Path.Names

/-!
# Confinement to the roots

Paths are admitted by their text alone, while the operating system follows links on the way. Still
nobody can get out of the roots as long as the links below them lead to places below them, and the
filesystem API makes no others: following names that are covered never leaves the covered places, so
whatever is made or removed is there.
-/

namespace StorageGateway.Files

open Host

/-! ## Confined trees -/

/-- The target of a link that leads to a covered place from the root directory, and never stays
where it is or goes back on the way. -/
structure LeadsInside (roots : Roots) (target : String) : Prop where
  absolute : Path.isAbsoluteText target = true
  forward : ∀ name ∈ Path.components target, name ≠ "." ∧ name ≠ ".."
  covers : roots.covers ((Path.components target).filter fun name => name != "") = true

/-- A tree whose links cannot lead out of the roots: what is above a root, but not covered itself,
is a directory, and all links at covered places lead to covered places. -/
structure Confined (roots : Roots) (tree : FileTree) : Prop where
  above : ∀ place, place <+: roots.kubelet ∨ place <+: roots.plugin →
    roots.covers place = false → tree.node? place = some .directory
  links : ∀ place target, roots.covers place = true →
    tree.node? place = some (.link target) → LeadsInside roots target

section

variable {roots : Roots} {tree : FileTree}

/-- On the way to a covered place there are covered places and, before those, directories. -/
theorem Confined.covers_or_directory (h : Confined roots tree) {place : Place} {more : List String}
    (hcovers : roots.covers (place ++ more) = true) :
    roots.covers place = true ∨ tree.node? place = some .directory := by
  by_cases hplace : roots.covers place = true
  · exact .inl hplace
  · have hbelow {root : List String} (hroot : root <+: place ++ more)
        (hnot : ¬ root <+: place) : place <+: root := by
      have heither := List.prefix_or_prefix_of_prefix hroot (List.prefix_append place more)
      exact heither.resolve_left hnot
    have hnot := mt (roots.covers_iff place).mpr hplace
    obtain ⟨hkubelet, hplugin⟩ := not_or.mp hnot
    refine .inr (h.above place ?_ (by simpa using hplace))
    rcases (roots.covers_iff _).mp hcovers with hroot | hroot
    · exact .inl (hbelow hroot hkubelet)
    · exact .inr (hbelow hroot hplugin)

/-! ## Following names -/

/-- The names that lead on, without those that stand for the directory itself. -/
def steps (names : List String) : List String := names.filter fun name => name != "."

theorem steps_append (names more : List String) :
    steps (names ++ more) = steps names ++ steps more :=
  List.filter_append ..

theorem steps_eq_self {names : List String} (h : ∀ name ∈ names, Path.IsName name) :
    steps names = names :=
  List.filter_eq_self.mpr fun name hname => by simpa using (h name hname).ne_here

/-- The names of a target that leads inside: where it leads to, and perhaps once more the directory
there. -/
theorem LeadsInside.steps_targetNames {target : String} (h : LeadsInside roots target) :
    steps (FileTree.targetNames target) =
      (Path.components target).filter fun name => name != "" := by
  have hforward : steps ((Path.components target).filter fun name => name != "") =
      (Path.components target).filter fun name => name != "" :=
    List.filter_eq_self.mpr fun name hname => by
      simpa using (h.forward name (List.mem_filter.mp hname).1).1
  unfold FileTree.targetNames
  dsimp only
  split
  · rw [steps_append, hforward]
    exact List.append_nil _
  · exact hforward

theorem LeadsInside.up_not_mem {target : String} (h : LeadsInside roots target) :
    ".." ∉ FileTree.targetNames target := by
  have hforward : ".." ∉ (Path.components target).filter fun name => name != "" :=
    fun hin => (h.forward ".." (List.mem_filter.mp hin).1).2 rfl
  unfold FileTree.targetNames
  dsimp only
  split
  · simp [hforward]
  · exact hforward

/-- Following names that lead to a covered place ends at a covered place, if this holds where links
are followed. -/
theorem Confined.covers_of_descend (h : Confined roots tree) {followLast : Bool}
    {onLink : Place → List String → Except SystemError Place}
    (hlink : ∀ directory names place, ".." ∉ names →
      roots.covers (directory ++ steps names) = true → onLink directory names = .ok place →
      roots.covers place = true)
    {directory : Place} {names : List String} {place : Place} (hup : ".." ∉ names)
    (hcovers : roots.covers (directory ++ steps names) = true)
    (hd : tree.descend followLast onLink directory names = .ok place) :
    roots.covers place = true := by
  induction names generalizing directory with
  | nil =>
    rw [FileTree.descend] at hd
    cases hd
    simpa [steps] using hcovers
  | cons name names ih =>
    obtain ⟨hname, hrest⟩ := not_or.mp (mt List.mem_cons.mpr hup)
    rw [FileTree.descend] at hd
    by_cases hhere : name = "."
    · rw [if_pos hhere] at hd
      rw [hhere] at hcovers
      exact ih hrest hcovers hd
    · have hsteps : directory ++ steps (name :: names) = (directory ++ [name]) ++ steps names := by
        simp [steps, hhere]
      rw [if_neg hhere, if_neg (Ne.symm hname)] at hd
      rw [hsteps] at hcovers
      split at hd
      · cases hd
      · -- Where nothing follows, the place itself is the one that is covered.
        have hlast (hempty : names.isEmpty = true) :
            roots.covers (directory ++ [name]) = true := by
          rw [List.isEmpty_iff.mp hempty] at hcovers
          simpa [steps] using hcovers
        dsimp only at hd
        split at hd
        · exact ih hrest hcovers hd
        · rename_i target hnode
          split at hd
          · rename_i hend
            cases hd
            exact hlast (by simpa using And.left (by simpa using hend))
          · -- A link that is followed is at a covered place, so it leads to one.
            have hinside : LeadsInside roots target := by
              rcases h.covers_or_directory hcovers with hplace | hdirectory
              · exact h.links _ target hplace hnode
              · cases hnode.symm.trans hdirectory
            rw [if_pos hinside.absolute] at hd
            refine hlink [] _ place ?_ ?_ hd
            · rw [List.mem_append]
              exact not_or.mpr ⟨hinside.up_not_mem, hrest⟩
            · rw [List.nil_append, steps_append, hinside.steps_targetNames]
              exact roots.covers_append hinside.covers _
        · split at hd
          · rename_i hempty
            cases hd
            exact hlast hempty
          · cases hd
        · split at hd
          · rename_i hempty
            cases hd
            exact hlast hempty
          · cases hd

/-- Following names that lead to a covered place ends at a covered place, through however many
links. -/
theorem Confined.covers_of_walk (h : Confined roots tree) {followLast : Bool} (links : Nat)
    {directory : Place} {names : List String} {place : Place} (hup : ".." ∉ names)
    (hcovers : roots.covers (directory ++ steps names) = true)
    (hw : tree.walk followLast links directory names = .ok place) :
    roots.covers place = true := by
  induction links generalizing directory names place with
  | zero => exact h.covers_of_descend (fun _ _ _ _ _ hlink => by cases hlink) hup hcovers hw
  | succ links ih =>
    exact h.covers_of_descend (fun _ _ _ hup hcovers hlink => ih hup hcovers hlink) hup hcovers hw

theorem Confined.covers_of_locate (h : Confined roots tree) {followLast : Bool}
    {names : List String} {place : Place} (hcovers : roots.covers names = true)
    (hnames : ∀ name ∈ names, Path.IsName name)
    (hl : tree.locate followLast names = .ok place) : roots.covers place = true := by
  have hup : ".." ∉ names := fun hin => (hnames ".." hin).ne_up rfl
  obtain ⟨-, -, hw⟩ := exists_of_bind_eq_ok hl
  refine h.covers_of_walk _ hup ?_ hw
  rw [List.nil_append, steps_eq_self hnames]
  exact hcovers

/-! ## Changes -/

/-- A change that stays within the roots, and makes no links that lead out of them. -/
structure Within (roots : Roots) (before after : FileTree) : Prop where
  outside : ∀ place, roots.covers place = false → after.node? place = before.node? place
  links : ∀ place target, roots.covers place = true → after.node? place = some (.link target) →
    before.node? place = some (.link target) ∨ LeadsInside roots target

theorem Within.refl (roots : Roots) (tree : FileTree) : Within roots tree tree :=
  ⟨fun _ _ => rfl, fun _ _ _ hnode => .inl hnode⟩

theorem Within.trans {before between after : FileTree} (h : Within roots before between)
    (h' : Within roots between after) : Within roots before after where
  outside place hplace := (h'.outside place hplace).trans (h.outside place hplace)
  links place target hplace hnode := by
    rcases h'.links place target hplace hnode with hold | hinside
    · exact h.links place target hplace hold
    · exact .inr hinside

theorem Confined.within (h : Confined roots tree) {after : FileTree}
    (hwithin : Within roots tree after) : Confined roots after where
  above place hbegin hplace := (hwithin.outside place hplace).trans (h.above place hbegin hplace)
  links place target hplace hnode := by
    rcases hwithin.links place target hplace hnode with hold | hinside
    · exact h.links place target hplace hold
    · exact hinside

theorem Within.put {place : Place} {node : Node} (hcovers : roots.covers place = true)
    (hne : place ≠ []) (hnode : ∀ target, node = .link target → LeadsInside roots target) :
    Within roots tree (tree.put place node) where
  outside other hother := by
    rw [tree.node?_put hne, if_neg]
    rintro rfl
    rw [hcovers] at hother
    cases hother
  links other target hother hn := by
    rw [tree.node?_put hne] at hn
    split at hn
    · exact .inr (hnode target (Option.some.inj hn))
    · exact .inl hn

theorem Within.erase {place : Place} (hcovers : roots.covers place = true) (hne : place ≠ []) :
    Within roots tree (tree.erase place) where
  outside other hother := by
    rw [tree.node?_erase hne, if_neg]
    rintro rfl
    rw [hcovers] at hother
    cases hother
  links other target hother hn := by
    rw [tree.node?_erase hne] at hn
    split at hn
    · cases hn
    · exact .inl hn

theorem Within.eraseBelow {place : Place} (hcovers : roots.covers place = true) (hne : place ≠ []) :
    Within roots tree (tree.eraseBelow place) where
  outside other hother := by
    rw [tree.node?_eraseBelow hne, if_neg]
    intro hbelow
    rw [roots.covers_of_begin hcovers hbelow] at hother
    cases hother
  links other target hother hn := by
    rw [tree.node?_eraseBelow hne] at hn
    split at hn
    · cases hn
    · exact .inl hn

/-! ### Changes along admitted names -/

section Names

variable {names : List String} {after : FileTree}

theorem Confined.make (h : Confined roots tree) (hcovers : roots.covers names = true)
    (hnames : ∀ name ∈ names, Path.IsName name) {node : Node}
    (hnode : ∀ target, node = .link target → LeadsInside roots target)
    (hm : tree.make names node = .ok after) : Within roots tree after := by
  obtain ⟨place, hl, hput⟩ := exists_of_bind_eq_ok hm
  have hplace := h.covers_of_locate hcovers hnames hl
  split at hput
  · cases hput
  · rename_i hnone
    cases hput
    refine .put hplace ?_ hnode
    rintro rfl
    cases hnone

/-- A link to an admitted place leads inside. -/
theorem leadsInside_text (hcovers : roots.covers names = true)
    (hnames : ∀ name ∈ names, Path.IsName name) : LeadsInside roots (Path.text ⟨true, names⟩) where
  absolute := Path.isAbsoluteText_text names
  forward name hname := by
    by_cases hempty : name = ""
    · simp [hempty]
    · have hin : name ∈ names := by
        rw [← Path.filter_components_text hnames]
        exact List.mem_filter.mpr ⟨hname, by simpa using hempty⟩
      exact ⟨(hnames name hin).ne_here, (hnames name hin).ne_up⟩
  covers := by
    rw [Path.filter_components_text hnames]
    exact hcovers

theorem Confined.makeLink (h : Confined roots tree) {target : List String}
    (hcovers : roots.covers names = true) (hnames : ∀ name ∈ names, Path.IsName name)
    (htarget : roots.covers target = true) (htargetNames : ∀ name ∈ target, Path.IsName name)
    (hm : tree.makeLink (Path.text ⟨true, target⟩) names = .ok after) :
    Within roots tree after := by
  unfold FileTree.makeLink at hm
  split at hm
  · cases hm
  · split at hm
    · cases hm
    · split at hm
      · cases hm
      · refine h.make hcovers hnames (fun other hother => ?_) hm
        cases hother
        exact leadsInside_text htarget htargetNames

theorem Confined.removeDirectory (h : Confined roots tree) (hcovers : roots.covers names = true)
    (hnames : ∀ name ∈ names, Path.IsName name) (hr : tree.removeDirectory names = .ok after) :
    Within roots tree after := by
  obtain ⟨place, hl, herase⟩ := exists_of_bind_eq_ok hr
  have hplace := h.covers_of_locate hcovers hnames hl
  split at herase
  · cases herase
  · split at herase
    · cases herase
    · rename_i hne
      split at herase
      · cases herase
      · cases herase
        exact .erase hplace (by simpa using hne)
  · cases herase

theorem Confined.removeTree (h : Confined roots tree) (hcovers : roots.covers names = true)
    (hnames : ∀ name ∈ names, Path.IsName name) (hr : tree.removeTree names = .ok after) :
    Within roots tree after := by
  obtain ⟨place, hl, herase⟩ := exists_of_bind_eq_ok hr
  have hplace := h.covers_of_locate hcovers hnames hl
  split at herase
  · cases herase
  · split at herase
    · cases herase
    · rename_i hne
      cases herase
      exact .eraseBelow hplace (by simpa using hne)
  · rename_i target hlink
    cases herase
    refine .erase hplace ?_
    rintro rfl
    cases hlink
  · cases herase

/-! ### Directories and those that lead to them -/

/-- Along directories, the last name leads somewhere or to where nothing is yet. -/
theorem descend_ne_notFound {onLink : Place → List String → Except SystemError Place}
    {directory : Place} (hnames : ∀ name ∈ names, Path.IsName name)
    (hdirectories : ∀ before name after, names = before ++ name :: after → after ≠ [] →
      tree.node? (directory ++ before ++ [name]) = some .directory) :
    tree.descend false onLink directory names ≠ .error .notFound := by
  induction names generalizing directory with
  | nil => simp [FileTree.descend]
  | cons name names ih =>
    have hname := hnames name List.mem_cons_self
    rw [FileTree.descend, if_neg hname.ne_here, if_neg hname.ne_up]
    split
    · simp
    · by_cases hlast : names = []
      · rw [hlast]
        dsimp only
        split <;> simp [FileTree.descend]
      · have hnode : tree.node? (directory ++ [name]) = some .directory := by
          simpa using hdirectories [] name names rfl hlast
        simp only [hnode]
        refine ih (fun other hother => hnames other (List.mem_cons_of_mem _ hother)) ?_
        intro before other after hsplit hafter
        have hnext := hdirectories (name :: before) other after (by rw [hsplit]; rfl) hafter
        simpa using hnext

/-- What leads to a root is there, so a root can be made or is there already. -/
theorem Confined.make_ne_notFound (h : Confined roots tree) {before : List String} {name : String}
    {node : Node} (hnames : ∀ other ∈ before ++ [name], Path.IsName other)
    (hcovers : roots.covers (before ++ [name]) = true) (hnot : roots.covers before = false) :
    tree.make (before ++ [name]) node ≠ .error .notFound := by
  have hdirectories : ∀ outer inner after, before ++ [name] = outer ++ inner :: after →
      after ≠ [] → tree.node? ([] ++ outer ++ [inner]) = some .directory := by
    intro outer inner after hsplit hafter
    have hplace : outer ++ [inner] <+: before := by
      have hdrop := congrArg List.dropLast hsplit
      rw [List.dropLast_concat, List.dropLast_append_of_ne_nil (List.cons_ne_nil _ _),
        List.dropLast_cons_of_ne_nil hafter] at hdrop
      exact ⟨after.dropLast, by rw [hdrop, List.append_assoc]; rfl⟩
    have hwhole : roots.covers ((outer ++ [inner]) ++ after) = true := by
      rw [List.append_assoc]
      exact hsplit ▸ hcovers
    rcases h.covers_or_directory hwhole with hcovered | hdirectory
    · rw [roots.covers_of_begin hcovered hplace] at hnot
      cases hnot
    · exact hdirectory
  have hwalk : tree.walk false FileTree.linkLimit [] (before ++ [name]) ≠ .error .notFound :=
    descend_ne_notFound hnames hdirectories
  have hcheck : FileTree.checkNames (before ++ [name]) ≠ .error .notFound := by
    unfold FileTree.checkNames
    split
    · simp
    · split <;> simp
  refine bind_ne_error (bind_ne_error hcheck fun _ => hwalk) fun place => ?_
  split <;> simp

theorem settle_within (attempt : Except SystemError FileTree)
    (h : ∀ made, attempt = .ok made → Within roots tree made) :
    Within roots tree (FileTree.makeDirectoriesUpward.settle tree names attempt).2 := by
  cases attempt with
  | ok made => exact h made rfl
  | error error => exact .refl roots tree

theorem Confined.makeDirectoriesUpward (h : Confined roots tree) {inner : List String}
    (hcovers : roots.covers inner.reverse = true) (hnames : ∀ name ∈ inner, Path.IsName name) :
    Within roots tree (tree.makeDirectoriesUpward inner).2 := by
  induction inner with
  | nil => exact .refl roots tree
  | cons name outer ih =>
    have hall : ∀ other ∈ (name :: outer).reverse, Path.IsName other :=
      fun other hother => hnames other (List.mem_reverse.mp hother)
    have hmake {tree after : FileTree} (h : Confined roots tree)
        (hm : tree.make (name :: outer).reverse .directory = .ok after) :
        Within roots tree after := h.make hcovers hall (fun _ hlink => by cases hlink) hm
    rw [FileTree.makeDirectoriesUpward]
    split
    · rename_i made hm
      exact hmake h hm
    · rename_i hm
      -- Something that leads there is missing, so what leads there is covered as well.
      have houter : roots.covers outer.reverse = true := by
        cases hnot : roots.covers outer.reverse with
        | true => rfl
        | false =>
          rw [List.reverse_cons] at hm hall hcovers
          exact absurd hm (h.make_ne_notFound hall hcovers hnot)
      have hrest := ih houter fun other hother => hnames other (List.mem_cons_of_mem _ hother)
      split
      · rename_i error made hmade
        rw [hmade] at hrest
        exact hrest
      · rename_i made hmade
        rw [hmade] at hrest
        exact hrest.trans (settle_within _ fun after hm => hmake (h.within hrest) hm)
    · exact settle_within _ fun made hmade => by cases hmade

theorem Confined.makeDirectories (h : Confined roots tree) (hcovers : roots.covers names = true)
    (hnames : ∀ name ∈ names, Path.IsName name) :
    Within roots tree (tree.makeDirectories names).2 :=
  h.makeDirectoriesUpward (by rwa [List.reverse_reverse])
    fun name hname => hnames name (List.mem_reverse.mp hname)

end Names

end

/-! ## Requests -/

section Requests

variable {roots : Roots}

theorem of_admitted {path : String} {names : List String} (h : admitted roots path = .ok names) :
    roots.covers names = true ∧ ∀ name ∈ names, Path.IsName name := by
  unfold admitted at h
  split at h
  · cases h
  · exact roots.of_allow h

/-- From a machine whose files are confined, an action changes files within the roots only. -/
def Stays (roots : Roots) (before after : Machine) : Prop :=
  Confined roots before.files → Within roots before.files after.files

theorem Stays.refl (machine : Machine) : Stays roots machine machine :=
  fun _ => .refl roots machine.files

theorem look_ensures {α : Type} (names : List String)
    (question : FileTree → Except SystemError α) :
    (look names question).Ensures (Stays roots) := by
  intro machine
  have hsame : ((look names question).perform machine).2 = machine := by
    show (look names question machine).2 = machine
    unfold look
    split <;> rfl
  rw [hsame]
  exact .refl machine

theorem change_ensures (names : List String)
    (attempt : FileTree → Except SystemError FileTree)
    (h : ∀ tree after, Confined roots tree → attempt tree = .ok after → Within roots tree after) :
    (change names attempt).Ensures (Stays roots) := by
  intro machine hconfined
  show Within roots machine.files (change names attempt machine).2.files
  unfold change
  split
  · rename_i files hattempt
    exact h machine.files files hconfined hattempt
  · exact .refl roots machine.files

theorem pathExists_ensures (path : String) : (pathExists roots path).Ensures (Stays roots) :=
  .ofExcept_bind .refl fun names _ => look_ensures names _

theorem isLink_ensures (path : String) : (isLink roots path).Ensures (Stays roots) :=
  .ofExcept_bind .refl fun names _ => look_ensures names _

theorem makeDirectory_ensures (path : String) :
    (makeDirectory roots path).Ensures (Stays roots) := by
  refine .ofExcept_bind .refl fun names hadmitted => ?_
  obtain ⟨hcovers, hnames⟩ := of_admitted hadmitted
  intro machine hconfined
  exact hconfined.makeDirectories hcovers hnames

theorem removeDirectory_ensures (request : Removal) :
    (removeDirectory roots request).Ensures (Stays roots) := by
  refine .ofExcept_bind .refl fun names hadmitted => ?_
  obtain ⟨hcovers, hnames⟩ := of_admitted hadmitted
  refine change_ensures names _ fun tree after hconfined hremove => ?_
  split at hremove
  · exact hconfined.removeTree hcovers hnames hremove
  · exact hconfined.removeDirectory hcovers hnames hremove

theorem makeLink_ensures (request : Linking) :
    (makeLink roots request).Ensures (Stays roots) := by
  refine .ofExcept_bind .refl fun source hsource => ?_
  obtain ⟨hcovers, hnames⟩ := of_admitted hsource
  refine .ofExcept_bind .refl fun target htarget => ?_
  obtain ⟨hcovers', hnames'⟩ := of_admitted htarget
  exact change_ensures target _ fun tree after hconfined hmake =>
    hconfined.makeLink hcovers' hnames' hcovers hnames hmake

/-- At both versions, every call of the filesystem API changes files within the roots only. -/
theorem call_ensures {adapter : Adapter Machine} (hadapter : adapter ∈ adapters roots)
    (method : String) (params : Json) : (adapter.call method params).Ensures (Stays roots) := by
  refine adapter.call_ensures .refl (fun route hroute request version => ?_) method params
  have hcases : adapter = betaAdapter roots ∨ adapter = stableAdapter roots := by
    simpa [adapters] using hadapter
  -- The versions differ in names only: behind both are the same five operations.
  rcases hcases with rfl | rfl
  all_goals
    simp only [betaAdapter, stableAdapter, List.mem_cons, List.not_mem_nil, or_false] at hroute
    rcases hroute with rfl | rfl | rfl | rfl | rfl
    · exact pathExists_ensures request
    · exact makeDirectory_ensures request
    · exact removeDirectory_ensures request
    · exact makeLink_ensures request
    · exact isLink_ensures request

end Requests

/-! ## Any number of requests -/

/-- A request to the filesystem API: one of its versions, a method and parameters. -/
structure Asked (roots : Roots) where
  /-- The version, as the adapter that serves it. -/
  adapter : Adapter Machine
  /-- It is one of the filesystem API. -/
  served : adapter ∈ adapters roots
  /-- The method. -/
  method : String
  /-- The parameters. -/
  params : Json

/-- The machine after requests, one after the other. -/
def serve {roots : Roots} (machine : Machine) (requests : List (Asked roots)) : Machine :=
  requests.foldl (fun machine asked =>
    ((asked.adapter.call asked.method asked.params).perform machine).2) machine

theorem serve_within {roots : Roots} {machine : Machine} (h : Confined roots machine.files)
    (requests : List (Asked roots)) :
    Within roots machine.files (serve machine requests).files := by
  induction requests generalizing machine with
  | nil => exact .refl roots machine.files
  | cons asked requests ih =>
    have hfirst := call_ensures asked.served asked.method asked.params machine h
    exact hfirst.trans (ih (h.within hfirst))

/-- Whatever is asked of the filesystem API, at whichever of its versions, by whatever paths and how
often: when the files were `Confined` to the roots, `serve` leaves the links at places that
`Roots.covers` still leading to such places, and what is at no such place is as it was. -/
theorem requests_stay_within_roots {roots : Roots} {machine : Machine}
    (h : Confined roots machine.files) (requests : List (Asked roots)) :
    (∀ place target, roots.covers place = true →
      (serve machine requests).files.node? place = some (.link target) →
      LeadsInside roots target) ∧
    ∀ place, roots.covers place = false →
      (serve machine requests).files.node? place = machine.files.node? place := by
  have hwithin := serve_within h requests
  exact ⟨(h.within hwithin).links, hwithin.outside⟩

/-- Two roots next to each other. -/
def siblingRoots : Roots := ⟨["k"], ["p"]⟩

/-- A machine with a link from one of the roots into the other, and a file that is in neither. -/
def linkedMachine : Machine where
  files := ⟨[(["k"], .directory), (["p"], .directory), (["k", "l"], .link "/p/x"),
    (["etc"], .file)]⟩
  shell := .scripted []

/-- Requests that remove one of the roots, put a link in its place and make a directory there. -/
def replacingRequests : List (Asked siblingRoots) :=
  [⟨stableAdapter siblingRoots, by simp [adapters], "Rmdir",
      .object [("force", .bool true), ("path", .string "/k")]⟩,
    ⟨betaAdapter siblingRoots, by simp [adapters], "LinkPath",
      .object [("source_path", .string "/p"), ("target_path", .string "/k")]⟩,
    ⟨stableAdapter siblingRoots, by simp [adapters], "Mkdir",
      .object [("path", .string "/k/../k/x/y")]⟩]

theorem confined_linkedMachine : Confined siblingRoots linkedMachine.files where
  above place hbegin hplace := by
    have hnil : place = [] := by
      rcases place with - | ⟨name, names⟩
      · rfl
      · rcases hbegin with hbegin | hbegin
        · obtain ⟨rfl, hnames⟩ := List.cons_prefix_cons.mp hbegin
          rw [List.prefix_nil.mp hnames] at hplace
          exact absurd hplace (by decide)
        · obtain ⟨rfl, hnames⟩ := List.cons_prefix_cons.mp hbegin
          rw [List.prefix_nil.mp hnames] at hplace
          exact absurd hplace (by decide)
    rw [hnil]
    rfl
  links place target _ hnode := by
    have hne : place ≠ [] := by
      rintro rfl
      cases hnode
    have hin := FileTree.mem_entries_of_node? hne hnode
    simp only [linkedMachine, List.mem_cons, Prod.mk.injEq, reduceCtorEq, Node.link.injEq,
      and_false, false_or, List.not_mem_nil, or_false] at hin
    rw [hin.2]
    exact ⟨by decide, by decide, by decide⟩

theorem requests_leave_file_outside_roots : Confined siblingRoots linkedMachine.files ∧
    (serve linkedMachine replacingRequests).files.node? ["etc"] = some .file :=
  ⟨confined_linkedMachine,
    (requests_stay_within_roots confined_linkedMachine replacingRequests).2 ["etc"] (by decide)⟩

end StorageGateway.Files

import StorageGateway.Proofs.Files.Tree
import StorageGateway.Proofs.Path.Names

/-!
# Ways through a file tree

Names that lead to a place keep leading there as long as directories and links stay as they are,
whatever else is made. Where no link stands on the way, names lead to the place that they spell.
-/

namespace StorageGateway.FileTree

/-- A tree with the directories of another one, and with the same links. -/
structure Extends (after before : FileTree) : Prop where
  directories : ∀ place, before.node? place = some .directory → after.node? place = some .directory
  links : ∀ place target,
    after.node? place = some (.link target) ↔ before.node? place = some (.link target)

theorem Extends.refl (tree : FileTree) : tree.Extends tree :=
  ⟨fun _ hnode => hnode, fun _ _ => Iff.rfl⟩

theorem Extends.trans {before between after : FileTree} (h : between.Extends before)
    (h' : after.Extends between) : after.Extends before :=
  ⟨fun place hnode => h'.directories place (h.directories place hnode),
    fun place target => (h'.links place target).trans (h.links place target)⟩

/-- A tree extends what it was before something other than a link was put where nothing was. -/
theorem extends_put {tree : FileTree} {place : Place} {node : Node}
    (hnone : tree.node? place = none) (hnode : ∀ target, node ≠ .link target) :
    (tree.put place node).Extends tree := by
  have hne : place ≠ [] := by
    rintro rfl
    cases hnone
  constructor
  · intro other hother
    have hapart : other ≠ place := by
      rintro rfl
      cases hnone.symm.trans hother
    rw [node?_put tree hne, if_neg hapart]
    exact hother
  · intro other target
    rw [node?_put tree hne]
    split
    · rename_i hsame
      subst hsame
      constructor
      · intro hlink
        exact absurd (Option.some.inj hlink) (hnode target)
      · intro hlink
        cases hnone.symm.trans hlink
    · exact Iff.rfl

/-- What is left when a socket is taken away still has all directories and links. -/
theorem extends_erase {tree : FileTree} {place : Place} {number : Nat}
    (hsocket : tree.node? place = some (.socket number)) : (tree.erase place).Extends tree := by
  have hne : place ≠ [] := by
    rintro rfl
    cases hsocket
  constructor
  · intro other hother
    have hapart : other ≠ place := by
      rintro rfl
      cases hsocket.symm.trans hother
    rw [node?_erase tree hne, if_neg hapart]
    exact hother
  · intro other target
    rw [node?_erase tree hne]
    split
    · rename_i hsame
      subst hsame
      rw [hsocket]
      constructor <;> intro hlink <;> cases hlink
    · exact Iff.rfl

section

variable {before after : FileTree}

/-- A last name leads to the place that it spells, unless a link stands there. -/
theorem descend_last {tree : FileTree} {followLast : Bool}
    {onLink : Place → List String → Except SystemError Place} {directory : Place} {name : String}
    (hhere : name ≠ ".") (hup : name ≠ "..") (hlong : ¬ longestName < name.utf8ByteSize)
    (hplain : ∀ target, tree.node? (directory ++ [name]) ≠ some (.link target)) :
    tree.descend followLast onLink directory [name] = .ok (directory ++ [name]) := by
  rw [FileTree.descend, if_neg hhere, if_neg hup, if_neg hlong]
  dsimp only
  split
  · rw [FileTree.descend]
  · rename_i target hnode
    exact absurd hnode (hplain target)
  · rfl
  · rfl

theorem Extends.descend (h : after.Extends before) {followLast : Bool}
    {onLink onLink' : Place → List String → Except SystemError Place}
    (hlink : ∀ directory names place, onLink directory names = .ok place →
      onLink' directory names = .ok place)
    {directory : Place} {names : List String} {place : Place}
    (hd : before.descend followLast onLink directory names = .ok place) :
    after.descend followLast onLink' directory names = .ok place := by
  induction names generalizing directory with
  | nil =>
    rw [FileTree.descend] at hd ⊢
    exact hd
  | cons name names ih =>
    rw [FileTree.descend] at hd
    by_cases hhere : name = "."
    · rw [if_pos hhere] at hd
      rw [FileTree.descend, if_pos hhere]
      exact ih hd
    rw [if_neg hhere] at hd
    by_cases hup : name = ".."
    · rw [if_pos hup] at hd
      rw [FileTree.descend, if_neg hhere, if_pos hup]
      exact ih hd
    rw [if_neg hup] at hd
    by_cases hlong : longestName < name.utf8ByteSize
    · rw [if_pos hlong] at hd
      cases hd
    rw [if_neg hlong] at hd
    dsimp only at hd
    -- What is neither a directory nor a link only counts at the end, and there the place is known.
    have hlast (hplain : ∀ target, before.node? (directory ++ [name]) ≠ some (.link target)) :
        after.descend followLast onLink' directory [name] = .ok (directory ++ [name]) :=
      descend_last hhere hup hlong fun target hafter => hplain target ((h.links _ target).mp hafter)
    split at hd
    · rename_i hnode
      rw [FileTree.descend, if_neg hhere, if_neg hup, if_neg hlong]
      dsimp only
      rw [h.directories _ hnode]
      exact ih hd
    · rename_i target hnode
      rw [FileTree.descend, if_neg hhere, if_neg hup, if_neg hlong]
      dsimp only
      rw [(h.links _ target).mpr hnode]
      dsimp only
      split at hd
      · rename_i hend
        rw [if_pos hend]
        exact hd
      · rename_i hend
        rw [if_neg hend]
        exact hlink _ _ _ hd
    · rename_i node hdirectory hother hnode
      split at hd
      · rename_i hempty
        cases hd
        rw [List.isEmpty_iff.mp hempty]
        exact hlast fun target hn => hother target (Option.some.inj (hnode.symm.trans hn))
      · cases hd
    · rename_i hnode
      split at hd
      · rename_i hempty
        cases hd
        rw [List.isEmpty_iff.mp hempty]
        exact hlast fun target hn => by cases hnode.symm.trans hn
      · cases hd

/-- What is found stands where names lead. -/
theorem exists_of_find {tree : FileTree} {followLast : Bool} {names : List String} {node : Node}
    (h : tree.find followLast names = .ok node) :
    ∃ place, tree.locate followLast names = .ok place ∧ tree.node? place = some node := by
  obtain ⟨place, hl, hnode⟩ := exists_of_bind_eq_ok h
  split at hnode
  · rename_i found hfound
    cases hnode
    exact ⟨place, hl, hfound⟩
  · cases hnode

/-- What stands where names lead is found there. -/
theorem find_of_locate {tree : FileTree} {followLast : Bool} {names : List String} {place : Place}
    (hl : tree.locate followLast names = .ok place) {node : Node}
    (hnode : tree.node? place = some node) : tree.find followLast names = .ok node := by
  simp only [FileTree.find, hl, hnode, bind, Except.bind]

theorem removeFile_of_socket {tree : FileTree} {names : List String} {place : Place}
    (hl : tree.locate false names = .ok place) {number : Nat}
    (hnode : tree.node? place = some (.socket number)) :
    tree.removeFile names = .ok (tree.erase place) := by
  simp only [FileTree.removeFile, hl, hnode, bind, Except.bind]

theorem Extends.walk (h : after.Extends before) {followLast : Bool} (links : Nat)
    {directory : Place} {names : List String} {place : Place}
    (hw : before.walk followLast links directory names = .ok place) :
    after.walk followLast links directory names = .ok place := by
  induction links generalizing directory names place with
  | zero => exact h.descend (fun _ _ _ hlink => by cases hlink) hw
  | succ links ih => exact h.descend (fun _ _ _ hlink => ih hlink) hw

theorem Extends.locate (h : after.Extends before) {followLast : Bool} {names : List String}
    {place : Place} (hl : before.locate followLast names = .ok place) :
    after.locate followLast names = .ok place := by
  obtain ⟨⟨⟩, hcheck, hw⟩ := exists_of_bind_eq_ok hl
  unfold FileTree.locate
  rw [hcheck]
  exact h.walk _ hw

end

/-! ## One name after the other -/

/-- What one name does on the way from a directory, whatever names follow it: it leads to a
directory, to a link, to something that only counts at the end, or nowhere. -/
inductive Turn (tree : FileTree) (directory : Place) (name : String) : Prop
  | onward (next : Place) (below : Path.IsName name → next = directory ++ [name])
      (h : ∀ followLast onLink names, tree.descend followLast onLink directory (name :: names) =
        tree.descend followLast onLink next names)
  | link (target : String) (node : tree.node? (directory ++ [name]) = some (.link target))
      (h : ∀ followLast onLink names, tree.descend followLast onLink directory (name :: names) =
        if names.isEmpty && !followLast then .ok (directory ++ [name])
        else onLink (if Path.isAbsoluteText target then [] else directory)
          (targetNames target ++ names))
  | final (error : SystemError)
      (h : ∀ followLast onLink names, tree.descend followLast onLink directory (name :: names) =
        if names.isEmpty then .ok (directory ++ [name]) else .error error)
  | nowhere (error : SystemError)
      (h : ∀ followLast onLink names, tree.descend followLast onLink directory (name :: names) =
        .error error)

theorem turn (tree : FileTree) (directory : Place) (name : String) : tree.Turn directory name := by
  by_cases hhere : name = "."
  · exact .onward directory (fun hname => absurd hhere hname.ne_here)
      fun followLast onLink names => by
      rw [descend, if_pos hhere]
  by_cases hup : name = ".."
  · exact .onward directory.dropLast (fun hname => absurd hup hname.ne_up)
      fun followLast onLink names => by rw [descend, if_neg hhere, if_pos hup]
  by_cases hlong : longestName < name.utf8ByteSize
  · exact .nowhere .nameTooLong fun followLast onLink names => by
      rw [descend, if_neg hhere, if_neg hup, if_pos hlong]
  have hstep (followLast : Bool) (onLink : Place → List String → Except SystemError Place)
      (names : List String) := by
    have h := descend.eq_2 tree followLast onLink directory name names
    rw [if_neg hhere, if_neg hup, if_neg hlong] at h
    dsimp only at h
    exact h
  cases hnode : tree.node? (directory ++ [name]) with
  | none =>
    exact .final .notFound fun followLast onLink names => by rw [hstep, hnode]
  | some node =>
    cases node with
    | directory =>
      exact .onward (directory ++ [name]) (fun _ => rfl)
        fun followLast onLink names => by rw [hstep, hnode]
    | link target =>
      exact .link target hnode fun followLast onLink names => by rw [hstep, hnode]
    | file => exact .final .notDirectory fun followLast onLink names => by rw [hstep, hnode]
    | socket number =>
      exact .final .notDirectory fun followLast onLink names => by rw [hstep, hnode]

/-! ## Straight ways -/

section

variable {tree : FileTree}

theorem eq_of_descend {onLink : Place → List String → Except SystemError Place}
    {directory : Place} {names : List String} {goal : Place}
    (hnames : ∀ name ∈ names, Path.IsName name)
    (hstraight : ∀ begun name rest target, names = begun ++ name :: rest → rest ≠ [] →
      tree.node? (directory ++ begun ++ [name]) ≠ some (.link target))
    (hd : tree.descend false onLink directory names = .ok goal) : goal = directory ++ names := by
  induction names generalizing directory with
  | nil =>
    rw [descend] at hd
    cases hd
    simp
  | cons name names ih =>
    have hlast (hempty : names.isEmpty = true) :
        directory ++ [name] = directory ++ name :: names := by
      rw [List.isEmpty_iff.mp hempty]
    cases tree.turn directory name with
    | onward next hbelow h =>
      rw [h, hbelow (hnames name List.mem_cons_self)] at hd
      have hrest : goal = directory ++ [name] ++ names := ih
        (fun other hother => hnames other (List.mem_cons_of_mem _ hother))
        (fun begun other rest target hsplit hne => by
          have hlater := hstraight (name :: begun) other rest target (by rw [hsplit]; rfl) hne
          simpa using hlater) hd
      simpa using hrest
    | link target hnode h =>
      rw [h] at hd
      by_cases hempty : names.isEmpty = true
      · rw [hempty] at hd
        cases hd
        exact hlast hempty
      · have hne : names ≠ [] := fun hnil => hempty (by rw [hnil]; rfl)
        exact absurd hnode (by simpa using hstraight [] name names target rfl hne)
    | final error h =>
      rw [h] at hd
      by_cases hempty : names.isEmpty = true
      · rw [if_pos hempty] at hd
        cases hd
        exact hlast hempty
      · rw [if_neg hempty] at hd
        cases hd
    | nowhere error h =>
      rw [h] at hd
      cases hd

/-- Where no link stands before the last name, names lead to the place that they spell. -/
theorem eq_of_locate {names : List String} {goal : Place}
    (hnames : ∀ name ∈ names, Path.IsName name)
    (hstraight : ∀ place target, place <+: names → place ≠ names →
      tree.node? place ≠ some (.link target))
    (hl : tree.locate false names = .ok goal) : goal = names := by
  obtain ⟨-, -, hw⟩ := exists_of_bind_eq_ok hl
  refine eq_of_descend hnames (fun begun name rest target hsplit hne => ?_) hw
  refine hstraight _ target ⟨rest, by simp [hsplit]⟩ fun hwhole => hne ?_
  have hlength := congrArg List.length (hwhole.trans hsplit)
  simp only [List.nil_append, List.length_append, List.length_cons, List.length_nil] at hlength
  exact List.length_eq_zero_iff.mp (by omega)

end

/-! ## The last name -/

section

variable {tree : FileTree}

/-- Following what stands at the last name changes nothing when it is no link. -/
theorem descend_follow {onLink onLink' : Place → List String → Except SystemError Place}
    {place : Place} (hplain : ∀ target, tree.node? place ≠ some (.link target))
    (hlink : ∀ directory names, onLink directory names = .ok place →
      onLink' directory names = .ok place)
    {directory : Place} {names : List String}
    (hd : tree.descend false onLink directory names = .ok place) :
    tree.descend true onLink' directory names = .ok place := by
  induction names generalizing directory with
  | nil =>
    rw [descend] at hd ⊢
    exact hd
  | cons name names ih =>
    cases tree.turn directory name with
    | onward next _ h =>
      rw [h] at hd ⊢
      exact ih hd
    | link target hnode h =>
      rw [h] at hd ⊢
      by_cases hempty : names.isEmpty = true
      · rw [hempty] at hd
        cases hd
        exact absurd hnode (hplain target)
      · simp only [hempty, Bool.false_and, Bool.false_eq_true, if_false] at hd ⊢
        exact hlink _ _ hd
    | final error h =>
      rw [h] at hd ⊢
      exact hd
    | nowhere error h =>
      rw [h] at hd
      cases hd

theorem locate_follow {names : List String} {place : Place}
    (hplain : ∀ target, tree.node? place ≠ some (.link target))
    (hl : tree.locate false names = .ok place) : tree.locate true names = .ok place := by
  obtain ⟨⟨⟩, hcheck, hw⟩ := exists_of_bind_eq_ok hl
  have hwalk (links : Nat) : ∀ directory names, tree.walk false links directory names = .ok place →
      tree.walk true links directory names = .ok place := by
    induction links with
    | zero => exact fun _ _ hw => descend_follow hplain (fun _ _ hlink => by cases hlink) hw
    | succ links ih => exact fun _ _ hw => descend_follow hplain ih hw
  unfold locate
  rw [hcheck]
  exact hwalk _ _ _ hw

/-- Names that lead somewhere when all links are followed do so when the last one is not. -/
theorem exists_descend {onLink onLink' : Place → List String → Except SystemError Place}
    (hlink : ∀ directory names place, onLink directory names = .ok place →
      ∃ goal, onLink' directory names = .ok goal)
    {directory : Place} {names : List String} {place : Place}
    (hd : tree.descend true onLink directory names = .ok place) :
    ∃ goal, tree.descend false onLink' directory names = .ok goal := by
  induction names generalizing directory with
  | nil => exact ⟨directory, rfl⟩
  | cons name names ih =>
    cases tree.turn directory name with
    | onward next _ h =>
      rw [h] at hd ⊢
      exact ih hd
    | link target hnode h =>
      rw [h] at hd ⊢
      by_cases hempty : names.isEmpty = true
      · exact ⟨directory ++ [name], by rw [hempty]; rfl⟩
      · simp only [hempty, Bool.false_and, Bool.false_eq_true, if_false] at hd ⊢
        exact hlink _ _ _ hd
    | final error h =>
      rw [h] at hd ⊢
      exact ⟨place, hd⟩
    | nowhere error h =>
      rw [h] at hd
      cases hd

theorem exists_locate {names : List String} {place : Place}
    (hl : tree.locate true names = .ok place) : ∃ goal, tree.locate false names = .ok goal := by
  obtain ⟨⟨⟩, hcheck, hw⟩ := exists_of_bind_eq_ok hl
  have hwalk (links : Nat) : ∀ directory names place,
      tree.walk true links directory names = .ok place →
        ∃ goal, tree.walk false links directory names = .ok goal := by
    induction links with
    | zero => exact fun _ _ _ hw => exists_descend (fun _ _ _ hlink => by cases hlink) hw
    | succ links ih => exact fun _ _ _ hw => exists_descend ih hw
  unfold locate
  rw [hcheck]
  exact hwalk _ _ _ _ hw

/-- Two places are in one directory, under the given names. -/
def Siblings (name name' : String) (place place' : Place) : Prop :=
  ∃ parent : Place, place = parent ++ [name] ∧ place' = parent ++ [name']

theorem Siblings.ne {name name' : String} {place place' : Place}
    (h : Siblings name name' place place')
    (hne : name ≠ name') : place ≠ place' := by
  obtain ⟨parent, rfl, rfl⟩ := h
  intro heq
  exact hne (List.cons.inj (List.append_cancel_left heq)).1

section

variable {name name' : String} (hname : Path.IsName name) (hname' : Path.IsName name')
include hname hname'

theorem siblings_of_descend {onLink : Place → List String → Except SystemError Place}
    (hlink : ∀ directory names place place', onLink directory (names ++ [name]) = .ok place →
      onLink directory (names ++ [name']) = .ok place' → Siblings name name' place place')
    {directory : Place} {names : List String} {place place' : Place}
    (hd : tree.descend false onLink directory (names ++ [name]) = .ok place)
    (hd' : tree.descend false onLink directory (names ++ [name']) = .ok place') :
    Siblings name name' place place' := by
  induction names generalizing directory with
  | nil =>
    have hlast {last : String} {goal : Place} (hl : Path.IsName last)
        (hg : tree.descend false onLink directory [last] = .ok goal) :
        goal = directory ++ [last] := by
      refine eq_of_descend (by simpa using hl) (fun begun other rest target hsplit hne => ?_) hg
      have hlength := congrArg List.length hsplit
      simp only [List.length_cons, List.length_nil, List.length_append] at hlength
      exact absurd (List.length_eq_zero_iff.mp (by omega)) hne
    exact ⟨directory, hlast hname hd, hlast hname' hd'⟩
  | cons first names ih =>
    rw [List.cons_append] at hd hd'
    have hmore (last : String) : (names ++ [last]).isEmpty = false := by simp
    cases tree.turn directory first with
    | onward next _ h =>
      rw [h] at hd hd'
      exact ih hd hd'
    | link target hnode h =>
      simp only [h, hmore, Bool.false_and, Bool.false_eq_true, if_false, ← List.append_assoc]
        at hd hd'
      exact hlink _ _ _ _ hd hd'
    | final error h =>
      simp only [h, hmore, Bool.false_eq_true, if_false] at hd
      cases hd
    | nowhere error h =>
      rw [h] at hd
      cases hd

/-- Names that differ in the last one alone lead into one directory. -/
theorem siblings_of_locate {names : List String} {place place' : Place}
    (hl : tree.locate false (names ++ [name]) = .ok place)
    (hl' : tree.locate false (names ++ [name']) = .ok place') :
    Siblings name name' place place' := by
  obtain ⟨-, -, hw⟩ := exists_of_bind_eq_ok hl
  obtain ⟨-, -, hw'⟩ := exists_of_bind_eq_ok hl'
  have hwalk (links : Nat) : ∀ directory names place place',
      tree.walk false links directory (names ++ [name]) = .ok place →
        tree.walk false links directory (names ++ [name']) = .ok place' →
          Siblings name name' place place' := by
    induction links with
    | zero =>
      exact fun _ _ _ _ => siblings_of_descend hname hname' fun _ _ _ _ hlink => by cases hlink
    | succ links ih => exact fun _ _ _ _ => siblings_of_descend hname hname' ih
  exact hwalk _ _ _ _ _ hw hw'

end

end

/-! ## Directories and those that lead to them -/

/-- Directories are made where nothing was, each where the beginning of some names leads. Nothing
else is done. -/
structure Builds (names : List String) (before after : FileTree) : Prop where
  extended : after.Extends before
  made : ∀ place, after.node? place ≠ before.node? place →
    before.node? place = none ∧ after.node? place = some .directory ∧
      ∃ begun, begun <+: names ∧ after.locate false begun = .ok place

section

variable {names : List String} {before after tree : FileTree}

theorem Builds.refl (names : List String) (tree : FileTree) : Builds names tree tree :=
  ⟨.refl tree, fun _ hchanged => absurd rfl hchanged⟩

theorem Builds.trans {between : FileTree} (h : Builds names before between)
    (h' : Builds names between after) : Builds names before after := by
  refine ⟨h.extended.trans h'.extended, fun place hchanged => ?_⟩
  by_cases hlate : after.node? place = between.node? place
  · -- It was made first, and what leads there still does.
    rw [hlate] at hchanged
    obtain ⟨habsent, hpresent, begun, hbegins, hl⟩ := h.made place hchanged
    exact ⟨habsent, hlate.trans hpresent, begun, hbegins, h'.extended.locate hl⟩
  · obtain ⟨habsent, hpresent, hleads⟩ := h'.made place hlate
    by_cases hold : before.node? place = none
    · exact ⟨hold, hpresent, hleads⟩
    · have hearly : between.node? place ≠ before.node? place := by
        rw [habsent]
        exact Ne.symm hold
      exact absurd (h.made place hearly).1 hold

theorem Builds.of_begin {begun : List String} (h : Builds begun before after)
    (hbegins : begun <+: names) : Builds names before after := by
  refine ⟨h.extended, fun place hchanged => ?_⟩
  obtain ⟨habsent, hpresent, inner, hinner, hl⟩ := h.made place hchanged
  exact ⟨habsent, hpresent, inner, hinner.trans hbegins, hl⟩

theorem builds_make (hm : tree.make names .directory = .ok after) : Builds names tree after := by
  obtain ⟨goal, hl, hput⟩ := exists_of_bind_eq_ok hm
  split at hput
  · cases hput
  · rename_i hnone
    cases hput
    have hne : goal ≠ [] := by
      rintro rfl
      cases hnone
    have hextends : (tree.put goal .directory).Extends tree :=
      extends_put hnone fun _ => Node.noConfusion
    refine ⟨hextends, fun place hchanged => ?_⟩
    rw [tree.node?_put hne] at hchanged ⊢
    by_cases hplace : place = goal
    · subst hplace
      exact ⟨hnone, if_pos rfl, names, List.prefix_refl names, hextends.locate hl⟩
    · rw [if_neg hplace] at hchanged
      exact absurd rfl hchanged

theorem builds_settle (attempt : Except SystemError FileTree)
    (h : ∀ made, attempt = .ok made → Builds names tree made) :
    Builds names tree (makeDirectoriesUpward.settle tree names attempt).2 := by
  cases attempt with
  | ok made => exact h made rfl
  | error error => exact .refl names tree

theorem builds_makeDirectoriesUpward (inner : List String) :
    Builds inner.reverse tree (tree.makeDirectoriesUpward inner).2 := by
  induction inner with
  | nil => exact .refl _ tree
  | cons name outer ih =>
    rw [makeDirectoriesUpward]
    split
    · rename_i made hm
      exact builds_make hm
    · -- What leads there is made first, and then the last directory is tried once more.
      have hbegins : outer.reverse <+: (name :: outer).reverse := by
        rw [List.reverse_cons]
        exact List.prefix_append _ _
      have hrest := ih.of_begin hbegins
      split
      · rename_i error made hmade
        rw [hmade] at hrest
        exact hrest
      · rename_i made hmade
        rw [hmade] at hrest
        exact hrest.trans (builds_settle _ fun after hm => builds_make hm)
    · exact builds_settle _ fun made hmade => by cases hmade

/-- Making a directory and those that lead to it makes directories and nothing else. -/
theorem builds_makeDirectories (names : List String) :
    Builds names tree (tree.makeDirectories names).2 := by
  have hmade : Builds names.reverse.reverse tree (tree.makeDirectories names).2 :=
    builds_makeDirectoriesUpward names.reverse
  rw [List.reverse_reverse] at hmade
  exact hmade

end

end StorageGateway.FileTree

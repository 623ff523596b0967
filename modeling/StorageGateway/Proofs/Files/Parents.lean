import StorageGateway.Proofs.Files.Ways

/-!
# What leads to a place

Names lead to a place only when those before the last one lead to a directory, links followed; and
when they do, the names lead somewhere, if only to a place where nothing is yet. So directories that
lead to a place need not be made where names lead already, and once they have been made, nothing on
the way is missing.
-/

namespace StorageGateway.FileTree

variable {tree : FileTree} {names : List String} {last : String} {place directory : Place}

/-! ## One name on the way -/

/-- A directory is there, and so are those above it. -/
def Firm (tree : FileTree) (directory : Place) : Prop :=
  ∀ place, place <+: directory → tree.node? place = some .directory

theorem firm_root (tree : FileTree) : tree.Firm [] := by
  intro place hplace
  rw [List.prefix_nil.mp hplace]
  rfl

theorem Firm.dropLast (h : tree.Firm directory) : tree.Firm directory.dropLast :=
  fun place hplace => h place (hplace.trans (List.dropLast_prefix directory))

theorem Firm.concat (h : tree.Firm directory) {name : String}
    (hnode : tree.node? (directory ++ [name]) = some .directory) :
    tree.Firm (directory ++ [name]) := by
  intro place hplace
  rcases List.prefix_concat_iff.mp hplace with rfl | habove
  · exact hnode
  · exact h place habove

theorem Firm.base (h : tree.Firm directory) (target : String) :
    tree.Firm (if Path.isAbsoluteText target then [] else directory) := by
  split
  · exact firm_root tree
  · exact h

/-- What one name does on the way, and what is known of the directories there: a name leads from one
directory to another, to a link, to something that is no directory, or nowhere. -/
inductive Stride (tree : FileTree) (directory : Place) (name : String) : Prop
  | onward (next : Place) (firm : tree.Firm directory → tree.Firm next)
      (h : ∀ followLast onLink names, tree.descend followLast onLink directory (name :: names) =
        tree.descend followLast onLink next names)
  | link (target : String)
      (h : ∀ followLast onLink names, tree.descend followLast onLink directory (name :: names) =
        if names.isEmpty && !followLast then .ok (directory ++ [name])
        else onLink (if Path.isAbsoluteText target then [] else directory)
          (targetNames target ++ names))
  | final (error : SystemError) (other : tree.node? (directory ++ [name]) ≠ some .directory)
      (h : ∀ followLast onLink names, tree.descend followLast onLink directory (name :: names) =
        if names.isEmpty then .ok (directory ++ [name]) else .error error)
  | tooLong (h : ∀ followLast onLink names,
      tree.descend followLast onLink directory (name :: names) = .error .nameTooLong)

theorem stride (tree : FileTree) (directory : Place) (name : String) :
    tree.Stride directory name := by
  by_cases hhere : name = "."
  · exact .onward directory id fun followLast onLink names => by rw [descend, if_pos hhere]
  by_cases hup : name = ".."
  · exact .onward directory.dropLast Firm.dropLast fun followLast onLink names => by
      rw [descend, if_neg hhere, if_pos hup]
  by_cases hlong : longestName < name.utf8ByteSize
  · exact .tooLong fun followLast onLink names => by
      rw [descend, if_neg hhere, if_neg hup, if_pos hlong]
  have hstep (followLast : Bool) (onLink : Place → List String → Except SystemError Place)
      (names : List String) := by
    have h := descend.eq_2 tree followLast onLink directory name names
    rw [if_neg hhere, if_neg hup, if_neg hlong] at h
    dsimp only at h
    exact h
  cases hnode : tree.node? (directory ++ [name]) with
  | none =>
    exact .final .notFound (by rw [hnode]; exact fun h => by cases h)
      fun followLast onLink names => by rw [hstep, hnode]
  | some node =>
    cases node with
    | directory =>
      exact .onward (directory ++ [name]) (·.concat hnode)
        fun followLast onLink names => by rw [hstep, hnode]
    | link target => exact .link target fun followLast onLink names => by rw [hstep, hnode]
    | file =>
      exact .final .notDirectory (by rw [hnode]; exact fun h => by cases h)
        fun followLast onLink names => by rw [hstep, hnode]
    | socket number =>
      exact .final .notDirectory (by rw [hnode]; exact fun h => by cases h)
        fun followLast onLink names => by rw [hstep, hnode]

/-! ## All names but the last -/

section

variable {onLink onLink' : Place → List String → Except SystemError Place}

/-- Where names lead, those before the last one lead to a directory. -/
theorem exists_descend_front
    (hlink : ∀ directory names, tree.Firm directory →
      onLink directory (names ++ [last]) = .ok place →
        ∃ parent, onLink' directory names = .ok parent ∧ tree.node? parent = some .directory)
    (hfirm : tree.Firm directory)
    (hd : tree.descend false onLink directory (names ++ [last]) = .ok place) :
    ∃ parent, tree.descend true onLink' directory names = .ok parent ∧
      tree.node? parent = some .directory := by
  induction names generalizing directory with
  | nil => exact ⟨directory, rfl, hfirm directory (List.prefix_refl directory)⟩
  | cons name names ih =>
    have hmore : (names ++ [last]).isEmpty = false := by simp
    rw [List.cons_append] at hd
    cases tree.stride directory name with
    | onward next firm h =>
      rw [h] at hd ⊢
      exact ih (firm hfirm) hd
    | link target h =>
      rw [h, hmore, ← List.append_assoc] at hd
      rw [h, Bool.not_true, Bool.and_false]
      exact hlink _ _ (hfirm.base target) hd
    | final error other h =>
      rw [h, hmore] at hd
      cases hd
    | tooLong h =>
      rw [h] at hd
      cases hd

/-- One more name behind those that lead to a directory leads somewhere, or is too long. -/
theorem descend_concat_ne_notFound
    (hlink : ∀ directory names, onLink directory names = .ok place →
      onLink' directory (names ++ [last]) ≠ .error .notFound)
    (hnode : tree.node? place = some .directory)
    (hd : tree.descend true onLink directory names = .ok place) :
    tree.descend false onLink' directory (names ++ [last]) ≠ .error .notFound := by
  induction names generalizing directory with
  | nil =>
    rw [List.nil_append]
    cases tree.stride directory last with
    | onward next firm h =>
      rw [h, descend]
      exact fun h => by cases h
    | link target h =>
      rw [h]
      exact fun h => by cases h
    | final error other h =>
      rw [h]
      exact fun h => by cases h
    | tooLong h =>
      rw [h]
      exact fun h => by cases h
  | cons name names ih =>
    have hmore : (names ++ [last]).isEmpty = false := by simp
    rw [List.cons_append]
    cases tree.stride directory name with
    | onward next firm h =>
      rw [h] at hd ⊢
      exact ih hd
    | link target h =>
      rw [h, Bool.not_true, Bool.and_false] at hd
      rw [h, hmore, ← List.append_assoc]
      exact hlink _ _ hd
    | final error other h =>
      rw [h] at hd
      split at hd
      · cases hd
        exact absurd hnode other
      · cases hd
    | tooLong h =>
      rw [h] at hd
      cases hd

end

theorem le_spelledLength_append (front back : List String) :
    spelledLength front ≤ spelledLength (front ++ back) := by
  have hgrows (names : List String) (length : Nat) :
      length ≤ names.foldl (fun length name => length + name.utf8ByteSize + 1) length := by
    induction names generalizing length with
    | nil => exact Nat.le_refl length
    | cons name names ih => exact Nat.le_trans (by omega) (ih (length + name.utf8ByteSize + 1))
  rw [spelledLength, spelledLength, List.foldl_append]
  exact hgrows back _

/-- The system takes the beginning of what it takes. -/
theorem checkNames_of_append {front back : List String}
    (h : checkNames (front ++ back) = .ok ()) : checkNames front = .ok () := by
  rw [checkNames] at h ⊢
  split at h
  · cases h
  · rename_i hzero
    split at h
    · cases h
    · rename_i hlong
      have hlength := le_spelledLength_append front back
      rw [List.any_append, Bool.or_eq_true, not_or] at hzero
      rw [if_neg hzero.1, if_neg (by omega)]

theorem checkNames_ne_notFound (names : List String) : checkNames names ≠ .error .notFound := by
  rw [checkNames]
  split
  · exact fun h => by cases h
  · split <;> exact fun h => by cases h

theorem leadsToDirectory_iff : tree.leadsToDirectory names = true ↔
    ∃ parent, tree.locate true names = .ok parent ∧ tree.node? parent = some .directory := by
  constructor
  · intro h
    rw [leadsToDirectory] at h
    split at h
    · rename_i hfind
      exact exists_of_find hfind
    · cases h
  · rintro ⟨parent, hl, hnode⟩
    rw [leadsToDirectory, find_of_locate hl hnode]

/-- Where names lead, those before the last one lead to a directory. -/
theorem leadsToDirectory_of_locate (hl : tree.locate false names = .ok place) :
    tree.leadsToDirectory names.dropLast = true := by
  rcases List.eq_nil_or_concat names with rfl | ⟨front, last, rfl⟩
  · rfl
  obtain ⟨⟨⟩, hcheck, hw⟩ := exists_of_bind_eq_ok hl
  have hwalk (links : Nat) : ∀ directory names, tree.Firm directory →
      tree.walk false links directory (names ++ [last]) = .ok place →
        ∃ parent, tree.walk true links directory names = .ok parent ∧
          tree.node? parent = some .directory := by
    induction links with
    | zero => exact fun _ _ hfirm => exists_descend_front (fun _ _ _ hlink => by cases hlink) hfirm
    | succ links ih => exact fun _ _ hfirm => exists_descend_front ih hfirm
  rw [List.concat_eq_append] at hcheck hw
  obtain ⟨parent, hparent, hnode⟩ := hwalk _ _ _ (firm_root tree) hw
  rw [List.concat_eq_append, List.dropLast_concat]
  refine leadsToDirectory_iff.mpr ⟨parent, ?_, hnode⟩
  rw [locate, checkNames_of_append hcheck]
  exact hparent

/-- Behind names that lead to a directory, one more name is not missing anything on the way. -/
theorem locate_concat_ne_notFound (h : tree.leadsToDirectory names = true) (last : String) :
    tree.locate false (names ++ [last]) ≠ .error .notFound := by
  obtain ⟨parent, hl, hnode⟩ := leadsToDirectory_iff.mp h
  obtain ⟨⟨⟩, hcheck, hw⟩ := exists_of_bind_eq_ok hl
  have hwalk (links : Nat) : ∀ directory names, tree.walk true links directory names = .ok parent →
      tree.walk false links directory (names ++ [last]) ≠ .error .notFound := by
    induction links with
    | zero =>
      exact fun _ _ => descend_concat_ne_notFound (fun _ _ hlink => by cases hlink) hnode
    | succ links ih => exact fun _ _ => descend_concat_ne_notFound ih hnode
  exact bind_ne_error (checkNames_ne_notFound _) fun _ => hwalk _ _ _ hw

/-- What is missing behind directories that are there is missing at a place. -/
theorem exists_locate_of_missing (h : tree.leadsToDirectory names.dropLast = true)
    (hnone : tree.find false names = .error .notFound) :
    ∃ place, tree.locate false names = .ok place ∧ tree.node? place = none := by
  have hleads : tree.locate false names ≠ .error .notFound := by
    rcases List.eq_nil_or_concat names with rfl | ⟨front, last, rfl⟩
    · exact fun h => by cases h
    · rw [List.concat_eq_append, List.dropLast_concat] at h
      rw [List.concat_eq_append]
      exact locate_concat_ne_notFound h last
  cases hl : tree.locate false names with
  | error error =>
    rw [find, hl] at hnone
    rw [hl] at hleads
    cases hnone
    exact absurd rfl hleads
  | ok place =>
    refine ⟨place, rfl, ?_⟩
    cases hnode : tree.node? place with
    | none => rfl
    | some node => cases hnone.symm.trans (find_of_locate hl hnode)

/-! ## Making directories -/

theorem leadsToDirectory_settle {attempt : Except SystemError FileTree}
    (hattempt : ∀ made, attempt = .ok made → made.leadsToDirectory names = true)
    (h : (makeDirectoriesUpward.settle tree names attempt).1 = .ok ()) :
    (makeDirectoriesUpward.settle tree names attempt).2.leadsToDirectory names = true := by
  cases attempt with
  | ok made => exact hattempt made rfl
  | error error =>
    cases hthere : tree.leadsToDirectory names with
    | true => exact hthere
    | false =>
      rw [makeDirectoriesUpward.settle, hthere] at h
      cases h

/-- A directory that has been made is there. -/
theorem leadsToDirectory_of_make {after : FileTree} (hm : tree.make names .directory = .ok after) :
    after.leadsToDirectory names = true := by
  obtain ⟨goal, hl, hput⟩ := exists_of_bind_eq_ok hm
  split at hput
  · cases hput
  · rename_i hnone
    cases hput
    have hne : goal ≠ [] := by
      rintro rfl
      cases hnone
    have hthere : (tree.put goal .directory).node? goal = some .directory := by
      rw [tree.node?_put hne, if_pos rfl]
    have hextends : (tree.put goal .directory).Extends tree :=
      extends_put hnone fun _ => Node.noConfusion
    refine leadsToDirectory_iff.mpr ⟨goal, locate_follow (fun target hlink => ?_)
      (hextends.locate hl), hthere⟩
    rw [hthere] at hlink
    cases hlink

/-- Directories that can be made are there afterwards. -/
theorem leadsToDirectory_of_makeDirectories (h : (tree.makeDirectories names).1 = .ok ()) :
    (tree.makeDirectories names).2.leadsToDirectory names = true := by
  rw [makeDirectories] at h ⊢
  generalize hinner : names.reverse = inner at h ⊢
  obtain rfl : names = inner.reverse := by rw [← hinner, List.reverse_reverse]
  cases inner with
  | nil => rfl
  | cons name outer =>
    rw [makeDirectoriesUpward] at h ⊢
    split at h
    · rename_i made hm
      exact leadsToDirectory_of_make hm
    · split at h
      · cases h
      · exact leadsToDirectory_settle (fun _ hm => leadsToDirectory_of_make hm) h
    · exact leadsToDirectory_settle (fun _ hm => by cases hm) h

/-- Directories that are there need not be made. -/
theorem makeDirectories_of_leadsToDirectory (h : tree.leadsToDirectory names = true) :
    tree.makeDirectories names = (.ok (), tree) := by
  rw [makeDirectories]
  generalize hinner : names.reverse = inner
  obtain rfl : names = inner.reverse := by rw [← hinner, List.reverse_reverse]
  cases inner with
  | nil => rfl
  | cons name outer =>
    -- Something stands there already: the directory, or a link that leads to it.
    obtain ⟨parent, hl, hnode⟩ := leadsToDirectory_iff.mp h
    obtain ⟨goal, hgoal⟩ := exists_locate hl
    have hexists : tree.make (name :: outer).reverse .directory = .error .alreadyExists := by
      cases hthere : tree.node? goal with
      | some node => simp only [make, hgoal, hthere, bind, Except.bind]
      | none =>
        have hfollow := locate_follow (fun target hlink => by cases hthere.symm.trans hlink) hgoal
        obtain rfl : parent = goal := Except.ok.inj (hl.symm.trans hfollow)
        cases hthere.symm.trans hnode
    rw [makeDirectoriesUpward, hexists]
    show makeDirectoriesUpward.settle tree _ (.error .alreadyExists) = _
    rw [makeDirectoriesUpward.settle, h]
    rfl

end StorageGateway.FileTree

import StorageGateway.Proofs.Endpoint.Sockets
import StorageGateway.Proofs.Files.Parents

/-!
# What stands at an address

Whether an address can be opened depends on what stands there once the directories that lead there
have been made: it can be when nothing does, or a socket that nobody listens on. Otherwise nothing
is done. Where something stands already, no directories have to be made.
-/

namespace StorageGateway.Endpoint

open Host

/-- What stands at an address. -/
inductive Occupant where
  /-- Nothing. -/
  | absent
  /-- Something that is no socket. -/
  | foreign
  /-- A socket that nobody listens on. -/
  | stale
  /-- A socket that somebody listens on. -/
  | live
deriving DecidableEq, Repr

namespace Socket

variable {machine after : Machine} {address : String} {listener : Listener}

/-- What stands at an address, or why the system does not lead there. A link at the end is not
followed. -/
def occupant (machine : Machine) (address : String) : Except SystemError Occupant :=
  match machine.files.find false (addressNames address) with
  | .ok (.socket number) => .ok (if machine.listening.contains number then .live else .stale)
  | .ok _ => .ok .foreign
  | .error .notFound => .ok .absent
  | .error error => .error error

/-- The names of the directories that lead to an address. -/
def parents (address : String) : List String := (addressNames address).dropLast

/-- The machine with the directories that lead to an address, as far as they can be made. -/
def prepared (machine : Machine) (address : String) : Machine :=
  { machine with files := (machine.files.makeDirectories (parents address)).2 }

/-- The directories that lead to an address are there or can be made. -/
def Preparable (machine : Machine) (address : String) : Prop :=
  (machine.files.makeDirectories (parents address)).1 = .ok ()

/-- Nothing stands in the way of opening an address. -/
def Free (machine : Machine) (address : String) : Prop :=
  occupant machine address = .ok .absent ∨ occupant machine address = .ok .stale

/-! ## Whoever connects, and whoever binds -/

/-- Somebody answers at a socket exactly when somebody listens on it. -/
theorem connect_of_find (hshort : checkAddress address = .ok ()) {number : Nat}
    (hfind : machine.files.find false (addressNames address) = .ok (.socket number)) :
    connect machine address =
      if machine.listening.contains number then .ok number else .error .connectionRefused := by
  obtain ⟨place, hl, hnode⟩ := FileTree.exists_of_find hfind
  have hplain (target : String) : machine.files.node? place ≠ some (.link target) := by
    rw [hnode]
    exact fun hlink => by cases hlink
  have hfollow := FileTree.find_of_locate (FileTree.locate_follow hplain hl) hnode
  rw [connect, checkNames_of_locate hl, hshort]
  show (machine.files.find true (addressNames address) >>= _) = _
  rw [hfollow]
  rfl

/-- Where nothing stands, a socket can be made. -/
theorem exists_bind (hshort : checkAddress address = .ok ()) {place : Place}
    (hl : machine.files.locate false (addressNames address) = .ok place)
    (hnone : machine.files.node? place = none) :
    ∃ listener after, bind machine address = (.ok listener, after) := by
  have hmake : machine.files.make (addressNames address) (.socket machine.nextSocket) =
      .ok (machine.files.put place (.socket machine.nextSocket)) := by
    simp only [FileTree.make, hl, hnone, Bind.bind, Except.bind]
  rw [bind, hshort, hmake]
  exact ⟨_, _, rfl⟩

/-- A socket can be made in the place of another one. -/
theorem exists_replace (hshort : checkAddress address = .ok ()) {number : Nat}
    (hfind : machine.files.find false (addressNames address) = .ok (.socket number)) :
    ∃ listener after, replace machine address = (.ok listener, after) := by
  obtain ⟨place, hl, hnode⟩ := FileTree.exists_of_find hfind
  have hne : place ≠ [] := by
    rintro rfl
    cases hnode
  have hgone : (machine.files.erase place).node? place = none := by
    rw [FileTree.node?_erase _ hne, if_pos rfl]
  rw [replace, FileTree.removeFile_of_socket hl hnode]
  exact exists_bind hshort ((FileTree.extends_erase hnode).locate hl) hgone

/-! ## What comes of opening an address -/

theorem occupant_of_missing
    (hfind : machine.files.find false (addressNames address) = .error .notFound) :
    occupant machine address = .ok .absent := by
  rw [occupant, hfind]

theorem occupant_of_socket {number : Nat}
    (hfind : machine.files.find false (addressNames address) = .ok (.socket number)) :
    occupant machine address =
      .ok (if machine.listening.contains number then .live else .stale) := by
  rw [occupant, hfind]

theorem occupant_of_other {node : Node} (hother : ∀ number, node ≠ .socket number)
    (hfind : machine.files.find false (addressNames address) = .ok node) :
    occupant machine address = .ok .foreign := by
  rw [occupant, hfind]
  cases node with
  | socket number => exact absurd rfl (hother number)
  | directory | file | link => rfl

theorem occupant_of_error {error : SystemError} (hother : error ≠ .notFound)
    (hfind : machine.files.find false (addressNames address) = .error error) :
    occupant machine address = .error error := by
  rw [occupant, hfind]
  split <;> simp_all

theorem Free.cases (h : Free machine address) :
    machine.files.find false (addressNames address) = .error .notFound ∨
      ∃ number, machine.files.find false (addressNames address) = .ok (.socket number) ∧
        number ∉ machine.listening := by
  unfold Free occupant at h
  split at h
  · rename_i number hfind
    refine .inr ⟨number, hfind, fun hlistened => ?_⟩
    have hcontains : machine.listening.contains number = true := by simpa using hlistened
    rw [if_pos hcontains] at h
    rcases h with h | h <;> cases h
  · rcases h with h | h <;> cases h
  · rename_i hfind
    exact .inl hfind
  · rcases h with h | h <;> cases h

/-- Behind directories that are there, an address is opened where it is free, it is in use where
somebody listens, and it cannot be had otherwise. Unless it is opened, nothing is done. -/
theorem openInside_cases (hshort : checkAddress address = .ok ())
    (hready : machine.files.leadsToDirectory (parents address) = true) :
    (Free machine address ∧
      ∃ listener after, openInside machine address = (.ok listener, after)) ∨
    (occupant machine address = .ok .live ∧
      openInside machine address = (.error (.addressInUse address), machine)) ∨
    (¬ Free machine address ∧ occupant machine address ≠ .ok .live ∧
      ∃ message, openInside machine address = (.error (.bindFailed address message), machine)) := by
  cases hfind : machine.files.find false (addressNames address) with
  | ok node =>
    cases node with
    | socket number =>
      have hoccupant := occupant_of_socket hfind
      have hconnect := connect_of_find hshort hfind
      by_cases hlistened : machine.listening.contains number = true
      · rw [if_pos hlistened] at hoccupant hconnect
        refine .inr (.inl ⟨hoccupant, ?_⟩)
        simp only [openInside, hfind, hconnect]
      · rw [if_neg hlistened] at hoccupant hconnect
        have hopen : openInside machine address = replace machine address := by
          simp only [openInside, hfind, hconnect]
        exact .inl ⟨.inr hoccupant, hopen ▸ exists_replace hshort hfind⟩
    | directory | file | link =>
      have hoccupant := occupant_of_other (fun number h => by cases h) hfind
      have hopen : openInside machine address = (.error (.bindFailed address
          "address is occupied by a file that is not a socket"), machine) := by
        rw [openInside, hfind]
      refine .inr (.inr ⟨?_, ?_, _, hopen⟩)
      · rintro (h | h) <;> cases hoccupant.symm.trans h
      · exact fun h => by cases hoccupant.symm.trans h
  | error error =>
    by_cases hmissing : error = .notFound
    · subst hmissing
      obtain ⟨place, hl, hnone⟩ := FileTree.exists_locate_of_missing hready hfind
      have hopen : openInside machine address = bind machine address := by
        rw [openInside, hfind]
      exact .inl ⟨.inl (occupant_of_missing hfind), hopen ▸ exists_bind hshort hl hnone⟩
    · have hoccupant := occupant_of_error hmissing hfind
      have hopen : openInside machine address = (.error (bindFault address error), machine) := by
        rw [openInside, hfind]
        split <;> simp_all
      refine .inr (.inr ⟨?_, ?_, error.message, hopen⟩)
      · rintro (h | h) <;> cases hoccupant.symm.trans h
      · exact fun h => by cases hoccupant.symm.trans h

/-- Directories that are there need not be made. -/
theorem prepared_of_ready (hready : machine.files.leadsToDirectory (parents address) = true) :
    prepared machine address = machine := by
  rw [prepared, FileTree.makeDirectories_of_leadsToDirectory hready]

/-- Names that lead somewhere need no directories to be made. -/
theorem prepared_of_occupied {found : Occupant} (h : occupant machine address = .ok found)
    (hfound : found ≠ .absent) : prepared machine address = machine := by
  refine prepared_of_ready ?_
  cases hfind : machine.files.find false (addressNames address) with
  | ok node =>
    obtain ⟨place, hl, -⟩ := FileTree.exists_of_find hfind
    exact FileTree.leadsToDirectory_of_locate hl
  | error error =>
    by_cases hmissing : error = .notFound
    · subst hmissing
      exact absurd (Except.ok.inj (h.symm.trans (occupant_of_missing hfind))) hfound
    · cases h.symm.trans (occupant_of_error hmissing hfind)

theorem perform_openAt (hmade : Preparable machine address) :
    (openAt address).perform machine = openInside (prepared machine address) address := by
  change openAt address machine = _
  unfold Preparable at hmade
  unfold openAt prepared
  rw [parents] at *
  rcases hdirectories : machine.files.makeDirectories (addressNames address).dropLast with
    ⟨answer, files⟩
  rw [hdirectories] at hmade
  obtain rfl : answer = .ok () := hmade
  rfl

/-- Where the directories that lead to an address cannot be made, it cannot be had. -/
theorem perform_openAt_of_not (hmade : ¬ Preparable machine address) :
    ∃ fault, (openAt address).perform machine = (.error fault, prepared machine address) := by
  change ∃ fault, openAt address machine = _
  unfold Preparable at hmade
  unfold openAt prepared
  rw [parents] at *
  rcases hdirectories : machine.files.makeDirectories (addressNames address).dropLast with
    ⟨answer, files⟩
  rw [hdirectories] at hmade
  cases answer with
  | ok done => exact absurd rfl hmade
  | error error => exact ⟨bindFault address error, rfl⟩

/-- Making the directories that lead to an address makes directories and nothing else. -/
theorem builds_prepared (machine : Machine) (address : String) :
    FileTree.Builds (parents address) machine.files (prepared machine address).files :=
  FileTree.builds_makeDirectories (parents address)

/-- What is there stays as it is when the directories that lead to an address are made. -/
theorem node?_prepared {standing : Place} {node : Node} (address : String)
    (hnode : machine.files.node? standing = some node) :
    (prepared machine address).files.node? standing = some node := by
  by_contra hchanged
  rw [← hnode] at hchanged
  cases hnode.symm.trans ((builds_prepared machine address).made standing hchanged).1

/-- Nothing is at a place, or a socket that nobody listens on. -/
def Vacant (machine : Machine) (place : Place) : Prop :=
  machine.files.node? place = none ∨
    ∃ number, machine.files.node? place = some (.socket number) ∧ number ∉ machine.listening

/-- A new socket is put where nothing stood, or in the place of a socket that nobody listened on. -/
theorem vacant_of_openAt (hshort : checkAddress address = .ok ())
    (h : (openAt address).perform machine = (.ok listener, after)) :
    listener.address = address ∧ ∃ place, Opened machine listener after place ∧
      Vacant machine place := by
  obtain ⟨haddress, place, hopened⟩ := opened_of_openAt h
  refine ⟨haddress, place, hopened, ?_⟩
  have hmade : Preparable machine address := by
    by_contra hnot
    obtain ⟨fault, hfails⟩ := perform_openAt_of_not hnot
    cases hfails.symm.trans h
  have hready : (prepared machine address).files.leadsToDirectory (parents address) = true :=
    FileTree.leadsToDirectory_of_makeDirectories hmade
  rw [perform_openAt hmade] at h
  have hfree : Free (prepared machine address) address := by
    rcases openInside_cases hshort hready with
      ⟨hfree, -⟩ | ⟨-, hopen⟩ | ⟨-, -, message, hopen⟩
    · exact hfree
    · cases hopen.symm.trans h
    · cases hopen.symm.trans h
  obtain ⟨-, place', hinside⟩ := opened_of_openInside h
  -- The names led to that place before, so what stood there is known.
  have hplace {found : Place}
      (hl : (prepared machine address).files.locate false (addressNames address) = .ok found) :
      place = found := by
    have hnow := hinside.extended.locate hl
    rw [← haddress] at hnow
    exact Except.ok.inj (hopened.stands.leads.symm.trans hnow)
  by_cases hsame : (prepared machine address).files.node? place = machine.files.node? place
  · rcases hfree.cases with hmissing | ⟨number, hfind, hnobody⟩
    · obtain ⟨found, hl, hnone⟩ := FileTree.exists_locate_of_missing hready hmissing
      obtain rfl := hplace hl
      exact .inl (hsame.symm.trans hnone)
    · obtain ⟨found, hl, hnode⟩ := FileTree.exists_of_find hfind
      obtain rfl := hplace hl
      exact .inr ⟨number, hsame.symm.trans hnode, hnobody⟩
  · exact .inl ((builds_prepared machine address).made place hsame).1

/-- What comes of opening an address, by what stands there once the directories that lead there have
been made: it is opened exactly where it is free, it is in use exactly where somebody listens, and
where anything but a socket stands it cannot be had. When it is opened, a new socket stands where
nothing was in its way. Otherwise nothing but the directories is made, which leaves what is there;
and nothing at all where they are there already, or where something stands at the address. -/
structure OpensWhereFree (machine : Machine) (address : String) : Prop where
  opens_iff : (∃ listener after, (openAt address).perform machine = (.ok listener, after)) ↔
    Free (prepared machine address) address
  opened : ∀ listener after, (openAt address).perform machine = (.ok listener, after) →
    listener.address = address ∧ ∃ place, Opened machine listener after place ∧ Vacant machine place
  inUse_iff : ((openAt address).perform machine).1 = .error (.addressInUse address) ↔
    occupant (prepared machine address) address = .ok .live
  foreign : occupant (prepared machine address) address = .ok .foreign →
    ∃ message, ((openAt address).perform machine).1 = .error (.bindFailed address message)
  failed : ∀ fault after, (openAt address).perform machine = (.error fault, after) →
    after = prepared machine address
  untouched : ∀ place node, machine.files.node? place = some node →
    (prepared machine address).files.node? place = some node
  ready : machine.files.leadsToDirectory (parents address) = true →
    prepared machine address = machine
  occupied : ∀ found, occupant machine address = .ok found → found ≠ .absent →
    prepared machine address = machine

theorem opensWhereFree (hshort : checkAddress address = .ok ())
    (hmade : Preparable machine address) : OpensWhereFree machine address := by
  have hready : (prepared machine address).files.leadsToDirectory (parents address) = true :=
    FileTree.leadsToDirectory_of_makeDirectories hmade
  have hperform := perform_openAt hmade
  have hoccupied : ∀ found, occupant machine address = .ok found → found ≠ .absent →
      prepared machine address = machine := fun _ => prepared_of_occupied
  have hopened : ∀ listener after, (openAt address).perform machine = (.ok listener, after) →
      listener.address = address ∧
        ∃ place, Opened machine listener after place ∧ Vacant machine place :=
    fun _ _ => vacant_of_openAt hshort
  have huntouched : ∀ place node, machine.files.node? place = some node →
      (prepared machine address).files.node? place = some node := fun _ _ => node?_prepared address
  rcases openInside_cases hshort hready with
    ⟨hfree, listener, after, hopen⟩ | ⟨hlive, hopen⟩ | ⟨hnot, hlive, message, hopen⟩
  all_goals rw [hopen] at hperform
  · have hfound (found : Occupant) (habsent : found ≠ .absent) (hstale : found ≠ .stale) :
        occupant (prepared machine address) address ≠ .ok found := by
      intro h
      rcases hfree with hfree | hfree <;> cases hfree.symm.trans h
      · exact habsent rfl
      · exact hstale rfl
    refine ⟨iff_of_true ⟨listener, after, hperform⟩ hfree, hopened, iff_of_false ?_ ?_,
      fun h => ?_, fun fault after h => ?_, huntouched, prepared_of_ready, hoccupied⟩
    · rw [hperform]
      exact fun h => by cases h
    · exact hfound .live (by decide) (by decide)
    · exact absurd h (hfound .foreign (by decide) (by decide))
    · cases hperform.symm.trans h
  · refine ⟨iff_of_false ?_ ?_, hopened, iff_of_true ?_ hlive, fun h => ?_,
      fun fault after h => ?_, huntouched, prepared_of_ready, hoccupied⟩
    · rintro ⟨listener, after, h⟩
      cases hperform.symm.trans h
    · rintro (h | h) <;> cases hlive.symm.trans h
    · rw [hperform]
    · cases hlive.symm.trans h
    · cases hperform.symm.trans h
      rfl
  · refine ⟨iff_of_false ?_ hnot, hopened, iff_of_false ?_ hlive, fun _ => ⟨message, ?_⟩,
      fun fault after h => ?_, huntouched, prepared_of_ready, hoccupied⟩
    · rintro ⟨listener, after, h⟩
      cases hperform.symm.trans h
    · rw [hperform]
      exact fun h => by cases h
    · rw [hperform]
    · cases hperform.symm.trans h
      rfl

/-- An address that cannot be opened is left alone: at most directories that lead there are made. -/
theorem eq_prepared_of_error (hshort : checkAddress address = .ok ()) {fault : Fault}
    (h : (openAt address).perform machine = (.error fault, after)) :
    after = prepared machine address := by
  by_cases hmade : Preparable machine address
  · exact (opensWhereFree hshort hmade).failed fault after h
  · obtain ⟨other, hfails⟩ := perform_openAt_of_not hmade
    cases hfails.symm.trans h
    rfl

end Socket

end StorageGateway.Endpoint

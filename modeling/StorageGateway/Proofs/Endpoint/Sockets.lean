import StorageGateway.Proofs.Endpoint.Addresses
import StorageGateway.Proofs.Files.Ways

/-!
# Sockets that stand

Opening an address puts a socket of its own at one place, makes the directories that lead there, and
leaves everything else as it is. So an address leads to the socket that was opened on it, and goes
on doing so while others are opened beside it.
-/

namespace StorageGateway.Endpoint

open Host
open Socket (addressNames checkAddress connect)

/-- A listener that can be reached: its address leads to its socket, on which somebody listens. -/
structure Stands (machine : Machine) (listener : Listener) (place : Place) : Prop where
  short : checkAddress listener.address = .ok ()
  listened : listener.socket ∈ machine.listening
  leads : machine.files.locate false (addressNames listener.address) = .ok place
  socket : machine.files.node? place = some (.socket listener.socket)

/-- What comes of opening an address: a new socket is at the place where the address leads, and
nothing else is done but that directories are made. -/
structure Opened (before : Machine) (listener : Listener) (after : Machine) (place : Place) :
    Prop where
  socket_eq : listener.socket = before.nextSocket
  next_eq : after.nextSocket = before.nextSocket + 1
  listening_eq : after.listening = before.nextSocket :: before.listening
  extended : after.files.Extends before.files
  stands : Stands after listener place
  elsewhere : ∀ other, other ≠ place → after.files.node? other ≠ before.files.node? other →
    before.files.node? other = none ∧ after.files.node? other = some .directory

namespace Socket

variable {machine after : Machine} {address : String} {listener : Listener}

theorem checkNames_of_locate {tree : FileTree} {followLast : Bool} {names : List String}
    {place : Place} (hl : tree.locate followLast names = .ok place) :
    FileTree.checkNames names = .ok () := by
  obtain ⟨⟨⟩, hcheck, -⟩ := exists_of_bind_eq_ok hl
  exact hcheck

theorem connect_of_stands {place : Place} (h : Stands machine listener place) :
    connect machine listener.address = .ok listener.socket := by
  have hplain (target : String) : machine.files.node? place ≠ some (.link target) := by
    rw [h.socket]
    exact fun hlink => by cases hlink
  have hfind := FileTree.find_of_locate (FileTree.locate_follow hplain h.leads) h.socket
  have hlistened : machine.listening.contains listener.socket = true := by simpa using h.listened
  rw [connect, checkNames_of_locate h.leads, h.short]
  show (machine.files.find true (addressNames listener.address) >>= _) = _
  rw [hfind]
  exact if_pos hlistened

theorem exists_of_connect {number : Nat} (h : connect machine address = .ok number) :
    ∃ place, machine.files.locate true (addressNames address) = .ok place ∧
      machine.files.node? place = some (.socket number) ∧ number ∈ machine.listening := by
  obtain ⟨-, -, h⟩ := exists_of_bind_eq_ok h
  obtain ⟨-, -, h⟩ := exists_of_bind_eq_ok h
  obtain ⟨node, hfind, h⟩ := exists_of_bind_eq_ok h
  obtain ⟨place, hl, hnode⟩ := FileTree.exists_of_find hfind
  split at h
  · rename_i other
    split at h
    · rename_i hlistened
      cases h
      exact ⟨place, hl, hnode, by simpa using hlistened⟩
    · cases h
  · cases h

theorem opened_of_bind (h : bind machine address = (.ok listener, after)) :
    listener.address = address ∧ ∃ place, Opened machine listener after place := by
  unfold bind at h
  dsimp only at h
  split at h
  · cases h
  · rename_i files hattempt
    cases h
    obtain ⟨⟨⟩, hshort, hmake⟩ := exists_of_bind_eq_ok hattempt
    obtain ⟨place, hl, hput⟩ := exists_of_bind_eq_ok hmake
    split at hput
    · cases hput
    · rename_i hnone
      cases hput
      have hne : place ≠ [] := by
        rintro rfl
        cases hnone
      have hextends :
          (machine.files.put place (.socket machine.nextSocket)).Extends machine.files :=
        FileTree.extends_put hnone fun _ hlink => by cases hlink
      refine ⟨rfl, place, rfl, rfl, rfl, hextends, ?_, ?_⟩
      · refine ⟨hshort, List.mem_cons_self, hextends.locate hl, ?_⟩
        rw [FileTree.node?_put _ hne, if_pos rfl]
      · intro other hother hchanged
        rw [FileTree.node?_put _ hne, if_neg hother] at hchanged
        exact absurd rfl hchanged

theorem opened_of_replace {number : Nat}
    (hsocket : machine.files.find false (addressNames address) = .ok (.socket number))
    (h : replace machine address = (.ok listener, after)) :
    listener.address = address ∧ ∃ place, Opened machine listener after place := by
  unfold replace at h
  split at h
  · cases h
  · rename_i files hremove
    obtain ⟨place, hl, hold⟩ := FileTree.exists_of_find hsocket
    have herase : files = machine.files.erase place := by
      rw [FileTree.removeFile_of_socket hl hold] at hremove
      exact (Except.ok.inj hremove).symm
    subst herase
    obtain ⟨haddress, place', hopened⟩ := opened_of_bind h
    have hextends := FileTree.extends_erase hold
    -- The new socket takes the place of the old one.
    have hplace : place = place' := by
      have hnow := (hextends.trans hopened.extended).locate hl
      rw [← haddress, hopened.stands.leads] at hnow
      exact (Except.ok.inj hnow).symm
    subst hplace
    have hne : place ≠ [] := by
      rintro rfl
      cases hold
    refine ⟨haddress, place, hopened.socket_eq, hopened.next_eq, hopened.listening_eq,
      hextends.trans hopened.extended, hopened.stands, ?_⟩
    intro other hother hchanged
    have hsame : (machine.files.erase place).node? other = machine.files.node? other := by
      rw [FileTree.node?_erase _ hne, if_neg hother]
    rw [← hsame] at hchanged ⊢
    exact hopened.elsewhere other hother hchanged

theorem opened_of_openInside (h : openInside machine address = (.ok listener, after)) :
    listener.address = address ∧ ∃ place, Opened machine listener after place := by
  unfold openInside at h
  split at h
  · rename_i number hsocket
    split at h
    · cases h
    · exact opened_of_replace hsocket h
  · cases h
  · exact opened_of_bind h
  · cases h

/-- Opening an address makes the directories that lead there, and puts a new socket at the place
where the address leads. -/
theorem opened_of_openAt (h : (openAt address).perform machine = (.ok listener, after)) :
    listener.address = address ∧ ∃ place, Opened machine listener after place := by
  change openAt address machine = (.ok listener, after) at h
  unfold openAt at h
  have hbuilds : FileTree.Builds (addressNames address).dropLast machine.files _ :=
    FileTree.builds_makeDirectories (addressNames address).dropLast
  split at h
  · cases h
  · rename_i files hmade
    rw [hmade] at hbuilds
    obtain ⟨haddress, place, hopened⟩ := opened_of_openInside h
    refine ⟨haddress, place, hopened.socket_eq, hopened.next_eq, hopened.listening_eq,
      hbuilds.extended.trans hopened.extended, hopened.stands, ?_⟩
    intro other hother hchanged
    by_cases hmade : files.node? other = machine.files.node? other
    · rw [← hmade] at hchanged ⊢
      exact hopened.elsewhere other hother hchanged
    · obtain ⟨hnone, hdirectory, -⟩ := hbuilds.made other hmade
      exact ⟨hnone, hopened.extended.directories other hdirectory⟩

end Socket

end StorageGateway.Endpoint

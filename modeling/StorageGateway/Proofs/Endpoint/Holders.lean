import Mathlib.Data.List.Nodup
import StorageGateway.Proofs.Endpoint.Occupants

/-!
# Holders of sockets

A process opens addresses and releases the listeners it has opened, in any order and as often as it
likes. Every socket gets a number of its own, so a listener stands at its place until it is released
for the first time, and is nowhere afterwards. What it removes then is its own socket, whatever else
has been opened; and nothing else goes away but sockets that nobody listens on.
-/

namespace StorageGateway.Endpoint

open Host
open Socket (addressNames checkAddress OpensWhereFree Preparable Vacant node?_prepared prepared)

/-- A process that holds sockets: the machine it works on, and the listeners it has opened, in the
order in which it did. -/
structure Holder where
  machine : Machine
  listeners : List Listener := []

/-- What a holder does. -/
inductive Use where
  /-- Opens an address. -/
  | openAt (address : String)
  /-- Closes the listener that was opened as the given one. What is closed is dropped as well. -/
  | close (index : Nat)
  /-- Drops the listener that was opened as the given one. -/
  | drop (index : Nat)
deriving DecidableEq, Repr

namespace Holder

/-- Releases a listener. -/
def release (holder : Holder) (listener : Listener) : Holder :=
  { holder with machine := (Socket.close listener holder.machine).2 }

/-- Does one thing. -/
def step (holder : Holder) : Use → Holder
  | .openAt address =>
    match (Socket.openAt address).perform holder.machine with
    | (.ok listener, machine) => ⟨machine, holder.listeners ++ [listener]⟩
    | (.error _, machine) => { holder with machine }
  | .close index =>
    match holder.listeners[index]? with
    | some listener => (holder.release listener).release listener
    | none => holder
  | .drop index =>
    match holder.listeners[index]? with
    | some listener => holder.release listener
    | none => holder

/-- Does one thing after the other. -/
def run (holder : Holder) (uses : List Use) : Holder := uses.foldl step holder

/-- All addresses that are opened are short enough for sockets. -/
def Short (uses : List Use) : Prop :=
  ∀ address, .openAt address ∈ uses → checkAddress address = .ok ()

/-- A socket is one of those that the holder has opened. -/
def Owns (holder : Holder) (number : Nat) : Prop :=
  ∃ listener ∈ holder.listeners, listener.socket = number

/-- What a holder has to leave alone: everything but its own sockets and those that nobody listens
on. -/
def Spares (holder : Holder) (node : Node) : Prop :=
  ∀ number, node = .socket number → number ∈ holder.machine.listening ∧ ¬ holder.Owns number

end Holder

/-! ## Machines with and without a listener -/

/-- A new socket has a number that no other one has. -/
structure Numbered (machine : Machine) : Prop where
  sockets : ∀ place number, machine.files.node? place = some (.socket number) →
    number < machine.nextSocket
  listening : ∀ number ∈ machine.listening, number < machine.nextSocket

/-- The machine without a listener that stands at a place. -/
def without (machine : Machine) (listener : Listener) (place : Place) : Machine :=
  { machine with
    files := machine.files.erase place
    listening := machine.listening.erase listener.socket }

section

variable {machine before after : Machine} {listener other : Listener} {place standing : Place}
  {node : Node}

/-- A listener that stands at a place is removed from there. -/
theorem close_of_stands (h : Stands machine listener place) :
    Socket.close listener machine = (.ok (), without machine listener place) := by
  have hlistened : machine.listening.contains listener.socket = true := by simpa using h.listened
  rw [Socket.close, if_pos hlistened]
  dsimp only
  rw [FileTree.removeFile_of_socket h.leads h.socket]
  rfl

/-- A listener that has been released is left alone. -/
theorem close_of_not_listening (h : listener.socket ∉ machine.listening) :
    Socket.close listener machine = (.ok (), machine) := by
  have hreleased : ¬ machine.listening.contains listener.socket = true := by simpa using h
  rw [Socket.close, if_neg hreleased]

theorem node?_without (h : Stands machine listener place) (standing : Place) :
    (without machine listener place).files.node? standing =
      if standing = place then none else machine.files.node? standing := by
  refine FileTree.node?_erase _ ?_ standing
  rintro rfl
  cases h.socket

/-- Where one listener is removed, another one goes on standing. -/
theorem Stands.without (h : Stands machine other standing) (hgone : Stands machine listener place)
    (hne : other.socket ≠ listener.socket) :
    Stands (without machine listener place) other standing := by
  have hapart : standing ≠ place := by
    rintro rfl
    exact hne (Node.socket.inj (Option.some.inj (h.socket.symm.trans hgone.socket)))
  refine ⟨h.short, (List.mem_erase_of_ne hne).mpr h.listened,
    (FileTree.extends_erase hgone.socket).locate h.leads, ?_⟩
  rw [node?_without hgone, if_neg hapart, h.socket]

theorem Numbered.without (h : Numbered machine) (hgone : Stands machine listener place) :
    Numbered (without machine listener place) := by
  refine ⟨fun standing number hnode => ?_, fun number hnumber =>
    h.listening number (List.mem_of_mem_erase hnumber)⟩
  rw [node?_without hgone] at hnode
  split at hnode
  · cases hnode
  · exact h.sockets standing number hnode

/-- Opening an address leaves everything as it is but a socket that nobody listens on. -/
theorem Opened.node?_eq (h : Opened before listener after place) (hvacant : Vacant before place)
    (hnode : before.files.node? standing = some node)
    (hlistened : ∀ number, node = .socket number → number ∈ before.listening) :
    after.files.node? standing = some node := by
  have hapart : standing ≠ place := by
    rintro rfl
    rcases hvacant with hnone | ⟨number, hsocket, hnobody⟩
    · cases hnode.symm.trans hnone
    · exact hnobody (hlistened number (Option.some.inj (hnode.symm.trans hsocket)))
  by_contra hchanged
  rw [← hnode] at hchanged
  cases hnode.symm.trans (h.elsewhere standing hapart hchanged).1

/-- A listener goes on standing when another address is opened. -/
theorem Stands.opened (h : Stands before other standing)
    (hopened : Opened before listener after place) (hvacant : Vacant before place) :
    Stands after other standing := by
  refine ⟨h.short, ?_, hopened.extended.locate h.leads,
    hopened.node?_eq hvacant h.socket fun number hnumber => ?_⟩
  · rw [hopened.listening_eq]
    exact List.mem_cons_of_mem _ h.listened
  · rw [← Node.socket.inj hnumber]
    exact h.listened

theorem Numbered.opened (h : Numbered before) (hopened : Opened before listener after place) :
    Numbered after := by
  refine ⟨fun standing number hnode => ?_, fun number hnumber => ?_⟩
  · rw [hopened.next_eq]
    by_cases hplace : standing = place
    · subst hplace
      have hsocket := Option.some.inj (hnode.symm.trans hopened.stands.socket)
      rw [Node.socket.inj hsocket, hopened.socket_eq]
      exact Nat.lt_succ_self _
    · by_cases hsame : after.files.node? standing = before.files.node? standing
      · exact Nat.lt_succ_of_lt (h.sockets standing number (hsame.symm.trans hnode))
      · cases hnode.symm.trans (hopened.elsewhere standing hplace hsame).2
  · rw [hopened.listening_eq] at hnumber
    rw [hopened.next_eq]
    rcases List.mem_cons.mp hnumber with rfl | hold
    · exact Nat.lt_succ_self _
    · exact Nat.lt_succ_of_lt (h.listening number hold)

theorem Stands.prepared (h : Stands machine listener place) (address : String) :
    Stands (prepared machine address) listener place :=
  ⟨h.short, h.listened, (Socket.builds_prepared machine address).extended.locate h.leads,
    node?_prepared address h.socket⟩

theorem Numbered.prepared (h : Numbered machine) (address : String) :
    Numbered (prepared machine address) := by
  refine ⟨fun standing number hnode => ?_, h.listening⟩
  by_cases hsame : (Socket.prepared machine address).files.node? standing =
      machine.files.node? standing
  · exact h.sockets standing number (hsame.symm.trans hnode)
  · cases hnode.symm.trans ((Socket.builds_prepared machine address).made standing hsame).2.1

end

/-! ## What holds in the course of uses -/

/-- What holds of a holder at any time: its listeners have sockets of their own, and those that have
not been released stand at their places. -/
structure Sound (holder : Holder) : Prop where
  numbered : Numbered holder.machine
  distinct : (holder.listeners.map Listener.socket).Nodup
  issued : ∀ listener ∈ holder.listeners, listener.socket < holder.machine.nextSocket
  once : ∀ listener ∈ holder.listeners, holder.machine.listening.count listener.socket ≤ 1
  stands : ∀ listener ∈ holder.listeners, listener.socket ∈ holder.machine.listening →
    ∃ place, Stands holder.machine listener place

/-- What has become of a holder: what it had to leave alone is as it was, what had been released
still is, and the listeners it has opened since have new sockets. -/
structure Since (start holder : Holder) : Prop where
  next_le : start.machine.nextSocket ≤ holder.machine.nextSocket
  owned : ∀ number, holder.Owns number → start.Owns number ∨ start.machine.nextSocket ≤ number
  listened : ∀ number ∈ start.machine.listening, ¬ start.Owns number →
    number ∈ holder.machine.listening
  released : ∀ number < start.machine.nextSocket, number ∉ start.machine.listening →
    number ∉ holder.machine.listening
  kept : ∀ place node, start.machine.files.node? place = some node → start.Spares node →
    holder.machine.files.node? place = some node

section

variable {initial after : Machine} {start middle last holder : Holder} {listener : Listener}
  {place : Place} {address : String}

theorem sound_start (hnumbered : Numbered initial) : Sound ⟨initial, []⟩ :=
  ⟨hnumbered, List.nodup_nil, List.forall_mem_nil _, List.forall_mem_nil _, List.forall_mem_nil _⟩

theorem Since.refl (holder : Holder) : Since holder holder :=
  ⟨Nat.le_refl _, fun _ => .inl, fun _ hin _ => hin, fun _ _ hout => hout,
    fun _ _ hnode _ => hnode⟩

/-- What belongs to nobody but others still does: a listener that has been opened since has a new
socket. -/
theorem Since.not_owns (h : Since start holder) (hnumbered : Numbered start.machine) {number : Nat}
    (hin : number ∈ start.machine.listening) (hnot : ¬ start.Owns number) :
    ¬ holder.Owns number := by
  intro howned
  rcases h.owned number howned with hold | hnew
  · exact hnot hold
  · exact Nat.lt_irrefl _ (Nat.lt_of_lt_of_le (hnumbered.listening number hin) hnew)

theorem Since.trans (hnumbered : Numbered start.machine) (h : Since start middle)
    (hafter : Since middle last) : Since start last := by
  refine ⟨Nat.le_trans h.next_le hafter.next_le, fun number howned => ?_,
    fun number hin hnot => hafter.listened number (h.listened number hin hnot)
      (h.not_owns hnumbered hin hnot),
    fun number hold hout => hafter.released number (Nat.lt_of_lt_of_le hold h.next_le)
      (h.released number hold hout),
    fun place node hnode hspared => ?_⟩
  · rcases hafter.owned number howned with hold | hnew
    · exact h.owned number hold
    · exact .inr (Nat.le_trans h.next_le hnew)
  · refine hafter.kept place node (h.kept place node hnode hspared) fun number hsocket => ?_
    obtain ⟨hin, hnot⟩ := hspared number hsocket
    exact ⟨h.listened number hin hnot, h.not_owns hnumbered hin hnot⟩

/-- A listener that is released is removed from its place, or had been released before. -/
theorem Sound.release_cases (h : Sound holder) (hin : listener ∈ holder.listeners) :
    (listener.socket ∉ holder.machine.listening ∧ holder.release listener = holder) ∨
    ∃ place, Stands holder.machine listener place ∧
      holder.release listener =
        { holder with machine := without holder.machine listener place } := by
  by_cases hlive : listener.socket ∈ holder.machine.listening
  · obtain ⟨place, hstands⟩ := h.stands listener hin hlive
    refine .inr ⟨place, hstands, ?_⟩
    rw [Holder.release, close_of_stands hstands]
  · refine .inl ⟨hlive, ?_⟩
    rw [Holder.release, close_of_not_listening hlive]

/-- Nobody listens on the socket of a listener that is released. -/
theorem Sound.not_mem_erase (h : Sound holder) (hin : listener ∈ holder.listeners) :
    listener.socket ∉ holder.machine.listening.erase listener.socket := by
  have honce := h.once listener hin
  rw [← List.count_eq_zero, List.count_erase_self]
  omega

/-- A holder stays sound when one of its listeners is removed from its place. -/
theorem Sound.without (h : Sound holder) (hin : listener ∈ holder.listeners)
    (hstands : Stands holder.machine listener place) :
    Sound { holder with machine := without holder.machine listener place } := by
  refine ⟨h.numbered.without hstands, h.distinct, h.issued, fun other hother =>
    Nat.le_trans (List.erase_sublist.count_le _) (h.once other hother),
    fun other hother hlive => ?_⟩
  have hne : other.socket ≠ listener.socket := by
    intro hsame
    rw [hsame] at hlive
    exact h.not_mem_erase hin hlive
  obtain ⟨standing, hother⟩ := h.stands other hother (List.mem_of_mem_erase hlive)
  exact ⟨standing, hother.without hstands hne⟩

theorem since_without (hin : listener ∈ holder.listeners)
    (hstands : Stands holder.machine listener place) :
    Since holder { holder with machine := without holder.machine listener place } := by
  have howned : holder.Owns listener.socket := ⟨listener, hin, rfl⟩
  refine ⟨Nat.le_refl _, fun _ => .inl, fun number hlive hnot => ?_,
    fun number _ hout hlive => hout (List.mem_of_mem_erase hlive),
    fun standing node hnode hspared => ?_⟩
  · have hne : number ≠ listener.socket := by
      rintro rfl
      exact hnot howned
    exact (List.mem_erase_of_ne hne).mpr hlive
  · -- What the holder has to leave alone is not the socket of one of its listeners.
    have hapart : standing ≠ place := by
      rintro rfl
      exact (hspared _ (Option.some.inj (hnode.symm.trans hstands.socket))).2 howned
    show (without holder.machine listener place).files.node? standing = some node
    rw [node?_without hstands, if_neg hapart, hnode]

theorem Sound.release (h : Sound holder) (hin : listener ∈ holder.listeners) :
    Sound (holder.release listener) ∧ Since holder (holder.release listener) := by
  rcases h.release_cases hin with ⟨-, heq⟩ | ⟨place, hstands, heq⟩ <;> rw [heq]
  · exact ⟨h, .refl holder⟩
  · exact ⟨h.without hin hstands, since_without hin hstands⟩

/-- A holder stays sound when a new socket is put where nothing was in its way. -/
theorem Sound.opened (h : Sound holder) (hopened : Opened holder.machine listener after place)
    (hvacant : Vacant holder.machine place) : Sound ⟨after, holder.listeners ++ [listener]⟩ := by
  have hsocket := hopened.socket_eq
  have hne (other : Listener) (hother : other ∈ holder.listeners) :
      other.socket ≠ holder.machine.nextSocket := Nat.ne_of_lt (h.issued other hother)
  refine ⟨h.numbered.opened hopened, ?_, fun other hother => ?_, fun other hother => ?_,
    fun other hother hlive => ?_⟩
  · rw [List.map_append, List.nodup_append_comm]
    refine List.nodup_cons.mpr ⟨fun hin => ?_, h.distinct⟩
    obtain ⟨other, hother, hsame⟩ := List.mem_map.mp hin
    exact hne other hother (hsame.trans hsocket)
  · show other.socket < after.nextSocket
    rw [hopened.next_eq]
    rcases List.mem_append.mp hother with hother | hother
    · exact Nat.lt_succ_of_lt (h.issued other hother)
    · rw [List.mem_singleton.mp hother, hsocket]
      exact Nat.lt_succ_self _
  · rw [hopened.listening_eq]
    rcases List.mem_append.mp hother with hother | hother
    · rw [List.count_cons_of_ne (Ne.symm (hne other hother))]
      exact h.once other hother
    · have hfresh : holder.machine.nextSocket ∉ holder.machine.listening :=
        fun hin => Nat.lt_irrefl _ (h.numbered.listening _ hin)
      rw [List.mem_singleton.mp hother, hsocket, List.count_cons_self,
        List.count_eq_zero.mpr hfresh]
  · rcases List.mem_append.mp hother with hother | hother
    · rw [hopened.listening_eq] at hlive
      obtain ⟨standing, hstands⟩ := h.stands other hother
        (List.mem_of_ne_of_mem (hne other hother) hlive)
      exact ⟨standing, hstands.opened hopened hvacant⟩
    · rw [List.mem_singleton.mp hother]
      exact ⟨place, hopened.stands⟩

theorem since_opened (hopened : Opened holder.machine listener after place)
    (hvacant : Vacant holder.machine place) :
    Since holder ⟨after, holder.listeners ++ [listener]⟩ := by
  refine ⟨?_, fun number howned => ?_, fun number hlive _ => ?_, fun number hold hout hlive => ?_,
    fun standing node hnode hspared => hopened.node?_eq hvacant hnode fun number hsocket =>
      (hspared number hsocket).1⟩
  · show holder.machine.nextSocket ≤ after.nextSocket
    rw [hopened.next_eq]
    exact Nat.le_succ _
  · obtain ⟨other, hother, hnumber⟩ := howned
    rcases List.mem_append.mp hother with hother | hother
    · exact .inl ⟨other, hother, hnumber⟩
    · rw [List.mem_singleton.mp hother, hopened.socket_eq] at hnumber
      exact .inr (Nat.le_of_eq hnumber)
  · rw [hopened.listening_eq]
    exact List.mem_cons_of_mem _ hlive
  · rw [hopened.listening_eq] at hlive
    exact hout (List.mem_of_ne_of_mem (Nat.ne_of_lt hold) hlive)

theorem Sound.prepared (h : Sound holder) (address : String) :
    Sound { holder with machine := prepared holder.machine address } := by
  refine ⟨h.numbered.prepared address, h.distinct, h.issued, h.once, fun other hother hlive => ?_⟩
  obtain ⟨standing, hstands⟩ := h.stands other hother hlive
  exact ⟨standing, hstands.prepared address⟩

theorem since_prepared (holder : Holder) (address : String) :
    Since holder { holder with machine := prepared holder.machine address } :=
  ⟨Nat.le_refl _, fun _ => .inl, fun _ hlive _ => hlive, fun _ _ hout => hout,
    fun _ _ hnode _ => node?_prepared address hnode⟩

/-- When an address is opened, a new listener stands where nothing was in its way, or at most
directories are made. -/
theorem Holder.step_openAt_cases (holder : Holder) (hshort : checkAddress address = .ok ()) :
    (∃ listener after place, Opened holder.machine listener after place ∧
      Vacant holder.machine place ∧
      holder.step (.openAt address) = ⟨after, holder.listeners ++ [listener]⟩) ∨
    holder.step (.openAt address) = { holder with machine := prepared holder.machine address } := by
  rcases hopen : (Socket.openAt address).perform holder.machine with ⟨answer, after⟩
  rw [Holder.step, hopen]
  cases answer with
  | ok listener =>
    obtain ⟨-, place, hopened, hvacant⟩ := Socket.vacant_of_openAt hshort hopen
    exact .inl ⟨listener, after, place, hopened, hvacant, rfl⟩
  | error fault =>
    obtain rfl := Socket.eq_prepared_of_error hshort hopen
    exact .inr rfl

theorem Sound.openAt (h : Sound holder) (hshort : checkAddress address = .ok ()) :
    Sound (holder.step (.openAt address)) ∧ Since holder (holder.step (.openAt address)) := by
  rcases holder.step_openAt_cases hshort with
    ⟨listener, after, place, hopened, hvacant, heq⟩ | heq <;> rw [heq]
  · exact ⟨h.opened hopened hvacant, since_opened hopened hvacant⟩
  · exact ⟨h.prepared address, since_prepared holder address⟩

theorem Sound.step (h : Sound holder) {use : Use} (hshort : Holder.Short [use]) :
    Sound (holder.step use) ∧ Since holder (holder.step use) := by
  cases use with
  | openAt address => exact h.openAt (hshort address List.mem_cons_self)
  | close index =>
    rw [Holder.step]
    split
    · rename_i listener hlistener
      have hin := List.mem_of_getElem? hlistener
      obtain ⟨hsound, hsince⟩ := h.release hin
      obtain ⟨hlast, hafter⟩ := hsound.release hin
      exact ⟨hlast, hsince.trans h.numbered hafter⟩
    · exact ⟨h, .refl holder⟩
  | drop index =>
    rw [Holder.step]
    split
    · rename_i listener hlistener
      exact h.release (List.mem_of_getElem? hlistener)
    · exact ⟨h, .refl holder⟩

theorem Sound.run (h : Sound holder) {uses : List Use} (hshort : Holder.Short uses) :
    Sound (holder.run uses) ∧ Since holder (holder.run uses) := by
  induction uses generalizing holder with
  | nil => exact ⟨h, .refl holder⟩
  | cons use uses ih =>
    have hfirst : Holder.Short [use] := fun address hin =>
      hshort address (List.mem_singleton.mp hin ▸ List.mem_cons_self)
    have hrest : Holder.Short uses := fun address hin =>
      hshort address (List.mem_cons_of_mem _ hin)
    obtain ⟨hsound, hsince⟩ := h.step hfirst
    obtain ⟨hlast, hafter⟩ := ih hsound hrest
    exact ⟨hlast, hsince.trans h.numbered hafter⟩

end

/-! ## What can be said of a holder at any time -/

/-- A listener that stands alone at its place. -/
structure StandsAlone (holder : Holder) (listener : Listener) (place : Place) : Prop where
  stands : Stands holder.machine listener place
  alone : ∀ other ∈ holder.listeners, Stands holder.machine other place → other = listener

/-- A listener is released once: what is removed is its own socket, from the place where it stands,
and when it is released again, however much later, nothing is done. -/
structure ReleasedOnce (holder : Holder) (listener : Listener) : Prop where
  removes : listener.socket ∈ holder.machine.listening → ∃ place,
    Stands holder.machine listener place ∧
      Socket.close listener holder.machine = (.ok (), without holder.machine listener place)
  rests : ∀ uses, Holder.Short uses →
    Socket.close listener ((holder.release listener).run uses).machine =
      (.ok (), ((holder.release listener).run uses).machine)

section

variable {holder : Holder} {listener : Listener}

theorem Sound.exists_standsAlone (h : Sound holder) (hin : listener ∈ holder.listeners)
    (hlive : listener.socket ∈ holder.machine.listening) :
    ∃ place, StandsAlone holder listener place := by
  obtain ⟨place, hstands⟩ := h.stands listener hin hlive
  refine ⟨place, hstands, fun other hother hstanding => ?_⟩
  have hsocket := Option.some.inj (hstanding.socket.symm.trans hstands.socket)
  exact List.inj_on_of_nodup_map h.distinct hother hin (Node.socket.inj hsocket)

theorem Sound.not_listening_release (h : Sound holder) (hin : listener ∈ holder.listeners) :
    listener.socket ∉ (holder.release listener).machine.listening := by
  rcases h.release_cases hin with ⟨hout, heq⟩ | ⟨place, -, heq⟩ <;> rw [heq]
  · exact hout
  · exact h.not_mem_erase hin

theorem Sound.releasedOnce (h : Sound holder) (hin : listener ∈ holder.listeners) :
    ReleasedOnce holder listener := by
  refine ⟨fun hlive => ?_, fun uses hshort => close_of_not_listening ?_⟩
  · obtain ⟨place, hstands⟩ := h.stands listener hin hlive
    exact ⟨place, hstands, close_of_stands hstands⟩
  · have hsound := (h.release hin).1
    have hout := h.not_listening_release hin
    exact (hsound.run hshort).2.released _ (hsound.issued listener hin) hout

end

/-- Whatever a process opens, closes and drops on a machine, and in whatever order: of the listeners
that its `Holder` has not released, no two stand at one place; an address can be opened exactly
where nothing stands or a socket that nobody listens on; every listener is released once, and
removes its own socket alone; and everything stays as it is but the sockets of the process itself
and those that nobody listens on. -/
theorem sockets_are_kept_apart {initial : Machine} (hnumbered : Numbered initial) {uses : List Use}
    (hshort : Holder.Short uses) :
    let holder := Holder.run ⟨initial, []⟩ uses
    (∀ listener ∈ holder.listeners, listener.socket ∈ holder.machine.listening →
      ∃ place, StandsAlone holder listener place) ∧
    (∀ address, checkAddress address = .ok () → Preparable holder.machine address →
      OpensWhereFree holder.machine address) ∧
    (∀ listener ∈ holder.listeners, ReleasedOnce holder listener) ∧
    ∀ later, Holder.Short later → ∀ place node, holder.machine.files.node? place = some node →
      holder.Spares node → (holder.run later).machine.files.node? place = some node := by
  intro holder
  have hsound : Sound holder := ((sound_start hnumbered).run hshort).1
  exact ⟨fun _ => hsound.exists_standsAlone, fun _ => Socket.opensWhereFree,
    fun _ => hsound.releasedOnce, fun _ hlater => (hsound.run hlater).2.kept⟩

/-- A machine with a socket that nobody listens on, one that somebody listens on, and a link. -/
def busyMachine : Machine where
  files := ⟨[(["s"], .directory), (["s", "left.sock"], .socket 0), (["s", "held.sock"], .socket 1),
    (["s", "link.sock"], .link "left.sock")]⟩
  listening := [1]
  nextSocket := 2
  shell := .scripted []

theorem numbered_busyMachine : Numbered busyMachine := by
  refine ⟨fun place number hnode => ?_, by decide⟩
  have hne : place ≠ [] := by
    rintro rfl
    cases hnode
  have hin := FileTree.mem_entries_of_node? hne hnode
  simp only [busyMachine, List.mem_cons, Prod.mk.injEq, reduceCtorEq, and_false, Node.socket.injEq,
    List.not_mem_nil, or_false, false_or] at hin
  show number < 2
  omega

/-- An address is opened, turned down while it is, closed, opened again and dropped by whoever had
closed it. -/
def reopening : List Use :=
  [.openAt "/s/left.sock", .openAt "/s/left.sock", .close 0, .openAt "/s/left.sock", .drop 0]

theorem reopened_socket_stands_alone :
    Numbered busyMachine ∧ Holder.Short reopening ∧
    StandsAlone (Holder.run ⟨busyMachine, []⟩ reopening) ⟨"/s/left.sock", 3⟩ ["s", "left.sock"] ∧
    ReleasedOnce (Holder.run ⟨busyMachine, []⟩ reopening) ⟨"/s/left.sock", 2⟩ := by
  have hshort : Holder.Short reopening := by
    intro address hin
    simp only [reopening, List.mem_cons, Use.openAt.injEq, reduceCtorEq, List.not_mem_nil, or_false,
      false_or, or_self] at hin
    subst hin
    decide
  have hlisteners : (Holder.run ⟨busyMachine, []⟩ reopening).listeners =
      [⟨"/s/left.sock", 2⟩, ⟨"/s/left.sock", 3⟩] := by decide +kernel
  have hlive : 3 ∈ (Holder.run ⟨busyMachine, []⟩ reopening).machine.listening := by decide +kernel
  have hleads : (Holder.run ⟨busyMachine, []⟩ reopening).machine.files.locate false
      (addressNames "/s/left.sock") = .ok ["s", "left.sock"] := by decide +kernel
  obtain ⟨hstands, -, hreleased, -⟩ := sockets_are_kept_apart numbered_busyMachine hshort
  obtain ⟨place, halone⟩ :=
    hstands ⟨"/s/left.sock", 3⟩ (hlisteners ▸ .tail _ (.head _)) hlive
  obtain rfl : place = ["s", "left.sock"] :=
    Except.ok.inj (halone.stands.leads.symm.trans hleads)
  exact ⟨numbered_busyMachine, hshort, halone,
    hreleased ⟨"/s/left.sock", 2⟩ (hlisteners ▸ .head _)⟩

end StorageGateway.Endpoint

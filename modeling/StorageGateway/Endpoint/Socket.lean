import StorageGateway.Host.Machine
import StorageGateway.Path.Basic

/-!
# Sockets

An address is listened on through a socket file. A socket file that nobody listens on any more may
be taken over; anything else that stands at an address stays. A listener removes the file at its
address once, when it is closed.
-/

namespace StorageGateway.Endpoint

open Host

/-- Somebody who listens on an address. -/
structure Listener where
  /-- The address. -/
  address : String
  /-- The number of the socket. -/
  socket : Nat
deriving DecidableEq, Repr

namespace Socket

/-- The number of bytes that an address has to stay below. -/
def addressLimit : Nat := 108

/-- The names that an address leads through. -/
def addressNames (address : String) : List String :=
  (Path.components address).filter fun name => name != "" && name != "."

/-- Whether an address is short enough for a socket. -/
def checkAddress (address : String) : Except SystemError Unit :=
  if addressLimit ≤ address.utf8ByteSize then .error .addressTooLong else .ok ()

/-- The socket that a path leads to and that somebody listens on. -/
def connect (machine : Machine) (address : String) : Except SystemError Nat := do
  let names := addressNames address
  FileTree.checkNames names
  checkAddress address
  match ← machine.files.find true names with
  | .socket number =>
    if machine.listening.contains number then .ok number else .error .connectionRefused
  | _ => .error .connectionRefused

/-- Why an address cannot be listened on. -/
def bindFault (address : String) (error : SystemError) : Fault :=
  .bindFailed address error.message

/-- Makes a socket at an address where there is nothing, and listens on it. -/
def bind (machine : Machine) (address : String) : Except Fault Listener × Machine :=
  let attempt := do
    checkAddress address
    machine.files.make (addressNames address) (.socket machine.nextSocket)
  match attempt with
  | .error error => (.error (bindFault address error), machine)
  | .ok files =>
    (.ok ⟨address, machine.nextSocket⟩,
      { machine with
        files
        listening := machine.nextSocket :: machine.listening
        nextSocket := machine.nextSocket + 1 })

/-- Removes a socket that nobody listens on, and listens on a new one in its place. -/
def replace (machine : Machine) (address : String) : Except Fault Listener × Machine :=
  match machine.files.removeFile (addressNames address) with
  | .error error => (.error (bindFault address error), machine)
  | .ok files => bind { machine with files } address

/-- Listens on an address whose directory is there. -/
def openInside (machine : Machine) (address : String) : Except Fault Listener × Machine :=
  match machine.files.find false (addressNames address) with
  | .ok (.socket _) =>
    match connect machine address with
    | .ok _ => (.error (.addressInUse address), machine)
    | .error _ => replace machine address
  | .ok _ =>
    (.error (.bindFailed address "address is occupied by a file that is not a socket"), machine)
  | .error .notFound => bind machine address
  | .error error => (.error (bindFault address error), machine)

/-- Listens on an address. The directories that lead there are made first. -/
def openAt (address : String) : Act Machine Listener := fun machine =>
  match machine.files.makeDirectories (addressNames address).dropLast with
  | (.error error, files) => (.error (bindFault address error), { machine with files })
  | (.ok (), files) => openInside { machine with files } address

/-- Stops listening and removes what stands at the address. A listener that has been closed before
is left alone. -/
def close (listener : Listener) (machine : Machine) : Except SystemError Unit × Machine :=
  if machine.listening.contains listener.socket then
    let machine := { machine with listening := machine.listening.erase listener.socket }
    match machine.files.removeFile (addressNames listener.address) with
    | .ok files => (.ok (), { machine with files })
    | .error .notFound => (.ok (), machine)
    | .error error => (.error error, machine)
  else (.ok (), machine)

end Socket

end StorageGateway.Endpoint

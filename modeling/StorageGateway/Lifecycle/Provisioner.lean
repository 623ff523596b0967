import StorageGateway.Endpoint.Address
import StorageGateway.Endpoint.Socket

/-!
# Provisioners

A provisioner opens and closes listeners. Several are opened together or not at all: when one cannot
be opened, those before it are closed, the last one first, and what is reported is why that one
could not be opened, whatever happens to the others.
-/

namespace StorageGateway.Lifecycle

/-- Opens and closes listeners of a type `κ` in a world of type `ω`. -/
structure Provisioner (ω κ : Type) where
  /-- The address of a version of a group. -/
  address : String → Version → String
  /-- The address that a listener listens on. -/
  addressOf : κ → String
  /-- Opens a listener on an address. -/
  openAt : String → ω → Except Fault κ × ω
  /-- Closes a listener. -/
  close : κ → ω → Except SystemError Unit × ω

namespace Provisioner

variable {ω κ : Type}

/-- The addresses of endpoints. -/
def addresses (provisioner : Provisioner ω κ) (endpoints : List (String × Version)) :
    List String :=
  endpoints.map fun endpoint => provisioner.address endpoint.1 endpoint.2

/-- Opens listeners on all addresses, in order, or on none. -/
def openAll (provisioner : Provisioner ω κ) : List String → ω → Except Fault (List κ) × ω
  | [], world => (.ok [], world)
  | address :: rest, world =>
    match provisioner.openAt address world with
    | (.error fault, world) => (.error fault, world)
    | (.ok listener, world) =>
      match provisioner.openAll rest world with
      | (.ok listeners, world) => (.ok (listener :: listeners), world)
      | (.error fault, world) => (.error fault, (provisioner.close listener world).2)

/-- Listens on sockets below a directory. -/
def sockets (directory : String) : Provisioner Host.Machine Endpoint.Listener where
  address := Endpoint.address directory
  addressOf := Endpoint.Listener.address
  openAt address machine := (Endpoint.Socket.openAt address).perform machine
  close := Endpoint.Socket.close

end Provisioner

end StorageGateway.Lifecycle

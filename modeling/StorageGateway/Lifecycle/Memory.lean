import StorageGateway.Lifecycle.Provisioner

/-!
# A network in memory

Listeners that exist only in memory: an address is opened by being listed. One attempt may be
refused, and closing may fail, so that a set of endpoints can be tried out without any sockets.
-/

namespace StorageGateway.Lifecycle

/-- What has been opened and closed. -/
structure Network where
  /-- How often somebody wanted to listen. -/
  attempts : Nat := 0
  /-- The addresses that were opened, in order. -/
  opened : List String := []
  /-- The addresses that were closed, in order. -/
  closed : List String := []
deriving DecidableEq, Repr

namespace Network

/-- The address of a version of a group. -/
def address (group : String) (version : Version) : String :=
  "mock://" ++ group ++ "-" ++ version.text

/-- Opens an address, unless this attempt is the refused one. -/
def openAt (refused : Option Nat) (fault : Fault) (address : String) (network : Network) :
    Except Fault String × Network :=
  let network := { network with attempts := network.attempts + 1 }
  if refused = some network.attempts then (.error fault, network)
  else (.ok address, { network with opened := network.opened ++ [address] })

/-- Closes an address. -/
def close (closeFails : Bool) (address : String) (network : Network) :
    Except SystemError Unit × Network :=
  (if closeFails then .error .busy else .ok (),
    { network with closed := network.closed ++ [address] })

/-- Listens in memory, but refuses the attempt with the given number. -/
def provisioner (refused : Option Nat) (fault : Fault) (closeFails : Bool) :
    Provisioner Network String where
  address := Network.address
  addressOf := id
  openAt := Network.openAt refused fault
  close := Network.close closeFails

end Network

end StorageGateway.Lifecycle

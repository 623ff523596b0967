import Std.Data.HashSet
import StorageGateway.Catalog

/-!
# The registry of endpoints

The endpoints that the gateway is to serve, in the order in which they are entered. Every endpoint
has a group with a name, and no version of a group is entered twice.
-/

namespace StorageGateway.Endpoint

open Host

/-- An endpoint to serve: a version of a group and what it does about a call. -/
structure Descriptor (σ : Type) where
  /-- The name of the group. -/
  group : String
  /-- The version. -/
  version : Version
  /-- What is done about a call; nothing when no service is attached. -/
  service : Option (Service σ)

/-- What tells endpoints apart. -/
def Descriptor.key {σ : Type} (descriptor : Descriptor σ) : String × Version :=
  (descriptor.group, descriptor.version)

/-- The endpoint of an adapter. -/
def Descriptor.ofAdapter {σ : Type} (adapter : Adapter σ) : Descriptor σ :=
  ⟨adapter.group, adapter.version, some adapter.call⟩

/-- The endpoints to serve. -/
structure Registry (σ : Type) where
  /-- The endpoints, in the order in which they were entered. -/
  descriptors : List (Descriptor σ) := []
  /-- What tells them apart. -/
  seen : Std.HashSet (String × Version) := {}

namespace Registry

variable {σ : Type}

/-- Enters an endpoint, unless it cannot be told apart. -/
def insert (registry : Registry σ) (descriptor : Descriptor σ) : Except Fault (Registry σ) :=
  if descriptor.group.isEmpty then
    .error (.configuration
      ("Endpoint at " ++ descriptor.version.text ++ " has an empty group name"))
  else if registry.seen.contains descriptor.key then
    .error (.duplicateEndpoint descriptor.group descriptor.version.text)
  else
    .ok ⟨registry.descriptors ++ [descriptor], registry.seen.insert descriptor.key⟩

/-- Enters endpoints up to the first one that is turned away. Those before it stay. -/
def extend (registry : Registry σ) : List (Descriptor σ) → Except Fault Unit × Registry σ
  | [] => (.ok (), registry)
  | descriptor :: rest =>
    match registry.insert descriptor with
    | .ok larger => larger.extend rest
    | .error fault => (.error fault, registry)

/-- The versions of a group, in the order in which they were entered. -/
def versionsOf (registry : Registry σ) (group : String) : List Version :=
  (registry.descriptors.filter fun descriptor => descriptor.group == group).map Descriptor.version

/-- Enters the endpoints of some groups over the host, in the order in which the groups are wired
up. -/
def registerGroups (roots : Roots) (included : String → Bool) (registry : Registry Machine) :
    List Group → Except Fault Unit × Registry Machine
  | [] => (.ok (), registry)
  | group :: rest =>
    if included group.name then
      match registry.extend ((group.adapters roots).map Descriptor.ofAdapter) with
      | (.ok (), larger) => registerGroups roots included larger rest
      | (.error fault, larger) => (.error fault, larger)
    else registerGroups roots included registry rest

/-- Enters the endpoints of all groups that are included. -/
def registerAll (registry : Registry Machine) (roots : Roots) (included : String → Bool) :
    Except Fault Unit × Registry Machine :=
  registerGroups roots included registry Group.all

end Registry

end StorageGateway.Endpoint

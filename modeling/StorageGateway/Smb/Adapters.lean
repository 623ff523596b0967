import StorageGateway.Group
import StorageGateway.Smb.Plan

/-!
# The SMB API

Mappings are served at `v1beta2`, where no link can be asked for, and at `v1`.
-/

namespace StorageGateway.Smb

open Host

/-- The method that maps a share. -/
def mapRoute {Wire : Type} (decode : Conversion Wire NewMapping) (request : Schema Wire) :
    Route Machine :=
  Plan.route ⟨"NewSmbGlobalMapping", none, decode, .same⟩ request
    (.empty "NewSmbGlobalMappingResponse") map

/-- The method that drops a mapping. -/
def unmapRoute : Route Machine :=
  Plan.route (.passthrough "RemoveSmbGlobalMapping") removeRequest
    (.empty "RemoveSmbGlobalMappingResponse") unmap

/-- The SMB API before it was stable. -/
def betaAdapter : Adapter Machine where
  group := Group.smb.name
  version := Group.draft .beta 2
  routes := [
    mapRoute (.structural PlainMapping.schema NewMapping.schema) PlainMapping.schema, unmapRoute]

/-- The stable SMB API. -/
def stableAdapter : Adapter Machine where
  group := Group.smb.name
  version := Group.v1
  routes := [mapRoute .same NewMapping.schema, unmapRoute]

/-- The SMB API at all its versions, the oldest first. -/
def adapters : List (Adapter Machine) := [betaAdapter, stableAdapter]

end StorageGateway.Smb

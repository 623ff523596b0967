import StorageGateway.Files.Operations
import StorageGateway.Group

/-!
# The filesystem API

Directories and links below the permitted roots are served at `v1beta1` and at `v1`.
-/

namespace StorageGateway.Files

open Host

section
variable (roots : Roots)

/-- The method that tells whether a path leads somewhere. -/
def existsRoute : Route Machine where
  operation := .passthrough "PathExists"
  requestSchema := pathRequest "PathExistsRequest"
  writeResponse := existsSchema.writer
  invoke request _ := pathExists roots request

/-- The method that makes a directory. -/
def makeDirectoryRoute : Route Machine where
  operation := .passthrough "Mkdir"
  requestSchema := pathRequest "MkdirRequest"
  writeResponse := (Schema.empty "MkdirResponse").writer
  invoke request _ := makeDirectory roots request

/-- The method that removes a directory. -/
def removeDirectoryRoute : Route Machine where
  operation := .passthrough "Rmdir"
  requestSchema := Removal.schema
  writeResponse := (Schema.empty "RmdirResponse").writer
  invoke request _ := removeDirectory roots request

/-- The method that makes a link. -/
def makeLinkRoute : Route Machine where
  operation := .passthrough "CreateSymlink"
  requestSchema := Linking.schema "CreateSymlinkRequest"
  writeResponse := (Schema.empty "CreateSymlinkResponse").writer
  invoke request _ := makeLink roots request

/-- The method that tells whether there is a link. -/
def isLinkRoute : Route Machine where
  operation := .passthrough "IsSymlink"
  requestSchema := pathRequest "IsSymlinkRequest"
  writeResponse := isLinkSchema.writer
  invoke request _ := isLink roots request

/-- The method that makes a link, as it was called before. -/
def linkPathRoute : Route Machine where
  operation := .structural "LinkPath" (Linking.schema "LinkPathRequest")
    (Linking.schema "CreateSymlinkRequest") (.empty "CreateSymlinkResponse")
    (.empty "LinkPathResponse")
  requestSchema := Linking.schema "LinkPathRequest"
  writeResponse := (Schema.empty "LinkPathResponse").writer
  invoke request _ := makeLink roots request

/-- The method that tells whether there is a link, as it was called before. -/
def isMountPointRoute : Route Machine where
  operation := .structuralRequest "IsMountPoint" (pathRequest "IsMountPointRequest")
    (pathRequest "IsSymlinkRequest")
  requestSchema := pathRequest "IsMountPointRequest"
  writeResponse := isMountPointSchema.writer
  invoke request _ := isLink roots request

/-- The filesystem API before it was stable. -/
def betaAdapter : Adapter Machine where
  group := Group.filesystem.name
  version := Group.draft .beta 1
  routes := [existsRoute roots, makeDirectoryRoute roots, removeDirectoryRoute roots,
    linkPathRoute roots, isMountPointRoute roots]

/-- The stable filesystem API. -/
def stableAdapter : Adapter Machine where
  group := Group.filesystem.name
  version := Group.v1
  routes := [existsRoute roots, makeDirectoryRoute roots, removeDirectoryRoute roots,
    makeLinkRoute roots, isLinkRoute roots]

/-- The filesystem API at all its versions, the oldest first. -/
def adapters : List (Adapter Machine) := [betaAdapter roots, stableAdapter roots]

end

end StorageGateway.Files

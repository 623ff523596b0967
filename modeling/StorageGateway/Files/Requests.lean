import StorageGateway.Adapter.Conversion

/-!
# Requests about files

What is asked and told about files: whether a path leads somewhere, and directories and links that
are to be made or removed.
-/

namespace StorageGateway.Files

/-- Asks for a directory to be removed. -/
structure Removal where
  /-- The path of the directory. -/
  path : String
  /-- Whether what is in it is removed as well. -/
  force : Bool
deriving DecidableEq, Repr

/-- Asks for a link to be made. -/
structure Linking where
  /-- The path that the link points to. -/
  source : String
  /-- The path of the link. -/
  target : String
deriving DecidableEq, Repr

/-- A request that names a path. -/
def pathRequest (name : String) : Schema String := .single name "path" .string

/-- The schema of a request to remove a directory. -/
def Removal.schema : Schema Removal where
  read := .record "RmdirRequest" <|
    Removal.mk <$> .required "path" .string <*> .defaulted "force" .bool false
  write r := .object [("force", .bool r.force), ("path", .string r.path)]

/-- The schema of a request to make a link. -/
def Linking.schema (name : String) : Schema Linking where
  read := .record name <|
    Linking.mk <$> .required "source_path" .string <*> .required "target_path" .string
  write l := .object [("source_path", .string l.source), ("target_path", .string l.target)]

/-- The schema of whether a path leads somewhere. -/
def existsSchema : Schema Bool := .single "PathExistsResponse" "exists" .bool

/-- The schema of whether something is a link. -/
def isLinkSchema : Schema Bool := .single "IsSymlinkResponse" "is_symlink" .bool

/-- The schema of whether something is a link, as it was called before. -/
def isMountPointSchema : Schema Bool := .single "IsMountPointResponse" "is_mount_point" .bool

end StorageGateway.Files

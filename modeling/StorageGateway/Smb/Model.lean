import StorageGateway.Adapter.Conversion

/-!
# SMB mappings

What is asked about the SMB shares that the host maps for all its users. A request that carries
credentials is shown without its password.
-/

namespace StorageGateway.Smb

/-- Asks for a share to be mapped. -/
structure NewMapping where
  /-- The share. -/
  remotePath : String
  /-- A link to make that leads to the share; empty for none. -/
  localPath : String
  /-- The name to log in with. -/
  username : String
  /-- The password to log in with. -/
  password : String
deriving DecidableEq, Repr

/-- Asks for a share to be mapped, before links could be asked for. -/
structure PlainMapping where
  /-- The share. -/
  remotePath : String
  /-- The name to log in with. -/
  username : String
  /-- The password to log in with. -/
  password : String
deriving DecidableEq, Repr

/-- The schema of a request to map a share. -/
def NewMapping.schema : Schema NewMapping where
  read := .record "NewSmbGlobalMappingRequest" <|
    NewMapping.mk <$> .required "remote_path" .string <*> .defaulted "local_path" .string ""
      <*> .required "username" .string <*> .required "password" .string
  write m := .object [("local_path", .string m.localPath), ("password", .string m.password),
    ("remote_path", .string m.remotePath), ("username", .string m.username)]

/-- The schema of a request to map a share before links could be asked for. -/
def PlainMapping.schema : Schema PlainMapping where
  read := .record "NewSmbGlobalMappingRequest" <|
    PlainMapping.mk <$> .required "remote_path" .string <*> .required "username" .string
      <*> .required "password" .string
  write m := .object [("password", .string m.password), ("remote_path", .string m.remotePath),
    ("username", .string m.username)]

/-- The schema of a request to drop a mapping, which names the share. -/
def removeRequest : Schema String :=
  .single "RemoveSmbGlobalMappingRequest" "remote_path" .string

/-- A request to map a share as it is shown. -/
def NewMapping.shown (m : NewMapping) : String :=
  "NewSmbGlobalMappingRequest \x7b remote_path: " ++ Text.quoted m.remotePath ++
    ", local_path: " ++ Text.quoted m.localPath ++
    ", username: " ++ Text.quoted m.username ++ ", .. \x7d"

end StorageGateway.Smb

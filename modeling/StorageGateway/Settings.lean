import StorageGateway.Group
import StorageGateway.Path.Roots

/-!
# Settings

What is fixed about the gateway, and what is settled once when it starts: where its sockets are,
which directories it may touch and which groups it serves.
-/

namespace StorageGateway

/-- The name of the program. -/
def programName : String := "hostproxy"

/-- The name of the directory for sockets below the user's runtime directory. -/
def socketDirectoryName : String := "hostproxy"

/-- The directory for sockets when there is no runtime directory. -/
def fallbackSocketDirectory : String := "/run/hostproxy"

/-- What the file name of a socket ends in. -/
def socketSuffix : String := ".sock"

/-- What the name of a named pipe begins with. -/
def pipeNamespace : String := "\\\\.\\pipe\\"

/-- The directory for sockets, given the user's runtime directory. Only an absolute one counts. -/
def defaultSocketDirectory (runtimeDirectory : Option String) : String :=
  match runtimeDirectory with
  | some directory =>
    if Path.isAbsoluteText directory then Path.join directory socketDirectoryName
    else fallbackSocketDirectory
  | none => fallbackSocketDirectory

/-- What is settled when the gateway starts. -/
structure Settings where
  /-- The directory for sockets. -/
  socketDirectory : String
  /-- The directories that paths are confined to. -/
  roots : Roots
  /-- The names of the groups to serve; none for all of them. -/
  groups : List String
deriving DecidableEq, Repr

/-- Whether a list of group names includes a group; an empty list includes all. -/
def includesGroup (groups : List String) (name : String) : Bool :=
  groups.isEmpty || groups.contains name

/-- Whether the gateway serves a group. -/
def Settings.hosts (settings : Settings) (name : String) : Bool :=
  includesGroup settings.groups name

end StorageGateway

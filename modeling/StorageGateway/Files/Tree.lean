import StorageGateway.Files.SystemError
import StorageGateway.Path.Basic

/-!
# File trees

A file tree says what is at which place. The place of something is the list of names that leads to
it from the root directory, and the place of a directory begins the places of what is in it.

Paths are resolved name by name, as the operating system does it: every name but the last has to
lead to a directory, a link on the way is replaced by what it points to, and a link at the end is
replaced only where the operation asks for it.
-/

namespace StorageGateway

/-- What is at a place. -/
inductive Node where
  /-- A directory. -/
  | directory
  /-- A file. -/
  | file
  /-- A symbolic link, with the path it points to. -/
  | link (target : String)
  /-- A socket, with a number of its own. -/
  | socket (number : Nat)
deriving DecidableEq, Repr

/-- The names that lead to something from the root directory, free of `.` and `..`. -/
abbrev Place := List String

/-- What is at which place. The root directory is always there and is not listed. -/
structure FileTree where
  /-- Places and what is there. -/
  entries : List (Place × Node) := []
deriving DecidableEq, Repr

namespace FileTree

/-! ## Places -/

/-- What is at a place. -/
def node? (tree : FileTree) : Place → Option Node
  | [] => some .directory
  | name :: names => tree.entries.lookup (name :: names)

/-- Puts something at a place, instead of what has been there. -/
def put (tree : FileTree) (place : Place) (node : Node) : FileTree :=
  ⟨(place, node) :: tree.entries.filter fun entry => entry.1 != place⟩

/-- Takes away what is at a place. -/
def erase (tree : FileTree) (place : Place) : FileTree :=
  ⟨tree.entries.filter fun entry => entry.1 != place⟩

/-- Takes away what is at a place and below it. -/
def eraseBelow (tree : FileTree) (place : Place) : FileTree :=
  ⟨tree.entries.filter fun entry => !place.isPrefixOf entry.1⟩

/-- Whether there is anything below a place. -/
def hasChildren (tree : FileTree) (place : Place) : Bool :=
  tree.entries.any fun entry => place.isPrefixOf entry.1 && entry.1 != place

/-! ## Paths -/

/-- The greatest number of bytes of a name. -/
def longestName : Nat := 255

/-- The number of bytes that the text of a path has to stay below. -/
def pathLimit : Nat := 4096

/-- The number of links that a path may lead through. -/
def linkLimit : Nat := 40

/-- The names that the target of a link leads through; a slash at its end stands for the directory
itself. -/
def targetNames (target : String) : List String :=
  let names := (Path.components target).filter fun name => name != ""
  if target.toList.getLast? == some '/' then names ++ ["."] else names

/-- Follows names from a directory. The last argument says how to go on where a link is to be
followed: from which directory, along which names. -/
def descend (tree : FileTree) (followLast : Bool)
    (onLink : Place → List String → Except SystemError Place) :
    Place → List String → Except SystemError Place
  | directory, [] => .ok directory
  | directory, name :: names =>
    if name = "." then descend tree followLast onLink directory names
    else if name = ".." then descend tree followLast onLink directory.dropLast names
    else if longestName < name.utf8ByteSize then .error .nameTooLong
    else
      let place := directory ++ [name]
      match tree.node? place with
      | some .directory => descend tree followLast onLink place names
      | some (.link target) =>
        if names.isEmpty && !followLast then .ok place
        else onLink (if Path.isAbsoluteText target then [] else directory)
          (targetNames target ++ names)
      | some _ => if names.isEmpty then .ok place else .error .notDirectory
      | none => if names.isEmpty then .ok place else .error .notFound

/-- Follows names from a directory, through as many links as the first number says. -/
def walk (tree : FileTree) (followLast : Bool) :
    Nat → Place → List String → Except SystemError Place
  | 0 => descend tree followLast fun _ _ => .error .tooManyLinks
  | links + 1 => descend tree followLast (walk tree followLast links)

/-- The length of a path in bytes, each name with the separator in front of it. -/
def spelledLength (names : List String) : Nat :=
  names.foldl (fun length name => length + name.utf8ByteSize + 1) 0

/-- Whether the system takes a path at all. -/
def checkNames (names : List String) : Except SystemError Unit :=
  if names.any fun name => name.toList.contains '\x00' then .error .zeroInName
  else if pathLimit ≤ spelledLength names then .error .nameTooLong
  else .ok ()

/-- The place that names lead to from the root directory. What leads there is a directory; at the
place itself there may be nothing. -/
def locate (tree : FileTree) (followLast : Bool) (names : List String) :
    Except SystemError Place := do
  checkNames names
  tree.walk followLast linkLimit [] names

/-- What a path leads to. -/
def find (tree : FileTree) (followLast : Bool) (names : List String) : Except SystemError Node := do
  match tree.node? (← tree.locate followLast names) with
  | some node => .ok node
  | none => .error .notFound

/-- Whether a path leads to anything; links are followed. -/
def leadsSomewhere (tree : FileTree) (names : List String) : Except SystemError Bool :=
  match tree.find true names with
  | .ok _ => .ok true
  | .error .notFound => .ok false
  | .error error => .error error

/-- Whether a path leads to a directory; links are followed. -/
def leadsToDirectory (tree : FileTree) (names : List String) : Bool :=
  match tree.find true names with
  | .ok .directory => true
  | _ => false

/-! ## Changes -/

/-- Makes something where there is nothing. -/
def make (tree : FileTree) (names : List String) (node : Node) : Except SystemError FileTree := do
  let place ← tree.locate false names
  match tree.node? place with
  | some _ => .error .alreadyExists
  | none => .ok (tree.put place node)

/-- Makes a link. -/
def makeLink (tree : FileTree) (target : String) (names : List String) :
    Except SystemError FileTree :=
  if target.toList.contains '\x00' then .error .zeroInName
  else if pathLimit ≤ target.utf8ByteSize then .error .nameTooLong
  else if target.isEmpty then .error .notFound
  else tree.make names (.link target)

/-- Makes a directory and those that lead to it; the names are given the innermost first. What has
been made stays when something further in cannot be made. -/
def makeDirectoriesUpward (tree : FileTree) : List String → Except SystemError Unit × FileTree
  | [] => (.ok (), tree)
  | name :: outer =>
    let names := (name :: outer).reverse
    match tree.make names .directory with
    | .ok made => (.ok (), made)
    | .error .notFound =>
      match makeDirectoriesUpward tree outer with
      | (.error error, made) => (.error error, made)
      | (.ok (), made) => settle made names (made.make names .directory)
    | .error error => settle tree names (.error error)
where
  /-- A directory that is there need not be made. -/
  settle (tree : FileTree) (names : List String) (attempt : Except SystemError FileTree) :
      Except SystemError Unit × FileTree :=
    match attempt with
    | .ok made => (.ok (), made)
    | .error error => (if tree.leadsToDirectory names then .ok () else .error error, tree)

/-- Makes a directory and those that lead to it. -/
def makeDirectories (tree : FileTree) (names : List String) :
    Except SystemError Unit × FileTree :=
  tree.makeDirectoriesUpward names.reverse

/-- The tree of some directories and those that lead to them. -/
def ofDirectories (directories : List (List String)) : FileTree :=
  directories.foldl (fun tree names => (tree.makeDirectories names).2) {}

/-- Removes an empty directory. -/
def removeDirectory (tree : FileTree) (names : List String) : Except SystemError FileTree := do
  let place ← tree.locate false names
  match tree.node? place with
  | none => .error .notFound
  | some .directory =>
    if place.isEmpty then .error .busy
    else if tree.hasChildren place then .error .notEmpty
    else .ok (tree.erase place)
  | some _ => .error .notDirectory

/-- Removes a directory with all that is in it, or a link. Links in it are removed and not
followed. -/
def removeTree (tree : FileTree) (names : List String) : Except SystemError FileTree := do
  let place ← tree.locate false names
  match tree.node? place with
  | none => .error .notFound
  | some .directory => if place.isEmpty then .error .busy else .ok (tree.eraseBelow place)
  | some (.link _) => .ok (tree.erase place)
  | some _ => .error .notDirectory

/-- Removes anything but a directory. -/
def removeFile (tree : FileTree) (names : List String) : Except SystemError FileTree := do
  let place ← tree.locate false names
  match tree.node? place with
  | none => .error .notFound
  | some .directory => .error .isDirectory
  | some _ => .ok (tree.erase place)

end FileTree

end StorageGateway

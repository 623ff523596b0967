import StorageGateway.Text.Split

/-!
# Paths

A path is absolute or relative, and a list of names. Reading the text of a path resolves it
lexically: empty names and `.` are dropped, and `..` takes back the name before it; above the root
there is nothing to take back. No file system is consulted.
-/

namespace StorageGateway

/-- A lexically resolved path. -/
structure Path where
  /-- Whether the path starts at the root. -/
  absolute : Bool
  /-- The names on the way, the outermost first; none of them is empty, `.` or `..`. -/
  names : List String
deriving DecidableEq, Repr

namespace Path

/-- Whether the text of a path starts at the root. -/
def isAbsoluteText (text : String) : Bool := text.toList.head? == some '/'

/-- The names between the slashes of a path's text, as they stand. -/
def components (text : String) : List String :=
  (Text.splitOn '/' text.toList).map String.ofList

/-- Resolves components one by one; the names kept so far stand the innermost first. -/
def resolve (kept : List String) : List String → List String
  | [] => kept.reverse
  | name :: rest =>
    if name = "" ∨ name = "." then resolve kept rest
    else if name = ".." then resolve kept.tail rest
    else resolve (name :: kept) rest

/-- The path that a text names. -/
def ofText (text : String) : Path :=
  ⟨isAbsoluteText text, resolve [] (components text)⟩

/-- The text of a path. -/
def text (path : Path) : String :=
  (if path.absolute then "/" else "") ++ "/".intercalate path.names

/-- The text of a path below a directory. An absolute path stands for itself. -/
def join (directory path : String) : String :=
  if isAbsoluteText path || directory.isEmpty then path
  else if directory.toList.getLast? == some '/' then directory ++ path
  else directory ++ "/" ++ path

end Path

end StorageGateway

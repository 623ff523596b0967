import StorageGateway.Fault

/-!
# Errors of the operating system

Why the operating system refuses an operation on a file or a socket, and the words it has for it.
-/

namespace StorageGateway

/-- Why the operating system refuses an operation. -/
inductive SystemError where
  /-- A place on the way, or the last one, does not exist. -/
  | notFound
  /-- A device is in use. -/
  | busy
  /-- There is something at the place already. -/
  | alreadyExists
  /-- Something on the way, or the last place, is no directory. -/
  | notDirectory
  /-- The place is a directory. -/
  | isDirectory
  /-- A name or the whole path is too long. -/
  | nameTooLong
  /-- A directory is not empty. -/
  | notEmpty
  /-- Too many links stand on the way. -/
  | tooManyLinks
  /-- Nobody listens on a socket. -/
  | connectionRefused
  /-- A name holds the character zero. -/
  | zeroInName
  /-- The address of a socket is too long. -/
  | addressTooLong
deriving DecidableEq, Repr

namespace SystemError

/-- An error in the words and with the number of the system. -/
def numbered (words : String) (number : Nat) : String :=
  words ++ " (os error " ++ toString number ++ ")"

/-- The message of an error. -/
def message : SystemError → String
  | .notFound => numbered "No such file or directory" 2
  | .busy => numbered "Device or resource busy" 16
  | .alreadyExists => numbered "File exists" 17
  | .notDirectory => numbered "Not a directory" 20
  | .isDirectory => numbered "Is a directory" 21
  | .nameTooLong => numbered "File name too long" 36
  | .notEmpty => numbered "Directory not empty" 39
  | .tooManyLinks => numbered "Too many levels of symbolic links" 40
  | .connectionRefused => numbered "Connection refused" 111
  | .zeroInName => "file name contained an unexpected NUL byte"
  | .addressTooLong => "path must be shorter than SUN_LEN"

/-- The fault of an operation on a path. -/
def fault (error : SystemError) (path : String) : Fault :=
  match error with
  | .notFound => .notFound path
  | other => .systemRefused other.message (some path)

end SystemError

end StorageGateway

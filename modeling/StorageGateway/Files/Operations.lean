import StorageGateway.Files.Requests
import StorageGateway.Host.Machine
import StorageGateway.Path.Roots

/-!
# Operations on files

Every path is admitted by the roots before the files are touched, and what is worked on is the
admitted path.
-/

namespace StorageGateway.Files

open Host

/-- The names of a path that may be worked on. -/
def admitted (roots : Roots) (path : String) : Except Fault (List String) :=
  if path.isEmpty then .error (.invalidArgument "path must not be empty") else roots.allow path

/-- The fault of an operation on an admitted path. -/
def fault (names : List String) (error : SystemError) : Fault :=
  error.fault (Path.text ⟨true, names⟩)

/-- The outcome of looking at files. -/
def look {α : Type} (names : List String) (question : FileTree → Except SystemError α) :
    Act Machine α := fun machine =>
  match question machine.files with
  | .ok answer => (.ok answer, machine)
  | .error error => (.error (fault names error), machine)

/-- The outcome of a change to files that is made as a whole or not at all. -/
def change (names : List String) (attempt : FileTree → Except SystemError FileTree) :
    Act Machine Unit := fun machine =>
  match attempt machine.files with
  | .ok files => (.ok (), { machine with files })
  | .error error => (.error (fault names error), machine)

/-- Whether a path leads somewhere. -/
def pathExists (roots : Roots) (path : String) : Act Machine Bool := do
  let names ← Act.ofExcept (admitted roots path)
  look names fun files => files.leadsSomewhere names

/-- Makes a directory and those that lead to it. -/
def makeDirectory (roots : Roots) (path : String) : Act Machine Unit := do
  let names ← Act.ofExcept (admitted roots path)
  fun machine =>
    let (outcome, files) := machine.files.makeDirectories names
    (outcome.mapError (fault names), { machine with files })

/-- Removes a directory. -/
def removeDirectory (roots : Roots) (request : Removal) : Act Machine Unit := do
  let names ← Act.ofExcept (admitted roots request.path)
  change names fun files =>
    if request.force then files.removeTree names else files.removeDirectory names

/-- Makes a link. -/
def makeLink (roots : Roots) (request : Linking) : Act Machine Unit := do
  let source ← Act.ofExcept (admitted roots request.source)
  let target ← Act.ofExcept (admitted roots request.target)
  change target fun files => files.makeLink (Path.text ⟨true, source⟩) target

/-- Whether there is a link at a path. -/
def isLink (roots : Roots) (path : String) : Act Machine Bool := do
  let names ← Act.ofExcept (admitted roots path)
  look names fun files => (files.find false names).map fun
    | .link _ => true
    | _ => false

end StorageGateway.Files

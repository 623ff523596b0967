import StorageGateway.Fault
import StorageGateway.Json.Reader
import StorageGateway.Version.Basic

/-!
# The written form of a version

A version is written as an optional `v`, one to three numbers with points between them, and an
optional qualifier: a dash or nothing, the word for a stage, and an optional number with a point or
nothing before it. Blanks around the whole are ignored.

The form is recognised before any number is read. Its numbers are runs of decimal digits of any
script, while a number has a value only if it is written in ASCII digits and fits 64 bits; a text of
the right form can so still fail to be a version.
-/

namespace StorageGateway.Version

/-- The parts of a text that has the written form of a version. -/
structure Shape where
  /-- The first number. -/
  major : List Char
  /-- The second number, when there is one. -/
  minor : Option (List Char)
  /-- The third number, when there is one. -/
  patch : Option (List Char)
  /-- The stage and its number, when there is one. -/
  qualifier : Option (Stage × Option (List Char))
deriving DecidableEq, Repr

namespace Shape

/-- The run of decimal digits at the front of a text, and what follows it; there is none when the
text does not start with one. -/
def run? (s : List Char) : Option (List Char × List Char) :=
  match s.takeWhile Text.isDecimalDigit with
  | [] => none
  | digits => some (digits, s.dropWhile Text.isDecimalDigit)

/-- A point and a number at the front of a text, and what follows them. -/
def pointAndRun? : List Char → Option (List Char × List Char)
  | '.' :: rest => run? rest
  | _ => none

/-- The stage whose word stands at the front of a text, and what follows it. -/
def stage? (s : List Char) : Option (Stage × List Char) :=
  Stage.all.findSome? fun stage => (Text.afterPrefix? stage.word.toList s).map (stage, ·)

/-- The number of a qualifier, which ends the text. -/
def qualifierNumber? : List Char → Option (Option (List Char))
  | [] => some none
  | s =>
    let digits := match s with
      | '.' :: rest => rest
      | other => other
    match run? digits with
    | some (number, []) => some (some number)
    | _ => none

/-- A qualifier that ends the text, or nothing when the text is empty. -/
def qualifier? : List Char → Option (Option (Stage × Option (List Char)))
  | [] => some none
  | s => do
    let word := match s with
      | '-' :: rest => rest
      | other => other
    let (stage, rest) ← stage? word
    let number ← qualifierNumber? rest
    some (some (stage, number))

/-- The parts of a text behind the optional `v`. -/
def ofNumbers? (s : List Char) : Option Shape := do
  let (major, afterMajor) ← run? s
  match pointAndRun? afterMajor with
  | none => do
    some ⟨major, none, none, ← qualifier? afterMajor⟩
  | some (minor, afterMinor) =>
    match pointAndRun? afterMinor with
    | none => do
      some ⟨major, some minor, none, ← qualifier? afterMinor⟩
    | some (patch, afterPatch) => do
      some ⟨major, some minor, some patch, ← qualifier? afterPatch⟩

/-- The parts of a text that has the written form of a version. -/
def ofText? : List Char → Option Shape
  | 'v' :: rest => ofNumbers? rest
  | s => ofNumbers? s

/-- The value of a number that may be left out. -/
def optionalWord? : Option (List Char) → Option (Option UInt64)
  | none => some none
  | some digits => (Text.readWord? digits).map some

/-- The version with the numbers of a written form, when all of them have a value. -/
def version? (shape : Shape) : Option Version := do
  let major ← Text.readWord? shape.major
  let minor ← optionalWord? shape.minor
  let patch ← optionalWord? shape.patch
  match shape.qualifier with
  | none => some ⟨major, minor.getD 0, patch.getD 0, none⟩
  | some (stage, number) => do
    some ⟨major, minor.getD 0, patch.getD 0, some ⟨stage, ← optionalWord? number⟩⟩

end Shape

/-- Why a text is not a version. -/
inductive Misread where
  /-- The text does not have the written form of a version. -/
  | form
  /-- One of the numbers has no value of 64 bits. -/
  | range
deriving DecidableEq, Repr

/-- The message of a misread version. -/
def Misread.message : Misread → String
  | .form => "expected v<major>[.<minor>[.<patch>]][alpha|beta|rc[N]]"
  | .range => "numeric component out of range"

/-- Reads a version. -/
def read (s : String) : Except Misread Version :=
  match Shape.ofText? (Text.trimBlanks s.toList) with
  | none => .error .form
  | some shape =>
    match shape.version? with
    | none => .error .range
    | some version => .ok version

/-- Reads a version, or tells which text is none. -/
def parse (s : String) : Except Fault Version :=
  match read s with
  | .ok version => .ok version
  | .error misread => .error (.misreadVersion s misread.message)

/-- A version in JSON is a string. -/
def reader : Json.Reader Version := fun origin document =>
  match Json.Reader.string origin document with
  | .error refusal => .error refusal
  | .ok s =>
    match parse s with
    | .ok version => .ok version
    | .error fault => .error (.reason fault.message)

/-- The JSON value of a version. -/
def toJson (v : Version) : Json := .string v.text

end StorageGateway.Version

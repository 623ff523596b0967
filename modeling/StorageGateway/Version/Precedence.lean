import StorageGateway.Version.Basic

/-!
# Precedence of versions

Versions are ordered by semantic-version precedence: first by their three numbers; then an unstable
version comes before the stable one; then by the identifiers of the pre-release part, from left to
right. Identifiers of digits compare as numbers, other identifiers compare as text, digits come
before text, and when all identifiers agree the longer list comes last.

The pre-release part of a version is the word for its stage and, as a second identifier, its number.
So `alpha < alpha.2 < alpha.10 < beta < rc`, and the text of that part says what the qualifier is.
-/

namespace StorageGateway.Version

/-- The identifiers of the pre-release part; none for a stable version. -/
def preRelease (v : Version) : List (List Char) :=
  match v.qualifier with
  | none => []
  | some q =>
    match q.number with
    | none => [q.stage.word.toList]
    | some n => [q.stage.word.toList, numberText n]

/-- The text of the pre-release part: its identifiers with points between them. -/
def preReleaseText (v : Version) : List Char := ['.'].intercalate v.preRelease

/-- The qualifier that the text of a pre-release part holds: the stage whose word stands before the
first point, and the number behind that point. -/
def qualifierOf? (text : List Char) : Option Qualifier :=
  if text.isEmpty then none
  else
    (Stage.ofWord? (String.ofList (text.takeWhile (· != '.')))).map fun stage =>
      { stage, number := Text.readWord? ((text.dropWhile (· != '.')).drop 1) }

/-- Compares texts by their characters, the shorter first when one begins the other. -/
def compareText : List Char → List Char → Ordering
  | [], [] => .eq
  | [], _ :: _ => .lt
  | _ :: _, [] => .gt
  | a :: as, b :: bs => (compare a.toNat b.toNat).then (compareText as bs)

/-- Compares two identifiers. Digits without leading zeros compare as numbers when the shorter run
is the lesser. -/
def compareIdentifier (a b : List Char) : Ordering :=
  match a.all Char.isDigit, b.all Char.isDigit with
  | true, true => (compare a.length b.length).then (compareText a b)
  | true, false => .lt
  | false, true => .gt
  | false, false => compareText a b

/-- Compares lists of identifiers from left to right. -/
def compareIdentifiers : List (List Char) → List (List Char) → Ordering
  | [], [] => .eq
  | [], _ :: _ => .lt
  | _ :: _, [] => .gt
  | a :: as, b :: bs => (compareIdentifier a b).then (compareIdentifiers as bs)

/-- Compares pre-release parts; having none comes last. -/
def comparePreRelease (a b : List (List Char)) : Ordering :=
  match a.isEmpty, b.isEmpty with
  | true, true => .eq
  | true, false => .gt
  | false, true => .lt
  | false, false => compareIdentifiers a b

/-- The precedence of two versions. -/
def precedence (a b : Version) : Ordering :=
  (compare a.major.toNat b.major.toNat).then <|
  (compare a.minor.toNat b.minor.toNat).then <|
  (compare a.patch.toNat b.patch.toNat).then <|
  comparePreRelease a.preRelease b.preRelease

instance : Ord Version where
  compare := precedence

/-- The precedence as a number: negative, zero or positive. -/
def comparison (a b : Version) : Int :=
  match precedence a b with
  | .lt => -1
  | .eq => 0
  | .gt => 1

/-- Whether a version is not below a minimum. -/
def atLeast (v minimum : Version) : Bool := precedence v minimum != .lt

/-- Compares qualifiers by stage and then by number; a version without a number comes before all
that have one. -/
def compareQualifier (a b : Qualifier) : Ordering :=
  (compareText a.stage.word.toList b.stage.word.toList).then <|
  match a.number, b.number with
  | none, none => .eq
  | none, some _ => .lt
  | some _, none => .gt
  | some m, some n => compare m.toNat n.toNat

/-- Compares optional qualifiers; having none comes first. -/
def compareQualifiers : Option Qualifier → Option Qualifier → Ordering
  | none, none => .eq
  | none, some _ => .lt
  | some _, none => .gt
  | some a, some b => compareQualifier a b

/-- The versions of a list in ascending order, each once. -/
def sorted (versions : List Version) : List Version :=
  merge (versions.mergeSort fun a b => precedence a b != .gt)
where
  /-- Drops a version that equals the one after it. -/
  merge : List Version → List Version
    | a :: b :: rest => if a = b then merge (b :: rest) else a :: merge (b :: rest)
    | short => short

/-- The greatest version of a list; of equal ones it does not matter which. -/
def greatest? (versions : List Version) : Option Version :=
  versions.foldl (fun best v =>
    match best with
    | none => some v
    | some b => if precedence v b == .lt then some b else some v) none

end StorageGateway.Version

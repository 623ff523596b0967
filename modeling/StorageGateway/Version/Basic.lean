import StorageGateway.Text.Numeral

/-!
# API versions

An API version has three numbers and, before it is stable, a stage with an optional number:
`v1`, `v1.2`, `v1beta2`, `v1alpha`. The text of a version leaves out what is zero at its end, so one
version has one text.
-/

namespace StorageGateway

/-- How mature an unstable version is. -/
inductive Stage where
  /-- First drafts. -/
  | alpha
  /-- Feature complete. -/
  | beta
  /-- Release candidates. -/
  | rc
deriving DecidableEq, Hashable, Repr

namespace Stage

/-- The word for a stage. -/
def word : Stage → String
  | .alpha => "alpha"
  | .beta => "beta"
  | .rc => "rc"

/-- All stages, the least mature first. -/
def all : List Stage := [.alpha, .beta, .rc]

/-- The stage that a word names. -/
def ofWord? (word : String) : Option Stage := all.find? fun stage => stage.word == word

end Stage

/-- What makes a version unstable. -/
structure Qualifier where
  /-- How mature the version is. -/
  stage : Stage
  /-- Which draft of that stage it is, when they are counted. -/
  number : Option UInt64
deriving DecidableEq, Hashable, Repr

/-- An API version. -/
structure Version where
  /-- The first number. -/
  major : UInt64
  /-- The second number. -/
  minor : UInt64 := 0
  /-- The third number. -/
  patch : UInt64 := 0
  /-- The stage of an unstable version; nothing for a stable one. -/
  qualifier : Option Qualifier := none
deriving DecidableEq, Hashable, Repr

namespace Version

/-- Whether a version is stable. -/
def isStable (v : Version) : Bool := v.qualifier.isNone

/-- The decimal digits of a number. -/
def numberText (n : UInt64) : List Char := Nat.toDigits 10 n.toNat

/-- The text of a qualifier: the word for its stage and its number. -/
def qualifierText : Option Qualifier → List Char
  | none => []
  | some q => q.stage.word.toList ++ (match q.number with | some n => numberText n | none => [])

/-- The characters of a version's text. -/
def textChars (v : Version) : List Char :=
  'v' :: numberText v.major ++
    (if v.minor != 0 || v.patch != 0 then '.' :: numberText v.minor else []) ++
    (if v.patch != 0 then '.' :: numberText v.patch else []) ++
    qualifierText v.qualifier

/-- The text of a version. -/
def text (v : Version) : String := String.ofList v.textChars

end Version

end StorageGateway

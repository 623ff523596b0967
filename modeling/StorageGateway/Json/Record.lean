import StorageGateway.Json.Reader

/-!
# Records

A record is read from an object by the names of its fields, or from an array by their order. Members
under other names are skipped. From an object, the members are examined in the order in which they
stand, and only then the missing fields are noticed, in the order of declaration; so the first
problem of the document is the one reported.

`Fields α` describes the fields that make up an `α`, and is put together like a function call:
`Mk <$> .required "a" ra <*> .required "b" rb`.
-/

namespace StorageGateway.Json

/-- The fields that make up a value. -/
structure Fields (α : Type) where
  /-- The names, in the order of declaration. -/
  names : List String
  /-- Examines what stands under one of the names. -/
  examine : String → Reader Unit
  /-- Takes the fields from members that have been examined; every name occurs once at most. -/
  ofMembers : Origin → List (String × Document) → Except Refusal α
  /-- Takes the fields from the items of an array, with the number of items taken before. The first
  argument is what a shorter array is told to be. -/
  ofItems : String → Origin → Nat → List Document → Except Refusal (α × List Document)

namespace Fields

variable {α β : Type}

/-- No field at all. -/
def none (value : α) : Fields α where
  names := []
  examine _ _ _ := .ok ()
  ofMembers _ _ := .ok value
  ofItems _ _ _ items := .ok (value, items)

/-- The fields of a function and then those of its argument. -/
def apply (f : Fields (α → β)) (x : Fields α) : Fields β where
  names := f.names ++ x.names
  examine name := if f.names.contains name then f.examine name else x.examine name
  ofMembers origin members := do
    let function ← f.ofMembers origin members
    let argument ← x.ofMembers origin members
    .ok (function argument)
  ofItems expected origin taken items := do
    let (function, items) ← f.ofItems expected origin taken items
    let (argument, items) ← x.ofItems expected origin (taken + f.names.length) items
    .ok (function argument, items)

instance : Pure Fields where
  pure := none

instance : Functor Fields where
  map f x := apply (none f) x

instance : Seq Fields where
  seq f x := apply f (x ())

/-- One field. What it is when it is absent depends on whether the fields are named or not. -/
def single (name : String) (read : Reader α) (unnamed named : Option α) : Fields α where
  names := [name]
  examine _ origin document := (read origin document).map fun _ => ()
  ofMembers origin members :=
    match members.lookup name with
    | some document => read origin document
    | Option.none =>
      match named with
      | some value => .ok value
      | Option.none => .error (.missingField name)
  ofItems expected origin taken items :=
    match items with
    | item :: rest => do .ok (← read origin item, rest)
    | [] =>
      match unnamed with
      | some value => .ok (value, [])
      | Option.none => .error (.wrongLength taken expected)

/-- A field that has to be there. -/
def required (name : String) (read : Reader α) : Fields α := single name read .none .none

/-- A field that may be missing among named ones, or `null`. -/
def optional (name : String) (read : Reader α) : Fields (Option α) :=
  single name read.optional .none (some .none)

/-- A field with a value of its own when it is missing. -/
def defaulted (name : String) (read : Reader α) (value : α) : Fields α :=
  single name read (some value) (some value)

end Fields

/-- Examines members in the order in which they stand, and keeps those with the given names. -/
def examineMembers (names : List String) (examine : String → Reader Unit) (origin : Origin)
    (kept : List (String × Document)) :
    List (Option String × Document) → Except Refusal (List (String × Document))
  | [] => .ok kept
  | (.none, _) :: _ => .error .malformed
  | (some name, document) :: rest => do
    if names.contains name then
      if (kept.lookup name).isSome then .error (.repeatedField name)
      else
        examine name origin document
        examineMembers names examine origin (kept ++ [(name, document)]) rest
    else if document.skippable then examineMembers names examine origin kept rest
    else .error .malformed

/-- What a record is called in a message. -/
def recordName (name : String) (fields : Nat) : String :=
  "struct " ++ name ++ " with " ++ toString fields ++
    (if fields == 1 then " element" else " elements")

/-- The complaint about items that no field takes. -/
def leftOver (length : Nat) : Origin → Refusal
  | .value => .wrongLength length "fewer elements in array"
  | .text _ => .malformed

/-- A record with the given name and fields. -/
def Reader.record {α : Type} (name : String) (fields : Fields α) : Reader α :=
  fun origin document =>
  match document with
  | .object members => do
    let inner ← origin.enter
    let kept ← examineMembers fields.names fields.examine inner [] members
    fields.ofMembers inner kept
  | .array items => do
    let inner ← origin.enter
    let (value, rest) ← fields.ofItems (recordName name fields.names.length) inner 0 items
    if rest.isEmpty then .ok value else .error (leftOver items.length origin)
  | other => other.refuse ("struct " ++ name)

/-- A record without fields. -/
def Reader.emptyRecord (name : String) : Reader Unit := .record name (.none ())

end StorageGateway.Json

import StorageGateway.Json.Record

/-!
# Conversion between schemas

A schema says how the values of a type are read from JSON and written to it. Versions of an API
differ in their schemas; a value goes from one to another by a conversion, which may fail and then
names the field that does not fit.

The structural conversion writes a value under one schema and reads it under another, so it matches
fields by name and checks every number against the width it has to fit.

Not every type can be written: JSON has no objects with members under anything but texts. What
writes such a type is a `Json.Writer` that may fail. A `Schema` is for the types of which every
value can be written, as all types of the APIs are.
-/

namespace StorageGateway

/-- Writes the values of a type as JSON, or tells why one of them has none. -/
abbrev Json.Writer (α : Type) := α → Except String Json

/-- How the values of a type are read from JSON and written to it, when all of them can be
written. -/
structure Schema (α : Type) where
  /-- Reads a value. -/
  read : Json.Reader α
  /-- Writes a value, with the members of objects in the order of their names. -/
  write : α → Json

namespace Schema

/-- Writes the values of a schema, each of which has its JSON. -/
def writer {α : Type} (schema : Schema α) : Json.Writer α := fun a => .ok (schema.write a)

/-- Any JSON value. -/
def json : Schema Json := ⟨.json, id⟩

/-- A string. -/
def string : Schema String := ⟨.string, .string⟩

/-- A truth value. -/
def bool : Schema Bool := ⟨.bool, .bool⟩

/-- A natural number of 16 bits. -/
def u16 : Schema UInt16 := ⟨.u16, fun n => .nat n.toNat⟩

/-- A natural number of 32 bits. -/
def u32 : Schema UInt32 := ⟨.u32, fun n => .nat n.toNat⟩

/-- A natural number of 64 bits. -/
def u64 : Schema UInt64 := ⟨.u64, fun n => .nat n.toNat⟩

/-- An integer of 64 bits. -/
def i64 : Schema Int64 := ⟨.i64, fun n => .int n.toInt⟩

/-- A list. -/
def list {α : Type} (item : Schema α) : Schema (List α) :=
  ⟨.list item.read, fun items => .array (items.map item.write)⟩

/-- Values under names; the names of the members are read and written as told. -/
def table {κ α : Type} [LT κ] [DecidableLT κ] [DecidableEq κ]
    (readName : String → Except Json.Refusal κ) (writeName : κ → String) (value : Schema α) :
    Schema (Table κ α) where
  read origin document :=
    (Json.Reader.map readName value.read origin document).map Table.ofEntries
  write entries := .ofMembers (entries.map fun entry => (writeName entry.1, value.write entry.2))

/-- Values under numbers, which are written in decimal. -/
def numbered {α : Type} (value : Schema α) : Schema (Table UInt32 α) :=
  table Json.Reader.u32Name (fun n => toString n.toNat) value

/-- Values under names. -/
def named {α : Type} (value : Schema α) : Schema (Table String α) := table .ok id value

/-- A record without fields. -/
def empty (name : String) : Schema Unit := ⟨.emptyRecord name, fun _ => .object []⟩

/-- A record with a single field. -/
def single {α : Type} (record field : String) (value : Schema α) : Schema α :=
  ⟨.record record (.required field value.read), fun a => .object [(field, value.write a)]⟩

end Schema

/-- A value that does not fit a schema. -/
structure Mismatch where
  /-- The field that does not fit; empty when it is not known. -/
  field : String
  /-- What is wrong with it. -/
  message : String
deriving DecidableEq, Repr

/-- A mismatch in words. -/
def Mismatch.describe (m : Mismatch) : String :=
  if m.field.isEmpty then m.message else m.field ++ ": " ++ m.message

/-- A conversion between the values of two schemas. -/
abbrev Conversion (α β : Type) := α → Except Mismatch β

namespace Conversion

/-- The conversion that changes nothing. -/
def same {α : Type} : Conversion α α := .ok

/-- Writes a value and reads what is written as a value of another type. -/
def throughJson {α β : Type} (write : Json.Writer α) (read : Json.Reader β) : Conversion α β :=
  fun a =>
    match write a with
    | .error message => .error ⟨"", message⟩
    | .ok json =>
      match read.ofJson json with
      | .ok b => .ok b
      | .error refusal => .error ⟨"", refusal.message⟩

/-- Writes a value under one schema and reads it under another. -/
def structural {α β : Type} (source : Schema α) (target : Schema β) : Conversion α β :=
  throughJson source.writer target.read

/-- Takes a number to a width that may be too narrow for it. -/
def narrow (width : Text.Width) (field : String) (value : Int) : Except Mismatch Int :=
  if width.holds value then .ok value
  else .error ⟨field, toString value ++ " is out of range"⟩

/-- Takes a number to 16 bits. -/
def narrowU16 (field : String) (value : UInt32) : Except Mismatch UInt16 :=
  (narrow (.unsigned 16) field value.toNat).map fun i => .ofNat i.toNat

/-- Reads a field that holds a number in decimal, with blanks around it. -/
def parseNumber (width : Text.Width) (field text : String) : Except Mismatch Int :=
  match width.read? (Text.trimBlanks text.toList) with
  | some value => .ok value
  | none => .error ⟨field, Text.quoted text ++ " is not a valid number"⟩

/-- Reads a field that holds a number of 32 bits in decimal. -/
def parseU32 (field text : String) : Except Mismatch UInt32 :=
  (parseNumber (.unsigned 32) field text).map fun i => .ofNat i.toNat

end Conversion

end StorageGateway

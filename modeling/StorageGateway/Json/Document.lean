import StorageGateway.Json.Token

/-!
# Documents

A document is a JSON text as far as it can be read, before anything is known about the shape that is
wanted. Members stand in the order of the text, repeated names included, and a place where the text
stops being JSON is part of the tree. Whoever reads a document for a certain shape walks it front to
back and so meets the first problem first, be it the text or the shape.

A JSON value is a document too, one without problems.
-/

namespace StorageGateway.Json

/-- A JSON text as far as it can be read. -/
inductive Document where
  /-- The text stops being JSON here. -/
  | broken
  /-- The value `null`. -/
  | null
  /-- A truth value. -/
  | bool (value : Bool)
  /-- A number, without a value when it is beyond the finite range. -/
  | number (value : Option JsonNumber)
  /-- A string, without a value when it is not text. -/
  | string (value : Option String)
  /-- A sequence; a broken item is the last. -/
  | array (items : List Document)
  /-- Members with their names; a name without a value is not text, and a broken member is the
  last. -/
  | object (members : List (Option String × Document))
deriving Inhabited

namespace Document

mutual

/-- Reads one value; the first argument bounds the number of steps. -/
def readValue : Nat → List Token → Document × List Token
  | 0, _ => (.broken, [])
  | fuel + 1, tokens =>
    match tokens with
    | .null :: rest => (.null, rest)
    | .bool b :: rest => (.bool b, rest)
    | .number n :: rest => (.number n, rest)
    | .string s :: rest => (.string s, rest)
    | .openArray :: .closeArray :: rest => (.array [], rest)
    | .openArray :: rest =>
      let (items, rest) := readItems fuel rest
      (.array items, rest)
    | .openObject :: .closeObject :: rest => (.object [], rest)
    | .openObject :: rest =>
      let (members, rest) := readMembers fuel rest
      (.object members, rest)
    | _ => (.broken, [])

/-- Reads the items of an array up to its closing bracket. -/
def readItems : Nat → List Token → List Document × List Token
  | 0, _ => ([.broken], [])
  | fuel + 1, tokens =>
    let (item, rest) := readValue fuel tokens
    match rest with
    | .comma :: rest =>
      let (items, rest) := readItems fuel rest
      (item :: items, rest)
    | .closeArray :: rest => ([item], rest)
    | _ => ([item, .broken], [])

/-- Reads the members of an object up to its closing brace. -/
def readMembers : Nat → List Token → List (Option String × Document) × List Token
  | 0, _ => ([(none, .broken)], [])
  | fuel + 1, tokens =>
    match tokens with
    | .string name :: .colon :: rest =>
      let (value, rest) := readValue fuel rest
      match rest with
      | .comma :: rest =>
        let (members, rest) := readMembers fuel rest
        ((name, value) :: members, rest)
      | .closeObject :: rest => ([(name, value)], rest)
      | _ => ([(name, value), (none, .broken)], [])
    | .string name :: _ => ([(name, .broken)], [])
    | _ => ([(none, .broken)], [])

end

/-- The document of a text, and whether nothing but blanks follows it. -/
def ofText (text : List Text.Glyph) : Document × Bool :=
  let tokens := Token.ofText text
  let (document, rest) := readValue (2 * tokens.length + 1) tokens
  (document, rest.isEmpty)

mutual

/-- Whether a document can be skipped: it may hold what has no value, but it is JSON to its end. -/
def skippable : Document → Bool
  | .broken => false
  | .null | .bool _ | .number _ | .string _ => true
  | .array items => skippableItems items
  | .object members => skippableMembers members
termination_by structural d => d

/-- Whether all items can be skipped. -/
def skippableItems : List Document → Bool
  | [] => true
  | item :: items => skippable item && skippableItems items
termination_by structural items => items

/-- Whether all members can be skipped. -/
def skippableMembers : List (Option String × Document) → Bool
  | [] => true
  | m :: members => skippableMember m && skippableMembers members
termination_by structural members => members

/-- Whether a member can be skipped. -/
def skippableMember : Option String × Document → Bool
  | (_, value) => skippable value
termination_by structural m => m

end

end Document

mutual

/-- A value as a document. -/
def toDocument : Json → Document
  | .null => .null
  | .bool b => .bool b
  | .number n => .number (some n)
  | .string s => .string (some s)
  | .array items => .array (itemDocuments items)
  | .object members => .object (memberDocuments members)
termination_by structural value => value

/-- The items of an array as documents. -/
def itemDocuments : List Json → List Document
  | [] => []
  | item :: items => toDocument item :: itemDocuments items
termination_by structural items => items

/-- The members of an object as documents. -/
def memberDocuments : List (String × Json) → List (Option String × Document)
  | [] => []
  | m :: members => memberDocument m :: memberDocuments members
termination_by structural members => members

/-- A member as a document. -/
def memberDocument : String × Json → Option String × Document
  | (name, value) => (some name, toDocument value)
termination_by structural m => m

end

end StorageGateway.Json

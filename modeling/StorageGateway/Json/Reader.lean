import StorageGateway.Json.Document
import StorageGateway.Text.Quoted
import StorageGateway.Text.Split

/-!
# Reading values of a known shape

A reader takes a document of a known shape to a value, or says why it cannot: the text is not JSON,
or it is JSON of the wrong shape. Readers of the basic shapes are given here; records are in
`StorageGateway.Json.Record`.

Where a document comes from makes a difference in two places. Text is read to a limited depth, and
an array with items left over ends the text that a record is read from; a value has any depth and
has its left-over items counted.
-/

namespace StorageGateway.Json

/-- What was found where something else was expected. -/
inductive Found where
  /-- The value `null`. -/
  | null
  /-- A truth value. -/
  | bool (value : Bool)
  /-- An integer. -/
  | int (value : Int)
  /-- A number that is not an integer. -/
  | float (value : Binary64)
  /-- A string. -/
  | string (value : String)
  /-- A sequence. -/
  | sequence
  /-- Named values. -/
  | map

/-- The words for what was found. -/
def Found.describe : Found → String
  | .null => "null"
  | .bool b => "boolean `" ++ (if b then "true" else "false") ++ "`"
  | .int i => "integer `" ++ toString i ++ "`"
  | .float x => "floating point `" ++ String.ofList x.render ++ "`"
  | .string s => "string " ++ Text.quoted s
  | .sequence => "sequence"
  | .map => "map"

/-- Why a document was refused. -/
inductive Refusal where
  /-- The text is not JSON. -/
  | malformed
  /-- A value of another kind was expected. -/
  | wrongKind (found : Found) (expected : String)
  /-- A value of the right kind is out of its range. -/
  | wrongValue (found : Found) (expected : String)
  /-- An array has the wrong number of items. -/
  | wrongLength (length : Nat) (expected : String)
  /-- A member is missing. -/
  | missingField (name : String)
  /-- A member of the text is repeated. -/
  | repeatedField (name : String)
  /-- The name of a member is not a number. -/
  | nameNotNumeric
  /-- A name is not among the alternatives. -/
  | unknownVariant (name : String) (known : List String)
  /-- The value does not say what it should, for a reason of its own. -/
  | reason (message : String)

/-- A list of names, each in backquotes, as alternatives. -/
def describeAlternatives (names : List String) : String :=
  let marked := names.map fun name => "`" ++ name ++ "`"
  match marked with
  | [] => "nothing"
  | [one] => one
  | [one, other] => one ++ " or " ++ other
  | many => "one of " ++ ", ".intercalate many

/-- The message of a refusal. All text that is not JSON has the same message. -/
def Refusal.message : Refusal → String
  | .malformed => "<json syntax>"
  | .wrongKind found expected => "invalid type: " ++ found.describe ++ ", expected " ++ expected
  | .wrongValue found expected => "invalid value: " ++ found.describe ++ ", expected " ++ expected
  | .wrongLength length expected =>
    "invalid length " ++ toString length ++ ", expected " ++ expected
  | .missingField name => "missing field `" ++ name ++ "`"
  | .repeatedField name => "duplicate field `" ++ name ++ "`"
  | .nameNotNumeric => "invalid value: expected key to be a number in quotes"
  | .unknownVariant name known =>
    "unknown variant `" ++ name ++ "`, expected " ++ describeAlternatives known
  | .reason message => message

/-- Where a document comes from. -/
inductive Origin where
  /-- A JSON value. -/
  | value
  /-- Text, with the number of arrays and objects that may still be entered. -/
  | text (room : Nat)

/-- The origin of what an array or object holds; there is none below the greatest depth. -/
def Origin.enter : Origin → Except Refusal Origin
  | .value => .ok .value
  | .text 0 => .error .malformed
  | .text (room + 1) => .ok (.text room)

/-- The greatest depth of arrays and objects in a text. -/
def greatestDepth : Nat := 127

/-- Reads a document of a known shape. -/
abbrev Reader (α : Type) := Origin → Document → Except Refusal α

namespace Document

/-- What a document is, when something else was expected. -/
def found : Document → Except Refusal Found
  | .broken | .number none | .string none => .error .malformed
  | .null => .ok .null
  | .bool b => .ok (.bool b)
  | .number (some (.int i)) => .ok (.int i)
  | .number (some (.float x)) => .ok (.float x)
  | .string (some s) => .ok (.string s)
  | .array _ => .ok .sequence
  | .object _ => .ok .map

/-- Refuses a document of the wrong kind. -/
def refuse {α : Type} (document : Document) (expected : String) : Except Refusal α := do
  .error (.wrongKind (← document.found) expected)

end Document

namespace Reader

/-- A truth value. -/
def bool : Reader Bool := fun _ document =>
  match document with
  | .bool b => .ok b
  | other => other.refuse "a boolean"

/-- A string. -/
def string : Reader String := fun _ document =>
  match document with
  | .string (some s) => .ok s
  | other => other.refuse "a string"

/-- An integer of a width. -/
def integer (width : Text.Width) : Reader Int := fun _ document =>
  match document with
  | .number (some (.int i)) =>
    if width.holds i then .ok i else .error (.wrongValue (.int i) width.name)
  | other => other.refuse width.name

/-- A natural number of 16 bits. -/
def u16 : Reader UInt16 := fun origin document =>
  (integer (.unsigned 16) origin document).map fun i => .ofNat i.toNat

/-- A natural number of 32 bits. -/
def u32 : Reader UInt32 := fun origin document =>
  (integer (.unsigned 32) origin document).map fun i => .ofNat i.toNat

/-- A natural number of 64 bits. -/
def u64 : Reader UInt64 := fun origin document =>
  (integer (.unsigned 64) origin document).map fun i => .ofNat i.toNat

/-- An integer of 32 bits. -/
def i32 : Reader Int32 := fun origin document =>
  (integer (.signed 32) origin document).map .ofInt

/-- An integer of 64 bits. -/
def i64 : Reader Int64 := fun origin document =>
  (integer (.signed 64) origin document).map .ofInt

/-- A value or `null`. -/
def optional {α : Type} (read : Reader α) : Reader (Option α) := fun origin document =>
  match document with
  | .null => .ok none
  | other => (read origin other).map some

/-- The items of a list, read in order. -/
def items {α : Type} (read : Reader α) (origin : Origin) : List Document → Except Refusal (List α)
  | [] => .ok []
  | item :: rest => do
    let first ← read origin item
    let others ← items read origin rest
    .ok (first :: others)

/-- A list. -/
def list {α : Type} (read : Reader α) : Reader (List α) := fun origin document =>
  match document with
  | .array documents => do items read (← origin.enter) documents
  | other => other.refuse "a sequence"

/-- The members of a map, read in order. -/
def entries {κ α : Type} (readName : String → Except Refusal κ) (read : Reader α)
    (origin : Origin) :
    List (Option String × Document) → Except Refusal (List (κ × α))
  | [] => .ok []
  | (none, _) :: _ => .error .malformed
  | (some name, value) :: rest => do
    let key ← readName name
    let first ← read origin value
    let others ← entries readName read origin rest
    .ok ((key, first) :: others)

/-- A map, with a reader for the names of its members. -/
def map {κ α : Type} (readName : String → Except Refusal κ) (read : Reader α) :
    Reader (List (κ × α)) := fun origin document =>
  match document with
  | .object members => do entries readName read (← origin.enter) members
  | other => other.refuse "a map"

/-- The name of a member that is a number of 32 bits, written as a number in JSON is. -/
def u32Name (name : String) : Except Refusal UInt32 :=
  let text := name.toList.map some
  match text with
  | some '-' :: rest => complete (Token.numeral true rest)
  | some c :: _ => if c.isDigit then complete (Token.numeral false text) else .error .nameNotNumeric
  | _ => .error .nameNotNumeric
where
  /-- The value of a number that nothing follows. -/
  complete : Option (Token.Numeral × List Text.Glyph) → Except Refusal UInt32
    | none => .error .malformed
    | some (numeral, rest) => do
      let value ← u32 .value (.number numeral.value)
      if rest.isEmpty then .ok value else .error .nameNotNumeric

/-- One of a list of named alternatives: its name, or an object with the name as its only member and
nothing in it. -/
def variant {α : Type} (known : List (String × α)) : Reader α := fun _ document =>
  match document with
  | .string (some name) => choose name
  | .object [(some name, value)] => do
    let chosen ← choose name
    match value with
    | .null => .ok chosen
    | other => other.refuse "unit"
  | .object _ => .error (.wrongValue .map "map with a single key")
  | other => other.refuse "string or map"
where
  /-- The alternative of a name. -/
  choose (name : String) : Except Refusal α :=
    match known.lookup name with
    | some chosen => .ok chosen
    | none => .error (.unknownVariant name (known.map (·.1)))

mutual

/-- Any value, as it stands. -/
def any : Document → Origin → Except Refusal Json
  | .broken, _ | .number none, _ | .string none, _ => .error .malformed
  | .null, _ => .ok .null
  | .bool b, _ => .ok (.bool b)
  | .number (some n), _ => .ok (.number n)
  | .string (some s), _ => .ok (.string s)
  | .array documents, origin => do
    let items ← anyItems documents (← origin.enter)
    .ok (.array items)
  | .object members, origin => do
    let members ← anyMembers members (← origin.enter)
    .ok (Json.ofMembers members)
termination_by structural document => document

/-- Any items. -/
def anyItems : List Document → Origin → Except Refusal (List Json)
  | [], _ => .ok []
  | document :: rest, origin => do
    let item ← any document origin
    let items ← anyItems rest origin
    .ok (item :: items)
termination_by structural documents => documents

/-- Any members. -/
def anyMembers : List (Option String × Document) → Origin → Except Refusal (List (String × Json))
  | [], _ => .ok []
  | m :: rest, origin => do
    let member ← anyMember m origin
    let members ← anyMembers rest origin
    .ok (member :: members)
termination_by structural members => members

/-- Any member whose name is text. -/
def anyMember : Option String × Document → Origin → Except Refusal (String × Json)
  | (name, value), origin => do
    match name with
    | none => .error .malformed
    | some name => .ok (name, ← any value origin)
termination_by structural m => m

end

/-- Any value, as it stands. -/
def json : Reader Json := fun origin document => any document origin

/-! ## Starting points -/

/-- Reads a JSON value. -/
def ofJson {α : Type} (read : Reader α) (value : Json) : Except Refusal α :=
  read .value value.toDocument

/-- Reads a text that holds one document and nothing else. -/
def ofGlyphs {α : Type} (read : Reader α) (text : List Text.Glyph) : Except Refusal α :=
  let (document, complete) := Document.ofText text
  match read (.text greatestDepth) document with
  | .ok value => if complete then .ok value else .error .malformed
  | .error refusal => .error refusal

/-- Reads a string that holds one document and nothing else. -/
def ofString {α : Type} (read : Reader α) (text : String) : Except Refusal α :=
  ofGlyphs read (text.toList.map some)

/-- Reads bytes that hold one document and nothing else. -/
def ofBytes {α : Type} (read : Reader α) (bytes : List UInt8) : Except Refusal α :=
  ofGlyphs read (Text.Utf8.glyphs bytes)

end Reader

/-- The value that a string holds. -/
def parse? (text : String) : Option Json := (Reader.json.ofString text).toOption

end StorageGateway.Json

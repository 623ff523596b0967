import StorageGateway.Json.Binary64
import StorageGateway.Table

/-!
# JSON values

A JSON value whose objects list their members in ascending order of their names, each name once. The
order is the one in which a value is written and in which its members are examined, so two values
that hold the same members are written alike and complain alike.
-/

namespace StorageGateway

/-- A JSON number. -/
inductive JsonNumber where
  /-- An integer from `-2 ^ 63` to `2 ^ 64 - 1`. -/
  | int (value : Int)
  /-- Any other finite number. -/
  | float (value : Binary64)
deriving DecidableEq, Repr

/-- A JSON value. -/
inductive Json where
  /-- The value `null`. -/
  | null
  /-- A truth value. -/
  | bool (value : Bool)
  /-- A number. -/
  | number (value : JsonNumber)
  /-- A string. -/
  | string (value : String)
  /-- A sequence of values. -/
  | array (items : List Json)
  /-- Named values. -/
  | object (members : List (String × Json))
deriving Repr, Inhabited

namespace Json

/-- An integer as a JSON value. -/
def int (value : Int) : Json := .number (.int value)

/-- A natural number as a JSON value. -/
def nat (value : Nat) : Json := .int value

/-- The object with the given members; of two members with one name the last one counts. -/
def ofMembers (members : List (String × Json)) : Json := .object (Table.ofEntries members)

/-- The member of an object with the given name. -/
def member? (name : String) : Json → Option Json
  | .object members => members.lookup name
  | _ => none

/-- The text of a string value. -/
def text? : Json → Option String
  | .string s => some s
  | _ => none

/-- The value of an integer. -/
def int? : Json → Option Int
  | .number (.int i) => some i
  | _ => none

/-- The items of an array; none for any other value. -/
def items : Json → List Json
  | .array items => items
  | _ => []

/-- The text of a member that is a string. -/
def textMember? (name : String) (value : Json) : Option String :=
  (value.member? name).bind text?

/-- A value that may be absent, with `null` standing for nothing. -/
def orNull : Option Json → Json
  | some value => value
  | none => .null

end Json

end StorageGateway

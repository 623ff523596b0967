/-!
# Cutting text into pieces

Text is cut at every character of a class; the separators are dropped and empty pieces are kept, so
the pieces joined by one separator give the text back when the class has a single member. Words are
the pieces between blanks that are not empty.
-/

namespace StorageGateway.Text

/-- A blank character: the Unicode property White_Space. -/
def isBlank (c : Char) : Bool :=
  let n := c.toNat
  (9 ≤ n && n ≤ 13) || n == 0x20 || n == 0x85 || n == 0xA0 || n == 0x1680 ||
    (0x2000 ≤ n && n ≤ 0x200A) || n == 0x2028 || n == 0x2029 || n == 0x202F || n == 0x205F ||
    n == 0x3000

/-- The pieces of a text between the characters of a class. -/
def splitWhere (separates : Char → Bool) : List Char → List (List Char)
  | [] => [[]]
  | c :: rest =>
    if separates c then [] :: splitWhere separates rest
    else match splitWhere separates rest with
      | [] => [[c]]
      | piece :: pieces => (c :: piece) :: pieces

/-- The pieces of a text between occurrences of one character. -/
def splitOn (separator : Char) (s : List Char) : List (List Char) :=
  splitWhere (· == separator) s

/-- The words of a text: its non-empty pieces between blanks. -/
def words (s : List Char) : List (List Char) :=
  (splitWhere isBlank s).filter (!·.isEmpty)

/-- A text without the blanks around it. -/
def trimBlanks (s : List Char) : List Char :=
  ((s.dropWhile isBlank).reverse.dropWhile isBlank).reverse

/-- A string without the blanks around it. -/
def trim (s : String) : String :=
  String.ofList (trimBlanks s.toList)

/-- A string that holds nothing but blanks. -/
def isBlankText (s : String) : Bool :=
  (trimBlanks s.toList).isEmpty

/-- The rest of a text after a beginning, when it has that beginning. -/
def afterPrefix? : List Char → List Char → Option (List Char)
  | [], s => some s
  | p :: ps, c :: cs => if p == c then afterPrefix? ps cs else none
  | _ :: _, [] => none

/-- A string without the given beginning; unchanged when it does not have it. -/
def withoutPrefix (beginning s : String) : String :=
  match afterPrefix? beginning.toList s.toList with
  | some rest => String.ofList rest
  | none => s

end StorageGateway.Text

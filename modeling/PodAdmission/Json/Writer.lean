import PodAdmission.Json.Value
import PodAdmission.Number.Shortest
import PodAdmission.Text.Ascii

/-!
# Writing JSON

The compact text of a value: no white space, members in the order in which they are kept. A text
escapes the quote, the backslash and the bytes below `0x20` and nothing else.

`Json.objectOf` and `Json.listOf` put together values that are written already; the writers of
review envelopes and patches use them too.
-/

namespace PodAdmission.Json

open Ascii

/-- How a byte of a text is written between quotes. -/
def escapeByte (b : UInt8) : Bytes :=
  if b = quote then [backslash, quote]
  else if b = backslash then [backslash, backslash]
  else if b = backspace then [backslash, lowerB]
  else if b = formFeed then [backslash, lowerF]
  else if b = newline then [backslash, lowerN]
  else if b = carriageReturn then [backslash, lowerR]
  else if b = tab then [backslash, lowerT]
  else if b < space then
    [backslash, lowerU, zero, zero, hexDigit (b.toNat / 16), hexDigit (b.toNat % 16)]
  else [b]

/-- A text between quotes. -/
def writeText (s : String) : Bytes :=
  quote :: (Utf8.encode s).flatMap escapeByte ++ [quote]

/-- A whole number in decimal. -/
def writeWhole (n : Int) : Bytes :=
  if n < 0 then minus :: decimal n.natAbs else decimal n.natAbs

/-- A number. -/
def writeNumber : Number → Bytes
  | .whole n => writeWhole n
  | .real x => Utf8.encode x.render

/-- A truth value. -/
def writeBool (b : Bool) : Bytes :=
  if b then trueWord else falseWord

/-- Written values with a comma between any two. -/
def separated : List Bytes → Bytes
  | [] => []
  | [x] => x
  | x :: y :: rest => x ++ comma :: separated (y :: rest)

/-- A list of written values. -/
def listOf (items : List Bytes) : Bytes :=
  openList :: separated items ++ [closeList]

/-- A written value under its key. -/
def memberOf (key : String) (value : Bytes) : Bytes :=
  writeText key ++ colon :: value

/-- An object of written values, in the order given. -/
def objectOf (members : List (String × Bytes)) : Bytes :=
  openObject :: separated (members.map fun (k, v) => memberOf k v) ++ [closeObject]

mutual

/-- The compact text of a value. -/
def write : Json → Bytes
  | .null => nullWord
  | .bool b => writeBool b
  | .number n => writeNumber n
  | .text s => writeText s
  | .list items => listOf (writeItems items)
  | .object members => objectOf (writeMembers members)

/-- The texts of the items of a list. -/
def writeItems : List Json → List Bytes
  | [] => []
  | x :: rest => write x :: writeItems rest

/-- The texts of the members of an object. -/
def writeMembers : List (String × Json) → List (String × Bytes)
  | [] => []
  | (k, x) :: rest => (k, write x) :: writeMembers rest

end

end PodAdmission.Json

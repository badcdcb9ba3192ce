import PodAdmission.Json.Value
import PodAdmission.Number.Shortest
import PodAdmission.Text.Quoted
import PodAdmission.Text.Utf8

/-!
# Faults of a document

What can be wrong with a JSON text, and where. A reader works on the bytes that are left, so a
`Fault` says where it lies by the number of bytes behind it; `Fault.locate` turns that into a line
and a column of the whole text.

A fault about a byte that was only looked at lies just behind that byte (`Fault.ahead`); any other
lies behind the bytes consumed (`Fault.here`). A text of the document may itself hold a document,
and a fault of that one is placed in it (`Fault.embedded`).
-/

namespace PodAdmission

/-- What is wrong with a document. -/
inductive Cause where
  | endInValue
  | endInList
  | endInObject
  | endInText
  | expectedValue
  | expectedWord
  | expectedColon
  | expectedListEnd
  | expectedObjectEnd
  | expectedKey
  | trailingComma
  | trailingText
  | malformedNumber
  | numberOutOfRange
  | malformedEscape
  | loneSurrogate
  | halfSurrogatePair
  | controlCharacter
  | notUtf8
  | tooDeep
  | wrongType (found : Json) (wanted : String)
  | wrongValue (found : Json) (wanted : String)
  | missingField (key : String)
  | duplicateField (key : String)
  | wrongLength (found : Nat) (wanted : String)
  | unknownVariant (found : String) (known : List String)
  | malformedContent (why : String)

namespace Cause

/-- How a message names a value that is not what it should be. -/
def describe : Json → String
  | .null => "null"
  | .bool b => "boolean `" ++ (if b then "true" else "false") ++ "`"
  | .number (.whole n) => "integer `" ++ toString n ++ "`"
  | .number (.real x) => "floating point `" ++ x.render ++ "`"
  | .text s => "string " ++ Text.quoted s
  | .list _ => "sequence"
  | .object _ => "map"

/-- How a message lists the variants that it knows. -/
def listVariants (known : List String) : String :=
  let names := known.map fun v => "`" ++ v ++ "`"
  match names with
  | [] => "there are no variants"
  | [a] => "expected " ++ a
  | [a, b] => "expected " ++ a ++ " or " ++ b
  | names => "expected one of " ++ ", ".intercalate names

/-- The wording of a cause. -/
def message : Cause → String
  | .endInValue => "EOF while parsing a value"
  | .endInList => "EOF while parsing a list"
  | .endInObject => "EOF while parsing an object"
  | .endInText => "EOF while parsing a string"
  | .expectedValue => "expected value"
  | .expectedWord => "expected ident"
  | .expectedColon => "expected `:`"
  | .expectedListEnd => "expected `,` or `]`"
  | .expectedObjectEnd => "expected `,` or `\x7d`"
  | .expectedKey => "key must be a string"
  | .trailingComma => "trailing comma"
  | .trailingText => "trailing characters"
  | .malformedNumber => "invalid number"
  | .numberOutOfRange => "number out of range"
  | .malformedEscape => "invalid escape"
  | .loneSurrogate => "lone leading surrogate in hex escape"
  | .halfSurrogatePair => "unexpected end of hex escape"
  | .controlCharacter => "control character (\\u0000-\\u001F) found while parsing a string"
  | .notUtf8 => "invalid unicode code point"
  | .tooDeep => "recursion limit exceeded"
  | .wrongType found wanted => "invalid type: " ++ describe found ++ ", expected " ++ wanted
  | .wrongValue found wanted => "invalid value: " ++ describe found ++ ", expected " ++ wanted
  | .missingField key => "missing field `" ++ key ++ "`"
  | .duplicateField key => "duplicate field `" ++ key ++ "`"
  | .wrongLength found wanted => "invalid length " ++ toString found ++ ", expected " ++ wanted
  | .unknownVariant found known => "unknown variant `" ++ found ++ "`, " ++ listVariants known
  | .malformedContent why => why

end Cause

/-- A fault of a whole text, with the line and the column of its place. -/
structure JsonError where
  cause : Cause
  line : Nat
  column : Nat

namespace JsonError

/-- The wording of a fault and its place. -/
def message (e : JsonError) : String :=
  e.cause.message ++ " at line " ++ toString e.line ++ " column " ++ toString e.column

end JsonError

/-- What stops a reader. -/
inductive Fault where
  /-- A cause and the number of bytes behind the place where it was noticed. -/
  | noticed (cause : Cause) (left : Nat)
  /-- A fault of a text that is read on its own; it keeps its place in that text. -/
  | embedded (error : JsonError)

namespace Fault

/-- A fault behind the bytes consumed. -/
def here (cause : Cause) (rest : Bytes) : Fault :=
  .noticed cause rest.length

/-- A fault about the next byte, if there is one. -/
def ahead (cause : Cause) (rest : Bytes) : Fault :=
  .noticed cause (rest.length - 1)

end Fault

/-- The line and the column, in bytes, behind some bytes of a text; lines count from one. -/
def placeAfter (bytes : Bytes) : Nat × Nat :=
  bytes.foldl
    (fun (place : Nat × Nat) b =>
      if b = 0x0A then (place.1 + 1, 0) else (place.1, place.2 + 1))
    (1, 0)

/-- The place of a fault in a text. -/
def Fault.locate (text : Bytes) : Fault → JsonError
  | .noticed cause left =>
    let (line, column) := placeAfter (text.take (text.length - left))
    ⟨cause, line, column⟩
  | .embedded error => error

end PodAdmission

import PodAdmission.Json.Reader.Skip
import PodAdmission.Json.Reader.Value
import PodAdmission.Schema.Shape

/-!
# Reading against a shape

`Shape.read` reads a document from left to right against a shape and answers the datum or the first
fault, be it of the text or of the type of a value.

A record is read leniently: the order of its keys does not matter, values under unknown keys are
passed over, `null` is the same as leaving the field out, and a later value under a key takes the
place of an earlier one. Some records have fixed members besides, which may be left out but have to
hold a certain text if they are there; they are no part of the datum.
-/

namespace PodAdmission

namespace Reader

open Ascii

/-- The whole number of 32 bits that a value is. -/
def acceptInt32 : Json → Except Cause Datum
  | .number (.whole n) =>
    if Shape.IsInt32 n then .ok (.whole n)
    else .error (.wrongValue (.number (.whole n)) "i32")
  | found => .error (.wrongType found "i32")

/-- The whole number of 64 bits that a value is. -/
def acceptInt64 : Json → Except Cause Datum
  | .number (.whole n) =>
    if Shape.IsInt64 n then .ok (.whole n)
    else .error (.wrongValue (.number (.whole n)) "i64")
  | found => .error (.wrongType found "i64")

/-- The whole number of 32 bits or the text that a value is. -/
def acceptIntOrText : Json → Except Cause Datum
  | .text s => .ok (.text s)
  | .number (.whole n) =>
    if Shape.IsInt32 n then .ok (.whole n)
    else .error (.wrongValue (.number (.whole n)) "a 32-bit integer")
  | found => .error (.wrongType found "IntOrString")

/-- What a text has to be to stand for an instant. -/
def instantText : String := "an RFC 3339 formatted date and time string"

/-- The instant that a value stands for. -/
def acceptTime : Json → Except Cause Datum
  | .text s =>
    match Instant.read s with
    | .ok t => .ok (.time t)
    | .error fault => .error (.malformedContent fault.message)
  | found => .error (.wrongType found instantText)

/-- Reads a string map, its values one level deeper. -/
def readDict (item : Nat → Bytes → Read Datum) (depth : Nat) (bytes : Bytes) : Read Datum :=
  match skipSpace bytes with
  | [] => .error (.ahead .endInValue [])
  | b :: rest =>
    if b = openObject then
      match depth with
      | 0 => .error (.ahead .tooDeep (b :: rest))
      | depth + 1 =>
        (readMembers (addMember (item depth)) true [] rest rest).map
          fun (entries, r) => (.record entries, r)
    else readAs "a map" (refuse "a map") (b :: rest)

/-- Reads a member of a record. -/
def readField (fixed : List (String × String)) (readers : List (String × (Bytes → Read Datum)))
    (record : Record) (key : String) (bytes : Bytes) : Read Record :=
  match readColon bytes with
  | .error fault => .error fault
  | .ok rest =>
    match Entries.get? key readers with
    | some read =>
      match readOptional read rest with
      | .error fault => .error fault
      | .ok (some d, rest) => .ok (Entries.insert key d record, rest)
      | .ok (none, rest) => .ok (Entries.erase key record, rest)
    | none =>
      match Entries.get? key fixed with
      | some value =>
        match readAs "a string" acceptText rest with
        | .error fault => .error fault
        | .ok (s, rest) =>
          if s = value then .ok (record, rest)
          else .error (.here (.wrongValue (.text s) value) (pastObject rest))
      | none => (skipValue rest).map fun rest => (record, rest)

/-- Reads the members of a record, their values one level deeper. -/
def readRecord (name : String) (fixed : List (String × String))
    (readers : Nat → List (String × (Bytes → Read Datum))) (depth : Nat) (bytes : Bytes) :
    Read Record :=
  match skipSpace bytes with
  | [] => .error (.ahead .endInValue [])
  | b :: rest =>
    if b = openObject then
      match depth with
      | 0 => .error (.ahead .tooDeep (b :: rest))
      | depth + 1 => readMembers (readField fixed (readers depth)) true [] rest rest
    else if b = openList then
      match depth with
      | 0 => .error (.ahead .tooDeep (b :: rest))
      | _ + 1 => .error (.here (.wrongType (.list []) name) (pastList rest))
    else readAs name (refuse name) (b :: rest)

/-- Reads a whole number of 32 bits or a text. A bracket is taken before it is refused. -/
def readIntOrText (depth : Nat) (bytes : Bytes) : Read Datum :=
  match skipSpace bytes with
  | [] => .error (.ahead .endInValue [])
  | b :: rest =>
    if b = openList ∨ b = openObject then
      match depth with
      | 0 => .error (.ahead .tooDeep (b :: rest))
      | _ + 1 =>
        if b = openList then .error (.here (.wrongType (.list []) "IntOrString") (pastList rest))
        else .error (.here (.wrongType (.object []) "IntOrString") (pastObject rest))
    else readAs "IntOrString" acceptIntOrText (b :: rest)

end Reader

namespace Shape

open Reader

mutual

/-- Reads a datum of a shape in which brackets are nested at most as deep as given. -/
def read : Shape → (depth : Nat) → Bytes → Read Datum
  | .text, _, bytes => (readAs "a string" acceptText bytes).map fun (s, r) => (.text s, r)
  | .flag, _, bytes => (readAs "a boolean" acceptBool bytes).map fun (b, r) => (.flag b, r)
  | .int32, _, bytes => readAs "i32" acceptInt32 bytes
  | .int64, _, bytes => readAs "i64" acceptInt64 bytes
  | .intOrText, depth, bytes => readIntOrText depth bytes
  | .time, _, bytes => readAs instantText acceptTime bytes
  | .free, depth, bytes => (readValue depth bytes).map fun (j, r) => (.free j, r)
  | .list item, depth, bytes =>
    (readList (read item) depth bytes).map fun (items, r) => (.list items, r)
  | .dict item, depth, bytes => readDict (read item) depth bytes
  | .record name fields, depth, bytes =>
    (readRecord name [] (readers fields) depth bytes).map
      fun (given, r) => (.record (complete fields given), r)

/-- The readers of the fields of a record. -/
def readers : List (String × Presence × Shape) → (depth : Nat) →
    List (String × (Bytes → Read Datum))
  | [], _ => []
  | (name, _, shape) :: rest, depth => (name, read shape depth) :: readers rest depth

end

end Shape

end PodAdmission

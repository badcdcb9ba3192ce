import PodAdmission.Json.Reader.Bracket

/-!
# Reading values

`Json.read` reads a document as a value. `Reader.readAs` reads a value without parts that has to
be of a certain kind, and `Reader.readWhole` runs any reader on a whole text: nothing may follow
but white space, and a fault is answered with its line and column.

Brackets may be nested to a depth of `Reader.maxDepth`. An object whose first key is
`Json.embeddingKey` stands for the document in the text under that key, which is read on its own:
it may again be nested to that depth, and its faults are placed in it.
-/

namespace PodAdmission

namespace Reader

open Ascii

/-- How many brackets may be open at once. -/
def maxDepth : Nat := 127

/-! ### Values of a certain kind -/

/-- Reads a value without parts and asks whether it will do. -/
def readAs {α : Type} (wanted : String) (accept : Json → Except Cause α) (bytes : Bytes) :
    Read α :=
  match skipSpace bytes with
  | [] => .error (.ahead .endInValue [])
  | b :: rest =>
    if b = openList then .error (.here (.wrongType (.list []) wanted) (b :: rest))
    else if b = openObject then .error (.here (.wrongType (.object []) wanted) (b :: rest))
    else
      match readLeaf b rest with
      | .error fault => .error fault
      | .ok (value, rest) =>
        match accept value with
        | .ok a => .ok (a, rest)
        | .error cause => .error (.here cause rest)

/-- The text of a value. -/
def acceptText : Json → Except Cause String
  | .text s => .ok s
  | found => .error (.wrongType found "a string")

/-- The truth value of a value. -/
def acceptBool : Json → Except Cause Bool
  | .bool b => .ok b
  | found => .error (.wrongType found "a boolean")

/-- The text of a document in a text. -/
def acceptEmbedded : Json → Except Cause Bytes
  | .text s => .ok (Utf8.encode s)
  | found => .error (.wrongType found "raw value")

/-- Refuses every value without parts. -/
def refuse {α : Type} (wanted : String) (found : Json) : Except Cause α :=
  .error (.wrongType found wanted)

/-- Reads a list, its items one level deeper. -/
def readList {α : Type} (item : Nat → Bytes → Read α) (depth : Nat) (bytes : Bytes) :
    Read (List α) :=
  match skipSpace bytes with
  | [] => .error (.ahead .endInValue [])
  | b :: rest =>
    if b = openList then
      match depth with
      | 0 => .error (.ahead .tooDeep (b :: rest))
      | depth + 1 => readItems (item depth) true [] rest rest
    else readAs "a sequence" (refuse "a sequence") (b :: rest)

/-- Reads `null` as nothing. -/
def readOptional {α : Type} (read : Bytes → Read α) (bytes : Bytes) : Read (Option α) :=
  match skipSpace bytes with
  | [] => (read []).map fun (a, r) => (some a, r)
  | b :: rest =>
    if b = lowerN then (readWord nullWord.tail rest).map fun r => (none, r)
    else (read (b :: rest)).map fun (a, r) => (some a, r)

/-- Runs a reader on a whole text. -/
def readWhole {α : Type} (read : Bytes → Read α) (text : Bytes) : Except JsonError α :=
  match read text with
  | .error fault => .error (fault.locate text)
  | .ok (a, rest) =>
    match skipSpace rest with
    | [] => .ok a
    | rest => .error ((Fault.ahead .trailingText rest).locate text)

/-! ### Values of any kind -/

/-- How a text that holds a document is read. If none is given, the object around it is one like
any other. -/
abbrev Embedding := Option (Bytes → Except JsonError Json)

/-- Adds a member to an object, a later one taking the place of an earlier one. -/
def addMember {α : Type} (value : Bytes → Read α) (members : Entries α) (key : String)
    (bytes : Bytes) : Read (Entries α) :=
  match readColon bytes with
  | .error fault => .error fault
  | .ok rest =>
    match value rest with
    | .error fault => .error fault
    | .ok (v, rest) => .ok (members.insert key v, rest)

/-- Reads an object that stands for a document in a text, the key before the text being taken. -/
def readEmbedded (embedded : Bytes → Except JsonError Json) (bytes : Bytes) : Read Json :=
  match readColon bytes with
  | .error fault => .error fault
  | .ok rest =>
    match readAs "raw value" acceptEmbedded rest with
    | .error fault => .error fault
    | .ok (text, rest) =>
      match embedded text with
      | .error error => .error (.embedded error)
      | .ok value => (readObjectEnd rest).map fun r => (value, r)

/-- Reads any value in which brackets are nested at most as deep as given. -/
def readValueWith (embedding : Embedding) (depth : Nat) (bytes : Bytes) : Read Json :=
  match skipSpace bytes with
  | [] => .error (.ahead .endInValue [])
  | b :: rest =>
    if b = openList then
      match depth with
      | 0 => .error (.ahead .tooDeep (b :: rest))
      | depth + 1 =>
        (readItems (readValueWith embedding depth) true [] rest rest).map
          fun (items, r) => (.list items, r)
    else if b = openObject then
      match depth with
      | 0 => .error (.ahead .tooDeep (b :: rest))
      | depth + 1 =>
        match embedding, behindKey? Json.embeddingKey rest with
        | some embedded, some behind => readEmbedded embedded behind
        | _, _ =>
          (readMembers (addMember (readValueWith embedding depth)) true [] rest rest).map
            fun (members, r) => (.object members, r)
    else readLeaf b rest

/-- Reads a text of a document, which is shorter than the document. -/
def within (document : Bytes) (read : Bytes → Except JsonError Json) (text : Bytes) :
    Except JsonError Json :=
  if text.length < document.length then read text
  else .error ((Fault.ahead .endInValue []).locate text)

end Reader

/-- Reads a document as a value, documents in texts being at most as many levels deep as given. -/
def Json.readNested : (levels : Nat) → Bytes → Except JsonError Json
  | 0, bytes => Reader.readWhole (Reader.readValueWith none Reader.maxDepth) bytes
  | levels + 1, bytes =>
    Reader.readWhole
      (Reader.readValueWith (some (Reader.within bytes (readNested levels))) Reader.maxDepth) bytes

/-- Reads a document as a value. A text in it is shorter than the document, so the length of the
document bounds the levels of documents in texts. -/
def Json.read (bytes : Bytes) : Except JsonError Json :=
  Json.readNested bytes.length bytes

namespace Reader

/-- Reads any value in which brackets are nested at most as deep as given. -/
def readValue (depth : Nat) (bytes : Bytes) : Read Json :=
  readValueWith (some Json.read) depth bytes

/-- Reads any value and leaves documents in texts as they are. -/
def readPlain (depth : Nat) (bytes : Bytes) : Read Json :=
  readValueWith none depth bytes

end Reader

/-! ### Documents in texts of a value -/

namespace Json

open Reader

mutual

/-- Puts documents in texts in the place of the objects that stand for them. A fault of such an
object is placed before the bytes given. -/
def unembed (rest : Bytes) : Json → Except Fault Json
  | .list items => (unembedItems rest [] items).map .list
  | .object ((key, value) :: others) =>
    if key = embeddingKey then
      match acceptEmbedded value with
      | .error cause => .error (.here cause rest)
      | .ok document =>
        match read document with
        | .error error => .error (.embedded error)
        | .ok inner =>
          if others.isEmpty then .ok inner
          else .error (.here (.wrongLength (others.length + 1) "1 element in map") rest)
    else (unembedMembers rest [] ((key, value) :: others)).map .object
  | j => .ok j

/-- The same for the items of a list, those in `seen` being done and in reverse. -/
def unembedItems (rest : Bytes) (seen : List Json) : List Json → Except Fault (List Json)
  | [] => .ok seen.reverse
  | x :: items =>
    match unembed rest x with
    | .error fault => .error fault
    | .ok y => unembedItems rest (y :: seen) items

/-- The same for the members of an object. -/
def unembedMembers (rest : Bytes) (seen : List (String × Json)) :
    List (String × Json) → Except Fault (List (String × Json))
  | [] => .ok seen.reverse
  | (key, x) :: members =>
    match unembed rest x with
    | .error fault => .error fault
    | .ok y => unembedMembers rest ((key, y) :: seen) members

end

end Json

end PodAdmission

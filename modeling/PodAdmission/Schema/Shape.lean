import PodAdmission.Instant
import PodAdmission.Json.Value

/-!
# Shapes and data

A `Shape` says what may stand at a place of an object: a text, a number of a certain width, a list,
a record with named fields, and so on. A `Datum` is a value that has been read against a shape. The
fields of a record and the entries of a string map are kept in ascending order of keys, which is
the order of the field tables too.

`Shape.Fits` says which data belong to a shape: all that its reader answers.
-/

namespace PodAdmission

/-- Whether a field is always there. A required field that a document leaves out has a default. -/
inductive Presence where
  | required
  | optional
  deriving DecidableEq

/-- What may stand at a place of an object. -/
inductive Shape where
  | text
  | flag
  | int32
  | int64
  /-- A whole number of 32 bits or a text. -/
  | intOrText
  | time
  /-- Any JSON value. -/
  | free
  | list (item : Shape)
  | dict (item : Shape)
  | record (name : String) (fields : List (String × Presence × Shape))

/-- A value read against a shape. -/
inductive Datum where
  | text (s : String)
  | flag (b : Bool)
  | whole (n : Int)
  | time (t : Instant)
  | free (j : Json)
  | list (items : List Datum)
  | record (fields : List (String × Datum))

/-- The fields of a record that are there. -/
abbrev Record := List (String × Datum)

instance : Inhabited Datum := ⟨.record []⟩

namespace Shape

/-- A quantity is kept as it is spelled. -/
abbrev quantity : Shape := .text

/-- A field that may be left out. -/
abbrev optional (name : String) (shape : Shape) : String × Presence × Shape :=
  (name, .optional, shape)

/-- A field that is always there. -/
abbrev required (name : String) (shape : Shape) : String × Presence × Shape :=
  (name, .required, shape)

mutual

/-- What a required field holds if nothing is given for it. -/
def default : Shape → Datum
  | .text => .text ""
  | .flag => .flag false
  | .int32 => .whole 0
  | .int64 => .whole 0
  | .intOrText => .whole 0
  | .time => .time ⟨1970, 1, 1, 0, 0, 0, 0⟩
  | .free => .free .null
  | .list _ => .list []
  | .dict _ => .record []
  | .record _ fields => .record (defaults fields)

/-- The required fields of a record and their defaults. -/
def defaults : List (String × Presence × Shape) → Record
  | [] => []
  | (name, .required, shape) :: rest => (name, default shape) :: defaults rest
  | (_, .optional, _) :: rest => defaults rest

end

/-- Fields with the defaults of those that are required and not there. -/
def complete (fields : List (String × Presence × Shape)) (given : Record) : Record :=
  (defaults fields).foldl
    (fun given (name, value) =>
      match Entries.get? name given with
      | some _ => given
      | none => Entries.insert name value given)
    given

/-- A whole number of 32 bits. -/
def IsInt32 (n : Int) : Prop := -0x80000000 ≤ n ∧ n < 0x80000000

/-- A whole number of 64 bits. -/
def IsInt64 (n : Int) : Prop := -0x8000000000000000 ≤ n ∧ n < 0x8000000000000000

instance (n : Int) : Decidable (IsInt32 n) := inferInstanceAs (Decidable (_ ∧ _))

instance (n : Int) : Decidable (IsInt64 n) := inferInstanceAs (Decidable (_ ∧ _))

mutual

/-- The datum belongs to the shape. -/
def Fits : Shape → Datum → Prop
  | .text, .text _ => True
  | .flag, .flag _ => True
  | .int32, .whole n => IsInt32 n
  | .int64, .whole n => IsInt64 n
  | .intOrText, .whole n => IsInt32 n
  | .intOrText, .text _ => True
  | .time, .time _ => True
  | .free, .free _ => True
  | .list item, .list items => ∀ d ∈ items, Fits item d
  | .dict item, .record entries =>
    Entries.Ascending entries ∧ ∀ e ∈ entries, Fits item e.2
  | .record _ fields, .record entries =>
    Entries.Ascending entries ∧ (∀ e ∈ entries, ∃ f ∈ fields, f.1 = e.1) ∧
      FitsFields fields entries
  | _, _ => False

/-- Every field of the table that is there belongs to its shape, and the required ones are there. -/
def FitsFields : List (String × Presence × Shape) → Record → Prop
  | [], _ => True
  | (name, presence, shape) :: rest, given =>
    (match Entries.get? name given with
      | some d => Fits shape d
      | none => presence = .optional) ∧ FitsFields rest given

end

end Shape

namespace Datum

mutual

/-- Equality of data. Free values are compared as JSON values. -/
def same : Datum → Datum → Bool
  | .text s, .text t => s == t
  | .flag a, .flag b => a == b
  | .whole m, .whole n => m == n
  | .time s, .time t => s == t
  | .free j, .free k => j.same k
  | .list xs, .list ys => sameItems xs ys
  | .record xs, .record ys => sameFields xs ys
  | _, _ => false

/-- Equality of lists of data. -/
def sameItems : List Datum → List Datum → Bool
  | [], [] => true
  | x :: xs, y :: ys => same x y && sameItems xs ys
  | _, _ => false

/-- Equality of records. -/
def sameFields : List (String × Datum) → List (String × Datum) → Bool
  | [], [] => true
  | (k, x) :: xs, (l, y) :: ys => k == l && same x y && sameFields xs ys
  | _, _ => false

end

mutual

/-- The JSON value that a datum is written as. An instant is written to the second. -/
def toJson : Datum → Json
  | .text s => .text s
  | .flag b => .bool b
  | .whole n => .number (.whole n)
  | .time t => .text t.render
  | .free j => j
  | .list items => .list (itemsToJson items)
  | .record fields => .object (fieldsToJson fields)

/-- The JSON values of a list of data. -/
def itemsToJson : List Datum → List Json
  | [] => []
  | d :: rest => d.toJson :: itemsToJson rest

/-- The members that a record is written as. -/
def fieldsToJson : List (String × Datum) → List (String × Json)
  | [] => []
  | (k, d) :: rest => (k, d.toJson) :: fieldsToJson rest

end

/-! ### Views -/

/-- The text of a datum that is one. -/
def asText? : Datum → Option String
  | .text s => some s
  | _ => none

/-- The truth value of a datum that is one. -/
def asFlag? : Datum → Option Bool
  | .flag b => some b
  | _ => none

/-- The whole number of a datum that is one. -/
def asWhole? : Datum → Option Int
  | .whole n => some n
  | _ => none

/-- The items of a datum that is a list. -/
def asList? : Datum → Option (List Datum)
  | .list items => some items
  | _ => none

/-- The fields of a datum that is a record. -/
def asRecord? : Datum → Option Record
  | .record fields => some fields
  | _ => none

end Datum

namespace Record

/-- The text in a field. -/
def text? (name : String) (r : Record) : Option String :=
  (Entries.get? name r).bind Datum.asText?

/-- The truth value in a field. -/
def flag? (name : String) (r : Record) : Option Bool :=
  (Entries.get? name r).bind Datum.asFlag?

/-- The whole number in a field. -/
def whole? (name : String) (r : Record) : Option Int :=
  (Entries.get? name r).bind Datum.asWhole?

/-- The record in a field. -/
def record? (name : String) (r : Record) : Option Record :=
  (Entries.get? name r).bind Datum.asRecord?

/-- The items in a field. -/
def list? (name : String) (r : Record) : Option (List Datum) :=
  (Entries.get? name r).bind Datum.asList?

/-- The texts in a field. -/
def texts? (name : String) (r : Record) : Option (List String) :=
  (list? name r).map fun items => items.filterMap Datum.asText?

end Record

end PodAdmission

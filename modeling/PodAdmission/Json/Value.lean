import PodAdmission.Entries
import PodAdmission.Number.Binary64

/-!
# JSON values

A document as a value. Numbers are of two kinds, whole numbers that fit in 64 bits and binary64
numbers, and the kinds are never equal. The members of an object are kept in ascending order of
keys, so the order in which a document gives them does not matter.
-/

namespace PodAdmission

/-- A JSON number: whole, or with a fraction, an exponent or too many digits. -/
inductive Number where
  | whole (n : Int)
  | real (x : Binary64)
  deriving DecidableEq

/-- A JSON value. -/
inductive Json where
  | null
  | bool (b : Bool)
  | number (n : Number)
  | text (s : String)
  | list (items : List Json)
  | object (members : List (String × Json))

/-- Equality of numbers: by kind, then by value. -/
def Number.same : Number → Number → Bool
  | .whole m, .whole n => m == n
  | .real x, .real y => x.same y
  | _, _ => false

namespace Json

instance : Inhabited Json := ⟨.null⟩

/-! ### Equality -/

mutual

/-- Equality of values: numbers by kind and value, lists by position, objects by key. -/
def same : Json → Json → Bool
  | .null, .null => true
  | .bool a, .bool b => a == b
  | .number m, .number n => m.same n
  | .text s, .text t => s == t
  | .list xs, .list ys => sameItems xs ys
  | .object xs, .object ys => sameMembers xs ys
  | _, _ => false

/-- Equality of lists of values. -/
def sameItems : List Json → List Json → Bool
  | [], [] => true
  | x :: xs, y :: ys => same x y && sameItems xs ys
  | _, _ => false

/-- Equality of members. -/
def sameMembers : List (String × Json) → List (String × Json) → Bool
  | [], [] => true
  | (k, x) :: xs, (l, y) :: ys => k == l && same x y && sameMembers xs ys
  | _, _ => false

end

instance : BEq Json := ⟨same⟩

/-! ### Access -/

/-- The key that marks an object as a document in a text: the object has no other member, and the
text under this key holds the document that the object stands for. -/
def embeddingKey : String := "$serde_json::private::RawValue"

/-- The member of an object under a key. -/
def member? (key : String) : Json → Option Json
  | .object members => Entries.get? key members
  | _ => none

end Json

end PodAdmission

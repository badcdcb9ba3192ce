import PodAdmission.Json.Value

/-!
# Pointers into a document

A pointer is the list of tokens on the way from the root: keys of objects and indices of lists.
Its text form puts a slash before every token and writes `~` as `~0` and `/` as `~1` inside one.
-/

namespace PodAdmission

/-- The tokens on the way to a value. -/
abbrev Pointer := List String

namespace Pointer

/-- How a character of a token is written. -/
def escapeChar (c : Char) : List Char :=
  if c = '~' then ['~', '0'] else if c = '/' then ['~', '1'] else [c]

/-- The written form of a token. -/
def escape (token : String) : List Char :=
  token.toList.flatMap escapeChar

/-- The text of a pointer. -/
def render (p : Pointer) : String :=
  String.ofList (p.flatMap fun token => '/' :: escape token)

/-- Undoes the escapes of a token. A tilde that starts no escape stands for itself. -/
def unescape : List Char → List Char
  | [] => []
  | [c] => [c]
  | c :: d :: rest =>
    if c = '~' ∧ d = '0' then '~' :: unescape rest
    else if c = '~' ∧ d = '1' then '/' :: unescape rest
    else c :: unescape (d :: rest)

/-- Cuts a text at every slash. -/
def splitSlashes (token : List Char) : List Char → List (List Char)
  | [] => [token.reverse]
  | c :: rest =>
    if c = '/' then token.reverse :: splitSlashes [] rest else splitSlashes (c :: token) rest

/-- The pointer that a text stands for: the empty text is the root, and any other starts with a
slash. -/
def parse? (s : String) : Option Pointer :=
  match s.toList with
  | [] => some []
  | c :: rest =>
    if c = '/' then some ((splitSlashes [] rest).map fun t => String.ofList (unescape t))
    else none

/-- The number that a list of digits stands for. -/
def digitsValue (digits : List Char) : Nat :=
  digits.foldl (fun n c => n * 10 + (c.toNat - 48)) 0

/-- The list index that a token stands for: digits without a leading zero. -/
def index? (token : String) : Option Nat :=
  match token.toList with
  | [] => none
  | ['0'] => some 0
  | c :: rest =>
    if c ≠ '0' ∧ (c :: rest).all Char.isDigit then some (digitsValue (c :: rest)) else none

end Pointer

namespace Json

/-- The value that a token leads to. -/
def child? (token : String) : Json → Option Json
  | .object members => Entries.get? token members
  | .list items =>
    match Pointer.index? token with
    | some i => items[i]?
    | none => none
  | _ => none

/-- The value that a pointer leads to. -/
def at? : Pointer → Json → Option Json
  | [], doc => some doc
  | token :: rest, doc =>
    match doc.child? token with
    | some v => v.at? rest
    | none => none

/-- Changes the value that a token leads to. -/
def updateChild? (token : String) (f : Json → Option Json) : Json → Option Json
  | .object members =>
    match Entries.get? token members with
    | some old => (f old).map fun new => .object (Entries.insert token new members)
    | none => none
  | .list items =>
    match Pointer.index? token with
    | some i =>
      match items[i]? with
      | some old => (f old).map fun new => .list (items.set i new)
      | none => none
    | none => none
  | _ => none

/-- Changes the parent of the value that a pointer leads to; `change` is given the last token. The
root has no parent. -/
def editParent? (change : String → Json → Option Json) : Pointer → Json → Option Json
  | [], _ => none
  | [token], doc => change token doc
  | token :: next :: rest, doc => doc.updateChild? token (editParent? change (next :: rest))

end Json

end PodAdmission

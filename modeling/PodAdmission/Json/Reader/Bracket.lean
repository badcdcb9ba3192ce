import PodAdmission.Json.Reader.Token

/-!
# Lists and objects of a document

Reading between brackets, whatever the items or members are. A loop takes at least one byte a
round, so the bytes that are left when it starts bound the number of rounds; they are its first
explicit argument after the state and play no other part.
-/

namespace PodAdmission.Reader

open Ascii

/-- What comes next between brackets. -/
inductive Step where
  /-- The closing bracket, which is taken. -/
  | finished (rest : Bytes)
  /-- An item or a member, which starts here. -/
  | more (rest : Bytes)

/-- Looks for the next item of a list or its end. -/
def nextItem (first : Bool) (bytes : Bytes) : Except Fault Step :=
  match skipSpace bytes with
  | [] => .error (.ahead .endInList [])
  | b :: rest =>
    if b = closeList then .ok (.finished rest)
    else if first then .ok (.more (b :: rest))
    else if b = comma then
      match skipSpace rest with
      | [] => .error (.ahead .endInValue [])
      | c :: rest =>
        if c = closeList then .error (.ahead .trailingComma (c :: rest))
        else .ok (.more (c :: rest))
    else .error (.ahead .expectedListEnd (b :: rest))

/-- Looks for the next key of an object or the object's end; takes the quote that opens the key. -/
def nextKey (first : Bool) (bytes : Bytes) : Except Fault Step :=
  match skipSpace bytes with
  | [] => .error (.ahead .endInObject [])
  | b :: rest =>
    if b = closeObject then .ok (.finished rest)
    else if first then
      if b = quote then .ok (.more rest) else .error (.ahead .expectedKey (b :: rest))
    else if b = comma then
      match skipSpace rest with
      | [] => .error (.ahead .endInValue [])
      | c :: rest =>
        if c = quote then .ok (.more rest)
        else if c = closeObject then .error (.ahead .trailingComma (c :: rest))
        else .error (.ahead .expectedKey (c :: rest))
    else .error (.ahead .expectedObjectEnd (b :: rest))

/-- Takes the colon behind a key. -/
def readColon (bytes : Bytes) : Except Fault Bytes :=
  match skipSpace bytes with
  | [] => .error (.ahead .endInObject [])
  | b :: rest => if b = colon then .ok rest else .error (.ahead .expectedColon (b :: rest))

/-- Takes the end of an object behind its only member. -/
def readObjectEnd (bytes : Bytes) : Except Fault Bytes :=
  match skipSpace bytes with
  | [] => .error (.ahead .endInObject [])
  | b :: rest =>
    if b = closeObject then .ok rest
    else if b = comma then .error (.ahead .trailingComma (b :: rest))
    else .error (.ahead .trailingText (b :: rest))

/-- What is behind the first key of the object that is open here, if that key is the one given. -/
def behindKey? (key : String) (bytes : Bytes) : Option Bytes :=
  match nextKey true bytes with
  | .ok (.more start) =>
    match readText start with
    | .ok (first, rest) => if first = key then some rest else none
    | .error _ => none
  | _ => none

/-- Reads the items of a list up to its end. -/
def readItems {α : Type} (item : Bytes → Read α) (first : Bool) (seen : List α) :
    (rounds : Bytes) → Bytes → Read (List α)
  | rounds, bytes =>
    match nextItem first bytes with
    | .error fault => .error fault
    | .ok (.finished rest) => .ok (seen.reverse, rest)
    | .ok (.more start) =>
      match rounds with
      | [] => .error (.ahead .endInList start)
      | _ :: rounds =>
        match item start with
        | .error fault => .error fault
        | .ok (x, rest) => readItems item false (x :: seen) rounds rest

/-- Reads the members of an object up to its end. What a member does to the state is said by
`member`, which is given the key and the bytes behind it, colon included. -/
def readMembers {σ : Type} (member : σ → String → Bytes → Read σ) (first : Bool) (state : σ) :
    (rounds : Bytes) → Bytes → Read σ
  | rounds, bytes =>
    match nextKey first bytes with
    | .error fault => .error fault
    | .ok (.finished rest) => .ok (state, rest)
    | .ok (.more start) =>
      match rounds with
      | [] => .error (.ahead .endInObject start)
      | _ :: rounds =>
        match readText start with
        | .error fault => .error fault
        | .ok (key, rest) =>
          match member state key rest with
          | .error fault => .error fault
          | .ok (state, rest) => readMembers member false state rounds rest

/-! ### Faults of a whole list or object

A fault that lies in no single part is placed behind the closing bracket if that is what comes
next, and else before whatever comes next.
-/

/-- Where a fault of the object that is open here is placed. -/
def pastObject (bytes : Bytes) : Bytes :=
  match skipSpace bytes with
  | [] => []
  | b :: rest => if b = closeObject then rest else b :: rest

/-- Where a fault of the list that is open here is placed; a comma is passed over. -/
def pastList (bytes : Bytes) : Bytes :=
  match skipSpace bytes with
  | [] => []
  | b :: rest => if b = closeList then rest else if b = comma then skipSpace rest else b :: rest

end PodAdmission.Reader

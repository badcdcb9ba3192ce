import PodAdmission.Schema.Reader

/-!
# Strict records

A form is a record that is read strictly: a required member has to be there, and none may be there
twice. It may also be given as a list of its members in the order of the form, and then members at
the end may be left out unless they are required. Unknown keys are passed over.

The members are read into a structure that starts out blank; it is answered only when every
required member has been read.
-/

namespace PodAdmission

/-- A member of a form and how it is read into the structure. -/
structure Slot (α : Type) where
  key : String
  isRequired : Bool
  read : α → Bytes → Read α

/-- A strict record. -/
structure Form (α : Type) where
  name : String
  blank : α
  slots : List (Slot α)

namespace Form

open Ascii Reader

variable {α : Type}

/-- A form in a message. -/
def title (form : Form α) : String :=
  "struct " ++ form.name

/-- A form and the number of its members in a message. -/
def titleWithLength (form : Form α) : String :=
  form.title ++ " with " ++ toString form.slots.length ++ " elements"

/-- Reads a member by its key. The state is the keys read so far and the structure. -/
def readMember (form : Form α) (state : List String × α) (key : String) (bytes : Bytes) :
    Read (List String × α) :=
  match form.slots.find? fun slot => slot.key == key with
  | some slot =>
    if state.1.contains key then .error (.here (.duplicateField key) (pastObject bytes))
    else
      match readColon bytes with
      | .error fault => .error fault
      | .ok rest => (slot.read state.2 rest).map fun (a, r) => ((key :: state.1, a), r)
  | none =>
    match readColon bytes with
    | .error fault => .error fault
    | .ok rest => (skipValue rest).map fun r => (state, r)

/-- Reads the members of an object behind its bracket. -/
def readObject (form : Form α) (bytes : Bytes) : Read α :=
  match readMembers form.readMember true ([], form.blank) bytes bytes with
  | .error fault => .error fault
  | .ok ((seen, a), rest) =>
    match form.slots.find? fun slot => slot.isRequired && !seen.contains slot.key with
    | some slot => .error (.here (.missingField slot.key) rest)
    | none => .ok (a, rest)

/-- Takes the end of a list that holds all members. -/
def readListEnd (bytes : Bytes) : Except Fault Bytes :=
  match skipSpace bytes with
  | [] => .error (.ahead .endInList [])
  | b :: rest =>
    if b = closeList then .ok rest
    else if b = comma then
      match skipSpace rest with
      | [] => .error (.ahead .trailingText [])
      | c :: rest =>
        if c = closeList then .error (.ahead .trailingComma (c :: rest))
        else .error (.ahead .trailingText (c :: rest))
    else .error (.ahead .trailingText (b :: rest))

/-- Reads members in the order of the form. If the list ends before a required member, the fault
names the position of that member. -/
def readSlots (form : Form α) (index : Nat) (a : α) : List (Slot α) → Bytes → Read α
  | [], bytes => (readListEnd bytes).map fun r => (a, r)
  | slot :: slots, bytes =>
    match nextItem (index == 0) bytes with
    | .error fault => .error fault
    | .ok (.finished rest) =>
      match (slot :: slots).findIdx? Slot.isRequired with
      | some i => .error (.here (.wrongLength (index + i) form.titleWithLength) rest)
      | none => .ok (a, rest)
    | .ok (.more start) =>
      match slot.read a start with
      | .error fault => .error fault
      | .ok (a, rest) => readSlots form (index + 1) a slots rest

/-- Reads a form whose members have brackets nested at most as deep as given less one. -/
def read (form : Nat → Form α) (depth : Nat) (bytes : Bytes) : Read α :=
  match skipSpace bytes with
  | [] => .error (.ahead .endInValue [])
  | b :: rest =>
    if b = openObject ∨ b = openList then
      match depth with
      | 0 => .error (.ahead .tooDeep (b :: rest))
      | depth + 1 =>
        if b = openObject then (form depth).readObject rest
        else (form depth).readSlots 0 (form depth).blank (form depth).slots rest
    else readAs (form 0).title (refuse (form 0).title) (b :: rest)

/-! ### Members -/

/-- Reads a text. -/
def readString (bytes : Bytes) : Read String :=
  readAs "a string" acceptText bytes

/-- Reads a truth value. -/
def readFlag (bytes : Bytes) : Read Bool :=
  readAs "a boolean" acceptBool bytes

/-- The variant that a name stands for. -/
def acceptVariant {β : Type} (variants : List (String × β)) : Json → Except Cause β
  | .text s =>
    match Entries.get? s variants with
    | some v => .ok v
    | none => .error (.unknownVariant s (variants.map Prod.fst))
  | found => .error (.wrongType found "variant identifier")

/-- Nothing but `null` will do. -/
def acceptNull : Json → Except Cause Unit
  | .null => .ok ()
  | found => .error (.wrongType found "unit")

/-- Reads the name of a variant as the key of the object that is open here. -/
def readTag {β : Type} (variants : List (String × β)) (bytes : Bytes) : Read β :=
  match skipSpace bytes with
  | [] => .error (.ahead .endInObject [])
  | b :: rest =>
    if b = quote then readAs "variant identifier" (acceptVariant variants) (b :: rest)
    else if b = closeObject then .error (.ahead .expectedValue (b :: rest))
    else .error (.ahead .expectedKey (b :: rest))

/-- Reads a variant behind an opening bracket. -/
def readTagged {β : Type} (variants : List (String × β)) (bytes : Bytes) :
    Except Fault (β × Bytes) := do
  let (v, rest) ← readTag variants bytes
  let rest ← readColon rest
  let ((), rest) ← readAs "unit" acceptNull rest
  match skipSpace rest with
  | [] => .error (.here .endInObject [])
  | c :: rest =>
    if c = closeObject then .ok (v, rest) else .error (.here .expectedValue (c :: rest))

/-- Reads a variant: its name, or an object with nothing but `null` under its name. -/
def readVariant {β : Type} (variants : List (String × β)) (depth : Nat) (bytes : Bytes) :
    Read β :=
  match skipSpace bytes with
  | [] => .error (.ahead .endInValue [])
  | b :: rest =>
    if b = quote then readAs "variant identifier" (acceptVariant variants) (b :: rest)
    else if b = openObject then
      match depth with
      | 0 => .error (.ahead .tooDeep (b :: rest))
      | _ + 1 => readTagged variants rest
    else .error (.ahead .expectedValue (b :: rest))

end Form

namespace Slot

variable {α β : Type}

/-- A member that has to be there. -/
def required (key : String) (read : Bytes → Read β) (set : α → β → α) : Slot α :=
  ⟨key, true, fun a bytes => (read bytes).map fun (v, r) => (set a v, r)⟩

/-- A member that may be left out or be `null`. -/
def optional (key : String) (read : Bytes → Read β) (set : α → Option β → α) : Slot α :=
  ⟨key, false, fun a bytes => (Reader.readOptional read bytes).map fun (v, r) => (set a v, r)⟩

/-- A member that may be left out but not be `null`. -/
def defaulted (key : String) (read : Bytes → Read β) (set : α → β → α) : Slot α :=
  ⟨key, false, fun a bytes => (read bytes).map fun (v, r) => (set a v, r)⟩

end Slot

end PodAdmission

import PodAdmission.Json.Reader.Value
import PodAdmission.Json.Writer
import PodAdmission.Patch.Pointer

/-!
# Patches

A patch is a list of operations that are carried out one after the other, each on the outcome of
the one before; if one of them cannot be carried out, nothing is changed. Written, it is a JSON
list with an object for every operation.
-/

namespace PodAdmission

/-- One change of a document. -/
inductive Operation where
  | add (path : Pointer) (value : Json)
  | remove (path : Pointer)
  | replace (path : Pointer) (value : Json)

/-- Operations in the order in which they are carried out. -/
abbrev Patch := List Operation

/-- The operation of a patch that could not be carried out. -/
structure PatchFailure where
  index : Nat
  path : Pointer
  deriving DecidableEq

/-- The wording of a failure. -/
def PatchFailure.message (f : PatchFailure) : String :=
  "operation '/" ++ toString f.index ++ "' failed at path '" ++ f.path.render ++
    "': path is invalid"

namespace Operation

/-- The place that an operation is about. -/
def path : Operation → Pointer
  | .add path _ => path
  | .remove path => path
  | .replace path _ => path

/-! ### Carrying out -/

/-- Sets a member, or puts an item in front of the one at an index; the index behind the last item
and `-` put it at the end. -/
def addChild? (value : Json) (token : String) : Json → Option Json
  | .object members => some (.object (Entries.insert token value members))
  | .list items =>
    if token = "-" then some (.list (items ++ [value]))
    else
      match Pointer.index? token with
      | some i => if i ≤ items.length then some (.list (items.insertIdx i value)) else none
      | none => none
  | _ => none

/-- Sets a member or an item that is there. -/
def replaceChild? (value : Json) (token : String) (parent : Json) : Option Json :=
  parent.updateChild? token fun _ => some value

/-- Takes a member or an item away. -/
def removeChild? (token : String) : Json → Option Json
  | .object members =>
    match Entries.get? token members with
    | some _ => some (.object (Entries.erase token members))
    | none => none
  | .list items =>
    match Pointer.index? token with
    | some i => if i < items.length then some (.list (items.eraseIdx i)) else none
    | none => none
  | _ => none

/-- The document after an operation, if it can be carried out. The whole document can be added or
replaced but not removed. -/
def perform? (op : Operation) (doc : Json) : Option Json :=
  match op with
  | .add [] value => some value
  | .replace [] value => some value
  | .add path value => doc.editParent? (addChild? value) path
  | .replace path value => doc.editParent? (replaceChild? value) path
  | .remove path => doc.editParent? removeChild? path

/-! ### Text form -/

/-- An operation as a written object. -/
def write : Operation → Bytes
  | .add path value =>
    Json.objectOf [("op", Json.writeText "add"), ("path", Json.writeText path.render),
      ("value", value.write)]
  | .remove path =>
    Json.objectOf [("op", Json.writeText "remove"), ("path", Json.writeText path.render)]
  | .replace path value =>
    Json.objectOf [("op", Json.writeText "replace"), ("path", Json.writeText path.render),
      ("value", value.write)]

/-- The operation that an object stands for. -/
def ofJson? (j : Json) : Option Operation :=
  match j.member? "op", j.member? "path", j.member? "value" with
  | some (.text "add"), some (.text path), some value =>
    (Pointer.parse? path).map fun path => .add path value
  | some (.text "remove"), some (.text path), _ =>
    (Pointer.parse? path).map fun path => .remove path
  | some (.text "replace"), some (.text path), some value =>
    (Pointer.parse? path).map fun path => .replace path value
  | _, _, _ => none

/-- Puts documents in texts of the value of an operation in their place. A fault of the value is
placed before the bytes given. -/
def unembed (rest : Bytes) : Operation → Except Fault Operation
  | .add path value => (value.unembed rest).map (.add path)
  | .remove path => .ok (.remove path)
  | .replace path value => (value.unembed rest).map (.replace path)

/-- Reads an operation, which is an item of a list. Its value is looked into once the whole of it
has been read. -/
def read (depth : Nat) (bytes : Bytes) : Read Operation :=
  match Reader.readPlain depth bytes with
  | .error fault => .error fault
  | .ok (j, rest) =>
    let behind := Reader.pastList rest
    match ofJson? j with
    | none => .error (.here (.malformedContent "malformed patch operation") behind)
    | some op => (op.unembed behind).map fun op => (op, rest)

end Operation

namespace Patch

/-- Carries out operations of which the first has the index given. -/
def applyFrom (index : Nat) : Patch → Json → Except PatchFailure Json
  | [], doc => .ok doc
  | op :: rest, doc =>
    match op.perform? doc with
    | some doc => applyFrom (index + 1) rest doc
    | none => .error ⟨index, op.path⟩

/-- The document after all operations. -/
def apply (patch : Patch) (doc : Json) : Except PatchFailure Json :=
  applyFrom 0 patch doc

/-- The text of a patch. -/
def write (patch : Patch) : Bytes :=
  Json.listOf (patch.map Operation.write)

/-- The patch that a text stands for. -/
def read (text : Bytes) : Except JsonError Patch :=
  Reader.readWhole (Reader.readList Operation.read Reader.maxDepth) text

end Patch

end PodAdmission

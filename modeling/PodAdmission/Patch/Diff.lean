import PodAdmission.Patch.Basic

/-!
# The difference of two documents

`Patch.between old new` turns the one document into the other. Objects are compared key by key: the
keys of the new one in ascending order, then the removals. Lists are compared position by
position; what the new list has beyond the old one is added at its end, and what it lacks is
removed, always at the index where the new list ends. Anything else is replaced if it differs.
-/

namespace PodAdmission.Patch

/-- Additions at the end of a list. -/
def additions (path : Pointer) (index : Nat) : List Json → Patch
  | [] => []
  | x :: rest => .add (path ++ [toString index]) x :: additions path (index + 1) rest

/-- Removals at the end of a list, as many as there are items given. -/
def trimmings (path : Pointer) (index : Nat) (items : List Json) : Patch :=
  items.map fun _ => .remove (path ++ [toString index])

/-- Removals of the members that the new object lacks. -/
def removals (path : Pointer) (old new : List (String × Json)) : Patch :=
  (old.filter fun (k, _) => (Entries.get? k new).isNone).map fun (k, _) => .remove (path ++ [k])

mutual

/-- The operations, below a path, that turn one value into another. -/
def diff (path : Pointer) (old : Json) : Json → Patch
  | .object new =>
    match old with
    | .object members => diffMembers path members new ++ removals path members new
    | _ => [.replace path (.object new)]
  | .list new =>
    match old with
    | .list items => diffItems path 0 items new
    | _ => [.replace path (.list new)]
  | new => if old.same new then [] else [.replace path new]

/-- The operations for the members of a new object. -/
def diffMembers (path : Pointer) (old : List (String × Json)) : List (String × Json) → Patch
  | [] => []
  | (k, v) :: rest =>
    (match Entries.get? k old with
      | some o => diff (path ++ [k]) o v
      | none => [.add (path ++ [k]) v]) ++ diffMembers path old rest

/-- The operations for the items of two lists from an index on. -/
def diffItems (path : Pointer) (index : Nat) (old : List Json) : List Json → Patch
  | [] => trimmings path index old
  | v :: rest =>
    match old with
    | [] => additions path index (v :: rest)
    | o :: old => diff (path ++ [toString index]) o v ++ diffItems path (index + 1) old rest

end

/-- The patch that turns one document into another. -/
def between (old new : Json) : Patch :=
  diff [] old new

end PodAdmission.Patch

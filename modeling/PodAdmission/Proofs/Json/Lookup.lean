import PodAdmission.Proofs.Json.Settling

/-!
# Looking into a text

What an outline has at a place: under a key of an object the member that comes last, since a later
one takes the place of an earlier one. Keys are compared as the texts that they spell, however they
are escaped.
-/

namespace PodAdmission

open Ascii Reader

namespace Outline

/-! ### Places -/

/-- What comes last under a key. -/
def lookup (key : String) : List (Bytes × Outline) → Option Outline
  | [] => none
  | (raw, v) :: rest => (lookup key rest).or (if textOf? raw = some key then some v else none)

/-- The member of an object under a key. -/
def member? (key : String) : Outline → Option Outline
  | .object members => lookup key members
  | _ => none

/-- What keys lead to, one inside the other. -/
def at? : List String → Outline → Option Outline
  | [], o => some o
  | key :: path, o => (o.member? key).bind (at? path)

/-- The items of a list. -/
def items : Outline → List Outline
  | .list items => items
  | _ => []

/-- The items of the list that keys lead to, if they lead to one. -/
def itemsAt (path : List String) (o : Outline) : List Outline :=
  (o.at? path).elim [] items

/-- The text that a value without parts spells. -/
def text? : Outline → Option String
  | .token (b :: r) => if b = quote then taken readText r else none
  | _ => none

/-- The text has the outline, with white space around it. -/
inductive HasText : Outline → Bytes → Prop where
  | mk {o : Outline} {w t w' : Bytes} (hw : Blank w) (ht : o.Shows t) (hw' : Blank w') :
      HasText o (w ++ (t ++ w'))

variable {o : Outline} {t : Bytes}

@[simp] lemma at?_singleton (key : String) (o : Outline) : o.at? [key] = o.member? key :=
  Option.bind_fun_some _

/-- Nothing is inside what is not there or `null`. -/
lemma at?_of_missing {key : String}
    (h : o.member? key = none ∨ o.member? key = some (.token nullWord)) (next : String)
    (path : List String) : o.at? (key :: next :: path) = none := by
  rw [at?]
  obtain h | h := h
  · rw [h]
    rfl
  · rw [h]
    rfl

lemma itemsAt_cons (key : String) (path : List String) (o : Outline) :
    o.itemsAt (key :: path) = (o.member? key).elim [] (itemsAt path) := by
  rw [itemsAt, at?]
  cases o.member? key <;> rfl

/-- Nothing but the word itself is shown by the word `null`. -/
lemma Shows.eq_null (h : o.Shows nullWord) : o = .token nullWord := by
  generalize ht : nullWord = t at h
  cases h with
  | token h => rfl
  | _ => exact absurd (List.cons.inj ht).1 (by decide)

/-! ### Parts of a text -/

/-- A member and its text. -/
def Pairs (m : Bytes × Outline) (n : Bytes × Bytes) : Prop :=
  m.1 = n.1 ∧ m.2.Shows n.2

/-- The texts of the items of a list. -/
lemma exists_items {items : List Outline} (h : Parts closeList Shows true items t) :
    ∃ texts, Parts closeList Lexical.Item true texts t ∧ List.Forall₂ Shows items texts :=
  h.exists_forall₂ fun o _ t ht => ⟨t, ⟨rfl, o, ht⟩, ht⟩

/-- The texts of the members of an object. -/
lemma exists_members {members : List (Bytes × Outline)}
    (h : Parts closeObject (Member Shows) true members t) :
    ∃ texts, Parts closeObject (Member Lexical.Item) true texts t ∧
      List.Forall₂ Pairs members texts := by
  refine h.exists_forall₂ fun m _ t ht => ?_
  cases ht with
  | @mk raw o w w' t hkey hw hw' ht =>
    exact ⟨(raw, t), .mk hkey hw hw' ⟨rfl, o, ht⟩, rfl, ht⟩

end Outline

end PodAdmission

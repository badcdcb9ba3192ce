import Mathlib.Tactic.Common
import PodAdmission.Json.Writer
import PodAdmission.Proofs.Number.Shortest

/-!
# Values that a document can hold

`Json.WellFormed` says what every value read from a document is: numbers are in range and the
members of objects are in ascending order of keys. Induction over a value goes through the items
of its lists and the members of its objects.
-/

namespace PodAdmission

/-- A number that a document can hold. -/
def Number.Valid : Number → Prop
  | .whole n => -2 ^ 63 ≤ n ∧ n < 2 ^ 64
  | .real x => x.Canonical

namespace Json

/-- A value that a document can hold. -/
inductive WellFormed : Json → Prop where
  | null : WellFormed .null
  | bool (b : Bool) : WellFormed (.bool b)
  | number {n : Number} (h : n.Valid) : WellFormed (.number n)
  | text (s : String) : WellFormed (.text s)
  | list {items : List Json} (h : ∀ x ∈ items, WellFormed x) : WellFormed (.list items)
  | object {members : Entries Json} (ha : members.Ascending) (h : ∀ m ∈ members, WellFormed m.2) :
      WellFormed (.object members)

lemma WellFormed.items {items : List Json} (h : WellFormed (.list items)) :
    ∀ x ∈ items, WellFormed x := by
  cases h with
  | list h => exact h

lemma WellFormed.members {members : Entries Json} (h : WellFormed (.object members)) :
    ∀ m ∈ members, WellFormed m.2 := by
  cases h with
  | object ha h => exact h

lemma WellFormed.ascending {members : Entries Json} (h : WellFormed (.object members)) :
    members.Ascending := by
  cases h with
  | object ha h => exact ha

@[simp] lemma wellFormed_bool (b : Bool) : WellFormed (.bool b) :=
  .bool b

@[simp] lemma wellFormed_text (s : String) : WellFormed (.text s) :=
  .text s

@[simp] lemma wellFormed_list_iff {items : List Json} :
    WellFormed (.list items) ↔ ∀ x ∈ items, WellFormed x :=
  ⟨WellFormed.items, WellFormed.list⟩

@[simp] lemma wellFormed_object_iff {members : Entries Json} :
    WellFormed (.object members) ↔ members.Ascending ∧ ∀ m ∈ members, WellFormed m.2 :=
  ⟨fun h => ⟨h.ascending, h.members⟩, fun h => WellFormed.object h.1 h.2⟩

/-! ### Induction -/

/-- What holds of a list if it holds of its items and of an object if it holds of its members
holds of every value. -/
@[elab_as_elim, induction_eliminator]
theorem induction {motive : Json → Prop} (null : motive .null) (bool : ∀ b, motive (.bool b))
    (number : ∀ n, motive (.number n)) (text : ∀ s, motive (.text s))
    (list : ∀ items, (∀ x ∈ items, motive x) → motive (.list items))
    (object : ∀ members, (∀ m ∈ members, motive m.2) → motive (.object members)) (j : Json) :
    motive j := by
  refine @Json.rec motive (fun items => ∀ x ∈ items, motive x)
    (fun members => ∀ m ∈ members, motive m.2) (fun m => motive m.2)
    null bool number text list object ?_ ?_ ?_ ?_ ?_ j
  · intro x hx
    cases hx
  · intro y items hy hitems x hx
    rcases List.mem_cons.1 hx with rfl | hx
    · exact hy
    · exact hitems x hx
  · intro m hm
    cases hm
  · intro e members he hmembers m hm
    rcases List.mem_cons.1 hm with rfl | hm
    · exact he
    · exact hmembers m hm
  · intro k y hy
    exact hy

/-! ### Parts -/

/-- The value is the one given or has it somewhere inside. -/
inductive Contains : Json → Json → Prop where
  | self (j : Json) : Contains j j
  | item {items : List Json} {x y : Json} (hx : x ∈ items) (h : Contains x y) :
      Contains (.list items) y
  | member {members : Entries Json} {m : String × Json} {y : Json} (hm : m ∈ members)
      (h : Contains m.2 y) : Contains (.object members) y

/-- No number in the value has a fraction or an exponent or is too large for 64 bits. -/
def Whole (j : Json) : Prop :=
  ∀ x, ¬ j.Contains (.number (.real x))

lemma Whole.items {items : List Json} (h : Whole (.list items)) : ∀ x ∈ items, Whole x :=
  fun _ hx y hy => h y (.item hx hy)

lemma Whole.members {members : Entries Json} (h : Whole (.object members)) :
    ∀ m ∈ members, Whole m.2 :=
  fun _ hm y hy => h y (.member hm hy)

/-! ### Equality -/

lemma sameItems_self {items : List Json} (h : ∀ x ∈ items, same x x = true) :
    sameItems items items = true := by
  induction items with
  | nil => rfl
  | cons x items ih =>
    rw [sameItems, h x List.mem_cons_self, ih fun y hy => h y (List.mem_cons_of_mem _ hy)]
    rfl

lemma sameMembers_self {members : Entries Json} (h : ∀ m ∈ members, same m.2 m.2 = true) :
    sameMembers members members = true := by
  induction members with
  | nil => rfl
  | cons m members ih =>
    obtain ⟨k, x⟩ := m
    rw [sameMembers, h (k, x) List.mem_cons_self, ih fun n hn => h n (List.mem_cons_of_mem _ hn)]
    simp

/-- Every value is equal to itself. -/
lemma same_self (j : Json) : j.same j = true := by
  induction j with
  | null => rfl
  | bool b => simp [same]
  | number n => cases n <;> simp [same, Number.same, Binary64.same]
  | text s => simp [same]
  | list items ih => exact sameItems_self ih
  | object members ih => exact sameMembers_self ih

/-! ### Writing -/

lemma writeItems_eq (items : List Json) : writeItems items = items.map write := by
  induction items with
  | nil => rfl
  | cons x items ih => rw [writeItems, ih, List.map_cons]

lemma writeMembers_eq (members : Entries Json) :
    writeMembers members = members.map fun m => (m.1, m.2.write) := by
  induction members with
  | nil => rfl
  | cons m members ih => rw [writeMembers, ih, List.map_cons]

lemma write_list (items : List Json) : (list items).write = listOf (items.map write) := by
  rw [write, writeItems_eq]

lemma write_object (members : Entries Json) :
    (object members).write = objectOf (members.map fun m => (m.1, m.2.write)) := by
  rw [write, writeMembers_eq]

end Json

end PodAdmission

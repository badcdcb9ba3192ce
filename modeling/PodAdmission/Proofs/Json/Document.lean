import PodAdmission.Proofs.Json.Bracket

/-!
# Documents

A `Document` is what a text says before anybody reads it: numbers as they are spelled, and the
members of objects in the order given. `Document.Spells` says which texts a document has: white
space may stand between any two tokens, and texts may be escaped in any way. The text that a value
is written as is one of the texts of `Json.document`.
-/

namespace PodAdmission

open Ascii Json Reader

/-- What a text says. -/
inductive Document where
  | null
  | bool (b : Bool)
  | number (t : Bytes)
  | text (s : String)
  | list (items : List Document)
  | object (members : List (String × Document))

namespace Document

/-- What holds of a list if it holds of its items and of an object if it holds of its members
holds of every document. -/
@[elab_as_elim, induction_eliminator]
theorem induction {motive : Document → Prop} (null : motive .null) (bool : ∀ b, motive (.bool b))
    (number : ∀ t, motive (.number t)) (text : ∀ s, motive (.text s))
    (list : ∀ items, (∀ x ∈ items, motive x) → motive (.list items))
    (object : ∀ members, (∀ m ∈ members, motive m.2) → motive (.object members)) (D : Document) :
    motive D := by
  refine @Document.rec motive (fun items => ∀ x ∈ items, motive x)
    (fun members => ∀ m ∈ members, motive m.2) (fun m => motive m.2)
    null bool number text list object ?_ ?_ ?_ ?_ ?_ D
  · intro x hx
    cases hx
  · intro y items hy hitems x hx
    rcases List.mem_cons.1 hx with rfl | hx
    · exact hy
    · exact hitems x hx
  · intro m hm
    cases hm
  · intro e members he hmembers m hm
    rcases List.mem_cons.1 hm with rfl | hm
    · exact he
    · exact hmembers m hm
  · intro k y hy
    exact hy

/-- The document has the text, which starts and ends with the document. -/
inductive Spells : Document → Bytes → Prop where
  | null : Spells .null nullWord
  | yes : Spells (.bool true) trueWord
  | no : Spells (.bool false) falseWord
  | number {t : Bytes} (h : Numeral t) : Spells (.number t) t
  | negative {t : Bytes} (h : Numeral t) : Spells (.number (minus :: t)) (minus :: t)
  | text {s : String} {raw : Bytes} (h : Spelled (Utf8.encode s) raw) :
      Spells (.text s) (quote :: (raw ++ [quote]))
  | list {items : List Document} {t : Bytes} (h : Parts closeList Spells true items t) :
      Spells (.list items) (openList :: t)
  | object {members : List (String × Document)} {t : Bytes}
      (h : Parts closeObject (Keyed Spells) true members t) :
      Spells (.object members) (openObject :: t)

/-- The document has the text, with white space around it. -/
inductive HasText : Document → Bytes → Prop where
  | mk {D : Document} {w t w' : Bytes} (hw : Blank w) (ht : D.Spells t) (hw' : Blank w') :
      HasText D (w ++ (t ++ w'))

lemma Spells.hasText {D : Document} {t : Bytes} (h : D.Spells t) : D.HasText t := by
  have htext := HasText.mk blank_nil h blank_nil
  rwa [List.nil_append, List.append_nil] at htext

end Document

/-! ### Written values -/

namespace Json

mutual

/-- What the text of a value says. -/
def document : Json → Document
  | .null => .null
  | .bool b => .bool b
  | .number n => .number (writeNumber n)
  | .text s => .text s
  | .list items => .list (documentItems items)
  | .object members => .object (documentMembers members)

/-- What the texts of the items of a list say. -/
def documentItems : List Json → List Document
  | [] => []
  | x :: rest => x.document :: documentItems rest

/-- What the texts of the members of an object say. -/
def documentMembers : List (String × Json) → List (String × Document)
  | [] => []
  | (k, x) :: rest => (k, x.document) :: documentMembers rest

end

variable {j : Json} {n : Number}

lemma document_list (items : List Json) : (list items).document = .list (items.map document) := by
  have h : documentItems items = items.map document := by
    induction items with
    | nil => rfl
    | cons x items ih => rw [documentItems, ih, List.map_cons]
  rw [document, h]

lemma document_object (members : Entries Json) :
    (object members).document = .object (members.map fun m => (m.1, m.2.document)) := by
  have h : documentMembers members = members.map fun m => (m.1, m.2.document) := by
    induction members with
    | nil => rfl
    | cons m members ih => rw [documentMembers, ih, List.map_cons]
  rw [document, h]

/-- Every number in the value can stand in a document. -/
def Numeric (j : Json) : Prop :=
  ∀ n, j.Contains (.number n) → n.Valid

lemma Numeric.items {items : List Json} (h : Numeric (.list items)) : ∀ x ∈ items, Numeric x :=
  fun _ hx n hn => h n (.item hx hn)

lemma Numeric.members {members : Entries Json} (h : Numeric (.object members)) :
    ∀ m ∈ members, Numeric m.2 :=
  fun _ hm n hn => h n (.member hm hn)

@[simp] lemma numeric_null : Numeric .null :=
  fun _ hn => nomatch hn

@[simp] lemma numeric_bool (b : Bool) : Numeric (.bool b) :=
  fun _ hn => nomatch hn

@[simp] lemma numeric_text (s : String) : Numeric (.text s) :=
  fun _ hn => nomatch hn

@[simp] lemma numeric_number_iff : Numeric (.number n) ↔ n.Valid := by
  constructor
  · exact fun h => h n (.self _)
  · intro h m hm
    cases hm
    exact h

@[simp] lemma numeric_list_iff {items : List Json} :
    Numeric (.list items) ↔ ∀ x ∈ items, Numeric x := by
  refine ⟨Numeric.items, fun h n hn => ?_⟩
  cases hn with
  | item hx hn => exact h _ hx n hn

@[simp] lemma numeric_object_iff {members : Entries Json} :
    Numeric (.object members) ↔ ∀ m ∈ members, Numeric m.2 := by
  refine ⟨Numeric.members, fun h n hn => ?_⟩
  cases hn with
  | member hm hn => exact h _ hm n hn

lemma WellFormed.numeric (h : j.WellFormed) : j.Numeric := by
  induction h with
  | number h => exact numeric_number_iff.2 h
  | list h ih => exact numeric_list_iff.2 ih
  | object ha h ih => exact numeric_object_iff.2 ih
  | _ => simp

/-- The text of a number is a numeral, behind a sign or alone. -/
lemma writeNumber_eq (h : n.Valid) :
    ∃ t, Numeral t ∧ (writeNumber n = minus :: t ∨ writeNumber n = t) := by
  cases n with
  | whole n =>
    refine ⟨decimal n.natAbs, numeral_decimal _, ?_⟩
    rw [writeNumber, writeWhole]
    split_ifs
    · exact .inl rfl
    · exact .inr rfl
  | real x =>
    obtain ⟨t, ht, hrender⟩ := Binary64.encode_render h
    refine ⟨t, ht, ?_⟩
    rw [writeNumber, hrender]
    split_ifs
    · exact .inl rfl
    · exact .inr rfl

/-- The text that a value is written as is one of the texts of what it says. -/
theorem spells_write (h : j.Numeric) : j.document.Spells j.write := by
  induction j with
  | null => exact .null
  | bool b =>
    cases b with
    | false => exact .no
    | true => exact .yes
  | number n =>
    obtain ⟨t, ht, hwrite | hwrite⟩ := writeNumber_eq (h n (.self _))
    · rw [document, write, hwrite]
      exact .negative ht
    · rw [document, write, hwrite]
      exact .number ht
  | text s => exact .text (spelled_flatMap (Utf8.encode s))
  | list items ih =>
    rw [document_list, write_list, listOf, List.cons_append]
    exact .list (Parts.map (parts_separated fun x hx => ih x hx (h.items x hx)))
  | object members ih =>
    rw [document_object, write_object, objectOf, List.map_map, List.cons_append]
    exact .object (Parts.map (parts_separated fun m hm =>
      keyed_memberOf m.1 (ih m hm (h.members m hm))))

end Json

end PodAdmission

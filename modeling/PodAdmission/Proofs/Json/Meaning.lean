import PodAdmission.Proofs.Json.Reading

/-!
# What documents mean

A reader takes an object whose first key is the reserved one for a document in a text, whatever
other members there are. `Document.meaning?` is what it would read if the order of members did not
matter: an object stands for a document in a text just if the reserved key is its only one. The two
agree on every document that is `Document.Clear`, and nothing is read of any other.
-/

namespace PodAdmission.Document

open Json Reader

variable {D x y : Document} {depth : Nat} {key : String} {members ms : List (String × Document)}

/-! ### Keys -/

/-- No object in the document has two members under one key. -/
inductive Distinct : Document → Prop where
  | null : Distinct .null
  | bool (b : Bool) : Distinct (.bool b)
  | number (t : Bytes) : Distinct (.number t)
  | text (s : String) : Distinct (.text s)
  | list {items : List Document} (h : ∀ x ∈ items, Distinct x) : Distinct (.list items)
  | object {members : List (String × Document)} (hkeys : Entries.Distinct members)
      (h : ∀ m ∈ members, Distinct m.2) : Distinct (.object members)

@[simp] lemma distinct_list_iff {items : List Document} :
    Distinct (.list items) ↔ ∀ x ∈ items, x.Distinct := by
  refine ⟨fun h => ?_, .list⟩
  cases h with
  | list h => exact h

@[simp] lemma distinct_object_iff :
    Distinct (.object members) ↔ Entries.Distinct members ∧ ∀ m ∈ members, m.2.Distinct := by
  refine ⟨fun h => ?_, fun h => .object h.1 h.2⟩
  cases h with
  | object hkeys h => exact ⟨hkeys, h⟩

/-- The object is taken for a document in a text though it has other members. -/
def Mistaken (members : List (String × Document)) : Prop :=
  ∃ value m others, members = (embeddingKey, value) :: m :: others

/-- No object in the document is taken for a document in a text though it has other members. -/
inductive Clear : Document → Prop where
  | null : Clear .null
  | bool (b : Bool) : Clear (.bool b)
  | number (t : Bytes) : Clear (.number t)
  | text (s : String) : Clear (.text s)
  | list {items : List Document} (h : ∀ x ∈ items, Clear x) : Clear (.list items)
  | object {members : List (String × Document)} (hfirst : ¬ Mistaken members)
      (h : ∀ m ∈ members, Clear m.2) : Clear (.object members)

/-! ### Values without parts -/

/-- A document is `null` just if it is read so. -/
lemma eq_null_iff : D = .null ↔ D.leaf? = some .null := by
  constructor
  · rintro rfl
    rfl
  · intro h
    cases D with
    | null => rfl
    | number t =>
      rw [leaf?] at h
      cases ht : numberOf? t <;> simp [ht] at h
    | _ => cases h

/-- What a text stands for is seen from what is read of it. -/
lemma embedded?_eq (embedded : Bytes → Except JsonError Json) (D : Document) :
    D.embedded? embedded [] = (D.leaf?.bind fun v => (acceptText v).toOption).bind
      fun s => (embedded (Utf8.encode s)).toOption := by
  cases D with
  | number t =>
    rw [leaf?]
    cases numberOf? t <;> rfl
  | _ => rfl

/-! ### Meaning -/

/-- What is under the reserved key, if it is the only key. -/
def reserved? : List (String × Document) → Option Document
  | [(key, value)] => if key = embeddingKey then some value else none
  | _ => none

/-- What a reader would make of an object if the order of members did not matter. -/
def objectMeaning? (value? : Document → Option Json) (members : List (String × Document)) :
    Option Json :=
  match reserved? members with
  | some value => value.embedded? Json.read []
  | none => (members.foldlM (addMember? value?) []).map .object

/-- What a reader would make of a document if the order of members did not matter. -/
def meaning? : (depth : Nat) → Document → Option Json
  | depth + 1, .list items => (items.mapM (meaning? depth)).map .list
  | depth + 1, .object members => objectMeaning? (meaning? depth) members
  | _, D => D.leaf?

lemma reserved?_perm (h : members.Perm ms) : reserved? members = reserved? ms := by
  match members, ms, h.length_eq with
  | [], [], _ => rfl
  | [m], [n], _ => rw [List.singleton_perm_singleton.1 h]
  | _ :: _ :: _, _ :: _ :: _, _ => rfl

lemma objectMeaning?_perm {value? : Document → Option Json} (hd : Entries.Distinct members)
    (h : members.Perm ms) : objectMeaning? value? members = objectMeaning? value? ms := by
  rw [objectMeaning?, objectMeaning?, reserved?_perm h,
    Entries.collect_perm (fun m _ => collects_addMember? m) hd h]

/-- A member may be replaced by one that is read alike. -/
lemma objectMeaning?_replace {value? : Document → Option Json} (hleaf : x.leaf? = y.leaf?)
    (h : value? x = value? y) (key : String) (before behind : List (String × Document)) :
    objectMeaning? value? (before ++ (key, x) :: behind) =
      objectMeaning? value? (before ++ (key, y) :: behind) := by
  have hfold := foldlM_replace (f := addMember? value?) (a := (key, x)) (b := (key, y))
    (fun made => by rw [addMember?, addMember?, h]) before behind []
  rw [objectMeaning?, objectMeaning?, hfold]
  cases before with
  | nil =>
    cases behind with
    | nil =>
      rw [List.nil_append, List.nil_append, reserved?, reserved?]
      split_ifs
      · simp only [embedded?_eq, hleaf]
      · rfl
    | cons _ _ => rfl
  | cons _ before =>
    cases before with
    | nil => rfl
    | cons _ _ => rfl

/-! ### What is read -/

lemma object?_of_not_mistaken (h : ¬ Mistaken members) (value? : Document → Option Json) :
    object? (some Json.read) value? members = objectMeaning? value? members := by
  match members with
  | [] => rfl
  | [(key, value)] =>
    rw [object?, objectMeaning?, reserved?]
    split_ifs <;> rfl
  | (key, value) :: m :: others =>
    have hkey : key ≠ embeddingKey := by
      rintro rfl
      exact h ⟨value, m, others, rfl⟩
    rw [object?, if_neg hkey, objectMeaning?, reserved?]
    simp

lemma clear_of_embedded? {embedded : Bytes → Except JsonError Json} {value : Document}
    {others : List (String × Document)} (h : (value.embedded? embedded others).isSome = true)
    (key : String) : Clear (.object ((key, value) :: others)) := by
  cases others with
  | nil =>
    refine .object (fun hfirst => ?_) fun m hm => ?_
    · obtain ⟨_, _, _, heq⟩ := hfirst
      cases heq
    · obtain rfl := List.mem_singleton.1 hm
      cases value with
      | text s => exact .text s
      | _ => cases h
  | cons m others => cases value <;> cases h

/-- A clear document is read as it is meant. -/
theorem value?_of_clear (h : D.Clear) (depth : Nat) :
    D.value? (some Json.read) depth = D.meaning? depth := by
  induction depth generalizing D with
  | zero => cases D <;> rfl
  | succ depth ih =>
    cases h with
    | list h => exact congrArg (Option.map Json.list) (mapM_congr fun x hx => ih (h x hx))
    | @object members hfirst h =>
      have hfold : members.foldlM (addMember? (value? (some Json.read) depth)) [] =
          members.foldlM (addMember? (meaning? depth)) [] :=
        foldlM_congr (fun m hm made => by rw [addMember?, addMember?, ih (h m hm)]) []
      rw [value?, meaning?, object?_of_not_mistaken hfirst, objectMeaning?, objectMeaning?, hfold]
    | _ => rfl

/-- Nothing is read of a document that is not clear. -/
theorem clear_of_value? (h : (D.value? (some Json.read) depth).isSome = true) : D.Clear := by
  induction depth generalizing D with
  | zero =>
    cases D with
    | null => exact .null
    | bool b => exact .bool b
    | number t => exact .number t
    | text s => exact .text s
    | _ => cases h
  | succ depth ih =>
    cases D with
    | null => exact .null
    | bool b => exact .bool b
    | number t => exact .number t
    | text s => exact .text s
    | list items =>
      rw [value?, Option.isSome_map, mapM_isSome_iff] at h
      exact .list fun x hx => ih (h x hx)
    | object members =>
      cases members with
      | nil => exact .object (fun hfirst => by obtain ⟨_, _, _, heq⟩ := hfirst; cases heq) (by simp)
      | cons m others =>
        obtain ⟨key, value⟩ := m
        rw [value?, object?] at h
        split_ifs at h with hkey
        · exact clear_of_embedded? h key
        · rw [Option.isSome_map, foldlM_addMember?_isSome_iff] at h
          refine .object ?_ fun m hm => ih (h m hm)
          rintro ⟨_, _, _, heq⟩
          exact hkey (Prod.mk.inj (List.cons.inj heq).1).1

end PodAdmission.Document

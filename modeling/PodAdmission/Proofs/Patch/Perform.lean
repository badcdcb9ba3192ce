import PodAdmission.Patch.Basic
import PodAdmission.Proofs.Entries
import PodAdmission.Proofs.Json.Basic

/-!
# Carrying out patches

A patch below a token is carried out on the value that the token leads to and on nothing else.
`Patch.run?` is `Patch.apply` without the report of what went wrong.
-/

namespace PodAdmission

open Json

/-! ### Indices -/

namespace Pointer

lemma digitsValue_eq (cs : List Char) : digitsValue cs = Nat.ofDigitChars 10 cs 0 := by
  rw [digitsValue, Nat.ofDigitChars]
  congr 1
  funext n c
  exact congrArg (· + _) (Nat.mul_comm n 10)

/-- The text of an index leads to the item at that index. -/
lemma index?_toString (i : Nat) : index? (toString i) = some i := by
  have htoList : (toString i).toList = Nat.toDigits 10 i := by
    rw [Nat.toString_eq_repr, Nat.repr, String.toList_ofList]
  rcases Nat.eq_zero_or_pos i with rfl | hpos
  · rfl
  · obtain ⟨c, cs, hcs, hc⟩ := toDigits_eq_cons hpos
    have hdigits : (c :: cs).all Char.isDigit = true :=
      List.all_eq_true.2 (hcs ▸ isDigit_of_mem_toDigits)
    have hvalue : digitsValue (c :: cs) = i := by
      rw [digitsValue_eq, ← hcs]
      exact Nat.ofDigitChars_ten_toDigits
    rw [index?, htoList, hcs]
    split
    · rename_i heq
      cases heq
    · rename_i heq
      obtain ⟨rfl, -⟩ := List.cons.inj heq
      exact absurd rfl hc
    · rename_i heq
      obtain ⟨rfl, rfl⟩ := List.cons.inj heq
      rw [if_pos ⟨hc, hdigits⟩, hvalue]

end Pointer

/-! ### Operations below a token -/

namespace Operation

/-- The operation at the same place below some tokens. -/
def under (tokens : Pointer) : Operation → Operation
  | .add path value => .add (tokens ++ path) value
  | .remove path => .remove (tokens ++ path)
  | .replace path value => .replace (tokens ++ path) value

/-- The operation is about a part of the document, or replaces the whole. -/
def Inner : Operation → Prop
  | .add path _ => path ≠ []
  | .remove path => path ≠ []
  | .replace _ _ => True

lemma under_under (p q : Pointer) (op : Operation) :
    (op.under q).under p = op.under (p ++ q) := by
  cases op <;> simp [under]

lemma under_nil (op : Operation) : op.under [] = op := by
  cases op <;> rfl

lemma inner_under (k : String) (p : Pointer) (op : Operation) : (op.under (k :: p)).Inner := by
  cases op <;> simp [under, Inner]

/-- Below a token an operation changes just the value that the token leads to. -/
lemma perform?_under {op : Operation} (h : op.Inner) (token : String) (doc : Json) :
    (op.under [token]).perform? doc = doc.updateChild? token op.perform? := by
  cases op with
  | add path value =>
    cases path with
    | nil => exact absurd rfl h
    | cons k path => rfl
  | remove path =>
    cases path with
    | nil => exact absurd rfl h
    | cons k path => rfl
  | replace path value =>
    cases path with
    | nil => rfl
    | cons k path => rfl

end Operation

namespace Patch

/-- The same patch below some tokens. -/
def under (tokens : Pointer) (patch : Patch) : Patch :=
  patch.map (Operation.under tokens)

/-- The document after all operations, if they can be carried out. -/
def run? (patch : Patch) (doc : Json) : Option Json :=
  patch.foldlM (fun doc op => op.perform? doc) doc

/-- Every operation is about a part of the document, or replaces the whole. -/
def Inner (patch : Patch) : Prop :=
  ∀ op ∈ patch, op.Inner

variable {p q : Patch}

@[simp] lemma under_nil (p : Patch) : p.under [] = p := by
  rw [under]
  rw [List.map_congr_left fun op _ => Operation.under_nil op, List.map_id']

lemma under_under (s t : Pointer) (p : Patch) : (p.under t).under s = p.under (s ++ t) := by
  simp only [under]
  rw [List.map_map]
  exact List.map_congr_left fun op _ => Operation.under_under s t op

lemma under_append (t : Pointer) (p q : Patch) : under t (p ++ q) = p.under t ++ q.under t :=
  List.map_append

lemma under_eq_nil_iff {t : Pointer} : p.under t = [] ↔ p = [] :=
  List.map_eq_nil_iff

lemma inner_nil : Inner [] := by
  intro op h
  cases h

lemma Inner.append (hp : Inner p) (hq : Inner q) : Inner (p ++ q) := by
  intro op h
  rcases List.mem_append.1 h with h | h
  · exact hp op h
  · exact hq op h

lemma inner_under (k : String) (t : Pointer) (p : Patch) : Inner (p.under (k :: t)) := by
  intro op h
  obtain ⟨op', -, rfl⟩ := List.mem_map.1 h
  exact Operation.inner_under k t op'

/-! ### Runs -/

lemma applyFrom_eq (index : Nat) (p : Patch) (doc : Json) :
    (applyFrom index p doc).toOption = p.run? doc := by
  rw [run?]
  induction p generalizing index doc with
  | nil => rfl
  | cons op p ih =>
    rw [applyFrom, List.foldlM_cons]
    cases op.perform? doc with
    | none => rfl
    | some doc' => exact ih (index + 1) doc'

lemma apply_eq_ok_iff {doc next : Json} : p.apply doc = .ok next ↔ p.run? doc = some next := by
  have h := applyFrom_eq 0 p doc
  rw [apply]
  rw [← h]
  cases applyFrom 0 p doc with
  | error failure => simp [Except.toOption]
  | ok d => simp [Except.toOption]

@[simp] lemma run?_nil (doc : Json) : run? [] doc = some doc := rfl

lemma run?_cons (op : Operation) (p : Patch) (doc : Json) :
    run? (op :: p) doc = (op.perform? doc).bind p.run? := rfl

lemma run?_append (p q : Patch) (doc : Json) :
    run? (p ++ q) doc = (p.run? doc).bind q.run? := by
  rw [run?]
  rw [List.foldlM_append]
  rfl

/-- A patch below a key changes just the member under that key. -/
lemma run?_under_object (hp : Inner p) {members : Entries Json} (ha : members.Ascending)
    {key : String} {old : Json} (h : Entries.get? key members = some old) :
    run? (p.under [key]) (.object members) =
      (p.run? old).map fun new => .object (Entries.insert key new members) := by
  induction p generalizing members old with
  | nil => simp [under, Entries.insert_of_get? ha h]
  | cons op p ih =>
    have hop : (op.under [key]).perform? (.object members) =
        (op.perform? old).map fun new => .object (Entries.insert key new members) := by
      rw [Operation.perform?_under (hp op List.mem_cons_self), updateChild?, h]
    have hrun : run? (under [key] (op :: p)) (.object members) =
        ((op.under [key]).perform? (.object members)).bind (run? (under [key] p)) := rfl
    rw [hrun, hop, run?_cons]
    cases op.perform? old with
    | none => rfl
    | some new =>
      simp only [Option.map_some, Option.bind_some]
      rw [ih (fun op' h' => hp op' (List.mem_cons_of_mem _ h'))
        (Entries.ascending_insert key new ha) (Entries.get?_insert_self key new members)]
      simp only [Entries.insert_insert key new]

/-- A patch below an index changes just the item at that index. -/
lemma run?_under_list (hp : Inner p) {items : List Json} {i : Nat} {old : Json}
    (h : items[i]? = some old) :
    run? (p.under [toString i]) (.list items) =
      (p.run? old).map fun new => .list (items.set i new) := by
  induction p generalizing items old with
  | nil =>
    obtain ⟨hi, rfl⟩ := List.getElem?_eq_some_iff.1 h
    simp [under]
  | cons op p ih =>
    have hop : (op.under [toString i]).perform? (.list items) =
        (op.perform? old).map fun new => .list (items.set i new) := by
      rw [Operation.perform?_under (hp op List.mem_cons_self), updateChild?,
        Pointer.index?_toString]
      simp only [h]
    have hrun : run? (under [toString i] (op :: p)) (.list items) =
        ((op.under [toString i]).perform? (.list items)).bind (run? (under [toString i] p)) := rfl
    obtain ⟨hi, -⟩ := List.getElem?_eq_some_iff.1 h
    rw [hrun, hop, run?_cons]
    cases op.perform? old with
    | none => rfl
    | some new =>
      simp only [Option.map_some, Option.bind_some]
      rw [ih (fun op' h' => hp op' (List.mem_cons_of_mem _ h'))
        (List.getElem?_set_self hi : (items.set i new)[i]? = some new)]
      simp only [List.set_set]

end Patch

end PodAdmission

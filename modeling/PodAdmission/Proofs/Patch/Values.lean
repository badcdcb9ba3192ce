import PodAdmission.Proofs.Json.Skipping
import PodAdmission.Proofs.Patch.Codec
import PodAdmission.Proofs.Patch.Diff

/-!
# The text of a patch taken apart

Whatever a patch adds or puts in the place of something else is a part of the new document
(`draws_diff`). If that document can be written, so can every operation, and the text of the patch
is one of a list with an item for every operation. `operationsIn?` counts the items without
understanding them, so it also counts those of a patch that cannot be read back.
-/

namespace PodAdmission

open Ascii Json Reader

namespace Json

variable {j k v : Json}

lemma Contains.trans (h : j.Contains k) (hv : k.Contains v) : j.Contains v := by
  induction h with
  | self j => exact hv
  | item hx h ih => exact .item hx (ih hv)
  | member hm h ih => exact .member hm (ih hv)

lemma Contains.numeric (h : j.Contains v) (hj : j.Numeric) : v.Numeric :=
  fun n hn => hj n (h.trans hn)

end Json

namespace Operation

/-- What the operation adds or puts in the place of something else. -/
def value? : Operation → Option Json
  | .add _ value => some value
  | .remove _ => none
  | .replace _ value => some value

lemma numeric_toJson {op : Operation} (h : ∀ v, op.value? = some v → v.Numeric) :
    op.toJson.Numeric := by
  cases op with
  | add path value => simpa [toJson] using h value rfl
  | remove path => simp [toJson]
  | replace path value => simpa [toJson] using h value rfl

/-- The text of an operation is lexical if what it sets can be written. -/
lemma lexical_write {op : Operation} (h : ∀ v, op.value? = some v → v.Numeric) :
    Lexical op.write := by
  rw [write_eq]
  exact (spells_write (numeric_toJson h)).lexical

end Operation

namespace Patch

/-! ### Values -/

/-- Whatever the patch sets is a part of the document. -/
def Draws (patch : Patch) (new : Json) : Prop :=
  ∀ op ∈ patch, ∀ v, op.value? = some v → new.Contains v

variable {p q : Patch} {old new part : Json}

lemma draws_nil (new : Json) : Draws [] new := by
  intro op h
  cases h

lemma Draws.append (hp : Draws p new) (hq : Draws q new) : Draws (p ++ q) new := by
  intro op h
  rcases List.mem_append.1 h with h | h
  · exact hp op h
  · exact hq op h

lemma Draws.within (h : Draws p part) (hpart : new.Contains part) : Draws p new :=
  fun op hop v hv => hpart.trans (h op hop v hv)

lemma draws_singleton {op : Operation} (h : op.value? = some part) (hpart : new.Contains part) :
    Draws [op] new := by
  intro op' h' v hv
  obtain rfl := List.mem_singleton.1 h'
  obtain rfl := Option.some.inj (h.symm.trans hv)
  exact hpart

lemma draws_additions {items : List Json} (h : ∀ x ∈ items, new.Contains x) (path : Pointer)
    (index : Nat) : Draws (additions path index items) new := by
  induction items generalizing index with
  | nil => exact draws_nil new
  | cons x items ih =>
    intro op hop v hv
    rcases List.mem_cons.1 hop with rfl | hop
    · obtain rfl := Option.some.inj hv
      exact h x List.mem_cons_self
    · exact ih (fun y hy => h y (List.mem_cons_of_mem _ hy)) (index + 1) op hop v hv

lemma draws_trimmings (path : Pointer) (index : Nat) (items : List Json) (new : Json) :
    Draws (trimmings path index items) new := by
  intro op h v hv
  obtain ⟨x, -, rfl⟩ := List.mem_map.1 h
  cases hv

lemma draws_removals (path : Pointer) (olds news : Entries Json) (new : Json) :
    Draws (removals path olds news) new := by
  intro op h v hv
  obtain ⟨m, -, rfl⟩ := List.mem_map.1 h
  cases hv

lemma draws_diffItems {items : List Json} (h : ∀ x ∈ items, new.Contains x)
    (ih : ∀ x ∈ items, ∀ path old, Draws (diff path old x) x) (path : Pointer) (index : Nat)
    (olds : List Json) : Draws (diffItems path index olds items) new := by
  induction items generalizing index olds with
  | nil =>
    rw [diffItems]
    exact draws_trimmings path index olds new
  | cons x items ihItems =>
    cases olds with
    | nil =>
      rw [diffItems]
      exact draws_additions h path index
    | cons o olds =>
      rw [diffItems]
      apply Draws.append
      · exact (ih x List.mem_cons_self _ o).within (h x List.mem_cons_self)
      · exact ihItems (fun y hy => h y (List.mem_cons_of_mem _ hy))
          (fun y hy => ih y (List.mem_cons_of_mem _ hy)) (index + 1) olds

lemma draws_diffMembers {members : Entries Json} (h : ∀ m ∈ members, new.Contains m.2)
    (ih : ∀ m ∈ members, ∀ path old, Draws (diff path old m.2) m.2) (path : Pointer)
    (olds : Entries Json) : Draws (diffMembers path olds members) new := by
  induction members with
  | nil => exact draws_nil new
  | cons m members ihMembers =>
    obtain ⟨k, v⟩ := m
    rw [diffMembers]
    apply Draws.append
    · cases Entries.get? k olds with
      | none => exact draws_singleton rfl (h (k, v) List.mem_cons_self)
      | some o => exact (ih (k, v) List.mem_cons_self _ o).within (h (k, v) List.mem_cons_self)
    · exact ihMembers (fun m hm => h m (List.mem_cons_of_mem _ hm))
        fun m hm => ih m (List.mem_cons_of_mem _ hm)

/-- Whatever the patch between two documents sets is a part of the new one. -/
theorem draws_diff (path : Pointer) (old new : Json) : Draws (diff path old new) new := by
  induction new generalizing path old with
  | list items ih =>
    cases old with
    | list olds =>
      simp only [diff]
      exact draws_diffItems (fun x hx => .item hx (.self x)) ih path 0 olds
    | _ =>
      simp only [diff]
      exact draws_singleton rfl (.self _)
  | object members ih =>
    cases old with
    | object olds =>
      simp only [diff]
      apply Draws.append
      · exact draws_diffMembers (fun m hm => .member hm (.self m.2)) ih path olds
      · exact draws_removals path olds members _
    | _ =>
      simp only [diff]
      exact draws_singleton rfl (.self _)
  | _ =>
    rw [diff_leaf path old (by simp) (by simp)]
    split_ifs
    · exact draws_nil _
    · exact draws_singleton rfl (.self _)

/-! ### Counting -/

/-- Passes over a value. -/
def passItem (_depth : Nat) (bytes : Bytes) : Read Unit :=
  (skipValue bytes).map fun rest => ((), rest)

/-- How many operations the text of a patch has. -/
def operationsIn? (text : Bytes) : Option Nat :=
  (readWhole (readList passItem 1) text).toOption.map List.length

lemma yields_passItem {t rest : Bytes} (h : Lexical t) (hrest : Delimited rest) :
    Yields (passItem 0 (t ++ rest)) (some ()) rest := by
  have hskip := skipValue_lexical h blank_nil hrest
  rw [List.nil_append] at hskip
  rw [passItem, hskip]
  exact yields_ok () rest

/-- The text of a patch has as many operations as the patch. -/
theorem operationsIn?_write (h : ∀ op ∈ p, Lexical op.write) :
    operationsIn? p.write = some p.length := by
  obtain ⟨t, hwrite, hparts⟩ := parts_write p
  have hitems := yields_readItems hparts (fun op hop t ht => ht ▸ (h op hop).starts)
    (fun op hop t ht rest hrest => ht ▸ yields_passItem (h op hop) hrest) []
  have hlist : Yields (readList passItem 1 p.write) (p.mapM fun _ => some ()) [] := by
    rw [List.append_nil] at hitems
    rw [hwrite, readList, skipSpace_cons (by decide)]
    exact hitems
  rw [operationsIn?, yields_readWhole blank_nil hlist]
  have hcount : (p.mapM fun _ => some ()) = some (p.map fun _ => ()) := List.mapM_pure
  rw [hcount, Option.map_some, List.length_map]

end Patch

end PodAdmission

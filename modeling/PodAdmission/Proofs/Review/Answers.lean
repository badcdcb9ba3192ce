import PodAdmission.Proofs.Json.Passing
import PodAdmission.Proofs.Review.Isolation
import PodAdmission.Proofs.Schema.Answers

/-!
# What forms answer

A form is read one member at a time into a structure that starts out blank, so what holds of the
blank structure and is kept by every member holds of whatever is answered. The own text of an
optional value that is answered can be put in the place of the value again.
-/

namespace PodAdmission

open Ascii Json Reader

namespace Slot

variable {α β : Type} {P : α → Prop} {Q : β → Prop} {key : String} {read : Bytes → Read β}

/-- Whatever is read into the slot, the structure still has the property. -/
def Preserves (slot : Slot α) (P : α → Prop) : Prop :=
  ∀ a, P a → ∀ bytes, Gives P (slot.read a bytes)

lemma preserves_optional {set : α → Option β → α}
    (hread : ∀ bytes, Gives (fun o => ∀ v, o = some v → Q v) (readOptional read bytes))
    (hset : ∀ a o, P a → (∀ v, o = some v → Q v) → P (set a o)) :
    (optional key read set).Preserves P :=
  fun a ha bytes => (hread bytes).map (hset a · ha)

/-- A required member that the property does not depend on. -/
lemma preserves_required {set : α → β → α} (hset : ∀ a v, P a → P (set a v)) :
    (required key read set).Preserves P := by
  intro a ha bytes
  have hread : Gives (fun _ => True) (read bytes) := fun _ _ _ => trivial
  exact hread.map fun v _ => hset a v ha

/-- An optional member that the property does not depend on. -/
lemma preserves_other {set : α → Option β → α} (hset : ∀ a o, P a → P (set a o)) :
    (optional key read set).Preserves P :=
  preserves_optional (Q := fun _ => True) (fun _ _ _ _ _ _ => trivial) fun a o ha _ => hset a o ha

end Slot

namespace Form

variable {α : Type} {form : Form α} {P : α → Prop}

lemma gives_readMember (h : ∀ slot ∈ form.slots, slot.Preserves P) {state : List String × α}
    (hstate : P state.2) (key : String) (bytes : Bytes) :
    Gives (fun state => P state.2) (form.readMember state key bytes) := by
  rw [readMember]
  split
  · rename_i slot hslot
    split_ifs
    · exact gives_error _
    · split
      · exact gives_error _
      · rename_i rest _
        have hread := h slot (List.mem_of_find?_eq_some hslot) state.2 hstate rest
        exact hread.map (f := fun a => (key :: state.1, a)) fun a ha => ha
  · split
    · exact gives_error _
    · rename_i rest _
      cases skipValue rest with
      | error fault => exact gives_error _
      | ok behind => exact gives_ok (P := fun state : List String × α => P state.2) hstate behind

lemma gives_readObject (h : ∀ slot ∈ form.slots, slot.Preserves P) (hblank : P form.blank)
    (bytes : Bytes) : Gives P (form.readObject bytes) := by
  have hmembers : Gives (fun state => P state.2)
      (readMembers form.readMember true ([], form.blank) bytes bytes) :=
    gives_readMembers (fun state key bytes hstate => gives_readMember h hstate key bytes) true
      hblank bytes bytes
  rw [readObject]
  split
  · exact gives_error _
  · rename_i seen a rest hread
    split
    · exact gives_error _
    · exact gives_ok (hmembers _ _ hread) rest

lemma gives_readSlots {slots : List (Slot α)} (h : ∀ slot ∈ slots, slot.Preserves P)
    (index : Nat) {a : α} (ha : P a) (bytes : Bytes) :
    Gives P (form.readSlots index a slots bytes) := by
  induction slots generalizing index a bytes with
  | nil =>
    rw [readSlots]
    cases readListEnd bytes with
    | error fault => exact gives_error _
    | ok rest => exact gives_ok ha rest
  | cons slot slots ih =>
    rw [readSlots]
    split
    · exact gives_error _
    · split
      · exact gives_error _
      · exact gives_ok ha _
    · split
      · exact gives_error _
      · rename_i a' rest hread
        have ha' : P a' := h slot List.mem_cons_self a ha _ a' rest hread
        exact ih (fun slot hslot => h slot (List.mem_cons_of_mem _ hslot)) _ ha' rest

/-- What holds of the blank structure and is kept by every member holds of what is read. -/
lemma gives_read {form : Nat → Form α}
    (h : ∀ depth, ∀ slot ∈ (form depth).slots, slot.Preserves P)
    (hblank : ∀ depth, P (form depth).blank) (depth : Nat) (bytes : Bytes) :
    Gives P (Form.read form depth bytes) := by
  rw [Form.read]
  split
  · exact gives_error _
  · split
    · split
      · exact gives_error _
      · split
        · exact gives_readObject (h _) (hblank _) _
        · exact gives_readSlots (h _) 0 (hblank _) _
    · exact Shape.gives_refuse _ _

end Form

/-! ### The own text of a value -/

/-- The own text of a value that does not start like `null` can be an object under review. -/
lemma embeddable_of_readRaw {b : UInt8} {behind raw rest : Bytes} (hspace : isSpace b = false)
    (hb : b ≠ lowerN) (h : readRaw (b :: behind) = .ok (raw, rest)) : Embeddable raw := by
  obtain ⟨hlexical, hscan, w, hw, hbytes⟩ := readRaw_ok h
  refine ⟨hlexical, Utf8.exists_encode_of_scan hscan, ?_⟩
  rintro rfl
  have hskip := congrArg skipSpace hbytes
  rw [skipSpace_cons hspace, nullWord, List.cons_append,
    skipSpace_blank hw (by decide : isSpace 0x6E = false)] at hskip
  exact hb (List.cons.inj hskip).1

lemma gives_readOptional_readRaw (bytes : Bytes) :
    Gives (fun o => ∀ v, o = some v → Embeddable v) (readOptional readRaw bytes) := by
  rw [readOptional]
  split
  · -- no value starts at the end of the text
    exact gives_error _
  · rename_i b behind hskip
    split_ifs with hb
    · cases readWord nullWord.tail behind with
      | error fault => exact gives_error _
      | ok rest => exact gives_ok (P := fun o => ∀ v, o = some v → Embeddable v) (by simp) rest
    · have hraw : Gives Embeddable (readRaw (b :: behind)) := fun raw rest h =>
        embeddable_of_readRaw (isSpace_of_skipSpace hskip) hb h
      exact hraw.map fun v hv u hu => Option.some.inj hu ▸ hv

end PodAdmission

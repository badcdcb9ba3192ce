import PodAdmission.Decision
import PodAdmission.Proofs.Json.Answers
import PodAdmission.Proofs.Patch.Perform
import PodAdmission.Proofs.Patch.Replay

/-!
# The patch between two texts

A patch is made from any two texts that say JSON values. It consists of additions, removals and
replacements, it is empty just if the values are equal, and it turns the one into a value that is
equal to the other. If one of the texts says none, the first such text is named.
-/

namespace PodAdmission.Patch

open Json Reader

variable {submitted changed : Bytes} {old new : Json}

/-- The failure of two texts of which one says no value. -/
inductive Unreadable (submitted changed : Bytes) : Failure → Prop where
  | submitted {e : JsonError} (h : Json.read submitted = .error e) :
    Unreadable submitted changed (.patch ("original object is not JSON: " ++ e.message))
  | changed {old : Json} {e : JsonError} (hold : Json.read submitted = .ok old)
    (h : Json.read changed = .error e) :
    Unreadable submitted changed (.patch ("mutated object is not JSON: " ++ e.message))

/-- Written, an operation says that it adds, removes or replaces. -/
def Edits (op : Operation) : Prop :=
  ∃ name ∈ ["add", "remove", "replace"], ∃ members,
    op.write = Json.objectOf (("op", Json.writeText name) :: members)

/-- The patch turns the one value into the other, and is empty just if they are equal. -/
structure Links (patch : Patch) (old new : Json) : Prop where
  edits : ∀ op ∈ patch, Edits op
  nil_iff : patch = [] ↔ old.same new = true
  reaches : ∃ made, patch.apply old = .ok made ∧ made.same new = true

lemma edits_of_operation (op : Operation) : Edits op := by
  cases op with
  | add path value => exact ⟨"add", by simp, _, rfl⟩
  | remove path => exact ⟨"remove", by simp, _, rfl⟩
  | replace path value => exact ⟨"replace", by simp, _, rfl⟩

lemma links_between (hold : old.WellFormed) (hnew : new.WellFormed) :
    (between old new).Links old new := by
  obtain ⟨made, hmade, hsame⟩ := replays hold hnew
  exact ⟨fun op _ => edits_of_operation op, diff_eq_nil_iff hold hnew,
    made, apply_eq_ok_iff.2 hmade, hsame⟩

lemma create_eq_error_iff {failure : Failure} :
    create submitted changed = .error failure ↔ Unreadable submitted changed failure := by
  constructor
  · intro h
    rw [create] at h
    split at h
    · rename_i e hold
      cases h
      exact .submitted hold
    · rename_i old hold
      split at h
      · rename_i e hnew
        cases h
        exact .changed hold hnew
      · cases h
  · rintro (h | ⟨hold, h⟩)
    · simp only [create, h]
    · simp only [create, hold, h]

lemma exists_unreadable_iff :
    (∃ failure, Unreadable submitted changed failure) ↔
      (∀ old, Json.read submitted ≠ .ok old) ∨ ∀ new, Json.read changed ≠ .ok new := by
  constructor
  · rintro ⟨_, h | ⟨_, h⟩⟩
    · left
      intro old hold
      cases h.symm.trans hold
    · right
      intro new hnew
      cases h.symm.trans hnew
  · intro h
    cases hold : Json.read submitted with
    | error e => exact ⟨_, .submitted hold⟩
    | ok old =>
      cases hnew : Json.read changed with
      | error e => exact ⟨_, .changed hold hnew⟩
      | ok new =>
        rcases h with h | h
        · exact absurd hold (h old)
        · exact absurd hnew (h new)

/-- No patch is made from two texts just if one of them says no value, which is then the failure.
Otherwise the patch links what they say. -/
theorem create_contract (submitted changed : Bytes) :
    (∀ failure, create submitted changed = .error failure ↔
      Unreadable submitted changed failure) ∧
    ((∃ failure, create submitted changed = .error failure) ↔
      (∀ old, Json.read submitted ≠ .ok old) ∨ ∀ new, Json.read changed ≠ .ok new) ∧
    ∀ old new, Json.read submitted = .ok old → Json.read changed = .ok new →
      ∃ patch, create submitted changed = .ok patch ∧ patch.Links old new := by
  refine ⟨fun failure => create_eq_error_iff, ?_, ?_⟩
  · simp only [create_eq_error_iff]
    exact exists_unreadable_iff
  · intro old new hold hnew
    refine ⟨between old new, ?_, links_between (wellFormed_of_read hold)
      (wellFormed_of_read hnew)⟩
    simp only [create, hold, hnew]

end PodAdmission.Patch

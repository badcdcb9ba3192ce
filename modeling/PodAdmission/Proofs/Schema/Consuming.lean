import PodAdmission.Proofs.Json.Passing
import PodAdmission.Proofs.Schema.Reading

/-!
# What is read against shapes

Whatever the shape, what is read is lexically a value: members that no field asks for are passed
over and still have to be in place.
-/

namespace PodAdmission

open Ascii Json Reader

namespace Reader

variable {bytes rest : Bytes}

lemma consumes_readDict {item : Nat → Bytes → Read Datum} (hitem : ∀ depth, Consumes (item depth))
    (depth : Nat) : Consumes (readDict item depth) := by
  refine consumes_of_skips (fun w bytes hw => ?_) nofun fun b behind a rest hspace h => ?_
  · simp only [readDict, skipSpace_append hw]
  · simp only [readDict, skipSpace_cons hspace] at h
    split_ifs at h with hb
    · cases depth with
      | zero => cases h
      | succ depth =>
        obtain ⟨entries, h, -⟩ := map_ok h
        obtain ⟨parts, u, hu, rfl⟩ := readMembers_ok (memberConsumes_addMember (hitem depth)) h
        exact hb ▸ passed_of_lexical (.object hu) rest
    · exact consumes_readAs _ _ _ _ _ h

/-- A member of a record takes a lexical value, asked for or not. -/
lemma memberConsumes_readField (fixed : List (String × String))
    {readers : List (String × (Bytes → Read Datum))}
    (hreaders : ∀ name read, Entries.get? name readers = some read → Consumes read) :
    MemberConsumes (readField fixed readers) := by
  intro made key bytes made' rest h
  obtain ⟨behind, hcolon, hfield⟩ := fieldRead_of_ok h
  obtain ⟨w, hw, rfl⟩ := readColon_ok hcolon
  refine ⟨w, behind, hw, rfl, ?_⟩
  cases hfield with
  | given hread h => exact consumes_readOptional (hreaders key _ hread) _ _ _ h
  | null hread h => exact consumes_readOptional (hreaders key _ hread) _ _ _ h
  | fixed hread hfixed h => exact consumes_readAs _ _ _ _ _ h
  | other hread hfixed h => exact passed_of_skipValue h

lemma consumes_readRecord (name : String) (fixed : List (String × String))
    {readers : Nat → List (String × (Bytes → Read Datum))}
    (hreaders : ∀ depth name read, Entries.get? name (readers depth) = some read → Consumes read)
    (depth : Nat) : Consumes (readRecord name fixed readers depth) := by
  refine consumes_of_skips (fun w bytes hw => ?_) nofun fun b behind a rest hspace h => ?_
  · simp only [readRecord, skipSpace_append hw]
  · simp only [readRecord, skipSpace_cons hspace] at h
    split_ifs at h with hobject hlist
    · cases depth with
      | zero => cases h
      | succ depth =>
        obtain ⟨parts, u, hu, rfl⟩ :=
          readMembers_ok (memberConsumes_readField fixed (hreaders depth)) h
        exact hobject ▸ passed_of_lexical (.object hu) rest
    · cases depth <;> cases h
    · exact consumes_readAs _ _ _ _ _ h

lemma consumes_readIntOrText (depth : Nat) : Consumes (readIntOrText depth) := by
  refine consumes_of_skips (fun w bytes hw => ?_) nofun fun b behind a rest hspace h => ?_
  · simp only [readIntOrText, skipSpace_append hw]
  · simp only [readIntOrText, skipSpace_cons hspace] at h
    by_cases hopen : b = openList ∨ b = openObject
    · simp only [if_pos hopen] at h
      cases depth with
      | zero => cases h
      | succ depth =>
        simp only at h
        split_ifs at h
    · simp only [if_neg hopen] at h
      exact consumes_readAs _ _ _ _ _ h

end Reader

namespace Shape

lemma consumes_readers {fields : List (String × Presence × Shape)}
    (h : ∀ f ∈ fields, ∀ depth, Consumes (f.2.2.read depth)) (depth : Nat) (name : String)
    (read : Bytes → Read Datum) (hread : Entries.get? name (readers fields depth) = some read) :
    Consumes read := by
  rw [get?_readers] at hread
  obtain ⟨f, hf, rfl⟩ := Option.map_eq_some_iff.1 hread
  exact h _ (Entries.mem_of_get? hf) depth

/-- Whatever the shape, what is read is a lexical value. -/
theorem consumes_read (s : Shape) (depth : Nat) : Consumes (s.read depth) := by
  induction s generalizing depth with
  | text => exact (consumes_readAs "a string" acceptText).map Datum.text
  | flag => exact (consumes_readAs "a boolean" acceptBool).map Datum.flag
  | int32 => exact consumes_readAs "i32" acceptInt32
  | int64 => exact consumes_readAs "i64" acceptInt64
  | intOrText => exact consumes_readIntOrText depth
  | time => exact consumes_readAs instantText acceptTime
  | free => exact (consumes_readValueWith (some Json.read) depth).map Datum.free
  | list item ih => exact (consumes_readList ih depth).map Datum.list
  | dict item ih => exact consumes_readDict ih depth
  | record name fields ih =>
    exact (consumes_readRecord name [] (consumes_readers ih) depth).map
      fun given => Datum.record (complete fields given)

end Shape

end PodAdmission

import PodAdmission.Proofs.Json.Settling
import PodAdmission.Proofs.Schema.Reading

/-!
# Lexical values read against shapes

A shape is read of every lexical value just as of that value alone, whatever comes behind it.
-/

namespace PodAdmission

open Ascii Json Reader

namespace Reader

/-- A list is read whatever comes behind it. -/
lemma settles_readList {α : Type} {item : Nat → Bytes → Read α} (h : ∀ depth, Settles (item depth))
    (depth : Nat) : Settles (readList item depth) := by
  refine settles_of_skips (fun w bytes hw => ?_) fun b r ht hspace => ?_
  · simp only [readList, skipSpace_append hw]
  · simp only [readList, skipSpace_cons hspace]
    by_cases hb : b = openList
    · subst hb
      obtain ⟨items, hr⟩ := ht.items
      cases depth with
      | zero => exact ⟨none, fun rest _ => rfl⟩
      | succ depth => exact ⟨_, fun rest _ => yields_items (h depth) hr rest⟩
    · simp only [if_neg hb]
      exact ⟨_, fun rest hrest => (settles_readAs _ _).yields ht hrest⟩

/-- A string map is read whatever comes behind it. -/
lemma settles_readDict {item : Nat → Bytes → Read Datum} (h : ∀ depth, Settles (item depth))
    (depth : Nat) : Settles (readDict item depth) := by
  refine settles_of_skips (fun w bytes hw => ?_) fun b r ht hspace => ?_
  · simp only [readDict, skipSpace_append hw]
  · simp only [readDict, skipSpace_cons hspace]
    by_cases hb : b = openObject
    · subst hb
      obtain ⟨members, hr⟩ := ht.members
      cases depth with
      | zero => exact ⟨none, fun rest _ => rfl⟩
      | succ depth =>
        have hmembers := yields_members (memberReads_addMember (h depth)) hr []
        exact ⟨_, fun rest _ => (hmembers rest).map Datum.record⟩
    · simp only [if_neg hb]
      exact ⟨_, fun rest hrest => (settles_readAs _ _).yields ht hrest⟩

/-- What a member does to a record. -/
def fieldAnswer (fixed : List (String × String)) (readers : List (String × (Bytes → Read Datum)))
    (made : Record) (key : String) (t : Bytes) : Option Record :=
  match Entries.get? key readers with
  | some reader =>
    (taken (readOptional reader) t).map fun
      | some d => Entries.insert key d made
      | none => Entries.erase key made
  | none =>
    match Entries.get? key fixed with
    | some value =>
      (taken (readAs "a string" acceptText) t).bind fun s => if s = value then some made else none
    | none => some made

/-- A member of a record is read whatever comes behind it. -/
lemma memberReads_readField (fixed : List (String × String))
    {readers : List (String × (Bytes → Read Datum))}
    (h : ∀ name read, Entries.get? name readers = some read → Settles read) :
    MemberReads (readField fixed readers) (fieldAnswer fixed readers) := by
  intro made key t ht w w' rest hw hw' hrest
  rw [readField, readColon_blank hw, fieldAnswer]
  cases hread : Entries.get? key readers with
  | some read =>
    simp only
    obtain ⟨fault, hoptional, hvalue⟩ | ⟨o, hoptional, hvalue⟩ :=
      (settles_readOptional (h key read hread) t ht w' rest hw' hrest).cases
    · simp only [hoptional, hvalue]
      exact yields_error fault rest
    · simp only [hoptional, hvalue]
      cases o <;> exact yields_ok _ rest
  | none =>
    cases Entries.get? key fixed with
    | none =>
      simp only [skipValue_lexical ht hw' hrest]
      exact yields_ok made rest
    | some value =>
      simp only
      obtain ⟨fault, htext, hvalue⟩ | ⟨s, htext, hvalue⟩ :=
        (settles_readAs "a string" acceptText t ht w' rest hw' hrest).cases
      · simp only [htext, hvalue]
        exact yields_error fault rest
      · simp only [htext, hvalue, Option.bind_some]
        split_ifs
        · exact yields_ok made rest
        · exact yields_error _ rest

/-- A record is read whatever comes behind it. -/
lemma settles_readRecord (name : String) (fixed : List (String × String))
    {readers : Nat → List (String × (Bytes → Read Datum))}
    (h : ∀ depth name read, Entries.get? name (readers depth) = some read → Settles read)
    (depth : Nat) : Settles (readRecord name fixed readers depth) := by
  refine settles_of_skips (fun w bytes hw => ?_) fun b r ht hspace => ?_
  · simp only [readRecord, skipSpace_append hw]
  · simp only [readRecord, skipSpace_cons hspace]
    by_cases hobject : b = openObject
    · subst hobject
      obtain ⟨members, hr⟩ := ht.members
      cases depth with
      | zero => exact ⟨none, fun rest _ => rfl⟩
      | succ depth =>
        exact ⟨_, fun rest _ => yields_members (memberReads_readField fixed (h depth)) hr [] rest⟩
    · by_cases hlist : b = openList
      · simp only [if_neg hobject, if_pos hlist]
        cases depth <;> exact ⟨none, fun rest _ => rfl⟩
      · simp only [if_neg hobject, if_neg hlist]
        exact ⟨_, fun rest hrest => (settles_readAs _ _).yields ht hrest⟩

lemma settles_readIntOrText (depth : Nat) : Settles (readIntOrText depth) := by
  refine settles_of_skips (fun w bytes hw => ?_) fun b r ht hspace => ?_
  · simp only [readIntOrText, skipSpace_append hw]
  · simp only [readIntOrText, skipSpace_cons hspace]
    by_cases hopen : b = openList ∨ b = openObject
    · simp only [if_pos hopen]
      refine ⟨none, fun rest _ => ?_⟩
      cases depth with
      | zero => exact yields_error _ rest
      | succ depth => split_ifs <;> exact yields_error _ rest
    · simp only [if_neg hopen]
      exact ⟨_, fun rest hrest => (settles_readAs _ _).yields ht hrest⟩

end Reader

namespace Shape

lemma settles_readers {fields : List (String × Presence × Shape)}
    (h : ∀ f ∈ fields, ∀ depth, Settles (f.2.2.read depth)) (depth : Nat) (name : String)
    (read : Bytes → Read Datum) (hread : Entries.get? name (readers fields depth) = some read) :
    Settles read := by
  rw [get?_readers] at hread
  obtain ⟨f, hf, rfl⟩ := Option.map_eq_some_iff.1 hread
  exact h _ (Entries.mem_of_get? hf) depth

/-- Whatever the shape, what is read of a lexical value does not depend on what comes behind. -/
theorem settles_read (s : Shape) (depth : Nat) : Settles (s.read depth) := by
  induction s generalizing depth with
  | text => exact (settles_readAs "a string" acceptText).map Datum.text
  | flag => exact (settles_readAs "a boolean" acceptBool).map Datum.flag
  | int32 => exact settles_readAs "i32" acceptInt32
  | int64 => exact settles_readAs "i64" acceptInt64
  | intOrText => exact settles_readIntOrText depth
  | time => exact settles_readAs instantText acceptTime
  | free => exact (settles_readValueWith (some Json.read) depth).map Datum.free
  | list item ih => exact (settles_readList ih depth).map Datum.list
  | dict item ih => exact settles_readDict ih depth
  | record name fields ih =>
    exact (settles_readRecord name [] (settles_readers ih) depth).map
      fun given => Datum.record (complete fields given)

end Shape

end PodAdmission

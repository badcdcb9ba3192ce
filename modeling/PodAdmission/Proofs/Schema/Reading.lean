import PodAdmission.Proofs.Json.Reading
import PodAdmission.Proofs.Json.Skipping
import PodAdmission.Schema.Reader

/-!
# Documents read against shapes

`Shape.ofDocument?` says what a reader makes of a document against a shape, whichever text of the
document it is given. A record takes from an object the value under the name of every field and
passes over the rest, so `Shape.collects_addField?` says member by member what is read.
-/

namespace PodAdmission

open Ascii Json Reader

namespace Shape

/-- What holds of a list, a string map and a record if it holds of their parts holds of every
shape. -/
@[elab_as_elim, induction_eliminator]
theorem induction {motive : Shape → Prop} (text : motive .text) (flag : motive .flag)
    (int32 : motive .int32) (int64 : motive .int64) (intOrText : motive .intOrText)
    (time : motive .time) (free : motive .free) (list : ∀ item, motive item → motive (.list item))
    (dict : ∀ item, motive item → motive (.dict item))
    (record : ∀ name fields, (∀ f ∈ fields, motive f.2.2) → motive (.record name fields))
    (s : Shape) : motive s := by
  refine @Shape.rec motive (fun fields => ∀ f ∈ fields, motive f.2.2) (fun f => motive f.2.2)
    (fun f => motive f.2) text flag int32 int64 intOrText time free list dict record ?_ ?_ ?_ ?_ s
  · intro f hf
    cases hf
  · intro e fields he hfields f hf
    rcases List.mem_cons.1 hf with rfl | hf
    · exact he
    · exact hfields f hf
  · intro name f hf
    exact hf
  · intro presence s hs
    exact hs

/-! ### Documents -/

/-- How free values are read with the bound given on nested brackets. -/
abbrev FreeReading := Nat → Document → Option Json

end Shape

namespace Document

/-- The text that is read. -/
def text? (D : Document) : Option String :=
  D.leaf?.bind fun v => (acceptText v).toOption

/-- What is read for a field that may be left out. -/
def optional? {α : Type} (value? : Document → Option α) : Document → Option (Option α)
  | .null => some none
  | D => (value? D).map some

lemma optional?_of_ne_null {α : Type} {value? : Document → Option α} {D : Document}
    (h : D ≠ .null) : optional? value? D = (value? D).map some := by
  cases D with
  | null => exact absurd rfl h
  | _ => rfl

/-- What a member of an object adds to a record. -/
def addField? (fixed : List (String × String))
    (fields : List (String × (Document → Option Datum))) (made : Record)
    (m : String × Document) : Option Record :=
  match Entries.get? m.1 fields with
  | some value? =>
    (optional? value? m.2).map fun
      | some d => Entries.insert m.1 d made
      | none => Entries.erase m.1 made
  | none =>
    match Entries.get? m.1 fixed with
    | some value => if text? m.2 = some value then some made else none
    | none => some made

/-- What is read of a list. -/
def items? {α : Type} (value? : Nat → Document → Option α) (depth : Nat) (D : Document) :
    Option (List α) :=
  match depth, D with
  | depth + 1, .list items => items.mapM (value? depth)
  | _, _ => none

/-- What is read of a string map. -/
def entries? {α : Type} (value? : Nat → Document → Option α) (depth : Nat) (D : Document) :
    Option (Entries α) :=
  match depth, D with
  | depth + 1, .object members => members.foldlM (addMember? (value? depth)) []
  | _, _ => none

/-- What is read of a record, the fields of which are read as given. -/
def record? (fixed : List (String × String))
    (fields : Nat → List (String × (Document → Option Datum))) (depth : Nat) (D : Document) :
    Option Record :=
  match depth, D with
  | depth + 1, .object members => members.foldlM (addField? fixed (fields depth)) []
  | _, _ => none

end Document

namespace Shape

mutual

/-- What is read of a document against a shape. -/
def ofDocument? (free : FreeReading) : Shape → (depth : Nat) → Document → Option Datum
  | .text, _, D => D.text?.map .text
  | .flag, _, D => (D.leaf?.bind fun v => (acceptBool v).toOption).map .flag
  | .int32, _, D => D.leaf?.bind fun v => (acceptInt32 v).toOption
  | .int64, _, D => D.leaf?.bind fun v => (acceptInt64 v).toOption
  | .intOrText, _, D => D.leaf?.bind fun v => (acceptIntOrText v).toOption
  | .time, _, D => D.leaf?.bind fun v => (acceptTime v).toOption
  | .free, depth, D => (free depth D).map .free
  | .list item, depth, D => (D.items? (ofDocument? free item) depth).map .list
  | .dict item, depth, D => (D.entries? (ofDocument? free item) depth).map .record
  | .record _ fields, depth, D =>
    (D.record? [] (fieldsOfDocument? free fields) depth).map fun given =>
      .record (complete fields given)

/-- What is read of documents against the fields of a record. -/
def fieldsOfDocument? (free : FreeReading) : List (String × Presence × Shape) → (depth : Nat) →
    List (String × (Document → Option Datum))
  | [], _ => []
  | (name, _, shape) :: rest, depth =>
    (name, ofDocument? free shape depth) :: fieldsOfDocument? free rest depth

end

lemma get?_readers (fields : List (String × Presence × Shape)) (depth : Nat) (name : String) :
    Entries.get? name (readers fields depth) =
      (Entries.get? name fields).map fun f => read f.2 depth := by
  induction fields with
  | nil => rfl
  | cons f fields ih =>
    obtain ⟨l, presence, shape⟩ := f
    rw [readers, Entries.get?, Entries.get?]
    split_ifs
    · rfl
    · exact ih

lemma get?_fieldsOfDocument? (free : FreeReading) (fields : List (String × Presence × Shape))
    (depth : Nat) (name : String) :
    Entries.get? name (fieldsOfDocument? free fields depth) =
      (Entries.get? name fields).map fun f => ofDocument? free f.2 depth := by
  induction fields with
  | nil => rfl
  | cons f fields ih =>
    obtain ⟨l, presence, shape⟩ := f
    rw [fieldsOfDocument?, Entries.get?, Entries.get?]
    split_ifs
    · rfl
    · exact ih

/-- What a member adds to a record under its key: a value or nothing, unless it fails. -/
def memberOfDocument? (fixed : List (String × String)) (free : FreeReading)
    (fields : List (String × Presence × Shape)) (depth : Nat) (key : String) (D : Document) :
    Option (Option Datum) :=
  match Entries.get? key fields with
  | some (_, s) => Document.optional? (s.ofDocument? free depth) D
  | none =>
    match Entries.get? key fixed with
    | some value => if D.text? = some value then some none else none
    | none => some none

lemma collects_addField? {fixed : List (String × String)} {free : FreeReading}
    {fields : List (String × Presence × Shape)} {depth : Nat} (m : String × Document) :
    Entries.Collects (Document.addField? fixed (fieldsOfDocument? free fields depth))
      (memberOfDocument? fixed free fields depth) m := by
  intro made hmade hnew
  rw [Document.addField?, memberOfDocument?, get?_fieldsOfDocument?]
  cases Entries.get? m.1 fields with
  | some f =>
    simp only [Option.map_some]
    cases Document.optional? (f.2.ofDocument? free depth) m.2 with
    | none => rfl
    | some o =>
      cases o with
      | none =>
        simp only [Option.map_some, Entries.extend]
        rw [Entries.erase_of_get?_eq_none hnew]
      | some d => rfl
  | none =>
    simp only [Option.map_none]
    cases Entries.get? m.1 fixed with
    | some value =>
      simp only
      split_ifs <;> rfl
    | none => rfl

end Shape

open Shape

namespace Reader

variable {D : Document} {t w rest : Bytes}

/-! ### Parts of values -/

/-- A document of another kind than a reader is for is refused. -/
lemma yields_refuse {α : Type} (wanted : String) (ht : D.Spells t) {b : UInt8} {r : Bytes}
    (heq : t = b :: r) (hrest : Delimited rest) :
    Yields (readAs wanted (refuse wanted : Json → Except Cause α) (b :: (r ++ rest))) none
      rest := by
  have h := agrees_readAs wanted (refuse wanted : Json → Except Cause α) D t ht [] rest blank_nil
    hrest
  rw [heq] at h
  cases hleaf : D.leaf? with
  | none =>
    simp only [hleaf] at h
    exact h
  | some v =>
    simp only [hleaf] at h
    exact h

lemma agrees_readList {item : Nat → Bytes → Read Datum} {value : Nat → Document → Option Datum}
    (h : ∀ depth, Agrees (item depth) (value depth)) (depth : Nat) :
    Agrees (readList item depth) (Document.items? value depth) := by
  intro D t ht w rest hw hrest
  obtain ⟨b, r, heq, hspace, -, hopen, -⟩ := ht.eq_cons
  by_cases hlist : ∃ items, D = .list items
  · obtain ⟨items, rfl⟩ := hlist
    cases ht with
    | list ht =>
      rw [List.cons_append, readList, skipSpace_blank hw (by decide)]
      cases depth with
      | zero => exact yields_error _ rest
      | succ depth =>
        exact yields_readItems ht (fun x _ t ht => ht.starts)
          (fun x _ t ht rest hrest => h depth x t ht [] rest blank_nil hrest) rest
  · have hnone : D.items? value depth = none := by
      cases D with
      | list items => exact absurd ⟨items, rfl⟩ hlist
      | _ => cases depth <;> rfl
    rw [hnone, heq, List.cons_append, readList, skipSpace_blank hw hspace]
    simp only [if_neg (mt hopen hlist)]
    exact yields_refuse "a sequence" ht heq hrest

lemma agrees_readDict {item : Nat → Bytes → Read Datum} {value : Nat → Document → Option Datum}
    (h : ∀ depth, Agrees (item depth) (value depth)) (depth : Nat) :
    Agrees (readDict item depth) fun D => (D.entries? value depth).map .record := by
  intro D t ht w rest hw hrest
  obtain ⟨b, r, heq, hspace, -, -, hopen⟩ := ht.eq_cons
  by_cases hobject : ∃ members, D = .object members
  · obtain ⟨members, rfl⟩ := hobject
    cases ht with
    | object ht =>
      rw [List.cons_append, readDict, skipSpace_blank hw (by decide)]
      cases depth with
      | zero => exact yields_error _ rest
      | succ depth =>
        exact (yields_readMembers ht (fun m _ => memberAgrees_addMember (h depth) m) [] rest).map
          Datum.record
  · have hnone : D.entries? value depth = none := by
      cases D with
      | object members => exact absurd ⟨members, rfl⟩ hobject
      | _ => cases depth <;> rfl
    simp only [hnone]
    rw [heq, List.cons_append, readDict, skipSpace_blank hw hspace]
    simp only [if_neg (mt hopen hobject)]
    exact yields_refuse "a map" ht heq hrest

/-! ### Records -/

/-- A value that may be left out is read unless it is `null`. -/
lemma agrees_readOptional {α : Type} {read : Bytes → Read α} {value : Document → Option α}
    (h : Agrees read value) : Agrees (readOptional read) (Document.optional? value) := by
  intro D t ht w rest hw hrest
  by_cases hnull : D = .null
  · subst hnull
    cases ht with
    | null =>
      rw [readOptional]
      simp only [nullWord, List.cons_append, skipSpace_blank hw (by decide : isSpace 0x6E = false)]
      rfl
  · have hread := (h D t ht [] rest blank_nil hrest).map some
    obtain ⟨b, r, heq, hspace, -⟩ := ht.eq_cons
    rw [Document.optional?_of_ne_null hnull, heq, List.cons_append, readOptional,
      skipSpace_blank hw hspace]
    rw [heq] at hread
    simp only [if_neg (ht.ne_lowerN hnull heq)]
    exact hread

/-- A member that was read, behind its colon: a field that is given or `null`, a text that is fixed,
or something else, which is passed over. -/
inductive FieldRead (fixed : List (String × String))
    (readers : List (String × (Bytes → Read Datum))) (made : Record) (key : String)
    (bytes : Bytes) : Record → Bytes → Prop where
  | given {read : Bytes → Read Datum} {d : Datum} {rest : Bytes}
      (hread : Entries.get? key readers = some read)
      (h : readOptional read bytes = .ok (some d, rest)) :
      FieldRead fixed readers made key bytes (Entries.insert key d made) rest
  | null {read : Bytes → Read Datum} {rest : Bytes} (hread : Entries.get? key readers = some read)
      (h : readOptional read bytes = .ok (none, rest)) :
      FieldRead fixed readers made key bytes (Entries.erase key made) rest
  | fixed {value : String} {rest : Bytes} (hread : Entries.get? key readers = none)
      (hfixed : Entries.get? key fixed = some value)
      (h : readAs "a string" acceptText bytes = .ok (value, rest)) :
      FieldRead fixed readers made key bytes made rest
  | other {rest : Bytes} (hread : Entries.get? key readers = none)
      (hfixed : Entries.get? key fixed = none) (h : skipValue bytes = .ok rest) :
      FieldRead fixed readers made key bytes made rest

lemma fieldRead_of_ok {fixed : List (String × String)}
    {readers : List (String × (Bytes → Read Datum))} {made made' : Record} {key : String}
    {bytes rest : Bytes} (h : readField fixed readers made key bytes = .ok (made', rest)) :
    ∃ behind, readColon bytes = .ok behind ∧
      FieldRead fixed readers made key behind made' rest := by
  rw [readField] at h
  split at h
  · cases h
  · rename_i behind hcolon
    refine ⟨behind, hcolon, ?_⟩
    split at h
    · rename_i read hread
      split at h
      · cases h
      · rename_i hoptional
        cases h
        exact .given hread hoptional
      · rename_i hoptional
        cases h
        exact .null hread hoptional
    · rename_i hread
      split at h
      · rename_i value hfixed
        split at h
        · cases h
        · rename_i s after htext
          split_ifs at h with hs
          cases h
          exact .fixed hread hfixed (hs ▸ htext)
      · rename_i hfixed
        cases hskip : skipValue behind with
        | error fault =>
          rw [hskip] at h
          cases h
        | ok after =>
          rw [hskip] at h
          cases h
          exact .other hread hfixed hskip

/-- The readers of fields make of every document what is given. -/
def FieldsAgree (readers : List (String × (Bytes → Read Datum)))
    (fields : List (String × (Document → Option Datum))) : Prop :=
  ∀ name, (Entries.get? name readers = none ∧ Entries.get? name fields = none) ∨
    ∃ read value, Entries.get? name readers = some read ∧ Entries.get? name fields = some value ∧
      Agrees read value

lemma memberAgrees_readField (fixed : List (String × String))
    {readers : List (String × (Bytes → Read Datum))}
    {fields : List (String × (Document → Option Datum))} (h : FieldsAgree readers fields)
    (m : String × Document) :
    MemberAgrees Document.Spells (readField fixed readers) (Document.addField? fixed fields) m := by
  intro t ht made w w' rest hw hw' hrest
  rw [readField, readColon_blank hw, Document.addField?]
  obtain ⟨hreaders, hfields⟩ | ⟨read, value, hreaders, hfields, hagree⟩ := h m.1
  · simp only [hreaders, hfields]
    cases Entries.get? m.1 fixed with
    | none =>
      simp only [skipValue_lexical ht.lexical hw' hrest]
      exact yields_ok made rest
    | some wanted =>
      simp only
      obtain ⟨fault, hread, hvalue⟩ | ⟨s, hread, hvalue⟩ :=
        (agrees_readAs "a string" acceptText m.2 t ht w' rest hw' hrest).cases
      · simp only [hread, Document.text?, hvalue]
        exact yields_error fault rest
      · simp only [hread, Document.text?, hvalue, Option.some.injEq]
        split_ifs
        · exact yields_ok made rest
        · exact yields_error _ rest
  · simp only [hreaders, hfields]
    obtain ⟨fault, hread, hvalue⟩ | ⟨o, hread, hvalue⟩ :=
      (agrees_readOptional hagree m.2 t ht w' rest hw' hrest).cases
    · simp only [hread, hvalue]
      exact yields_error fault rest
    · simp only [hread, hvalue]
      cases o <;> exact yields_ok _ rest

lemma agrees_readRecord (name : String) (fixed : List (String × String))
    {readers : Nat → List (String × (Bytes → Read Datum))}
    {fields : Nat → List (String × (Document → Option Datum))}
    (h : ∀ depth, FieldsAgree (readers depth) (fields depth)) (depth : Nat) :
    Agrees (readRecord name fixed readers depth) (Document.record? fixed fields depth) := by
  intro D t ht w rest hw hrest
  obtain ⟨b, r, heq, hspace, -, -, hopen⟩ := ht.eq_cons
  by_cases hobject : ∃ members, D = .object members
  · obtain ⟨members, rfl⟩ := hobject
    cases ht with
    | object ht =>
      rw [List.cons_append, readRecord, skipSpace_blank hw (by decide)]
      cases depth with
      | zero => exact yields_error _ rest
      | succ depth =>
        exact yields_readMembers ht (fun m _ => memberAgrees_readField fixed (h depth) m) [] rest
  · have hnone : D.record? fixed fields depth = none := by
      cases D with
      | object members => exact absurd ⟨members, rfl⟩ hobject
      | _ => cases depth <;> rfl
    rw [hnone, heq, List.cons_append, readRecord, skipSpace_blank hw hspace]
    simp only [if_neg (mt hopen hobject)]
    split_ifs
    · cases depth <;> exact yields_error _ rest
    · exact yields_refuse name ht heq hrest

lemma agrees_readIntOrText (depth : Nat) :
    Agrees (readIntOrText depth) fun D =>
      D.leaf?.bind fun v => (acceptIntOrText v).toOption := by
  intro D t ht w rest hw hrest
  have hread := agrees_readAs "IntOrString" acceptIntOrText D t ht [] rest blank_nil hrest
  obtain ⟨b, r, heq, hspace, -, hlist, hobject⟩ := ht.eq_cons
  rw [heq] at hread
  rw [heq, List.cons_append, readIntOrText, skipSpace_blank hw hspace]
  by_cases hopen : b = openList ∨ b = openObject
  · have hnone : D.leaf? = none := by
      rcases hopen with hopen | hopen
      · obtain ⟨items, rfl⟩ := hlist hopen
        rfl
      · obtain ⟨members, rfl⟩ := hobject hopen
        rfl
    simp only [if_pos hopen, hnone]
    cases depth with
    | zero => exact yields_error _ rest
    | succ depth => split_ifs <;> exact yields_error _ rest
  · simp only [if_neg hopen]
    exact hread

end Reader

/-! ### Shapes -/

namespace Shape

lemma fieldsAgree {fields : List (String × Presence × Shape)} {free : FreeReading}
    (h : ∀ f ∈ fields, ∀ depth, Agrees (f.2.2.read depth) (f.2.2.ofDocument? free depth))
    (depth : Nat) : FieldsAgree (readers fields depth) (fieldsOfDocument? free fields depth) := by
  intro key
  rw [get?_readers, get?_fieldsOfDocument?]
  cases hkey : Entries.get? key fields with
  | none => exact .inl ⟨rfl, rfl⟩
  | some f => exact .inr ⟨_, _, rfl, rfl, h (key, f) (Entries.mem_of_get? hkey) depth⟩

/-- Every document is read against a shape as `Shape.ofDocument?` says. -/
theorem agrees_read (s : Shape) (depth : Nat) :
    Agrees (s.read depth) (s.ofDocument? (Document.value? (some Json.read)) depth) := by
  induction s generalizing depth with
  | text => exact (agrees_readAs "a string" acceptText).map Datum.text
  | flag => exact (agrees_readAs "a boolean" acceptBool).map Datum.flag
  | int32 => exact agrees_readAs "i32" acceptInt32
  | int64 => exact agrees_readAs "i64" acceptInt64
  | intOrText => exact agrees_readIntOrText depth
  | time => exact agrees_readAs instantText acceptTime
  | free => exact (agrees_readValueWith (some Json.read) depth).map Datum.free
  | list item ih => exact (agrees_readList ih depth).map Datum.list
  | dict item ih => exact agrees_readDict ih depth
  | record name fields ih =>
    exact (agrees_readRecord name [] (fieldsAgree ih) depth).map
      fun given => Datum.record (complete fields given)

end Shape

end PodAdmission

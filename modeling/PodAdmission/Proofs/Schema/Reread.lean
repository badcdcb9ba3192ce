import PodAdmission.Proofs.Schema.Data
import PodAdmission.Proofs.Schema.Parts

/-!
# Data read back from what is written of them

A datum that was read against a shape is read back as `Datum.reread` says if every free value in it
comes back as it is, and is not read back at all if one of them does not come back.
-/

namespace PodAdmission.Shape

open Json Reader Datum

/-- Any JSON value may stand here. -/
def isFree : Shape → Bool
  | .free => true
  | _ => false

mutual

/-- The brackets of the shape are nested at most as deep as given, and where any JSON value may
stand, it may also be left out. -/
def returns : Shape → (depth : Nat) → Bool
  | .list item, depth + 1 => !item.isFree && returns item depth
  | .dict item, depth + 1 => !item.isFree && returns item depth
  | .record _ fields, depth + 1 => returnsFields fields depth
  | .list _, 0 => false
  | .dict _, 0 => false
  | .record _ _, 0 => false
  | _, _ => true

/-- The same for the fields of a record. -/
def returnsFields : List (String × Presence × Shape) → (depth : Nat) → Bool
  | [], _ => true
  | (_, presence, shape) :: rest, depth =>
    (!shape.isFree || presence == .optional) && returns shape depth && returnsFields rest depth

end

set_option maxRecDepth 4000 in
/-- The brackets of pods are nested less deep than a reader bears. -/
lemma returns_pod : returns (.record "Pod" podFields) maxDepth = true := by
  decide +kernel

variable {name key : String} {fixed : List (String × String)}
  {fields : List (String × Presence × Shape)} {s item : Shape} {depth : Nat} {r : Record}
  {d : Datum} {members : Entries Json}

lemma returns_of_mem (h : returnsFields fields depth = true) {f : String × Presence × Shape}
    (hf : f ∈ fields) :
    (f.2.2.isFree = true → f.2.1 = .optional) ∧ returns f.2.2 depth = true := by
  induction fields with
  | nil => cases hf
  | cons g fields ih =>
    obtain ⟨k, presence, shape⟩ := g
    rw [returnsFields, Bool.and_eq_true, Bool.and_eq_true] at h
    obtain ⟨⟨hfree, hshape⟩, hrest⟩ := h
    rcases List.mem_cons.1 hf with rfl | hf
    · refine ⟨fun hs => ?_, hshape⟩
      have hs : shape.isFree = true := hs
      simpa [hs] using hfree
    · exact ih hrest hf

lemma returns_list (h : returns (.list item) depth = true) :
    ∃ below, depth = below + 1 ∧ item.isFree = false ∧ returns item below = true := by
  cases depth with
  | zero => cases h
  | succ below =>
    rw [returns, Bool.and_eq_true, Bool.not_eq_true'] at h
    exact ⟨below, rfl, h⟩

lemma returns_dict (h : returns (.dict item) depth = true) :
    ∃ below, depth = below + 1 ∧ item.isFree = false ∧ returns item below = true := by
  cases depth with
  | zero => cases h
  | succ below =>
    rw [returns, Bool.and_eq_true, Bool.not_eq_true'] at h
    exact ⟨below, rfl, h⟩

lemma returns_record (h : returns (.record name fields) depth = true) :
    ∃ below, depth = below + 1 ∧ returnsFields fields below = true := by
  cases depth with
  | zero => cases h
  | succ below => exact ⟨below, rfl, h⟩

lemma isFree_iff : s.isFree = true ↔ s = .free := by
  cases s <;> simp [isFree]

/-- A free `null` belongs to no other shape. -/
lemma isNull_of_holds (h : Holds s d) (hs : s.isFree = false) : d.isNull = false := by
  rw [Bool.eq_false_iff]
  intro hnull
  obtain rfl := isNull_iff.1 hnull
  cases s with
  | free => cases hs
  | _ => exact absurd h.1 (by simp [Fits])

/-- What is in a record is in one of its fields. -/
lemma Holds.given (ha : Entries.Ascending fields) (h : Holds (.record name fields) (.record r))
    (hd : Entries.get? key r = some d) :
    ∃ f, Entries.get? key fields = some f ∧ Holds f.2 d := by
  obtain ⟨f, hf, rfl⟩ := h.1.2.1 _ (Entries.mem_of_get? hd)
  have hget := Entries.get?_of_mem ha hf
  exact ⟨f.2, hget, h.field hget hd⟩

/-- A record has no field that its shape does not have. -/
lemma Holds.get?_eq_none (h : Holds (.record name fields) (.record r))
    (ha : Entries.Ascending fields) (hkey : Entries.get? key fields = none) :
    Entries.get? key r = none := by
  cases hd : Entries.get? key r with
  | none => rfl
  | some d =>
    obtain ⟨f, hf, -⟩ := h.given ha hd
    cases hkey.symm.trans hf

/-- Only required fields have defaults. -/
lemma get?_defaults_eq_none (ha : Entries.Ascending fields)
    (h : ∀ shape, Entries.get? key fields ≠ some (.required, shape)) :
    Entries.get? key (defaults fields) = none := by
  cases hd : Entries.get? key (defaults fields) with
  | none => rfl
  | some d =>
    obtain ⟨shape, hmem, -⟩ := mem_defaults (Entries.mem_of_get? hd)
    exact absurd (Entries.get?_of_mem ha hmem) (h shape)

/-! ### Records -/

/-- The members are what a record is written as, and fixed members besides. -/
structure Written (fixed : List (String × String)) (fields : List (String × Presence × Shape))
    (r : Record) (members : Entries Json) : Prop where
  ascending : members.Ascending
  get?_eq : ∀ {k f}, Entries.get? k fields = some f →
    Entries.get? k members = (Entries.get? k r).map toJson
  other : ∀ m ∈ members, Entries.get? m.1 fields = none →
    ∃ value, Entries.get? m.1 fixed = some value ∧ m.2 = .text value

lemma written_fieldsToJson (ha : Entries.Ascending fields)
    (hr : Holds (.record name fields) (.record r)) : Written fixed fields r (fieldsToJson r) := by
  refine ⟨?_, fun _ => Datum.get?_fieldsToJson _ r, fun m hm hnone => ?_⟩
  · have hwf := hr.2
    rw [toJson] at hwf
    exact hwf.ascending
  · rw [fieldsToJson_eq] at hm
    obtain ⟨e, he, rfl⟩ := List.mem_map.1 hm
    obtain ⟨f, hf, -⟩ := hr.given ha (Entries.get?_of_mem hr.ascending he)
    cases hnone.symm.trans hf

/-- Under the name of a field stands what is written of it. -/
lemma Written.given (hw : Written fixed fields r members) {m : String × Json} (hm : m ∈ members)
    {f : Presence × Shape} (hf : Entries.get? m.1 fields = some f) :
    ∃ d, Entries.get? m.1 r = some d ∧ m.2 = d.toJson := by
  have hget := Entries.get?_of_mem hw.ascending hm
  rw [hw.get?_eq hf] at hget
  obtain ⟨d, hd, heq⟩ := Option.map_eq_some_iff.1 hget
  exact ⟨d, hd, heq.symm⟩

/-- A field that is written as `null` is read as if it were left out. -/
lemma optionalOfJson?_toJson (h : ofJson? s depth d.toJson = some d.reread) :
    optionalOfJson? (ofJson? s depth) d.toJson =
      some (if d.isNull then none else some d.reread) := by
  cases hd : d.isNull with
  | true =>
    rw [toJson_eq_null_iff.2 hd]
    rfl
  | false =>
    rw [optionalOfJson?_of_ne_null (toJson_ne_null hd), h]
    rfl

/-- Every member is a field or fixed, and what it holds is read. -/
lemma Written.isSome_memberOfJson? (hw : Written fixed fields r members)
    (hback : ∀ k f d, Entries.get? k fields = some f → Entries.get? k r = some d →
      ofJson? f.2 depth d.toJson = some d.reread) {m : String × Json} (hm : m ∈ members) :
    (memberOfJson? fixed fields depth m.1 m.2).isSome = true := by
  rw [memberOfJson?]
  cases hf : Entries.get? m.1 fields with
  | some f =>
    obtain ⟨d, hd, heq⟩ := hw.given hm hf
    simp only [heq, optionalOfJson?_toJson (hback _ _ _ hf hd)]
    rfl
  | none =>
    obtain ⟨value, hvalue, htext⟩ := hw.other m hm hf
    have hvalueText : textOfJson? (.text value) = some value := rfl
    simp only [hvalue, htext, if_pos hvalueText]
    rfl

/-- A field is read back as it was; one that is left out or written as `null` has no default. -/
lemma Written.get?_rereadFields (hw : Written fixed fields r members)
    (ha : Entries.Ascending fields) (hr : Holds (.record name fields) (.record r))
    (hoptional : ∀ f ∈ fields, f.2.2.isFree = true → f.2.1 = .optional)
    (hback : ∀ k f d, Entries.get? k fields = some f → Entries.get? k r = some d →
      ofJson? f.2 depth d.toJson = some d.reread) (k : String) :
    Entries.get? k (rereadFields r) =
      (fieldOfJson? fields depth members k).or (Entries.get? k (defaults fields)) := by
  rw [Datum.get?_rereadFields hr.ascending, fieldOfJson?]
  cases hf : Entries.get? k fields with
  | none =>
    rw [hr.get?_eq_none ha hf, get?_defaults_eq_none ha (by simp [hf])]
    rfl
  | some f =>
    obtain ⟨presence, shape⟩ := f
    rw [Option.bind_some, hw.get?_eq hf]
    cases hd : Entries.get? k r with
    | none =>
      -- a field that is not there may be left out, so nothing takes its place
      have hfits := fitsFields_iff.1 hr.1.2.2 _ (Entries.mem_of_get? hf)
      simp only [hd] at hfits
      rw [get?_defaults_eq_none ha (by simp [hf, hfits])]
      rfl
    | some d =>
      rw [Option.map_some, Option.bind_some, Option.bind_some,
        optionalOfJson?_toJson (hback _ _ _ hf hd)]
      cases hnull : d.isNull with
      | false => rfl
      | true =>
        have hfree : shape.isFree = true := by
          cases hs : shape.isFree with
          | true => rfl
          | false => exact absurd hnull (Bool.eq_false_iff.1 (isNull_of_holds (hr.field hf hd) hs))
        obtain rfl : presence = .optional := hoptional _ (Entries.mem_of_get? hf) hfree
        rw [get?_defaults_eq_none ha (by simp [hf])]
        rfl

/-- A record comes back if its fields do, without those that are written as `null`. -/
lemma fullOfJson?_written (hw : Written fixed fields r members) (ha : Entries.Ascending fields)
    (hr : Holds (.record name fields) (.record r)) (hreadable : (Datum.record r).Readable)
    (hoptional : ∀ f ∈ fields, f.2.2.isFree = true → f.2.1 = .optional)
    (ih : ∀ f ∈ fields, ∀ d, Holds f.2.2 d → d.Readable →
      d.EachFree (fun left j => j.back? left = some j) depth →
      ofJson? f.2.2 depth d.toJson = some d.reread)
    (hfree : (Datum.record r).EachFree (fun left j => j.back? left = some j) (depth + 1)) :
    fullOfJson? fixed fields (depth + 1) (.object members) = some (rereadFields r) := by
  have hback : ∀ k f d, Entries.get? k fields = some f → Entries.get? k r = some d →
      ofJson? f.2 depth d.toJson = some d.reread := by
    intro k f d hf hd
    have hmem := Entries.mem_of_get? hd
    exact ih _ (Entries.mem_of_get? hf) d (hr.field hf hd) (hreadable.entries _ hmem)
      (eachFree_record_iff.1 hfree _ hmem)
  exact (fullOfJson?_eq_some_iff hw.ascending).2 ⟨ascending_rereadFields hr.ascending,
    fun m hm => hw.isSome_memberOfJson? hback hm, hw.get?_rereadFields ha hr hoptional hback⟩

/-- If a record comes back, so does every field of it that is not written as `null`, and with the
fields their free values. -/
lemma back?_of_fullOfJson? (hw : Written fixed fields r members) (ha : Entries.Ascending fields)
    (hr : Holds (.record name fields) (.record r))
    (ih : ∀ f ∈ fields, ∀ d, Holds f.2.2 d → (ofJson? f.2.2 depth d.toJson).isSome = true →
      d.EachFree (fun left j => (j.back? left).isSome = true) depth)
    (h : (fullOfJson? fixed fields (depth + 1) (.object members)).isSome = true) :
    (Datum.record r).EachFree (fun left j => (j.back? left).isSome = true) (depth + 1) := by
  obtain ⟨made, hmade⟩ := Option.isSome_iff_exists.1 h
  have hmembers := ((fullOfJson?_eq_some_iff hw.ascending).1 hmade).2.1
  refine eachFree_record_iff.2 fun e he => ?_
  have hget := Entries.get?_of_mem hr.ascending he
  obtain ⟨f, hf, hfield⟩ := hr.given ha hget
  cases hnull : e.2.isNull with
  | true =>
    rw [isNull_iff.1 hnull, eachFree_free_iff, back?_null]
    rfl
  | false =>
    have hmember : Entries.get? e.1 members = some e.2.toJson := by
      rw [hw.get?_eq hf, hget]
      rfl
    have hsome := hmembers _ (Entries.mem_of_get? hmember)
    rw [memberOfJson?, hf] at hsome
    simp only [optionalOfJson?_of_ne_null (toJson_ne_null hnull), Option.isSome_map] at hsome
    exact ih _ (Entries.mem_of_get? hf) e.2 hfield hsome

/-! ### Shapes -/

lemma Holds.free (h : Holds .free d) : ∃ j, d = .free j := by
  cases d with
  | free j => exact ⟨j, rfl⟩
  | _ => exact absurd h.1 (by simp [Fits])

/-- Neither another shape nor a JSON value stands in the shape. -/
def IsLeaf : Shape → Prop
  | .free => False
  | .list _ => False
  | .dict _ => False
  | .record _ _ => False
  | _ => True

lemma eachFree_of_isLeaf (hd : Holds s d) (hs : s.IsLeaf) (P : Nat → Json → Prop) (depth : Nat) :
    d.EachFree P depth := by
  intro n j hj
  have hfits := hd.1
  cases s with
  | free => cases hs
  | list => cases hs
  | dict => cases hs
  | record => cases hs
  | _ => cases hj <;> exact absurd hfits (by simp [Fits])

lemma rereadLeaf?_whole {n : Int} (h : (Number.whole n).Valid) :
    (Json.number (.whole n)).rereadLeaf? = some (.number (.whole n)) := by
  rw [rereadLeaf?, Number.reread?_whole h]
  rfl

/-- A datum without parts is read back. -/
lemma ofJson?_toJson_of_isLeaf (hd : Holds s d) (hs : s.IsLeaf) (hreadable : d.Readable)
    (depth : Nat) : s.ofJson? depth d.toJson = some d.reread := by
  cases s with
  | text =>
    obtain ⟨t, rfl⟩ := hd.text
    rfl
  | flag =>
    cases d with
    | flag b => rfl
    | _ => exact absurd hd.1 (by simp [Fits])
  | int32 =>
    cases d with
    | whole n =>
      have hn : IsInt32 n := hd.1
      rw [ofJson?, toJson, rereadLeaf?_whole (valid_of_isInt32 hn), Option.bind_some, acceptInt32,
        if_pos hn]
      rfl
    | _ => exact absurd hd.1 (by simp [Fits])
  | int64 =>
    cases d with
    | whole n =>
      have hn : IsInt64 n := hd.1
      rw [ofJson?, toJson, rereadLeaf?_whole (valid_of_isInt64 hn), Option.bind_some, acceptInt64,
        if_pos hn]
      rfl
    | _ => exact absurd hd.1 (by simp [Fits])
  | intOrText =>
    cases d with
    | whole n =>
      have hn : IsInt32 n := hd.1
      rw [ofJson?, toJson, rereadLeaf?_whole (valid_of_isInt32 hn), Option.bind_some,
        acceptIntOrText, if_pos hn]
      rfl
    | text t => rfl
    | _ => exact absurd hd.1 (by simp [Fits])
  | time =>
    cases d with
    | time t =>
      have hread := Instant.read_render (hreadable.valid 0 t (.self _))
      rw [ofJson?, toJson, rereadLeaf?, Option.bind_some]
      simp only [acceptTime, hread]
      rfl
    | _ => exact absurd hd.1 (by simp [Fits])
  | _ => cases hs

/-- A string map comes back if its entries do. -/
lemma ofJson?_dict_toJson (hd : Holds (.dict item) (.record r))
    (hentry : ∀ k d, Entries.get? k r = some d →
      ofJson? item depth d.toJson = some d.reread ∧ d.isNull = false) :
    ofJson? (.dict item) (depth + 1) (Datum.record r).toJson = some (Datum.record r).reread := by
  have ha : Entries.Ascending r := hd.1.1
  have hwf := hd.2
  rw [toJson] at hwf
  rw [ofJson?, toJson, Option.map_eq_some_iff]
  refine ⟨rereadFields r, (entriesOfJson?_eq_some_iff hwf.ascending).2
    ⟨ascending_rereadFields ha, fun m hm => ?_, fun k => ?_⟩, rfl⟩
  · rw [fieldsToJson_eq] at hm
    obtain ⟨e, he, rfl⟩ := List.mem_map.1 hm
    rw [(hentry e.1 e.2 (Entries.get?_of_mem ha he)).1]
    rfl
  · rw [get?_rereadFields ha, Datum.get?_fieldsToJson]
    cases hk : Entries.get? k r with
    | none => rfl
    | some d =>
      obtain ⟨hread, hnull⟩ := hentry k d hk
      simp [hread, hnull]

/-- A datum is read back if its free values come back as they are. -/
theorem ofJson?_toJson (hreturns : returns s depth = true) (hordered : ordered s = true)
    (hd : Holds s d) (hreadable : d.Readable)
    (hback : d.EachFree (fun left j => j.back? left = some j) depth) :
    s.ofJson? depth d.toJson = some d.reread := by
  induction s generalizing depth d with
  | free =>
    obtain ⟨j, rfl⟩ := hd.free
    have hj : j.reread? (some Json.read) depth = some j := eachFree_free_iff.1 hback
    rw [ofJson?, toJson, hj]
    rfl
  | list item ih =>
    obtain ⟨below, rfl, -, hitem⟩ := returns_list hreturns
    obtain ⟨ds, rfl, hds⟩ := hd.list
    rw [ordered] at hordered
    refine ofJson?_list_eq_some_iff.2 ⟨ds.map toJson, ds.map reread, ?_, ?_, ?_⟩
    · rw [toJson, itemsToJson_eq]
    · rw [reread, rereadItems_eq]
    · rw [List.forall₂_map_left_iff, List.forall₂_map_right_iff]
      exact List.forall₂_same.2 fun e he => ih hitem hordered (hds e he) (hreadable.items e he)
        (eachFree_list_iff.1 hback e he)
  | dict item ih =>
    obtain ⟨below, rfl, hnotFree, hitem⟩ := returns_dict hreturns
    obtain ⟨r, rfl⟩ := hd.dict
    rw [ordered] at hordered
    refine ofJson?_dict_toJson hd fun k d hget => ?_
    have hmem := Entries.mem_of_get? hget
    exact ⟨ih hitem hordered (hd.entry hget) (hreadable.entries _ hmem)
      (eachFree_record_iff.1 hback _ hmem), isNull_of_holds (hd.entry hget) hnotFree⟩
  | record name fields ih =>
    obtain ⟨below, rfl, hfields⟩ := returns_record hreturns
    obtain ⟨r, rfl⟩ := hd.record
    have ha := ascending_of_ordered hordered
    rw [ofJson?_record, toJson, fullOfJson?_written (written_fieldsToJson ha hd) ha hd hreadable
      (fun f hf => (returns_of_mem hfields hf).1) (fun f hf d => ih f hf
        (returns_of_mem hfields hf).2 (ordered_of_mem hordered hf)) hback]
    rfl
  | _ => exact ofJson?_toJson_of_isLeaf hd trivial hreadable depth

/-- A record is read back from members that it is written as if its free values come back. -/
lemma fullOfJson?_of_written (hw : Written fixed fields r members)
    (hreturns : returnsFields fields depth = true)
    (hordered : ordered (.record name fields) = true) (hr : Holds (.record name fields) (.record r))
    (hreadable : (Datum.record r).Readable)
    (hback : (Datum.record r).EachFree (fun left j => j.back? left = some j) (depth + 1)) :
    fullOfJson? fixed fields (depth + 1) (.object members) = some (rereadFields r) :=
  fullOfJson?_written hw (ascending_of_ordered hordered) hr hreadable
    (fun _ hf => (returns_of_mem hreturns hf).1)
    (fun _ hf _ => ofJson?_toJson (returns_of_mem hreturns hf).2 (ordered_of_mem hordered hf)) hback

/-- If a datum is read back, its free values come back. -/
theorem back?_of_ofJson? (hordered : ordered s = true) (hd : Holds s d)
    (h : (s.ofJson? depth d.toJson).isSome = true) :
    d.EachFree (fun left j => (j.back? left).isSome = true) depth := by
  induction s generalizing depth d with
  | free =>
    obtain ⟨k, rfl⟩ := hd.free
    rw [eachFree_free_iff]
    rwa [ofJson?, Option.isSome_map] at h
  | list item ih =>
    obtain ⟨ds, rfl, hds⟩ := hd.list
    rw [ordered] at hordered
    cases depth with
    | zero => cases h
    | succ below =>
      rw [ofJson?, Option.isSome_map, toJson, itemsToJson_eq, itemsOfJson?, mapM_isSome_iff] at h
      exact eachFree_list_iff.2 fun e he =>
        ih hordered (hds e he) (h _ (List.mem_map_of_mem he))
  | dict item ih =>
    obtain ⟨r, rfl⟩ := hd.dict
    rw [ordered] at hordered
    have ha : Entries.Ascending r := hd.1.1
    have hwf := hd.2
    rw [toJson] at hwf
    cases depth with
    | zero => cases h
    | succ below =>
      rw [ofJson?, Option.isSome_map, toJson] at h
      obtain ⟨made, hmade⟩ := Option.isSome_iff_exists.1 h
      refine eachFree_record_iff.2 fun e he => ?_
      have hmember : Entries.get? e.1 (fieldsToJson r) = some e.2.toJson := by
        rw [Datum.get?_fieldsToJson, Entries.get?_of_mem ha he]
        rfl
      have hsome := ((entriesOfJson?_eq_some_iff hwf.ascending).1 hmade).2.1 _
        (Entries.mem_of_get? hmember)
      exact ih hordered (hd.entry (Entries.get?_of_mem ha he)) hsome
  | record name fields ih =>
    obtain ⟨r, rfl⟩ := hd.record
    have ha := ascending_of_ordered hordered
    cases depth with
    | zero => cases h
    | succ below =>
      rw [ofJson?_record, Option.isSome_map, toJson] at h
      exact back?_of_fullOfJson? (written_fieldsToJson ha hd) ha hd
        (fun f hf d => ih f hf (ordered_of_mem hordered hf)) h
  | _ => exact eachFree_of_isLeaf hd trivial _ depth

/-- If everything in a datum comes back, no free value in it is `null`. -/
theorem ne_null_of_reread (hreturns : returns s depth = true) (hs : s.isFree = false)
    (hordered : ordered s = true) (hd : Holds s d) (h : d.reread = d.toTheSecond) :
    d.EachFree (fun _ j => j ≠ .null) depth := by
  induction s generalizing depth d with
  | free => cases hs
  | list item ih =>
    obtain ⟨below, rfl, hitemFree, hitem⟩ := returns_list hreturns
    obtain ⟨ds, rfl, hds⟩ := hd.list
    rw [ordered] at hordered
    rw [reread, toTheSecond, rereadItems_eq, itemsToTheSecond_eq] at h
    have hitems := List.map_inj_left.1 (Datum.list.inj h)
    exact eachFree_list_iff.2 fun e he =>
      ih hitem hitemFree hordered (hds e he) (hitems e he)
  | dict item ih =>
    obtain ⟨below, rfl, hitemFree, hitem⟩ := returns_dict hreturns
    obtain ⟨r, rfl⟩ := hd.dict
    rw [ordered] at hordered
    have ha : Entries.Ascending r := hd.1.1
    have hfields := fields_of_reread (Datum.record.inj h)
    exact eachFree_record_iff.2 fun e he =>
      ih hitem hitemFree hordered (hd.entry (Entries.get?_of_mem ha he)) (hfields e he).2
  | record name fields ih =>
    obtain ⟨below, rfl, hshapes⟩ := returns_record hreturns
    obtain ⟨r, rfl⟩ := hd.record
    have ha := ascending_of_ordered hordered
    have hfields := fields_of_reread (Datum.record.inj h)
    refine eachFree_record_iff.2 fun e he => ?_
    obtain ⟨hnull, hsame⟩ := hfields e he
    obtain ⟨f, hf, hfield⟩ := hd.given ha (Entries.get?_of_mem hd.ascending he)
    have hmem := Entries.mem_of_get? hf
    cases hfree : f.2.isFree with
    | false =>
      exact ih _ hmem (returns_of_mem hshapes hmem).2 hfree (ordered_of_mem hordered hmem)
        hfield hsame
    | true =>
      rw [isFree_iff.1 hfree] at hfield
      obtain ⟨j, hj⟩ := hfield.free
      rw [hj, eachFree_free_iff]
      rintro rfl
      rw [hj] at hnull
      cases hnull
  | _ => exact eachFree_of_isLeaf hd trivial _ depth

end PodAdmission.Shape

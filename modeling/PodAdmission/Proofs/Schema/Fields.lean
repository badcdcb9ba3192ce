import PodAdmission.Proofs.Schema.Values

/-!
# Field by field

What a reader takes from an object with ascending keys, said for every field on its own: the value
under the name of the field unless it is `null`, and else the default if the field has one. So a
document in which one member is set is read with one field set.
-/

namespace PodAdmission

open Json Reader

namespace Shape

/-! ### Defaults -/

lemma get?_foldl_complete (defaults given : Record) (k : String) :
    Entries.get? k (defaults.foldl
      (fun given (name, value) =>
        match Entries.get? name given with
        | some _ => given
        | none => Entries.insert name value given) given) =
      (Entries.get? k given).or (Entries.get? k defaults) := by
  induction defaults generalizing given with
  | nil => simp
  | cons e defaults ih =>
    obtain ⟨name, value⟩ := e
    rw [List.foldl_cons, ih, Entries.get?]
    cases hgiven : Entries.get? name given with
    | some d =>
      simp only [hgiven]
      split_ifs with hk
      · rw [← hk, hgiven]
        rfl
      · rfl
    | none =>
      simp only [hgiven, Entries.get?_insert]
      split_ifs with hk hk' hk'
      · rw [hk, hgiven]
        rfl
      · exact absurd hk.symm hk'
      · exact absurd hk'.symm hk
      · rfl

lemma get?_complete (fields : List (String × Presence × Shape)) (given : Record) (k : String) :
    Entries.get? k (complete fields given) =
      (Entries.get? k given).or (Entries.get? k (defaults fields)) :=
  get?_foldl_complete (defaults fields) given k

lemma ascending_complete (fields : List (String × Presence × Shape)) {given : Record}
    (h : Entries.Ascending given) : Entries.Ascending (complete fields given) := by
  unfold complete
  induction defaults fields generalizing given with
  | nil => exact h
  | cons e defaults ih =>
    obtain ⟨name, value⟩ := e
    rw [List.foldl_cons]
    refine ih ?_
    cases hname : Entries.get? name given with
    | some d => simpa only [hname] using h
    | none => simpa only [hname] using Entries.ascending_insert name value h

/-! ### Records -/

variable {fixed : List (String × String)} {fields : List (String × Presence × Shape)}
  {members : Entries Json} {depth : Nat} {key : String} {v : Json}

/-- What comes back of a record, fields that are left out being completed. -/
def fullOfJson? (fixed : List (String × String)) (fields : List (String × Presence × Shape))
    (depth : Nat) (j : Json) : Option Record :=
  (recordOfJson? fixed (fieldsOfJson? fields) depth j).map (complete fields)

lemma ofJson?_record (name : String) (fields : List (String × Presence × Shape)) (depth : Nat)
    (j : Json) : ofJson? (.record name fields) depth j = (fullOfJson? [] fields depth j).map
      .record := by
  rw [ofJson?, fullOfJson?, Option.map_map]
  rfl

/-- What a member adds to a record under its key: a value or nothing, unless it fails. -/
def memberOfJson? (fixed : List (String × String)) (fields : List (String × Presence × Shape))
    (depth : Nat) (key : String) (v : Json) : Option (Option Datum) :=
  match Entries.get? key fields with
  | some (_, shape) => optionalOfJson? (ofJson? shape depth) v
  | none =>
    match Entries.get? key fixed with
    | some value => if textOfJson? v = some value then some none else none
    | none => some none

lemma memberOfDocument?_document (key : String) (v : Json) :
    memberOfDocument? fixed (Document.value? (some Json.read)) fields depth key v.document =
      memberOfJson? fixed fields depth key v := by
  rw [memberOfDocument?, memberOfJson?]
  cases Entries.get? key fields with
  | some f => exact optional?_document (ofDocument?_document f.2 depth v)
  | none =>
    simp only
    cases Entries.get? key fixed <;> simp only [text?_document]

lemma collects_ofMember? (m : String × Json) :
    Entries.Collects (ofMember? fixed (fieldsOfJson? fields depth))
      (memberOfJson? fixed fields depth) m := by
  intro made hmade hnew
  rw [← addField?_document (fun f _ => ofDocument?_document f.2.2 depth) made m,
    collects_addField? (m.1, m.2.document) made hmade hnew, memberOfDocument?_document]

/-- What comes back under a key of the members of an object. -/
def fieldOfJson? (fields : List (String × Presence × Shape)) (depth : Nat)
    (members : Entries Json) (key : String) : Option Datum :=
  (Entries.get? key fields).bind fun f =>
    (Entries.get? key members).bind fun v => (optionalOfJson? (ofJson? f.2 depth) v).join

lemma join_memberOfJson? (key : String) (o : Option Json) :
    (o.bind fun v => (memberOfJson? fixed fields depth key v).join) =
      (Entries.get? key fields).bind fun f =>
        o.bind fun v => (optionalOfJson? (ofJson? f.2 depth) v).join := by
  cases hkey : Entries.get? key fields with
  | some f => simp only [memberOfJson?, hkey, Option.bind_some]
  | none =>
    cases o with
    | none => rfl
    | some v =>
      simp only [memberOfJson?, hkey, Option.bind_some, Option.bind_none]
      cases Entries.get? key fixed with
      | none => rfl
      | some value =>
        simp only
        split_ifs <;> rfl

/-- A record comes back just if none of the members fails, and holds in every field what comes back
of the member with its name or else the default. -/
theorem fullOfJson?_eq_some_iff (ha : members.Ascending) {r : Record} :
    fullOfJson? fixed fields (depth + 1) (.object members) = some r ↔
      Entries.Ascending r ∧
        (∀ m ∈ members, (memberOfJson? fixed fields depth m.1 m.2).isSome = true) ∧
        ∀ k, Entries.get? k r =
          (fieldOfJson? fields depth members k).or (Entries.get? k (defaults fields)) := by
  have hcollect (given : Record) :
      members.foldlM (ofMember? fixed (fieldsOfJson? fields depth)) [] = some given ↔ _ :=
    Entries.collect_eq_some_iff (fun m _ => collects_ofMember? m) ha.distinct
  have hfield (k : String) : ((Entries.get? k members).bind fun v =>
      (memberOfJson? fixed fields depth k v).join) = fieldOfJson? fields depth members k :=
    join_memberOfJson? k (Entries.get? k members)
  simp only [hfield] at hcollect
  constructor
  · intro h
    obtain ⟨given, hgiven, rfl⟩ := Option.map_eq_some_iff.1 h
    obtain ⟨hasc, hall, hget⟩ := (hcollect given).1 hgiven
    refine ⟨ascending_complete fields hasc, hall, ?_⟩
    intro k
    rw [get?_complete, hget]
  · rintro ⟨hasc, hall, hget⟩
    obtain ⟨given, hgiven, hasc', hget'⟩ := Entries.collect_isSome
      (fun m _ => collects_ofMember? m) ha.distinct List.Pairwise.nil (fun e _ => rfl) hall
    have hget'' := ((hcollect given).1 hgiven).2.2
    refine Option.map_eq_some_iff.2 ⟨given, hgiven, ?_⟩
    apply Entries.ext (ascending_complete fields hasc') hasc
    intro k
    rw [get?_complete, hget'', hget]

lemma optionalOfJson?_of_ne_null {α : Type} {ofJson? : Json → Option α} (h : v ≠ .null) :
    optionalOfJson? ofJson? v = (ofJson? v).map some := by
  cases v with
  | null => exact absurd rfl h
  | _ => rfl

/-- A record comes back with one field set if the member with its name is set. -/
theorem fullOfJson?_insert (ha : members.Ascending) {r : Record} {presence : Presence}
    {shape : Shape} {d : Datum}
    (h : fullOfJson? fixed fields (depth + 1) (.object members) = some r)
    (hkey : Entries.get? key fields = some (presence, shape)) (hnull : v ≠ .null)
    (hv : ofJson? shape depth v = some d) :
    fullOfJson? fixed fields (depth + 1) (.object (Entries.insert key v members)) =
      some (Entries.insert key d r) := by
  obtain ⟨hasc, hall, hget⟩ := (fullOfJson?_eq_some_iff ha).1 h
  have hmember : memberOfJson? fixed fields depth key v = some (some d) := by
    rw [memberOfJson?, hkey]
    simp only [optionalOfJson?_of_ne_null hnull, hv]
    rfl
  refine (fullOfJson?_eq_some_iff (Entries.ascending_insert key v ha)).2
    ⟨Entries.ascending_insert key d hasc, fun m hm => ?_, fun k => ?_⟩
  · rcases Entries.mem_insert hm with rfl | hm
    · rw [hmember]
      rfl
    · exact hall m hm
  · rw [Entries.get?_insert, fieldOfJson?, Entries.get?_insert]
    split_ifs with hk
    · subst hk
      rw [hkey]
      simp only [Option.bind_some, optionalOfJson?_of_ne_null hnull, hv]
      rfl
    · exact hget k

/-! ### String maps -/

/-- A string map comes back just if every value does. -/
theorem entriesOfJson?_eq_some_iff {ofJson? : Nat → Json → Option Datum} (ha : members.Ascending)
    {r : Record} :
    entriesOfJson? ofJson? (depth + 1) (.object members) = some r ↔
      Entries.Ascending r ∧ (∀ m ∈ members, (ofJson? depth m.2).isSome = true) ∧
        ∀ k, Entries.get? k r = (Entries.get? k members).bind (ofJson? depth) :=
  foldlM_addMember?_eq_some_iff ha.distinct

lemma entriesOfJson?_insert {ofJson? : Nat → Json → Option Datum} (ha : members.Ascending)
    {r : Record} {d : Datum} (h : entriesOfJson? ofJson? (depth + 1) (.object members) = some r)
    (hv : ofJson? depth v = some d) :
    entriesOfJson? ofJson? (depth + 1) (.object (Entries.insert key v members)) =
      some (Entries.insert key d r) := by
  obtain ⟨hasc, hall, hget⟩ := (entriesOfJson?_eq_some_iff ha).1 h
  refine (entriesOfJson?_eq_some_iff (Entries.ascending_insert key v ha)).2
    ⟨Entries.ascending_insert key d hasc, fun m hm => ?_, fun k => ?_⟩
  · rcases Entries.mem_insert hm with rfl | hm
    · rw [hv]
      rfl
    · exact hall m hm
  · rw [Entries.get?_insert, Entries.get?_insert]
    split_ifs
    · exact hv.symm
    · exact hget k

end Shape

end PodAdmission

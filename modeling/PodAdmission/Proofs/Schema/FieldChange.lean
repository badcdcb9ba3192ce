import PodAdmission.Proofs.Schema.Change

/-!
# Changes of fields, entries and items

A change of a field sets a member of the object that a record is written as: it changes the value
that is there, or puts one there. Two fields that are changed are changed in the order of their
names, whatever the order in which they were set.
-/

namespace PodAdmission

open Json Reader

/-! ### Written records -/

lemma Datum.get?_fieldsToJson (k : String) (r : Record) :
    Entries.get? k (fieldsToJson r) = (Entries.get? k r).map toJson := by
  induction r with
  | nil => rfl
  | cons e r ih =>
    obtain ⟨l, d⟩ := e
    rw [fieldsToJson, Entries.get?, Entries.get?]
    split_ifs
    · rfl
    · exact ih

lemma Datum.fieldsToJson_insert (k : String) (d : Datum) (r : Record) :
    fieldsToJson (Entries.insert k d r) = Entries.insert k d.toJson (fieldsToJson r) := by
  induction r with
  | nil => rfl
  | cons e r ih =>
    obtain ⟨l, d'⟩ := e
    rw [Entries.insert, fieldsToJson, Entries.insert]
    split_ifs
    · rfl
    · rfl
    · rw [fieldsToJson, ih]

lemma Json.wellFormed_backMembers? {depth : Nat} {members xs : Entries Json}
    (h : (object members).WellFormed) (hxs : backMembers? depth members = some xs) :
    (object xs).WellFormed := by
  obtain ⟨hasc, -, hget⟩ := (backMembers?_eq_some_iff h.ascending).1 hxs
  apply WellFormed.object hasc
  intro m hm
  have hback := Entries.get?_of_mem hasc hm
  rw [hget] at hback
  obtain ⟨v, hv, hm'⟩ := Option.bind_eq_some_iff.1 hback
  exact wellFormed_back? (h.members _ (Entries.mem_of_get? hv)) hm'

namespace Shape

variable {s : Shape} {depth : Nat} {field field' : String} {patch patch' : Patch}
  {touched touched' : Pointer → Prop} {o : Option Datum} {d d' : Datum}

/-- A patch sets a field of every object that a record is written as. -/
structure FieldChange (s : Shape) (depth : Nat) (field : String) (patch : Patch)
    (touched : Pointer → Prop) (o : Option Datum) (d' : Datum) : Prop where
  wellFormed : d'.toJson.WellFormed
  plain : patch.Plain
  inner : patch.Inner
  recovered : ∀ y, d'.toJson.back? depth = some y → ∃ xo : Option Json,
    o.map (fun d => d.toJson.back? depth) = xo.map some ∧
      ∀ members : Entries Json, members.Ascending → Entries.get? field members = xo →
        Patch.diffMember members (field, y) = patch ∧
          patch.run? (.object members) = some (.object (Entries.insert field y members))
  submitted : ∀ members : Entries Json, (object members).WellFormed →
    (∀ d, o = some d → ∃ v, Entries.get? field members = some v ∧ s.ofJson? depth v = some d) →
      ∃ w, patch.run? (.object members) = some (.object (Entries.insert field w members)) ∧
        w.WellFormed ∧ s.ofJson? depth w = some d' ∧
        (object members).SameBut touched (.object (Entries.insert field w members))

lemma FieldChange.mono {wider : Pointer → Prop} (h : s.FieldChange depth field patch touched o d')
    (hle : ∀ path, touched path → wider path) : s.FieldChange depth field patch wider o d' := by
  refine ⟨h.wellFormed, h.plain, h.inner, h.recovered, ?_⟩
  intro members hm hgiven
  obtain ⟨w, hrun, hw, hread, hsame⟩ := h.submitted members hm hgiven
  exact ⟨w, hrun, hw, hread, hsame.mono hle⟩

/-- A field that is there is changed. -/
lemma FieldChange.of_change (field : String) (h : s.Change depth patch touched d d') :
    s.FieldChange depth field (patch.under [field]) (Below field touched) (some d) d' := by
  refine ⟨h.wellFormed, h.plain.under [field], Patch.inner_under field [] patch, ?_, ?_⟩
  · intro y hy
    obtain ⟨x, hx, hrun, hdiff⟩ := h.recovered y hy
    refine ⟨some x, by rw [Option.map_some, hx]; rfl, fun members ha hget => ⟨?_, ?_⟩⟩
    · rw [Patch.diffMember, hget]
      simp only
      rw [hdiff]
    · rw [Patch.run?_under_object h.inner ha hget, hrun]
      rfl
  · intro members hm hgiven
    obtain ⟨v, hget, hv⟩ := hgiven d rfl
    obtain ⟨w, hrun, hw, hd', hsame⟩ := h.submitted v (hm.members _ (Entries.mem_of_get? hget)) hv
    refine ⟨w, ?_, hw, hd', .member hget hsame⟩
    rw [Patch.run?_under_object h.inner hm.ascending hget, hrun]
    rfl

/-- A field that is not there is added. -/
lemma FieldChange.of_new (field : String) (h : s.Stable depth d') :
    s.FieldChange depth field [.add [field] d'.toJson] (· = [field]) none d' := by
  refine ⟨h.plain.wellFormed, Patch.plain_add h.plain, ?_,
    fun y hy => ⟨none, rfl, fun members ha hget => ?_⟩, fun members hm _ => ?_⟩
  · intro op hop
    obtain rfl := List.mem_singleton.1 hop
    exact List.cons_ne_nil _ _
  · rw [h.back] at hy
    obtain rfl := Option.some.inj hy
    refine ⟨?_, rfl⟩
    rw [Patch.diffMember, hget]
  · exact ⟨d'.toJson, rfl, h.plain.wellFormed, h.ofJson, .set (by rfl) _ members⟩

/-- The patch that sets a field to what is written plainly. -/
def setPatch (field : String) (o : Option Datum) (d' : Datum) : Patch :=
  match o with
  | some d => (Patch.diff [] d.toJson d'.toJson).under [field]
  | none => [.add [field] d'.toJson]

lemma FieldChange.set (field : String) (hd' : s.Stable depth d')
    (h : ∀ d, o = some d → s.Change depth (Patch.diff [] d.toJson d'.toJson) (· = []) d d') :
    s.FieldChange depth field (setPatch field o d') (· = [field]) o d' := by
  cases o with
  | none => exact .of_new field hd'
  | some d =>
    refine (FieldChange.of_change field (h d rfl)).mono ?_
    rintro path ⟨rest, rfl, rfl⟩
    rfl

/-- Nothing has to be done to a field in which there is already what is written. -/
lemma setPatch_eq_nil_iff (h : ∀ d, o = some d → d.toJson.WellFormed)
    (hd' : d'.toJson.WellFormed) :
    setPatch field o d' = [] ↔ ∃ d, o = some d ∧ d.toJson.same d'.toJson = true := by
  cases o with
  | none => simp [setPatch]
  | some d =>
    rw [setPatch, Patch.under_eq_nil_iff, Patch.diff_eq_nil_iff (h d rfl) hd']
    simp

/-! ### Members that come back -/

lemma FieldChange.recovered_members (h : s.FieldChange depth field patch touched o d')
    {ms ys : Entries Json} (ha : ms.Ascending)
    (hget : Entries.get? field ms = o.map Datum.toJson)
    (hys : backMembers? depth (Entries.insert field d'.toJson ms) = some ys) :
    ∃ xs y, backMembers? depth ms = some xs ∧ ys = Entries.insert field y xs ∧
      ∀ zs : Entries Json, zs.Ascending → Entries.get? field zs = Entries.get? field xs →
        Patch.diffMember zs (field, y) = patch ∧
          patch.run? (.object zs) = some (.object (Entries.insert field y zs)) := by
  have hmem : (field, d'.toJson) ∈ Entries.insert field d'.toJson ms :=
    Entries.mem_of_get? (Entries.get?_insert_self _ _ _)
  obtain ⟨-, hall, -⟩ := (backMembers?_eq_some_iff (Entries.ascending_insert _ _ ha)).1 hys
  obtain ⟨y, hy⟩ := Option.isSome_iff_exists.1 (hall _ hmem)
  obtain ⟨xo, hxo, hset⟩ := h.recovered y hy
  obtain ⟨xs, y', hxs, hy', hold, rfl⟩ := backMembers?_of_insert ha hys (o := xo)
    (fun w hw => by
      cases o with
      | none =>
        rw [hget] at hw
        cases hw
      | some d =>
        rw [hget] at hw
        obtain rfl := Option.some.inj hw
        cases xo with
        | none => cases hxo
        | some x => exact ⟨Option.some.inj hxo, rfl⟩)
    (fun hnone => by
      cases o with
      | none =>
        cases xo with
        | none => rfl
        | some x => cases hxo
      | some d =>
        rw [hget] at hnone
        cases hnone)
  obtain rfl := Option.some.inj (hy.symm.trans hy')
  exact ⟨xs, y, hxs, rfl, fun zs hz hzget => hset zs hz (hzget.trans hold)⟩

/-- One field is changed. -/
lemma FieldChange.recovered_one (h : s.FieldChange depth field patch touched o d')
    {ms ys : Entries Json} (hms : (object ms).WellFormed)
    (hget : Entries.get? field ms = o.map Datum.toJson)
    (hys : backMembers? depth (Entries.insert field d'.toJson ms) = some ys) :
    ∃ xs, backMembers? depth ms = some xs ∧
      patch.run? (.object xs) = some (.object ys) ∧
      Patch.diff [] (.object xs) (.object ys) = patch := by
  obtain ⟨xs, y, hxs, rfl, hset⟩ := h.recovered_members hms.ascending hget hys
  have hwf := wellFormed_backMembers? hms hxs
  obtain ⟨hdiff, hrun⟩ := hset xs hwf.ascending rfl
  exact ⟨xs, hxs, hrun, by rw [Patch.diff_insert hwf, hdiff]⟩

/-- Two fields are changed, in the order of their names. -/
lemma FieldChange.recovered_two {s' : Shape} {o' : Option Datum} {e : Datum}
    (h : s.FieldChange depth field patch touched o d')
    (h' : s'.FieldChange depth field' patch' touched' o' e) (hlt : field < field')
    {ms ys : Entries Json} (hms : (object ms).WellFormed)
    (hget : Entries.get? field ms = o.map Datum.toJson)
    (hget' : Entries.get? field' ms = o'.map Datum.toJson)
    (hys : backMembers? depth
      (Entries.insert field' e.toJson (Entries.insert field d'.toJson ms)) = some ys) :
    ∃ xs, backMembers? depth ms = some xs ∧
      (patch ++ patch').run? (.object xs) = some (.object ys) ∧
      Patch.diff [] (.object xs) (.object ys) = patch ++ patch' := by
  have hne : field' ≠ field := fun heq => String.lt_irrefl field (heq ▸ hlt)
  have hgetBoth : Entries.get? field' (Entries.insert field d'.toJson ms) =
      o'.map Datum.toJson := by
    rw [Entries.get?_insert_of_ne hne, hget']
  obtain ⟨xs', y', hxs', rfl, hset'⟩ :=
    h'.recovered_members (Entries.ascending_insert _ _ hms.ascending) hgetBoth hys
  obtain ⟨xs, y, hxs, rfl, hset⟩ := h.recovered_members hms.ascending hget hxs'
  have hwf := wellFormed_backMembers? hms hxs
  obtain ⟨hdiff, hrun⟩ := hset xs hwf.ascending rfl
  obtain ⟨hdiff', -⟩ := hset' xs hwf.ascending (Entries.get?_insert_of_ne hne y xs).symm
  obtain ⟨-, hrun'⟩ := hset' _ (Entries.ascending_insert field y hwf.ascending) rfl
  refine ⟨xs, hxs, ?_, ?_⟩
  · rw [Patch.run?_append, hrun]
    exact hrun'
  · rw [Patch.diff_insert_insert hwf hlt, hdiff, hdiff']

/-- Objects come back as their members do. -/
lemma recovered_of_members {n : Nat} {v v' : Json} {ms ms' : Entries Json}
    (hv : v.back? n = (backMembers? depth ms).map .object)
    (hv' : v'.back? n = (backMembers? depth ms').map .object)
    (h : ∀ ys, backMembers? depth ms' = some ys → ∃ xs, backMembers? depth ms = some xs ∧
      patch.run? (.object xs) = some (.object ys) ∧
      Patch.diff [] (.object xs) (.object ys) = patch) :
    ∀ y, v'.back? n = some y →
      ∃ x, v.back? n = some x ∧ patch.run? x = some y ∧ Patch.diff [] x y = patch := by
  intro y hy
  rw [hv'] at hy
  obtain ⟨ys, hys, rfl⟩ := Option.map_eq_some_iff.1 hy
  obtain ⟨xs, hxs, hrun, hdiff⟩ := h ys hys
  refine ⟨.object xs, ?_, hrun, hdiff⟩
  rw [hv, hxs]
  rfl

/-! ### Members that are submitted -/

variable {fixed : List (String × String)} {fields : List (String × Presence × Shape)}
  {presence : Presence} {members : Entries Json} {r : Record}

/-- A field that is not a default is there. -/
lemma given_of_fullOfJson? (hwf : (object members).WellFormed)
    (hread : fullOfJson? fixed fields (depth + 1) (.object members) = some r)
    (hfield : Entries.get? field fields = some (presence, s))
    (hd : Entries.get? field r = some d)
    (hdefault : Entries.get? field (defaults fields) ≠ some d) :
    ∃ v, Entries.get? field members = some v ∧ s.ofJson? depth v = some d := by
  obtain ⟨-, -, hget⟩ := (fullOfJson?_eq_some_iff hwf.ascending).1 hread
  rw [hget] at hd
  rcases Option.or_eq_some_iff.1 hd with hgiven | ⟨-, hmissing⟩
  · rw [fieldOfJson?, hfield, Option.bind_some] at hgiven
    obtain ⟨v, hv, hjoin⟩ := Option.bind_eq_some_iff.1 hgiven
    refine ⟨v, hv, ?_⟩
    cases v with
    | null => cases hjoin
    | _ =>
      rw [optionalOfJson?_of_ne_null (by simp)] at hjoin
      obtain ⟨e, he, heq⟩ := Option.map_eq_some_iff.1 (Option.join_eq_some_iff.1 hjoin)
      obtain rfl := Option.some.inj heq
      exact he
  · exact absurd hmissing hdefault

/-- A field that is not there is missing, or `null`. -/
lemma missing_of_fullOfJson? (hwf : (object members).WellFormed)
    (hread : fullOfJson? fixed fields (depth + 1) (.object members) = some r)
    (hfield : Entries.get? field fields = some (presence, s))
    (hnone : Entries.get? field r = none) : (Entries.get? field members).getD .null = .null := by
  obtain ⟨-, hall, hget⟩ := (fullOfJson?_eq_some_iff hwf.ascending).1 hread
  rw [hget, Option.or_eq_none_iff, fieldOfJson?, hfield, Option.bind_some] at hnone
  cases hv : Entries.get? field members with
  | none => rfl
  | some v =>
    by_contra hnull
    rw [Option.getD_some] at hnull
    have hmember := hall _ (Entries.mem_of_get? hv)
    rw [memberOfJson?, hfield] at hmember
    simp only [optionalOfJson?_of_ne_null hnull, Option.isSome_map] at hmember
    obtain ⟨d, hd⟩ := Option.isSome_iff_exists.1 hmember
    rw [hv, Option.bind_some, optionalOfJson?_of_ne_null hnull, hd] at hnone
    cases hnone.1

lemma FieldChange.submitted_members (h : s.FieldChange depth field patch touched o d')
    (hwf : (object members).WellFormed)
    (hread : fullOfJson? fixed fields (depth + 1) (.object members) = some r)
    (hfield : Entries.get? field fields = some (presence, s)) (hnull : s.ofJson? depth .null = none)
    (hgiven : ∀ d, o = some d →
      ∃ v, Entries.get? field members = some v ∧ s.ofJson? depth v = some d) :
    ∃ w, patch.run? (.object members) = some (.object (Entries.insert field w members)) ∧
      (object (Entries.insert field w members)).WellFormed ∧ s.ofJson? depth w = some d' ∧
      fullOfJson? fixed fields (depth + 1) (.object (Entries.insert field w members)) =
        some (Entries.insert field d' r) ∧
      (object members).SameBut touched (.object (Entries.insert field w members)) := by
  obtain ⟨w, hrun, hw, hd', hsame⟩ := h.submitted members hwf hgiven
  refine ⟨w, hrun, wellFormed_insert hwf field hw, hd', ?_, hsame⟩
  refine fullOfJson?_insert hwf.ascending hread hfield ?_ hd'
  rintro rfl
  rw [hnull] at hd'
  cases hd'

/-- Two fields are changed one after the other: the first change leaves the second field alone. -/
lemma FieldChange.submitted_two {s' : Shape} {presence' : Presence} {o' : Option Datum} {e : Datum}
    (h : s.FieldChange depth field patch touched o d')
    (h' : s'.FieldChange depth field' patch' touched' o' e) (hne : field' ≠ field)
    (hwf : (object members).WellFormed)
    (hread : fullOfJson? fixed fields (depth + 1) (.object members) = some r)
    (hfield : Entries.get? field fields = some (presence, s)) (hnull : s.ofJson? depth .null = none)
    (hgiven : ∀ d, o = some d →
      ∃ v, Entries.get? field members = some v ∧ s.ofJson? depth v = some d)
    (hfield' : Entries.get? field' fields = some (presence', s'))
    (hnull' : s'.ofJson? depth .null = none)
    (hgiven' : ∀ d, o' = some d →
      ∃ v, Entries.get? field' members = some v ∧ s'.ofJson? depth v = some d) :
    ∃ w w' made, made = Entries.insert field' w' (Entries.insert field w members) ∧
      (patch ++ patch').run? (.object members) = some (.object made) ∧
      (object made).WellFormed ∧ s.ofJson? depth w = some d' ∧
      fullOfJson? fixed fields (depth + 1) (.object made) =
        some (Entries.insert field' e (Entries.insert field d' r)) ∧
      (object members).SameBut (fun path => touched path ∨ touched' path) (.object made) := by
  obtain ⟨w, hrun, hw, hd', hread', hsame⟩ := h.submitted_members hwf hread hfield hnull hgiven
  obtain ⟨w', hrun', hw', -, hread'', hsame'⟩ :=
    h'.submitted_members hw hread' hfield' hnull' fun d hd => by
      rw [Entries.get?_insert_of_ne hne]
      exact hgiven' d hd
  refine ⟨w, w', _, rfl, ?_, hw', hd', hread'',
    (hsame.mono fun _ => .inl).trans (hsame'.mono fun _ => .inr)⟩
  rw [Patch.run?_append, hrun]
  exact hrun'

/-! ### Records -/

/-- None of the fields has the name that marks a document in a text. -/
lemma ne_embeddingKey_of_fits {name : String}
    (hreserved : Entries.get? embeddingKey fields = none)
    (hr : Fits (.record name fields) (.record r)) : ∀ e ∈ r, e.1 ≠ embeddingKey := by
  intro e he
  obtain ⟨f, hf, heq⟩ := hr.2.1 e he
  rw [← heq]
  exact Entries.ne_of_get?_eq_none hreserved hf

lemma unreserved_fieldsToJson (h : ∀ e ∈ r, e.1 ≠ embeddingKey) :
    Unreserved (Datum.fieldsToJson r) := by
  intro m hm
  cases r with
  | nil => cases hm
  | cons e r =>
    obtain ⟨k, d⟩ := e
    obtain rfl := Option.some.inj hm
    exact h (k, d) List.mem_cons_self

lemma ne_embeddingKey_insert (hfield : field ≠ embeddingKey) (h : ∀ e ∈ r, e.1 ≠ embeddingKey)
    (d : Datum) : ∀ e ∈ Entries.insert field d r, e.1 ≠ embeddingKey := by
  intro e he
  rcases Entries.mem_insert he with rfl | he
  · exact hfield
  · exact h e he

lemma back?_record (depth : Nat) (h : ∀ e ∈ r, e.1 ≠ embeddingKey) :
    (Datum.record r).toJson.back? (depth + 1) =
      (backMembers? depth (Datum.fieldsToJson r)).map .object := by
  rw [Datum.toJson, back?_object depth (unreserved_fieldsToJson h)]

lemma ofJson?_record_eq_some_iff {name : String} {x : Json} :
    ofJson? (.record name fields) (depth + 1) x = some d ↔
      ∃ members r, x = .object members ∧ d = .record r ∧
        fullOfJson? [] fields (depth + 1) (.object members) = some r := by
  rw [ofJson?_record]
  constructor
  · intro h
    obtain ⟨r, hr, rfl⟩ := Option.map_eq_some_iff.1 h
    cases x with
    | object members => exact ⟨members, r, rfl, rfl, hr⟩
    | _ => cases hr
  · rintro ⟨members, r, rfl, rfl, hr⟩
    rw [hr]
    rfl

/-- A change of a field is a change of the record. -/
theorem Change.record {name : String} (hr : Holds (.record name fields) (.record r))
    (hreserved : Entries.get? embeddingKey fields = none)
    (h : s.FieldChange depth field patch touched (Entries.get? field r) d')
    (hfield : Entries.get? field fields = some (presence, s)) (hnull : s.ofJson? depth .null = none)
    (hdefault : ∀ d, Entries.get? field r = some d →
      Entries.get? field (defaults fields) ≠ some d) :
    (Shape.record name fields).Change (depth + 1) patch touched (.record r)
      (.record (Entries.insert field d' r)) := by
  have hkeys := ne_embeddingKey_of_fits hreserved hr.1
  have hne : field ≠ embeddingKey := by
    rintro rfl
    rw [hreserved] at hfield
    cases hfield
  refine ⟨?_, h.plain, h.inner, ?_, ?_⟩
  · rw [Datum.toJson, Datum.fieldsToJson_insert]
    exact wellFormed_insert hr.2 field h.wellFormed
  · have hback := back?_record depth (ne_embeddingKey_insert hne hkeys d')
    rw [Datum.fieldsToJson_insert] at hback
    exact recovered_of_members (back?_record depth hkeys) hback fun ys hys =>
      h.recovered_one hr.2 (Datum.get?_fieldsToJson field r) hys
  · intro x hx hd
    obtain ⟨members, r', rfl, heq, hread⟩ := ofJson?_record_eq_some_iff.1 hd
    obtain rfl := Datum.record.inj heq
    obtain ⟨w, hrun, hw, -, hread', hsame⟩ := h.submitted_members hx hread hfield hnull fun d hd =>
      given_of_fullOfJson? hx hread hfield hd (hdefault d hd)
    exact ⟨_, hrun, hw, ofJson?_record_eq_some_iff.2 ⟨_, _, rfl, rfl, hread'⟩, hsame⟩

/-- Changes of two fields are a change of the record. -/
theorem Change.record_two {name : String} {s' : Shape} {presence' : Presence} {e : Datum}
    (hr : Holds (.record name fields) (.record r))
    (hreserved : Entries.get? embeddingKey fields = none) (hlt : field < field')
    (h : s.FieldChange depth field patch touched (Entries.get? field r) d')
    (hfield : Entries.get? field fields = some (presence, s)) (hnull : s.ofJson? depth .null = none)
    (hdefault : ∀ d, Entries.get? field r = some d → Entries.get? field (defaults fields) ≠ some d)
    (h' : s'.FieldChange depth field' patch' touched' (Entries.get? field' r) e)
    (hfield' : Entries.get? field' fields = some (presence', s'))
    (hnull' : s'.ofJson? depth .null = none)
    (hdefault' : ∀ d, Entries.get? field' r = some d →
      Entries.get? field' (defaults fields) ≠ some d) :
    (Shape.record name fields).Change (depth + 1) (patch ++ patch')
      (fun path => touched path ∨ touched' path) (.record r)
      (.record (Entries.insert field' e (Entries.insert field d' r))) := by
  have hkeys := ne_embeddingKey_of_fits hreserved hr.1
  have hnotReserved {k : String} {f : Presence × Shape} (hk : Entries.get? k fields = some f) :
      k ≠ embeddingKey := by
    rintro rfl
    rw [hreserved] at hk
    cases hk
  have hne : field' ≠ field := fun heq => String.lt_irrefl field (heq ▸ hlt)
  have hkeysBoth := ne_embeddingKey_insert (hnotReserved hfield')
    (ne_embeddingKey_insert (hnotReserved hfield) hkeys d') e
  refine ⟨?_, h.plain.append h'.plain, h.inner.append h'.inner, ?_, ?_⟩
  · rw [Datum.toJson, Datum.fieldsToJson_insert, Datum.fieldsToJson_insert]
    exact wellFormed_insert (wellFormed_insert hr.2 field h.wellFormed) field' h'.wellFormed
  · have hback := back?_record depth hkeysBoth
    rw [Datum.fieldsToJson_insert, Datum.fieldsToJson_insert] at hback
    exact recovered_of_members (back?_record depth hkeys) hback fun ys hys =>
      h.recovered_two h' hlt hr.2 (Datum.get?_fieldsToJson field r)
        (Datum.get?_fieldsToJson field' r) hys
  · intro x hx hd
    obtain ⟨members, r', rfl, heq, hread⟩ := ofJson?_record_eq_some_iff.1 hd
    obtain rfl := Datum.record.inj heq
    obtain ⟨-, -, made, -, hrun, hw, -, hread', hsame⟩ := h.submitted_two h' hne hx hread
      hfield hnull (fun d hd => given_of_fullOfJson? hx hread hfield hd (hdefault d hd))
      hfield' hnull' (fun d hd => given_of_fullOfJson? hx hread hfield' hd (hdefault' d hd))
    exact ⟨_, hrun, hw, ofJson?_record_eq_some_iff.2 ⟨_, _, rfl, rfl, hread'⟩, hsame⟩

/-! ### String maps -/

/-- If a map comes back with an entry set behind the key that marks a document in a text, that key
is not its first. -/
lemma unreserved_of_back?_insert (hlt : embeddingKey < field) {d : Datum} {y : Json}
    (hy : (Datum.record (Entries.insert field d r)).toJson.back? (depth + 1) = some y) :
    Unreserved (Datum.fieldsToJson r) := by
  intro m hm heq
  cases r with
  | nil => cases hm
  | cons e r =>
    obtain ⟨k, v⟩ := e
    obtain rfl := Option.some.inj hm
    obtain rfl : k = embeddingKey := heq
    have hne : embeddingKey ≠ field := fun heq => String.lt_irrefl field (heq ▸ hlt)
    have hnlt : ¬ field < embeddingKey := fun hgt =>
      String.lt_irrefl field (String.lt_trans hgt hlt)
    rw [Entries.insert, if_neg hne, if_neg hnlt, Datum.toJson, Datum.fieldsToJson,
      back?_reserved] at hy
    · cases hy
    · rw [Datum.fieldsToJson_insert]
      intro hnil
      have hself := Entries.get?_insert_self field d.toJson (Datum.fieldsToJson r)
      rw [hnil] at hself
      cases hself

lemma unreserved_insert {members : Entries Json} (hfirst : Unreserved members)
    (hne : field ≠ embeddingKey) (v : Json) : Unreserved (Entries.insert field v members) := by
  intro m hm
  cases members with
  | nil =>
    obtain rfl := Option.some.inj hm
    exact hne
  | cons n ms =>
    obtain ⟨k, w⟩ := n
    rw [Entries.insert] at hm
    have hk : k ≠ embeddingKey := hfirst (k, w) rfl
    split_ifs at hm
    · obtain rfl := Option.some.inj hm
      exact hne
    · obtain rfl := Option.some.inj hm
      exact hne
    · obtain rfl := Option.some.inj hm
      exact hk

/-- An entry that is set is a change of the string map. If the first key marks a document in a text,
the map does not come back once it has another entry. -/
theorem Change.dict {item : Shape} (hr : Holds (.dict item) (.record r))
    (hlt : embeddingKey < field)
    (h : item.FieldChange depth field patch touched (Entries.get? field r) d') :
    (Shape.dict item).Change (depth + 1) patch touched (.record r)
      (.record (Entries.insert field d' r)) := by
  have hha : Entries.Ascending r := hr.1.1
  have hne : field ≠ embeddingKey := fun heq => String.lt_irrefl field (heq ▸ hlt)
  refine ⟨?_, h.plain, h.inner, ?_, ?_⟩
  · rw [Datum.toJson, Datum.fieldsToJson_insert]
    exact wellFormed_insert hr.2 field h.wellFormed
  · intro y hy
    have hfirst := unreserved_of_back?_insert hlt hy
    have hback := back?_object depth (unreserved_insert hfirst hne d'.toJson)
    rw [Datum.toJson, Datum.fieldsToJson_insert] at hy
    exact recovered_of_members (back?_object depth hfirst) hback (fun ys hys =>
      h.recovered_one hr.2 (Datum.get?_fieldsToJson field r) hys) y hy
  · intro x hx hd
    rw [ofJson?] at hd
    obtain ⟨r', hread, heq⟩ := Option.map_eq_some_iff.1 hd
    obtain rfl := Datum.record.inj heq
    cases x with
    | object members =>
      obtain ⟨-, -, hget⟩ := (entriesOfJson?_eq_some_iff hx.ascending).1 hread
      obtain ⟨w, hrun, hw, hd', hsame⟩ := h.submitted members hx fun d hd => by
        rw [hget] at hd
        exact Option.bind_eq_some_iff.1 hd
      refine ⟨_, hrun, wellFormed_insert hx field hw, ?_, hsame⟩
      rw [ofJson?, entriesOfJson?_insert hx.ascending hread hd']
      rfl
    | _ => cases hread

/-! ### Lists -/

/-- The patches of the items of a list, the first of which has the index given. -/
def itemsPatch (index : Nat) : List Patch → Patch
  | [] => []
  | p :: rest => p.under [toString index] ++ itemsPatch (index + 1) rest

/-- The places touched in the items of a list. -/
def ItemsTouched (touched : Datum → Pointer → Prop) (ds : List Datum) (path : Pointer) : Prop :=
  ∃ (i : Nat) (d : Datum) (rest : Pointer),
    ds[i]? = some d ∧ path = toString i :: rest ∧ touched d rest

section Items

variable {item : Shape} {patchOf : Datum → Patch} {touchedOf : Datum → Pointer → Prop}
  {f : Datum → Datum} {ds : List Datum}

lemma recovered_items
    (h : ∀ d ∈ ds, item.Change depth (patchOf d) (touchedOf d) d (f d)) {ys : List Json}
    (hys : List.Forall₂ (fun d y => (f d).toJson.back? depth = some y) ds ys) :
    ∃ xs, List.Forall₂ (fun d x => d.toJson.back? depth = some x) ds xs ∧
      (∀ done, (itemsPatch done.length (ds.map patchOf)).run? (.list (done ++ xs)) =
        some (.list (done ++ ys))) ∧
      ∀ index, Patch.diffItems [] index xs ys = itemsPatch index (ds.map patchOf) := by
  induction hys with
  | nil => exact ⟨[], .nil, fun done => rfl, fun index => rfl⟩
  | @cons d y ds ys hy _ ih =>
    obtain ⟨hchange, hrest⟩ := List.forall_mem_cons.1 h
    obtain ⟨xs, hxs, hrunRest, hdiffRest⟩ := ih hrest
    obtain ⟨x, hx, hrun, hdiff⟩ := hchange.recovered y hy
    refine ⟨x :: xs, .cons hx hxs, ?_, ?_⟩
    · intro done
      have hitem : (done ++ x :: xs)[done.length]? = some x := by simp
      have hset : (done ++ x :: xs).set done.length y = (done ++ [y]) ++ xs := by simp
      have hmore := hrunRest (done ++ [y])
      rw [List.length_append, List.length_singleton] at hmore
      rw [List.map_cons, itemsPatch, Patch.run?_append, Patch.run?_under_list hchange.inner hitem,
        hrun]
      simp only [Option.map_some, Option.bind_some]
      rw [hset, hmore]
      simp
    · intro index
      rw [Patch.diffItems, hdiffRest, Patch.diff_under, hdiff]
      rfl

lemma submitted_items
    (h : ∀ d ∈ ds, item.Change depth (patchOf d) (touchedOf d) d (f d)) {xs : List Json}
    (hwf : ∀ x ∈ xs, x.WellFormed)
    (hxs : List.Forall₂ (fun x d => item.ofJson? depth x = some d) xs ds) :
    ∃ ys, List.Forall₂ (fun y d => item.ofJson? depth y = some d) ys (ds.map f) ∧
      (∀ y ∈ ys, y.WellFormed) ∧
      (∀ done, (itemsPatch done.length (ds.map patchOf)).run? (.list (done ++ xs)) =
        some (.list (done ++ ys))) ∧
      ∀ (i : Nat) (x y : Json), xs[i]? = some x → ys[i]? = some y →
        ∃ d, ds[i]? = some d ∧ x.SameBut (touchedOf d) y := by
  induction hxs with
  | nil => exact ⟨[], .nil, by simp, fun done => rfl, by simp⟩
  | @cons x d xs ds hx _ ih =>
    obtain ⟨hchange, hrest⟩ := List.forall_mem_cons.1 h
    obtain ⟨hwfFirst, hwfRest⟩ := List.forall_mem_cons.1 hwf
    obtain ⟨ys, hys, hwfYs, hrunRest, hsameRest⟩ := ih hrest hwfRest
    obtain ⟨y, hrun, hy, hd', hsame⟩ := hchange.submitted x hwfFirst hx
    refine ⟨y :: ys, .cons hd' hys, List.forall_mem_cons.2 ⟨hy, hwfYs⟩, ?_, ?_⟩
    · intro done
      have hitem : (done ++ x :: xs)[done.length]? = some x := by simp
      have hset : (done ++ x :: xs).set done.length y = (done ++ [y]) ++ xs := by simp
      have hmore := hrunRest (done ++ [y])
      rw [List.length_append, List.length_singleton] at hmore
      rw [List.map_cons, itemsPatch, Patch.run?_append, Patch.run?_under_list hchange.inner hitem,
        hrun]
      simp only [Option.map_some, Option.bind_some]
      rw [hset, hmore]
      simp
    · intro i x' y' hx' hy'
      cases i with
      | zero =>
        obtain rfl := Option.some.inj hx'
        obtain rfl := Option.some.inj hy'
        exact ⟨d, rfl, hsame⟩
      | succ i => exact hsameRest i x' y' hx' hy'

lemma plain_itemsPatch {ps : List Patch} (h : ∀ p ∈ ps, p.Plain) (index : Nat) :
    (itemsPatch index ps).Plain := by
  induction ps generalizing index with
  | nil => exact Patch.plain_nil
  | cons p ps ih =>
    exact ((h p List.mem_cons_self).under _).append
      (ih (fun q hq => h q (List.mem_cons_of_mem _ hq)) (index + 1))

lemma inner_itemsPatch (ps : List Patch) (index : Nat) : (itemsPatch index ps).Inner := by
  induction ps generalizing index with
  | nil => exact Patch.inner_nil
  | cons p ps ih => exact (Patch.inner_under _ [] p).append (ih (index + 1))

/-- Nothing has to be done to a list if nothing has to be done to its items. -/
lemma itemsPatch_eq_nil_iff {ps : List Patch} {index : Nat} :
    itemsPatch index ps = [] ↔ ∀ p ∈ ps, p = [] := by
  induction ps generalizing index with
  | nil => simp [itemsPatch]
  | cons p ps ih =>
    rw [itemsPatch, List.append_eq_nil_iff, Patch.under_eq_nil_iff, ih, List.forall_mem_cons]

/-- Changes of all items are a change of the list. -/
theorem Change.list (h : ∀ d ∈ ds, item.Change depth (patchOf d) (touchedOf d) d (f d)) :
    (Shape.list item).Change (depth + 1) (itemsPatch 0 (ds.map patchOf))
      (ItemsTouched touchedOf ds) (.list ds) (.list (ds.map f)) := by
  refine ⟨wellFormed_list ?_, plain_itemsPatch ?_ 0, inner_itemsPatch _ 0, fun y hy => ?_,
    fun x hx hd => ?_⟩
  · intro e he
    obtain ⟨d, hd, rfl⟩ := List.mem_map.1 he
    exact (h d hd).wellFormed
  · intro p hp
    obtain ⟨d, hd, rfl⟩ := List.mem_map.1 hp
    exact (h d hd).plain
  · rw [Datum.toJson, itemsToJson_eq, back?_list, List.map_map] at hy
    obtain ⟨ys, hys, rfl⟩ := Option.map_eq_some_iff.1 hy
    have hitems := List.forall₂_map_left_iff.1 (mapM_eq_some_iff.1 hys)
    obtain ⟨xs, hxs, hrun, hdiff⟩ := recovered_items h hitems
    refine ⟨.list xs, ?_, hrun [], ?_⟩
    · rw [Datum.toJson, itemsToJson_eq, back?_list, mapM_eq_some_iff.2]
      · rfl
      · rw [List.forall₂_map_left_iff]
        exact hxs
    · rw [Patch.diff_list, hdiff]
  · obtain ⟨xs, ds', rfl, heq, hitems⟩ := ofJson?_list_eq_some_iff.1 hd
    obtain rfl := Datum.list.inj heq
    obtain ⟨ys, hys, hwf, hrun, hsame⟩ := submitted_items h hx.items hitems
    refine ⟨.list ys, hrun [], .list hwf, ofJson?_list_eq_some_iff.2 ⟨ys, _, rfl, rfl, hys⟩, ?_⟩
    refine .list ?_ fun i x y hx hy => ?_
    · rw [hitems.length_eq, hys.length_eq, List.length_map]
    · obtain ⟨d, hd, hsame⟩ := hsame i x y hx hy
      exact hsame.mono fun path hpath => ⟨i, d, path, hd, rfl, hpath⟩

end Items

end Shape

end PodAdmission

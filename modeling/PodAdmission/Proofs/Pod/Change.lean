import PodAdmission.Proofs.Pod.Document

/-!
# Changes of pods

What `Shape.Change` says of data, said of whole pods: a patch is the difference of two written pods
and fits every document that is read as the first of them, if the metadata of the document are an
object. If they are not, the patch does not fit, for it starts with the annotations.
-/

namespace PodAdmission

open Json Reader Shape

namespace Pod

variable {p q : Pod} {patch patch' : Patch} {touched touched' : Pointer → Prop} {D : Json}
  {members : Entries Json} {m m' spec spec' : Record}

/-- The metadata of the document are an object. -/
def HasMetadata (D : Json) : Prop :=
  ∃ members, D.member? "metadata" = some (.object members)

/-- A patch changes a pod into another wherever the pod is written. -/
structure Change (p q : Pod) (patch : Patch) (touched : Pointer → Prop) : Prop where
  wellFormed : q.toJson.WellFormed
  plain : patch.Plain
  recovered : ∀ b, q.toJson.back? maxDepth = some b → ∃ a, p.toJson.back? maxDepth = some a ∧
    patch.run? a = some b ∧ Patch.diff [] a b = patch
  submitted : ∀ D, D.WellFormed → HasMetadata D → ofJson? D = some p →
    ∃ D', patch.run? D = some D' ∧ D'.WellFormed ∧ HasMetadata D' ∧ ofJson? D' = some q ∧
      D.SameBut touched D'
  unfit : ∀ D, D.WellFormed → ¬ HasMetadata D → ofJson? D = some p → patch.run? D = none

lemma Change.mono {wider : Pointer → Prop} (h : Change p q patch touched)
    (hle : ∀ path, touched path → wider path) : Change p q patch wider := by
  refine ⟨h.wellFormed, h.plain, h.recovered, fun D hD hmeta hp => ?_, h.unfit⟩
  obtain ⟨D', hrun, hD', hmeta', hq, hsame⟩ := h.submitted D hD hmeta hp
  exact ⟨D', hrun, hD', hmeta', hq, hsame.mono hle⟩

/-! ### Metadata -/

lemma object_of_ofJson? (h : ofJson? D = some p) : ∃ members, D = .object members := by
  rw [ofJson?_eq_some_iff] at h
  cases D with
  | object members => exact ⟨members, rfl⟩
  | _ => cases h

lemma ofJson?_objectMeta_null (depth : Nat) : objectMeta.ofJson? depth .null = none := by
  cases depth <;> rfl

lemma object_of_ofJson?_objectMeta {depth : Nat} {v : Json} {d : Datum}
    (h : objectMeta.ofJson? depth v = some d) : ∃ members, v = .object members := by
  cases v with
  | object members => exact ⟨members, rfl⟩
  | _ => cases depth <;> cases h

lemma hasMetadata_insert {v : Json} {d : Datum} {depth : Nat}
    (h : objectMeta.ofJson? depth v = some d) (members : Entries Json) :
    HasMetadata (.object (Entries.insert "metadata" v members)) := by
  obtain ⟨vs, rfl⟩ := object_of_ofJson?_objectMeta h
  exact ⟨vs, Entries.get?_insert_self _ _ _⟩

lemma metadata_given (hwf : (object members).WellFormed) (hmetadata : HasMetadata (.object members))
    (hread : fullOfJson? (header "Pod") podFields maxDepth (.object members) = some p.fields)
    (hmeta : Entries.get? "metadata" p.fields = some (.record m)) :
    ∃ v, Entries.get? "metadata" members = some v ∧
      objectMeta.ofJson? 126 v = some (.record m) := by
  obtain ⟨vs, hvs⟩ := hmetadata
  have hfield : Entries.get? "metadata" podFields = some (.required, objectMeta) := rfl
  obtain ⟨-, hall, hget⟩ := (fullOfJson?_eq_some_iff hwf.ascending).1 hread
  have hmember := hall _ (Entries.mem_of_get? hvs)
  have hvalue := hget "metadata"
  rw [memberOfJson?, hfield] at hmember
  simp only [optionalOfJson?_of_ne_null (by simp : Json.object vs ≠ .null), Option.isSome_map]
    at hmember
  obtain ⟨d, hd⟩ := Option.isSome_iff_exists.1 hmember
  have hvs' : Entries.get? "metadata" members = some (.object vs) := hvs
  rw [fieldOfJson?, hfield, Option.bind_some, hvs', Option.bind_some,
    optionalOfJson?_of_ne_null (by simp), hd, hmeta] at hvalue
  obtain rfl := Option.some.inj hvalue
  exact ⟨_, hvs, hd⟩

/-- Without metadata there is no place for annotations. -/
lemma metadata_missing (hwf : (object members).WellFormed)
    (hmetadata : ¬ HasMetadata (.object members))
    (hread : fullOfJson? (header "Pod") podFields maxDepth (.object members) = some p.fields)
    (hmeta : Entries.get? "metadata" p.fields = some (.record m)) :
    m = [] ∧ (Entries.get? "metadata" members).getD .null = .null := by
  have hfield : Entries.get? "metadata" podFields = some (.required, objectMeta) := rfl
  obtain ⟨-, hall, hget⟩ := (fullOfJson?_eq_some_iff hwf.ascending).1 hread
  have hvalue := hget "metadata"
  have hmissing : (Entries.get? "metadata" members).getD .null = .null := by
    cases hv : Entries.get? "metadata" members with
    | none => rfl
    | some v =>
      by_contra hnull
      rw [Option.getD_some] at hnull
      have hmember := hall _ (Entries.mem_of_get? hv)
      rw [memberOfJson?, hfield] at hmember
      simp only [optionalOfJson?_of_ne_null hnull, Option.isSome_map] at hmember
      obtain ⟨d, hd⟩ := Option.isSome_iff_exists.1 hmember
      obtain ⟨vs, rfl⟩ := object_of_ofJson?_objectMeta hd
      exact hmetadata ⟨vs, hv⟩
  refine ⟨?_, hmissing⟩
  have hnone : fieldOfJson? podFields 126 members "metadata" = none := by
    rw [fieldOfJson?, hfield, Option.bind_some]
    cases hv : Entries.get? "metadata" members with
    | none => rfl
    | some v =>
      rw [hv, Option.getD_some] at hmissing
      rw [hmissing]
      rfl
  have hdefault : Entries.get? "metadata" (defaults podFields) = some (.record []) := rfl
  rw [hnone, hmeta, Option.none_or, hdefault] at hvalue
  exact Datum.record.inj (Option.some.inj hvalue)

/-- An operation on metadata cannot be carried out where there are none. -/
lemma run?_metadata_missing {op : Operation} (hop : op.Inner) (hnull : op.perform? .null = none)
    (h : (Entries.get? "metadata" members).getD .null = .null) (rest : Patch) :
    Patch.run? (op.under ["metadata"] :: rest) (.object members) = none := by
  have hperform : (op.under ["metadata"]).perform? (.object members) = none := by
    rw [Operation.perform?_under hop, updateChild?]
    cases hv : Entries.get? "metadata" members with
    | none => rfl
    | some v =>
      rw [hv, Option.getD_some] at h
      simp only [h, hnull]
      rfl
  rw [Patch.run?_cons, hperform]
  rfl

/-! ### Parts of a pod -/

/-- The patch starts with something that cannot be carried out where there are no metadata. -/
def NeedsMetadata (patch : Patch) : Prop :=
  ∃ op rest, patch = op :: rest ∧ op.perform? .null = none

lemma run?_under_metadata_missing (hinner : patch.Inner) (h : NeedsMetadata patch)
    (hmissing : (Entries.get? "metadata" members).getD .null = .null) (rest : Patch) :
    Patch.run? (patch.under ["metadata"] ++ rest) (.object members) = none := by
  obtain ⟨op, ops, rfl, hnull⟩ := h
  exact run?_metadata_missing (hinner op List.mem_cons_self) hnull hmissing _

/-- A patch that starts with a change of the metadata does not fit where there are none. -/
lemma unfit_metadata (hmeta : Entries.get? "metadata" p.fields = some (.record m))
    (hinner : patch.Inner) (hneeds : m = [] → NeedsMetadata patch) (rest : Patch)
    (hD : D.WellFormed) (hmetadata : ¬ HasMetadata D) (hp : ofJson? D = some p) :
    Patch.run? (patch.under ["metadata"] ++ rest) D = none := by
  obtain ⟨members, rfl⟩ := object_of_ofJson? hp
  rw [ofJson?_eq_some_iff] at hp
  obtain ⟨hempty, hmissing⟩ := metadata_missing hD hmetadata hp hmeta
  exact run?_under_metadata_missing hinner (hneeds hempty) hmissing rest

/-- A change of the metadata is a change of the pod. -/
theorem change_metadata (hp : p.Sound)
    (hmeta : Entries.get? "metadata" p.fields = some (.record m))
    (h : objectMeta.Change 126 patch touched (.record m) (.record m'))
    (hneeds : m = [] → NeedsMetadata patch) :
    Change p ⟨Entries.insert "metadata" (.record m') p.fields⟩ (patch.under ["metadata"])
      (Below "metadata" touched) := by
  have hkey : "kind" < "metadata" := by decide
  have hfield : Entries.get? "metadata" podFields = some (.required, objectMeta) := rfl
  have hwf : (object p.members).WellFormed := wellFormed_toJson hp
  have hchange := FieldChange.of_change "metadata" h
  have hgiven : Entries.get? "metadata" p.members =
      (some (Datum.record m)).map Datum.toJson := by
    rw [get?_members hkey, hmeta]
  refine ⟨?_, hchange.plain, ?_, ?_, ?_⟩
  · rw [toJson_eq, members_insert hkey]
    exact wellFormed_insert hwf "metadata" h.wellFormed
  · refine recovered_of_members (back?_toJson p) (back?_toJson _) fun ys hys => ?_
    rw [members_insert hkey] at hys
    exact hchange.recovered_one hwf hgiven hys
  · intro D hD hmetadata hread
    obtain ⟨members, rfl⟩ := object_of_ofJson? hread
    rw [ofJson?_eq_some_iff] at hread
    obtain ⟨w, hrun, hw, hd', hread', hsame⟩ := hchange.submitted_members hD hread hfield
      (ofJson?_objectMeta_null 126) fun d hd => by
        obtain rfl := Option.some.inj hd
        exact metadata_given hD hmetadata hread hmeta
    exact ⟨_, hrun, hw, hasMetadata_insert hd' members, ofJson?_eq_some_iff.2 hread', hsame⟩
  · intro D hD hmetadata hread
    rw [← List.append_nil (patch.under _)]
    exact unfit_metadata hmeta h.inner hneeds [] hD hmetadata hread

/-- Changes of the metadata and of the specification are a change of the pod. -/
theorem change_metadata_spec (hp : p.Sound)
    (hmeta : Entries.get? "metadata" p.fields = some (.record m))
    (hspec : Entries.get? "spec" p.fields = some (.record spec))
    (h : objectMeta.Change 126 patch touched (.record m) (.record m'))
    (h' : podSpec.Change 126 patch' touched' (.record spec) (.record spec'))
    (hneeds : m = [] → NeedsMetadata patch) :
    Change p
      ⟨Entries.insert "spec" (.record spec') (Entries.insert "metadata" (.record m') p.fields)⟩
      (patch.under ["metadata"] ++ patch'.under ["spec"])
      (fun path => Below "metadata" touched path ∨ Below "spec" touched' path) := by
  have hkey : "kind" < "metadata" := by decide
  have hkey' : "kind" < "spec" := by decide
  have hlt : "metadata" < "spec" := by decide
  have hfield : Entries.get? "metadata" podFields = some (.required, objectMeta) := rfl
  have hfield' : Entries.get? "spec" podFields = some (.optional, podSpec) := rfl
  have hnull : podSpec.ofJson? 126 .null = none := rfl
  have hdefault : Entries.get? "spec" (defaults podFields) = none := rfl
  have hwf : (object p.members).WellFormed := wellFormed_toJson hp
  have hchange := FieldChange.of_change "metadata" h
  have hchange' := FieldChange.of_change "spec" h'
  have hgiven : Entries.get? "metadata" p.members =
      (some (Datum.record m)).map Datum.toJson := by
    rw [get?_members hkey, hmeta]
  have hgiven' : Entries.get? "spec" p.members =
      (some (Datum.record spec)).map Datum.toJson := by
    rw [get?_members hkey', hspec]
  have hmembers : (Pod.mk (Entries.insert "spec" (.record spec')
      (Entries.insert "metadata" (.record m') p.fields))).members =
        Entries.insert "spec" (Datum.record spec').toJson
          (Entries.insert "metadata" (Datum.record m').toJson p.members) := by
    rw [← members_insert hkey, ← members_insert hkey']
  refine ⟨?_, hchange.plain.append hchange'.plain, ?_, ?_, ?_⟩
  · rw [toJson_eq, hmembers]
    exact wellFormed_insert (wellFormed_insert hwf "metadata" h.wellFormed) "spec" h'.wellFormed
  · refine recovered_of_members (back?_toJson p) (back?_toJson _) fun ys hys => ?_
    rw [hmembers] at hys
    exact hchange.recovered_two hchange' hlt hwf hgiven hgiven' hys
  · intro D hD hmetadata hread
    obtain ⟨members, rfl⟩ := object_of_ofJson? hread
    rw [ofJson?_eq_some_iff] at hread
    obtain ⟨w, w', made, rfl, hrun, hw, hd', hread', hsame⟩ := hchange.submitted_two hchange'
      (by decide) hD hread hfield (ofJson?_objectMeta_null 126)
      (fun d hd => by
        obtain rfl := Option.some.inj hd
        exact metadata_given hD hmetadata hread hmeta)
      hfield' hnull fun d hd => by
        obtain rfl := Option.some.inj hd
        exact given_of_fullOfJson? hD hread hfield' hspec (by rw [hdefault]; simp)
    refine ⟨_, hrun, hw, ?_, ofJson?_eq_some_iff.2 hread', hsame⟩
    obtain ⟨vs, hvs⟩ := hasMetadata_insert hd' members
    refine ⟨vs, ?_⟩
    rw [member?, Entries.get?_insert_of_ne (by decide)]
    exact hvs
  · exact fun D => unfit_metadata hmeta h.inner hneeds _

end Pod

end PodAdmission

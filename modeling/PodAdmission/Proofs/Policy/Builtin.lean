import PodAdmission.Proofs.Policy.Selection

/-!
# The policies of the two webhooks

Both policies change a pod as `Pod.Change` says, and `Policy.Touches` says which places of a
document they touch in doing so.
-/

namespace PodAdmission

open Json Reader Shape Pod

/-- The policies of the two webhooks. -/
inductive Policy.Builtin : Policy → Prop where
  | hostProcess : Builtin HostProcess.policy
  | runtimeClass (name : String) : Builtin (RuntimeClass.policy name)

/-- There is nothing at a place of a document, or `null`. -/
def Json.Lacks (D : Json) (path : Pointer) : Prop :=
  (D.at? path).getD .null = .null

/-- The places of a document with a pod that a policy touches. -/
inductive Policy.Touches (D : Json) (p : Pod) : Policy → Pointer → Prop where
  | command {i : Nat} {c : Container} (hc : p.containers[i]? = some c)
      (hruns : HostProcess.runsProgram c = true) :
      Touches D p HostProcess.policy ["spec", "containers", toString i, "command"]
  | args {i : Nat} {c : Container} (hc : p.containers[i]? = some c)
      (hruns : HostProcess.runsProgram c = true) :
      Touches D p HostProcess.policy ["spec", "containers", toString i, "args"]
  | mark : Touches D p HostProcess.policy ["metadata", "annotations", HostProcess.annotationKey]
  | marks (h : D.Lacks ["metadata", "annotations"]) :
      Touches D p HostProcess.policy ["metadata", "annotations"]
  | runtimeClass {name : String} (h : D.Lacks ["spec", "runtimeClassName"]) :
      Touches D p (RuntimeClass.policy name) ["spec", "runtimeClassName"]
  | note {name : String} :
      Touches D p (RuntimeClass.policy name) ["metadata", "annotations", RuntimeClass.annotationKey]
  | notes {name : String} (h : D.Lacks ["metadata", "annotations"]) :
      Touches D p (RuntimeClass.policy name) ["metadata", "annotations"]

variable {p : Pod} {D : Json} {P : Policy}

/-! ### What a document lacks -/

lemma at?_two (members : Entries Json) {key : String} {inner : Entries Json}
    (h : Entries.get? key members = some (.object inner)) (key' : String) :
    (object members).at? [key, key'] = Entries.get? key' inner := by
  simp only [at?, child?, h]
  cases Entries.get? key' inner <;> rfl

lemma lacks_annotations (hD : D.WellFormed) (hmetadata : HasMetadata D) (hp : ofJson? D = some p)
    {m : Record} (hm : Entries.get? "metadata" p.fields = some (.record m))
    (hnone : Entries.get? "annotations" m = none) : D.Lacks ["metadata", "annotations"] := by
  obtain ⟨members, rfl⟩ := object_of_ofJson? hp
  obtain ⟨v, hv, hread⟩ := metadata_given hD hmetadata (ofJson?_eq_some_iff.1 hp) hm
  obtain ⟨inner, m', rfl, heq, hfull⟩ := ofJson?_record_eq_some_iff.1 hread
  obtain rfl := Datum.record.inj heq
  rw [Lacks, at?_two members hv]
  exact missing_of_fullOfJson? (hD.members _ (Entries.mem_of_get? hv)) hfull rfl hnone

lemma lacks_runtimeClassName (hD : D.WellFormed) (hp : ofJson? D = some p) {spec : Record}
    (hspec : Entries.get? "spec" p.fields = some (.record spec))
    (hnone : Entries.get? "runtimeClassName" spec = none) :
    D.Lacks ["spec", "runtimeClassName"] := by
  obtain ⟨members, rfl⟩ := object_of_ofJson? hp
  have hfield : Entries.get? "spec" podFields = some (.optional, podSpec) := rfl
  have hdefault : Entries.get? "spec" (defaults podFields) = none := rfl
  obtain ⟨v, hv, hread⟩ := given_of_fullOfJson? hD (ofJson?_eq_some_iff.1 hp) hfield hspec
    (by rw [hdefault]; simp)
  obtain ⟨inner, spec', rfl, heq, hfull⟩ := ofJson?_record_eq_some_iff.1 hread
  obtain rfl := Datum.record.inj heq
  rw [Lacks, at?_two members hv]
  exact missing_of_fullOfJson? (hD.members _ (Entries.mem_of_get? hv)) hfull rfl hnone

/-! ### Changes -/

/-- Setting an annotation touches its entry, or the annotations if there are none. -/
lemma annotationTouched_cases (hp : p.Sound) (hD : D.WellFormed) (hmetadata : HasMetadata D)
    (hread : ofJson? D = some p) {key : String} {path : Pointer}
    (h : AnnotationTouched key p.metadata path) :
    path = ["annotations", key] ∨
      path = ["annotations"] ∧ D.Lacks ["metadata", "annotations"] := by
  obtain ⟨m, hm, -⟩ := hp.metadata
  rw [metadata_eq hm, AnnotationTouched] at h
  cases hget : Entries.get? "annotations" m with
  | some d =>
    rw [hget] at h
    exact .inl h
  | none =>
    rw [hget] at h
    exact .inr ⟨h, lacks_annotations hD hmetadata hread hm hget⟩

lemma touches_of_runtimeClass (hp : p.Sound) {name : String} (hD : D.WellFormed)
    (hmetadata : HasMetadata D) (hread : ofJson? D = some p) {path : Pointer}
    (h : RuntimeClass.Touched p path) : Policy.Touches D p (RuntimeClass.policy name) path := by
  rcases h with ⟨rest, rfl, hrest⟩ | ⟨spec, hspec, rest, rfl, hnone, rfl⟩
  · rcases annotationTouched_cases hp hD hmetadata hread hrest with rfl | ⟨rfl, hlacks⟩
    · exact .note
    · exact .notes hlacks
  · obtain ⟨d, hd, hrecord⟩ := Option.bind_eq_some_iff.1 hspec
    obtain ⟨spec', rfl, -⟩ := hp.spec hd
    obtain rfl := Option.some.inj hrecord
    exact .runtimeClass (lacks_runtimeClassName hD hread hd hnone)

lemma touches_of_hostProcess (hp : p.Sound) (hD : D.WellFormed) (hmetadata : HasMetadata D)
    (hread : ofJson? D = some p) {path : Pointer} (h : HostProcess.Touched p path) :
    Policy.Touches D p HostProcess.policy path := by
  rcases h with ⟨rest, rfl, hrest⟩ | ⟨rest, rfl, inner, rfl, i, c, hc, hruns, hinner⟩
  · rcases annotationTouched_cases hp hD hmetadata hread hrest with rfl | ⟨rfl, hlacks⟩
    · exact .mark
    · exact .marks hlacks
  · rcases hinner with rfl | rfl
    · exact .args hc hruns
    · exact .command hc hruns

/-- What a policy does to a pod that it selects is a change, and touches what it should. -/
theorem Policy.Builtin.change (h : P.Builtin) (hp : p.Sound) (hselects : P.selects p = true) :
    ∃ patch touched, Change p (P.mutate p) patch touched ∧
      ∀ D, D.WellFormed → HasMetadata D → ofJson? D = some p →
        ∀ path, touched path → Policy.Touches D p P path := by
  cases h with
  | hostProcess =>
    exact ⟨_, _, HostProcess.change_mutate hp (HostProcess.any_of_selects hselects),
      fun D hD hmetadata hread path hpath => touches_of_hostProcess hp hD hmetadata hread hpath⟩
  | runtimeClass name =>
    exact ⟨_, _, RuntimeClass.change_mutate hp name,
      fun D hD hmetadata hread path hpath => touches_of_runtimeClass hp hD hmetadata hread hpath⟩

end PodAdmission

import PodAdmission.Proofs.Admission.Soundness

/-!
# The patch and the submitted document

The patch of a response is made of the pod that has been read and not of the document that was
submitted. It fits the document if the metadata of the document are an object, and only then: a
document may leave the metadata out, but the patch adds annotations to them.

Where it fits, it leaves a document that holds the changed pod and is the same as before but for the
places that the policy touches.
-/

namespace PodAdmission

open Json Reader Pod

variable {P : Policy} {request : AdmissionRequest} {D : Json} {p : Pod} {bytes : Bytes}

/-- The patch of a response fits the document that was submitted just if there are metadata. -/
theorem Policy.patch_fits_iff_hasMetadata (hP : P.Builtin) (hD : D.WellFormed)
    (hpod : request.resource.isPod = true) (hobject : request.object = some D.write)
    (hdecode : Pod.decode D.write = .ok p) (hpatch : (P.respond request).patch = some bytes) :
    ∃ ops, Patch.read bytes = .ok ops ∧ ((∃ D', ops.apply D = .ok D') ↔ HasMetadata D) := by
  obtain ⟨patch, touched, rfl, hchange, -⟩ :=
    hP.change_of_patch hD hpod hobject hdecode hpatch
  have hread := (decode_write_eq_ok_iff hD).1 hdecode
  refine ⟨patch, Patch.read_write hchange.plain, ?_⟩
  constructor
  · rintro ⟨D', happly⟩
    by_contra hmetadata
    have hrun := hchange.unfit D hD hmetadata hread
    rw [Patch.apply_eq_ok_iff.1 happly] at hrun
    cases hrun
  · intro hmetadata
    obtain ⟨D', hrun, -⟩ := hchange.submitted D hD hmetadata hread
    exact ⟨D', Patch.apply_eq_ok_iff.2 hrun⟩

/-- The patch of the pod in `agnhostDocument`. -/
lemma patch_agnhostDocument :
    (HostProcess.policy.respond (Session.request agnhostDocument .create)).patch =
      some (HostProcess.patch agnhostPod).write := by
  have hp := sound_of_decode decode_agnhostDocument
  exact Policy.Builtin.patch_of_change .hostProcess wellFormed_agnhostDocument rfl rfl
    decode_agnhostDocument (by decide +kernel) (HostProcess.change_mutate hp (by decide +kernel))
    recovers_agnhostPod (by decide +kernel)

/-- The patch of a wrapped container fits the document. -/
theorem Policy.patch_fits_agnhostDocument : ∃ bytes ops,
    (HostProcess.policy.respond (Session.request agnhostDocument .create)).patch = some bytes ∧
      Patch.read bytes = .ok ops ∧ ∃ D', ops.apply agnhostDocument = .ok D' := by
  obtain ⟨ops, hread, hfits⟩ := Policy.patch_fits_iff_hasMetadata .hostProcess
    wellFormed_agnhostDocument rfl rfl decode_agnhostDocument patch_agnhostDocument
  exact ⟨_, ops, patch_agnhostDocument, hread, hfits.2 ⟨[], rfl⟩⟩

/-- A pod without metadata. -/
def bareDocument : Json :=
  .object [("spec", .object [("containers", .list [])])]

/-- The pod in `bareDocument`. -/
def barePod : Pod :=
  ⟨[("metadata", .record []), ("spec", .record [("containers", .list [])])]⟩

lemma wellFormed_bareDocument : bareDocument.WellFormed := by
  simp +decide [bareDocument, Entries.Ascending]

lemma decode_bareDocument : Pod.decode bareDocument.write = .ok barePod :=
  (decode_write_eq_ok_iff wellFormed_bareDocument).2 rfl

lemma recovers_barePod :
    ((RuntimeClass.policy RuntimeClass.defaultName).mutate barePod).toJson.Recovers maxDepth :=
  recovers_iff.2 (by decide +kernel)

/-- The patch of the pod in `bareDocument`. -/
lemma patch_bareDocument :
    ((RuntimeClass.policy RuntimeClass.defaultName).respond
      (Session.request bareDocument .create)).patch =
        some (RuntimeClass.patch RuntimeClass.defaultName barePod).write := by
  have hp := sound_of_decode decode_bareDocument
  exact Policy.Builtin.patch_of_change (.runtimeClass _) wellFormed_bareDocument rfl rfl
    decode_bareDocument (by decide +kernel) (RuntimeClass.change_mutate hp _) recovers_barePod
    (by decide +kernel)

/-- The patch of a pod without metadata does not fit the document. -/
theorem Policy.patch_misfits_bareDocument : ∃ bytes ops why,
    ((RuntimeClass.policy RuntimeClass.defaultName).respond
      (Session.request bareDocument .create)).patch = some bytes ∧
      Patch.read bytes = .ok ops ∧ ops.apply bareDocument = .error why := by
  have hchange := RuntimeClass.change_mutate (sound_of_decode decode_bareDocument)
    RuntimeClass.defaultName
  exact ⟨_, _, _, patch_bareDocument, Patch.read_write hchange.plain, rfl⟩

/-- The patch of a response makes of a document with metadata one that holds the changed pod, and
touches nothing but what it should. -/
theorem Policy.patched_document (hP : P.Builtin) (hD : D.WellFormed) (hmetadata : HasMetadata D)
    (hpod : request.resource.isPod = true) (hobject : request.object = some D.write)
    (hdecode : Pod.decode D.write = .ok p) (hpatch : (P.respond request).patch = some bytes) :
    ∃ ops D', Patch.read bytes = .ok ops ∧ ops.apply D = .ok D' ∧
      Pod.decode D'.write = .ok (P.mutate p) ∧ D.SameBut (Policy.Touches D p P) D' := by
  obtain ⟨patch, touched, rfl, hchange, htouches⟩ :=
    hP.change_of_patch hD hpod hobject hdecode hpatch
  obtain ⟨D', hrun, hD', -, hread, hsame⟩ :=
    hchange.submitted D hD hmetadata ((decode_write_eq_ok_iff hD).1 hdecode)
  exact ⟨patch, D', Patch.read_write hchange.plain, Patch.apply_eq_ok_iff.2 hrun,
    (decode_write_eq_ok_iff hD').2 hread, hsame.mono (htouches hmetadata)⟩

/-- The patch of a wrapped container leaves a document that holds the changed pod. -/
theorem Policy.patched_agnhostDocument : ∃ bytes ops D',
    (HostProcess.policy.respond (Session.request agnhostDocument .create)).patch = some bytes ∧
      Patch.read bytes = .ok ops ∧ ops.apply agnhostDocument = .ok D' ∧
      Pod.decode D'.write = .ok (HostProcess.policy.mutate agnhostPod) ∧
      agnhostDocument.SameBut
        (Policy.Touches agnhostDocument agnhostPod HostProcess.policy) D' := by
  obtain ⟨ops, D', hread, happly, hdecode, hsame⟩ := Policy.patched_document .hostProcess
    wellFormed_agnhostDocument ⟨[], rfl⟩ rfl rfl decode_agnhostDocument patch_agnhostDocument
  exact ⟨_, ops, D', patch_agnhostDocument, hread, happly, hdecode, hsame⟩

end PodAdmission

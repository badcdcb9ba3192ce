import PodAdmission.Proofs.Admission.Response
import PodAdmission.Proofs.Patch.Replay
import PodAdmission.Session

/-!
# The patch of a response

A response carries the difference of the texts of a pod before and after the change. Read back and
carried out on the one text, it gives the other, for every pod and both policies, provided that the
text of the changed pod can be read at all.

It cannot if a map of the pod has more than one key, the first of which is the one that marks a
document in a text. Such a pod is rejected.
-/

namespace PodAdmission

open Json Reader Pod

variable {P : Policy} {request : AdmissionRequest} {text : Bytes} {p : Pod}

/-- The response admits the pod, carries a patch just if the policy changes what is written of the
pod, and the text of the patch is that of operations that turn the one document into the other. -/
structure Policy.Replays (P : Policy) (p : Pod) (response : AdmissionResponse) : Prop where
  allowed : response.allowed = true
  carries : response.patch.isSome = true ↔ P.selects p = true ∧
    ∃ a b, Json.read p.encode = .ok a ∧ Json.read (P.mutate p).encode = .ok b ∧ a.same b = false
  replays : ∀ bytes, response.patch = some bytes →
    ∃ a b ops, Json.read p.encode = .ok a ∧ Json.read (P.mutate p).encode = .ok b ∧
      Patch.read bytes = .ok ops ∧ ops.apply a = .ok b

/-- A pod is admitted as it is, as it should be, if the policy changes nothing that is written. -/
lemma Policy.replays_allow (uid : String)
    (h : P.selects p = true → ∀ a b, Json.read p.encode = .ok a →
      Json.read (P.mutate p).encode = .ok b → a.same b = true) :
    P.Replays p (.allow uid) := by
  constructor
  · rfl
  · constructor
    · intro hsome
      cases hsome
    · rintro ⟨hselects, a, b, ha, hb, hdiffers⟩
      rw [h hselects a b ha hb] at hdiffers
      cases hdiffers
  · intro bytes hbytes
    cases hbytes

/-- A pod that is selected is answered as it should be, if the changed pod comes back from its
text. -/
lemma Policy.Builtin.replays_selected (hP : P.Builtin) (hp : p.Sound)
    (hselects : P.selects p = true) (hrecovers : (P.mutate p).toJson.Recovers maxDepth)
    (uid : String) : P.Replays p (Decision.ofPod Codec.json P uid p).response := by
  obtain ⟨patch, touched, hchange, -⟩ := hP.change hp hselects
  obtain ⟨a, b, ha, hb, hrun, hdiff, heq⟩ :=
    Decision.ofPod_selected uid hp hselects hchange hrecovers
  have hnil : patch = [] ↔ a.same b = true := by
    rw [← hdiff]
    exact Patch.diff_eq_nil_iff (wellFormed_of_read ha) (wellFormed_of_read hb)
  rw [heq]
  by_cases hpatch : patch = []
  · rw [hpatch, Decision.ofPatch_nil]
    apply Policy.replays_allow
    intro _ a' b' ha' hb'
    obtain rfl := Except.ok.inj (ha.symm.trans ha')
    obtain rfl := Except.ok.inj (hb.symm.trans hb')
    exact hnil.1 hpatch
  · rw [Decision.ofPatch_ne_nil P uid p hpatch]
    constructor
    · rfl
    · constructor
      · intro _
        exact ⟨hselects, a, b, ha, hb, Bool.eq_false_iff.2 (mt hnil.2 hpatch)⟩
      · intro _
        rfl
    · intro bytes hbytes
      obtain rfl := Option.some.inj hbytes
      exact ⟨a, b, patch, ha, hb, Patch.read_write hchange.plain, Patch.apply_eq_ok_iff.2 hrun⟩

/-- The patch of a response turns the pod into the changed pod, just if the changed pod comes back
from its text. If it does not, the pod is rejected. -/
theorem Policy.replays_iff_recovers (hP : P.Builtin) (hpod : request.resource.isPod = true)
    (hobject : request.objectText? = some text) (hdecode : Pod.decode text = .ok p) :
    (P.Replays p (P.respond request) ↔
      (P.selects p = true → (P.mutate p).toJson.Recovers maxDepth)) ∧
    (¬ P.Replays p (P.respond request) → (P.respond request).allowed = false ∧
      (P.respond request).reason? = some Reason.internalError.name ∧
      (P.respond request).patch = none) := by
  have hp := sound_of_decode hdecode
  rw [hP.respond_eq hpod hobject, Decision.ofObject_decoded hdecode]
  cases hselects : P.selects p with
  | false =>
    rw [Decision.ofPod_unselected Codec.json request.uid hselects]
    have hreplays : P.Replays p (.allow request.uid) := by
      apply Policy.replays_allow
      intro h
      rw [hselects] at h
      cases h
    exact ⟨⟨fun _ h => absurd h Bool.false_ne_true, fun _ => hreplays⟩, fun h => absurd hreplays h⟩
  | true =>
    by_cases hrecovers : (P.mutate p).toJson.Recovers maxDepth
    · have hreplays := hP.replays_selected hp hselects hrecovers request.uid
      exact ⟨⟨fun _ _ => hrecovers, fun _ => hreplays⟩, fun h => absurd hreplays h⟩
    · obtain ⟨patch, touched, hchange, -⟩ := hP.change hp hselects
      obtain ⟨why, heq⟩ :=
        Decision.ofPod_unrecovered request.uid hselects hchange hrecovers
      rw [heq]
      constructor
      · constructor
        · intro h
          cases h.allowed
        · intro h
          exact absurd (h rfl) hrecovers
      · intro _
        exact ⟨rfl, rfl, rfl⟩

/-! ### Two pods -/

/-- A host-process pod with a container of an agnhost image. -/
def agnhostDocument : Json :=
  .object [("metadata", .object []),
    ("spec", .object [
      ("containers", .list [.object [("image", .text "agnhost"), ("name", .text "web")]]),
      ("hostNetwork", .bool true),
      ("securityContext", .object [("windowsOptions", .object [("hostProcess", .bool true)])])])]

/-- The pod in `agnhostDocument`. -/
def agnhostPod : Pod :=
  ⟨[("metadata", .record []),
    ("spec", .record [
      ("containers", .list [.record [("image", .text "agnhost"), ("name", .text "web")]]),
      ("hostNetwork", .flag true),
      ("securityContext", .record [("windowsOptions", .record [("hostProcess", .flag true)])])])]⟩

lemma wellFormed_agnhostDocument : agnhostDocument.WellFormed := by
  simp +decide [agnhostDocument, Entries.Ascending]

lemma decode_agnhostDocument : Pod.decode agnhostDocument.write = .ok agnhostPod :=
  (decode_write_eq_ok_iff wellFormed_agnhostDocument).2 rfl

lemma recovers_agnhostPod : (HostProcess.policy.mutate agnhostPod).toJson.Recovers maxDepth :=
  recovers_iff.2 (by decide +kernel)

/-- The patch of a wrapped container turns the pod into the changed pod. -/
theorem Policy.replays_agnhostPod : HostProcess.policy.Replays agnhostPod
    (HostProcess.policy.respond (Session.request agnhostDocument .create)) := by
  have hobject : (Session.request agnhostDocument .create).objectText? =
      some agnhostDocument.write := objectText?_write rfl
  exact (Policy.replays_iff_recovers .hostProcess rfl hobject decode_agnhostDocument).1.2
    fun _ => recovers_agnhostPod

/-- A pod with a volume one of whose attributes has the key that marks a document in a text. -/
def reservedDocument : Json :=
  .object [("metadata", .object []),
    ("spec", .object [
      ("containers", .list [.object [("image", .text "pause"), ("name", .text "main")]]),
      ("volumes", .list [.object [
        ("csi", .object [("driver", .text "files"),
          ("volumeAttributes", .object [(embeddingKey, .text "x"), ("share", .text "web")])]),
        ("name", .text "data")]])])]

/-- The pod in `reservedDocument`. -/
def reservedPod : Pod :=
  ⟨[("metadata", .record []),
    ("spec", .record [
      ("containers", .list [.record [("image", .text "pause"), ("name", .text "main")]]),
      ("volumes", .list [.record [
        ("csi", .record [("driver", .text "files"),
          ("volumeAttributes", .record [(embeddingKey, .text "x"), ("share", .text "web")])]),
        ("name", .text "data")]])])]⟩

lemma wellFormed_reservedDocument : reservedDocument.WellFormed := by
  simp +decide [reservedDocument, Entries.Ascending]

lemma decode_reservedDocument : Pod.decode reservedDocument.write = .ok reservedPod :=
  (decode_write_eq_ok_iff wellFormed_reservedDocument).2 rfl

lemma not_recovers_reservedPod :
    ¬ ((RuntimeClass.policy RuntimeClass.defaultName).mutate reservedPod).toJson.Recovers
      maxDepth := by
  rw [recovers_iff]
  decide +kernel

/-- The pod with the reserved attribute is rejected, though it could be changed. -/
lemma respond_reservedDocument : ∃ why,
    (RuntimeClass.policy RuntimeClass.defaultName).respond
      (Session.request reservedDocument .create) = .reject "session" .internalError why := by
  have hobject : (Session.request reservedDocument .create).objectText? =
      some reservedDocument.write := objectText?_write rfl
  rw [Policy.Builtin.respond_eq (.runtimeClass _) rfl hobject,
    Decision.ofObject_decoded decode_reservedDocument]
  exact Decision.ofPod_unrecovered "session" (by decide +kernel)
    (RuntimeClass.change_mutate (sound_of_decode decode_reservedDocument) _)
    not_recovers_reservedPod

/-- The pod with the reserved attribute gets no patch that turns it into the changed pod. -/
theorem Policy.not_replays_reservedPod :
    ¬ (RuntimeClass.policy RuntimeClass.defaultName).Replays reservedPod
      ((RuntimeClass.policy RuntimeClass.defaultName).respond
        (Session.request reservedDocument .create)) := by
  intro h
  obtain ⟨why, heq⟩ := respond_reservedDocument
  rw [heq] at h
  cases h.allowed

end PodAdmission

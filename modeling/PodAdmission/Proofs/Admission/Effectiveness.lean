import PodAdmission.Proofs.Admission.Rejection
import PodAdmission.Proofs.Admission.Table
import PodAdmission.Proofs.Policy.Effect

/-!
# When a response has a patch

A pod that the policy for host processes selects has something to be changed, and nothing more once
it is changed, so that no patch of that policy is empty. The one for runtime classes also selects
pods that have all it sets. These are admitted without a patch, and the name that was set first
stays.

A pod that does not come back from its text once it is changed gets no patch in either case.
-/

namespace PodAdmission

open Ascii Json Reader Pod

variable {codec : Codec} {P : Policy} {request : AdmissionRequest} {p : Pod} {patch : Patch}
  {touched : Pointer → Prop}

namespace Decision

/-! ### The warning of an empty patch -/

/-- The log says that a selected pod is admitted without a patch. -/
def WarnsOfEmptyPatch (decision : Decision) : Prop :=
  "Mutation produced an empty patch, allowing without patch" ∈ decision.events.map Event.message

lemma warns_ofPatch_iff {uid : String} :
    (ofPatch P uid p patch).WarnsOfEmptyPatch ↔ patch = [] := by
  cases patch <;> simp [ofPatch, WarnsOfEmptyPatch]

lemma warns_ofPod_iff {uid : String} : (ofPod codec P uid p).WarnsOfEmptyPatch ↔
    P.selects p = true ∧ patchFor codec p (P.mutate p) = .ok [] := by
  rw [ofPod]
  split_ifs with hselects
  · cases hpatch : patchFor codec p (P.mutate p) with
    | ok patch => simp only [warns_ofPatch_iff, hselects, true_and, Except.ok.injEq]
    | error failure => simp [WarnsOfEmptyPatch]
  · simp [WarnsOfEmptyPatch, hselects]

/-- The warning is about a pod that is selected and nothing of which would be changed. -/
lemma warns_ofRequest_iff : (ofRequest codec P request).WarnsOfEmptyPatch ↔
    ∃ p, Selects codec P request p ∧ patchFor codec p (P.mutate p) = .ok [] := by
  constructor
  · intro h
    rw [ofRequest] at h
    cases hhandled : P.handles request.resource with
    | false => simp [hhandled, WarnsOfEmptyPatch] at h
    | true =>
      cases htext : request.objectText? with
      | none => simp [hhandled, htext, WarnsOfEmptyPatch] at h
      | some text =>
        obtain ⟨hobject, hgiven⟩ := objectText?_eq_some_iff.1 htext
        simp only [hhandled, htext, ofObject, if_true] at h
        cases hdecode : codec.decode text with
        | error failure => simp [hdecode, WarnsOfEmptyPatch] at h
        | ok p =>
          simp only [hdecode, warns_ofPod_iff] at h
          exact ⟨p, ⟨⟨text, ⟨hhandled, hobject, hgiven⟩, hdecode⟩, h.1⟩, h.2⟩
  · rintro ⟨p, hselects, hpatch⟩
    obtain ⟨text, hobject, hdecode⟩ := hselects.decoded
    rw [ofRequest_decoded hobject hdecode, warns_ofPod_iff]
    exact ⟨hselects.selected, hpatch⟩

end Decision

open Decision

/-! ### Selected pods -/

/-- The response admits the pod with a patch that has an operation. -/
structure AdmissionResponse.Patches (response : AdmissionResponse) : Prop where
  allowed : response.allowed = true
  operations : ∃ bytes ops, response.patch = some bytes ∧ Patch.read bytes = .ok ops ∧ ops ≠ []

/-- A pod that is submitted is selected if the policy selects it. -/
lemma Policy.Builtin.selects_of_decode (hP : P.Builtin) (hpod : request.resource.isPod = true)
    {text : Bytes} (hobject : request.object = some text) (hdecode : Pod.decode text = .ok p)
    (h : P.selects p = true) : Selects Codec.json P request p := by
  have hgiven : text ≠ nullWord := fun heq => decode_nullWord p (heq ▸ hdecode)
  exact ⟨⟨text, ⟨(hP.handles _).trans hpod, hobject, hgiven⟩, decode_json_eq_ok_iff.2 hdecode⟩, h⟩

lemma Decision.Selects.sound (h : Selects Codec.json P request p) : p.Sound := by
  obtain ⟨text, -, hdecode⟩ := h.decoded
  exact sound_of_decode (decode_json_eq_ok_iff.1 hdecode)

lemma Policy.respond_of_selects (h : Selects Codec.json P request p) :
    P.respond request = (ofPod Codec.json P request.uid p).response := by
  obtain ⟨text, hobject, hdecode⟩ := h.decoded
  rw [Policy.respond, ofRequest_decoded hobject hdecode]

section Change

variable (h : Selects Codec.json P request p) (hchange : Change p (P.mutate p) patch touched)

include h hchange

/-- A pod that is selected is admitted with the patch of the change, if it comes back from its text
once it is changed. -/
lemma Policy.respond_recovered (hrecovers : (P.mutate p).toJson.Recovers maxDepth) :
    P.respond request = (ofPatch P request.uid p patch).response := by
  obtain ⟨a, b, -, -, -, -, heq⟩ :=
    ofPod_selected request.uid h.sound h.selected hchange hrecovers
  rw [Policy.respond_of_selects h, heq]

/-- If it does not come back, it is rejected. -/
lemma Policy.respond_unrecovered (hrecovers : ¬ (P.mutate p).toJson.Recovers maxDepth) :
    ∃ why, P.respond request = .reject request.uid .internalError why := by
  rw [Policy.respond_of_selects h]
  exact ofPod_unrecovered request.uid h.selected hchange hrecovers

/-- There is no patch if there is nothing to do, or if the changed pod does not come back. -/
lemma Policy.patch_eq_none_iff : (P.respond request).patch = none ↔
    patch = [] ∨ ¬ (P.mutate p).toJson.Recovers maxDepth := by
  by_cases hrecovers : (P.mutate p).toJson.Recovers maxDepth
  · rw [Policy.respond_recovered h hchange hrecovers]
    cases patch <;> simp [ofPatch, AdmissionResponse.allow, AdmissionResponse.withPatch, hrecovers]
  · obtain ⟨why, heq⟩ := Policy.respond_unrecovered h hchange hrecovers
    rw [heq]
    exact iff_of_true rfl (.inr hrecovers)

/-- If there is something to do, there is a patch just if the changed pod comes back. -/
lemma Policy.patches_iff (hpatch : patch ≠ []) : (P.respond request).Patches ↔
    (P.mutate p).toJson.Recovers maxDepth := by
  constructor
  · rintro ⟨-, bytes, ops, hbytes, -⟩
    by_contra hrecovers
    cases ((Policy.patch_eq_none_iff h hchange).2 (.inr hrecovers)).symm.trans hbytes
  · intro hrecovers
    rw [Policy.respond_recovered h hchange hrecovers, ofPatch_ne_nil P request.uid p hpatch]
    exact ⟨rfl, patch.write, patch, rfl, Patch.read_write hchange.plain, hpatch⟩

end Change

/-! ### Host processes -/

/-- The policy for host processes warns of no empty patch. -/
lemma HostProcess.not_warns (request : AdmissionRequest) :
    ¬ (ofRequest Codec.json policy request).WarnsOfEmptyPatch := by
  rw [warns_ofRequest_iff]
  rintro ⟨p, hselects, hempty⟩
  have hruns := any_of_selects hselects.selected
  have hchange := change_mutate hselects.sound hruns
  by_cases hrecovers : (policy.mutate p).toJson.Recovers maxDepth
  · obtain ⟨a, b, -, -, -, -, hpatch⟩ := patchFor_recovered hselects.sound hchange hrecovers
    exact patch_ne_nil hselects.sound hruns (Except.ok.inj (hpatch.symm.trans hempty))
  · obtain ⟨why, hpatch⟩ := patchFor_unrecovered hchange hrecovers
    cases hpatch.symm.trans hempty

/-- No container of a changed pod runs the program, so the policy does not select it again and would
do nothing to it. A pod that is selected is changed in what is written of it, and admitted with a
patch that says so just if the changed pod comes back from its text. -/
theorem HostProcess.patches_iff_recovers (hp : p.Conforms) :
    (∀ c ∈ (policy.mutate p).containers, runsProgram c = false) ∧
    policy.selects (policy.mutate p) = false ∧
    policy.mutate (policy.mutate p) = policy.mutate p ∧
    (policy.selects p = true → p.toJson.same (policy.mutate p).toJson = false) ∧
    ∀ request, ¬ (ofRequest Codec.json policy request).WarnsOfEmptyPatch ∧
      (Selects Codec.json policy request p →
        ((policy.respond request).Patches ↔ (policy.mutate p).toJson.Recovers maxDepth) ∧
        (¬ (policy.respond request).Patches →
          ∃ why, policy.respond request = .reject request.uid .internalError why)) := by
  refine ⟨fun c hc => ?_, selects_mutate p, mutate_mutate p, fun hselects => ?_,
    fun request => ⟨not_warns request, fun h => ?_⟩⟩
  · exact Bool.eq_false_iff.2 (List.any_eq_false.1 (any_mutate p) c hc)
  · exact same_mutate hp (any_of_selects hselects)
  · have hruns := any_of_selects h.selected
    have hchange : Change p (policy.mutate p) _ _ := change_mutate h.sound hruns
    have hiff := Policy.patches_iff h hchange (patch_ne_nil h.sound hruns)
    exact ⟨hiff, fun hnot => Policy.respond_unrecovered h hchange (mt hiff.2 hnot)⟩

/-- The pod with an agnhost image is admitted with a patch. -/
theorem HostProcess.patches_agnhostPod : agnhostPod.Conforms ∧
    Selects Codec.json policy (Session.request agnhostDocument .create) agnhostPod ∧
    (policy.respond (Session.request agnhostDocument .create)).Patches := by
  have hp := (sound_of_decode decode_agnhostDocument).conforms
  have hselects : Selects Codec.json policy (Session.request agnhostDocument .create)
      agnhostPod :=
    Policy.Builtin.hostProcess.selects_of_decode rfl rfl decode_agnhostDocument
      (by decide +kernel)
  obtain ⟨-, -, -, -, hrequests⟩ := patches_iff_recovers hp
  exact ⟨hp, hselects, ((hrequests _).2 hselects).1.2 recovers_agnhostPod⟩

/-- The document of a pod of an agnhost image with an annotation under the key that marks a document
in a text. -/
def notedHostDocument : Json :=
  .object [("metadata", .object [("annotations", .object [(embeddingKey, .text "x")])]),
    ("spec", .object [
      ("containers", .list [.object [("image", .text "agnhost"), ("name", .text "web")]]),
      ("hostNetwork", .bool true),
      ("securityContext", .object [("windowsOptions", .object [("hostProcess", .bool true)])])])]

/-- The pod in `notedHostDocument`. -/
def notedHostPod : Pod :=
  ⟨[("metadata", .record [("annotations", .record [(embeddingKey, .text "x")])]),
    ("spec", .record [
      ("containers", .list [.record [("image", .text "agnhost"), ("name", .text "web")]]),
      ("hostNetwork", .flag true),
      ("securityContext", .record [("windowsOptions", .record [("hostProcess", .flag true)])])])]⟩

lemma decode_notedHostDocument : Pod.decode notedHostDocument.write = .ok notedHostPod :=
  (decode_write_eq_ok_iff (by simp +decide [notedHostDocument, Entries.Ascending])).2 rfl

/-- With the annotation it gets no patch, though it is selected. -/
theorem HostProcess.not_patches_notedHostPod : notedHostPod.Conforms ∧
    Selects Codec.json policy (Session.request notedHostDocument .create) notedHostPod ∧
    ¬ (policy.respond (Session.request notedHostDocument .create)).Patches := by
  have hp := sound_of_decode decode_notedHostDocument
  have hselects : Selects Codec.json policy (Session.request notedHostDocument .create)
      notedHostPod :=
    Policy.Builtin.hostProcess.selects_of_decode rfl rfl decode_notedHostDocument
      (by decide +kernel)
  have hruns : notedHostPod.containers.any runsProgram = true :=
    any_of_selects hselects.selected
  refine ⟨hp.conforms, hselects, fun hpatches => ?_⟩
  have hrecovers := (Policy.patches_iff hselects (change_mutate hp hruns)
    (patch_ne_nil hp hruns)).1 hpatches
  rw [recovers_iff] at hrecovers
  exact absurd hrecovers (by decide +kernel)

/-! ### Runtime classes -/

/-- A changed pod has the annotation and, if there was none, the runtime class; all else is as it
was. Changing it again does nothing, under whatever name, and is called for if it was before. A
pod that is selected gets no patch just if it has all of that already, or if it does not come back
from its text once it is changed. -/
theorem RuntimeClass.assigns_once (hp : p.Conforms) (name name' : String) :
    (∀ q, q.Conforms ∧ Effect name p q ↔ q = (policy name).mutate p) ∧
    (policy name').mutate ((policy name).mutate p) = (policy name).mutate p ∧
    (policy name').selects ((policy name).mutate p) = (policy name').selects p ∧
    ∀ request, Selects Codec.json (policy name) request p →
      (((policy name).respond request).patch = none ↔
        Marked p ∨ ¬ ((policy name).mutate p).toJson.Recovers maxDepth) ∧
      (((policy name).respond request).allowed = true ↔
        ((policy name).mutate p).toJson.Recovers maxDepth) ∧
      (((policy name).respond request).allowed = false →
        ∃ why, (policy name).respond request = .reject request.uid .internalError why) := by
  refine ⟨fun q => effect_iff hp, mutate_mutate name name' p, selects_mutate name p,
    fun request h => ?_⟩
  have hchange : Change p ((policy name).mutate p) _ _ := change_mutate h.sound name
  refine ⟨?_, ?_⟩
  · rw [Policy.patch_eq_none_iff h hchange, patch_eq_nil_iff h.sound]
  · by_cases hrecovers : ((policy name).mutate p).toJson.Recovers maxDepth
    · have hallowed : ((policy name).respond request).allowed = true := by
        rw [Policy.respond_recovered h hchange hrecovers]
        exact (admitted_ofPatch _ _ _ _).1
      exact ⟨iff_of_true hallowed hrecovers, fun hnot => by cases hallowed.symm.trans hnot⟩
    · obtain ⟨why, heq⟩ := Policy.respond_unrecovered h hchange hrecovers
      exact ⟨iff_of_false (by rw [heq]; exact Bool.false_ne_true) hrecovers, fun _ => ⟨why, heq⟩⟩

/-- The document of a pod that has the annotation and an empty runtime class. -/
def markedDocument : Json :=
  .object [("metadata", .object [
      ("annotations", .object [(RuntimeClass.annotationKey, .text "mutated")])]),
    ("spec", .object [("containers", .list []), ("runtimeClassName", .text "")])]

/-- The pod in `markedDocument`. -/
def markedPod : Pod :=
  ⟨[("metadata", .record [
      ("annotations", .record [(RuntimeClass.annotationKey, .text "mutated")])]),
    ("spec", .record [("containers", .list []), ("runtimeClassName", .text "")])]⟩

lemma decode_markedDocument : Pod.decode markedDocument.write = .ok markedPod :=
  (decode_write_eq_ok_iff (by simp +decide [markedDocument, Entries.Ascending])).2 rfl

/-- An empty runtime class is left as it is. -/
theorem RuntimeClass.assigns_once_markedPod : markedPod.Conforms ∧
    Selects Codec.json (policy "kata") (Session.request markedDocument .create) markedPod ∧
    ((policy "kata").respond (Session.request markedDocument .create)).patch = none ∧
    ((policy "kata").respond (Session.request markedDocument .create)).allowed = true := by
  have hp := (sound_of_decode decode_markedDocument).conforms
  have hselects : Selects Codec.json (policy "kata") (Session.request markedDocument .create)
      markedPod :=
    (Policy.Builtin.runtimeClass "kata").selects_of_decode rfl rfl decode_markedDocument
      (by decide +kernel)
  have hmarked : Marked markedPod := by
    refine ⟨rfl, fun s hs => ?_⟩
    obtain rfl := Option.some.inj hs
    rfl
  have hrecovers : ((policy "kata").mutate markedPod).toJson.Recovers maxDepth :=
    recovers_iff.2 (by decide +kernel)
  obtain ⟨-, -, -, hrequests⟩ := assigns_once hp "kata" "gvisor"
  obtain ⟨hpatch, hallowed, -⟩ := hrequests _ hselects
  exact ⟨hp, hselects, hpatch.2 (.inl hmarked), hallowed.2 hrecovers⟩

/-- The pod with the reserved attribute gets no patch, though it has neither the annotation nor a
runtime class. -/
theorem RuntimeClass.unpatched_reservedPod : reservedPod.Conforms ∧
    Selects Codec.json (policy defaultName) (Session.request reservedDocument .create)
      reservedPod ∧
    ¬ Marked reservedPod ∧
    ((policy defaultName).respond (Session.request reservedDocument .create)).patch = none := by
  refine ⟨(sound_of_decode decode_reservedDocument).conforms,
    (Policy.Builtin.runtimeClass defaultName).selects_of_decode rfl rfl decode_reservedDocument
      (by decide +kernel), fun hmarked => ?_, ?_⟩
  · cases hmarked.note
  · obtain ⟨why, heq⟩ := respond_reservedDocument
    rw [heq]
    rfl

end PodAdmission

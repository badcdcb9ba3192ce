import PodAdmission.Proofs.Admission.Presentation
import PodAdmission.Proofs.Admission.Soundness

/-!
# Rejections

A webhook should reject a request just if it is about a pod and submits none, and put that down to
the request. It does so for every request, with one exception: a pod that the policy selects and
that, once it is changed, does not come back from its text. Such a pod is rejected too, and the
webhook takes that upon itself.
-/

namespace PodAdmission

open Ascii Json Reader Pod

variable {P : Policy} {request : AdmissionRequest} {text : Bytes} {p : Pod}

/-- The request submits no pod: there is no object, or it is `null`, or it is no pod. -/
inductive AdmissionRequest.Podless (request : AdmissionRequest) : Prop where
  | missing (h : request.object = none) : Podless request
  | null (h : request.object = some nullWord) : Podless request
  | undecoded {text : Bytes} {e : JsonError} (hobject : request.object = some text)
      (h : Pod.decode text = .error e) : Podless request

/-- The webhook rejects the request just if it is about a pod and submits none, and puts every
rejection down to the request and nothing to itself. -/
structure Policy.Blameless (P : Policy) (request : AdmissionRequest) : Prop where
  reason : ∀ why, (P.respond request).reason? = some why → why = Reason.badRequest.name
  blamed : (P.respond request).allowed = false →
    (P.respond request).reason? = some Reason.badRequest.name
  rejected : (P.respond request).allowed = false ↔
    request.resource.isPod = true ∧ request.Podless

/-! ### Requests without a pod -/

lemma AdmissionRequest.not_podless (hobject : request.object = some text)
    (hdecode : Pod.decode text = .ok p) : ¬ request.Podless := by
  intro h
  cases h with
  | missing h => cases hobject.symm.trans h
  | null h =>
    obtain rfl := Option.some.inj (hobject.symm.trans h)
    exact decode_nullWord p hdecode
  | undecoded hobject' h =>
    obtain rfl := Option.some.inj (hobject.symm.trans hobject')
    cases hdecode.symm.trans h

/-- A request is without a pod or submits one. -/
lemma AdmissionRequest.podless_or (request : AdmissionRequest) :
    request.Podless ∨ ∃ text p, request.object = some text ∧ Pod.decode text = .ok p := by
  cases hobject : request.object with
  | none => exact .inl (.missing hobject)
  | some text =>
    cases hdecode : Pod.decode text with
    | error e => exact .inl (.undecoded hobject hdecode)
    | ok p => exact .inr ⟨text, p, rfl, hdecode⟩

lemma AdmissionRequest.with_object (hobject : request.object = some text) :
    { request with object := some text } = request := by
  rw [← hobject]

lemma Policy.Builtin.respond_unhandled (hP : P.Builtin) (h : request.resource.isPod = false) :
    P.respond request = .allow request.uid :=
  Decision.ofRequest_unhandled Codec.json ((hP.handles _).trans h)

lemma Policy.Builtin.respond_decoded (hP : P.Builtin) (hpod : request.resource.isPod = true)
    (hobject : request.object = some text) (hdecode : Pod.decode text = .ok p) :
    P.respond request = (Decision.ofPod Codec.json P request.uid p).response := by
  rw [← AdmissionRequest.with_object hobject]
  exact PodAdmission.respond_decoded ((hP.handles _).trans hpod) hdecode

/-- A request about a pod that submits none is rejected as malformed. -/
lemma Policy.Builtin.respond_podless (hP : P.Builtin) (hpod : request.resource.isPod = true)
    (h : request.Podless) :
    ∃ why, P.respond request = .reject request.uid .badRequest why := by
  have hhandled := (hP.handles request.resource).trans hpod
  cases h with
  | missing h => exact ⟨_, Decision.ofRequest_missing Codec.json hhandled (.inl h)⟩
  | null h => exact ⟨_, Decision.ofRequest_missing Codec.json hhandled (.inr h)⟩
  | @undecoded text e hobject h =>
    rw [← AdmissionRequest.with_object hobject]
    refine respond_undecoded hhandled fun p hp => ?_
    cases hp.symm.trans h

/-! ### Verdicts -/

/-- A pod is admitted without a reason, with or without a patch. -/
lemma Decision.admitted_ofPatch (P : Policy) (uid : String) (p : Pod) (patch : Patch) :
    (ofPatch P uid p patch).response.allowed = true ∧
      (ofPatch P uid p patch).response.reason? = none := by
  cases patch with
  | nil => exact ⟨rfl, rfl⟩
  | cons op ops => exact ⟨rfl, rfl⟩

/-- A pod is admitted if it comes back from its text in case it has to be changed. -/
lemma Policy.Builtin.admitted_decoded (hP : P.Builtin) (hpod : request.resource.isPod = true)
    (hobject : request.object = some text) (hdecode : Pod.decode text = .ok p)
    (h : P.selects p = true → (P.mutate p).toJson.Recovers maxDepth) :
    (P.respond request).allowed = true ∧ (P.respond request).reason? = none := by
  rw [hP.respond_decoded hpod hobject hdecode]
  cases hselects : P.selects p with
  | false =>
    rw [Decision.ofPod_unselected Codec.json request.uid hselects]
    exact ⟨rfl, rfl⟩
  | true =>
    have hp := sound_of_decode hdecode
    obtain ⟨patch, touched, hchange, -⟩ := hP.change hp hselects
    obtain ⟨a, b, -, -, -, -, heq⟩ :=
      Decision.ofPod_selected request.uid hp hselects hchange (h hselects)
    rw [heq]
    exact Decision.admitted_ofPatch P request.uid p patch

/-- A pod that does not come back from its text once it is changed is rejected, and that is not
put down to the request. -/
lemma Policy.Builtin.rejected_unrecovered (hP : P.Builtin)
    (hpod : request.resource.isPod = true) (hobject : request.object = some text)
    (hdecode : Pod.decode text = .ok p) (hselects : P.selects p = true)
    (h : ¬ (P.mutate p).toJson.Recovers maxDepth) :
    ∃ why, P.respond request = .reject request.uid .internalError why := by
  rw [hP.respond_decoded hpod hobject hdecode]
  obtain ⟨patch, touched, hchange, -⟩ := hP.change (sound_of_decode hdecode) hselects
  exact Decision.ofPod_unrecovered request.uid hselects hchange h

lemma Policy.blameless_of_admitted (hadmitted : (P.respond request).allowed = true ∧
    (P.respond request).reason? = none)
    (h : ¬ (request.resource.isPod = true ∧ request.Podless)) : P.Blameless request := by
  obtain ⟨hallowed, hreason⟩ := hadmitted
  have hnot : ¬ (P.respond request).allowed = false := by simp [hallowed]
  refine ⟨fun why hwhy => ?_, fun hrejected => absurd hrejected hnot, iff_of_false hnot h⟩
  cases hreason.symm.trans hwhy

lemma Policy.Builtin.blameless_unhandled (hP : P.Builtin)
    (h : request.resource.isPod = false) : P.Blameless request := by
  refine Policy.blameless_of_admitted ?_ fun hpod => ?_
  · rw [hP.respond_unhandled h]
    exact ⟨rfl, rfl⟩
  · cases h.symm.trans hpod.1

lemma Policy.Builtin.blameless_podless (hP : P.Builtin) (hpod : request.resource.isPod = true)
    (h : request.Podless) : P.Blameless request := by
  obtain ⟨message, hreject⟩ := hP.respond_podless hpod h
  have hrejected : (P.respond request).allowed = false ∧
      (P.respond request).reason? = some Reason.badRequest.name := by
    rw [hreject]
    exact ⟨rfl, rfl⟩
  refine ⟨fun why hwhy => ?_, fun _ => hrejected.2, iff_of_true hrejected.1 ⟨hpod, h⟩⟩
  exact Option.some.inj (hwhy.symm.trans hrejected.2)

lemma Policy.not_blameless_of_internalError {uid why : String}
    (h : P.respond request = .reject uid .internalError why) : ¬ P.Blameless request := by
  intro hblameless
  have hname := hblameless.reason Reason.internalError.name (by rw [h]; rfl)
  exact absurd hname (by decide)

/-- A webhook rejects only requests about a pod that submit none, and puts that down to them, just
if the pod comes back from its text in case the policy selects and changes it. If it does not, it
is rejected with an error of the webhook's own. -/
theorem Policy.blameless_iff_recovers (hP : P.Builtin) (request : AdmissionRequest) :
    (P.Blameless request ↔ ∀ text p, request.resource.isPod = true →
      request.object = some text → Pod.decode text = .ok p → P.selects p = true →
        (P.mutate p).toJson.Recovers maxDepth) ∧
    (¬ P.Blameless request → (P.respond request).allowed = false ∧
      (P.respond request).reason? = some Reason.internalError.name ∧
      (P.respond request).patch = none) := by
  by_cases h : ∀ text p, request.resource.isPod = true → request.object = some text →
      Pod.decode text = .ok p → P.selects p = true → (P.mutate p).toJson.Recovers maxDepth
  · have hblameless : P.Blameless request := by
      cases hpod : request.resource.isPod with
      | false => exact hP.blameless_unhandled hpod
      | true =>
        rcases request.podless_or with hpodless | ⟨text, p, hobject, hdecode⟩
        · exact hP.blameless_podless hpod hpodless
        · have hadmitted := hP.admitted_decoded hpod hobject hdecode
            (h text p hpod hobject hdecode)
          refine Policy.blameless_of_admitted hadmitted fun hnone => ?_
          exact AdmissionRequest.not_podless hobject hdecode hnone.2
    exact ⟨⟨fun _ => h, fun _ => hblameless⟩, fun hnot => absurd hblameless hnot⟩
  · have hreject : ∃ why, P.respond request = .reject request.uid .internalError why := by
      push Not at h
      obtain ⟨text, p, hpod, hobject, hdecode, hselects, hrecovers⟩ := h
      exact hP.rejected_unrecovered hpod hobject hdecode hselects hrecovers
    obtain ⟨why, hreject⟩ := hreject
    have hnot := Policy.not_blameless_of_internalError hreject
    refine ⟨⟨fun hblameless => absurd hblameless hnot, fun hall => absurd hall h⟩, fun _ => ?_⟩
    rw [hreject]
    exact ⟨rfl, rfl, rfl⟩

/-- A pod with a container to wrap is admitted. -/
theorem Policy.blameless_agnhostDocument : HostProcess.policy.Builtin ∧
    HostProcess.policy.Blameless (Session.request agnhostDocument .create) := by
  refine ⟨.hostProcess, (Policy.blameless_iff_recovers .hostProcess _).1.2 ?_⟩
  intro text p _ hobject hdecode _
  obtain rfl := Option.some.inj hobject
  obtain rfl := Except.ok.inj (decode_agnhostDocument.symm.trans hdecode)
  exact recovers_agnhostPod

/-! ### A pod that is rejected -/

/-- A pod that has an annotation under the key that marks a document in a text. -/
def notedDocument : Json :=
  .object [("metadata", .object [("annotations", .object [(embeddingKey, .text "x")])])]

/-- The pod in `notedDocument`. -/
def notedPod : Pod :=
  ⟨[("metadata", .record [("annotations", .record [(embeddingKey, .text "x")])])]⟩

lemma decode_notedDocument : Pod.decode notedDocument.write = .ok notedPod :=
  (decode_write_eq_ok_iff (by simp +decide [notedDocument, Entries.Ascending])).2 rfl

lemma not_hasFree_notedPod (n : Nat) (j : Json) : ¬ notedPod.HasFree n j := by
  rw [HasFree, notedPod]
  intro h
  cases h with
  | field he h =>
    obtain rfl := List.mem_singleton.1 he
    cases h with
    | field he h =>
      obtain rfl := List.mem_singleton.1 he
      cases h with
      | field he h =>
        obtain rfl := List.mem_singleton.1 he
        cases h

/-- The pod is rejected with an error of the webhook's own, though it is a pod and holds no free
value. -/
theorem Policy.not_blameless_notedDocument :
    Pod.decode notedDocument.write = .ok notedPod ∧ (∀ n j, ¬ notedPod.HasFree n j) ∧
      ¬ (RuntimeClass.policy RuntimeClass.defaultName).Blameless
        (Session.request notedDocument .create) := by
  refine ⟨decode_notedDocument, not_hasFree_notedPod, ?_⟩
  have hrecovers : ¬ ((RuntimeClass.policy RuntimeClass.defaultName).mutate
      notedPod).toJson.Recovers maxDepth := by
    rw [recovers_iff]
    decide +kernel
  have hreject : ∃ why, (RuntimeClass.policy RuntimeClass.defaultName).respond
      (Session.request notedDocument .create) =
        .reject (Session.request notedDocument .create).uid .internalError why :=
    Policy.Builtin.rejected_unrecovered (.runtimeClass RuntimeClass.defaultName) rfl rfl
      decode_notedDocument (by decide +kernel) hrecovers
  obtain ⟨why, hreject⟩ := hreject
  exact Policy.not_blameless_of_internalError hreject

end PodAdmission

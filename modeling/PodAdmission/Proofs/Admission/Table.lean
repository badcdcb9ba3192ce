import Mathlib.Tactic.Common
import PodAdmission.Policy.RuntimeClass
import PodAdmission.Session

/-!
# The decision table

Neither the codec nor the policy has to be one of the webhooks' own: the codec may fail, or write
what is no JSON, and the policy may select and change what it likes. `Decision.Row` is the table of
what a request is answered then, and `AdmissionReview.answer_follows_table` says that a review is
answered by the row that stands, that the response makes sense whichever row it is, and what the
answer does not depend on.

Who is at fault when the codec fails follows from the kind of the failure and not from the stage at
which it comes, so both stages have two rows. `Codec.json` needs only one of each: it puts every
failure to decode down to the object and does not fail to encode.
-/

namespace PodAdmission

open Ascii

namespace Decision

variable {codec : Codec} {P : Policy} {request : AdmissionRequest} {response : AdmissionResponse}
  {text : Bytes} {p : Pod}

/-! ### Rows -/

/-- The policy is about the resource, and there is an object with this text. -/
structure Submits (P : Policy) (request : AdmissionRequest) (text : Bytes) : Prop where
  handled : P.handles request.resource = true
  object : request.object = some text
  given : text ≠ nullWord

/-- The object is a pod that the policy selects. -/
structure Selects (codec : Codec) (P : Policy) (request : AdmissionRequest) (p : Pod) : Prop where
  decoded : ∃ text, Submits P request text ∧ codec.decode text = .ok p
  selected : P.selects p = true

/-- The pod before and after the change is written as these texts. -/
structure Encodes (codec : Codec) (P : Policy) (p : Pod) (before after : Bytes) : Prop where
  submitted : codec.encode .submitted p = .ok before
  changed : codec.encode .changed (P.mutate p) = .ok after

/-- The pod before or after the change cannot be written; the one before is written first. -/
inductive Unencoded (codec : Codec) (P : Policy) (p : Pod) : Failure → Prop where
  | submitted {failure : Failure} (h : codec.encode .submitted p = .error failure) :
      Unencoded codec P p failure
  | changed {before : Bytes} {failure : Failure} (hbefore : codec.encode .submitted p = .ok before)
      (h : codec.encode .changed (P.mutate p) = .error failure) : Unencoded codec P p failure

/-- What a request is answered, and when. A failure of the codec is put down to the request if it is
of the kind that says that the object is no pod, at whichever stage it comes. -/
inductive Row (codec : Codec) (P : Policy) (request : AdmissionRequest) :
    AdmissionResponse → Prop where
  | unhandled (h : P.handles request.resource = false) :
      Row codec P request (.allow request.uid)
  | missing (hhandled : P.handles request.resource = true)
      (h : request.object = none ∨ request.object = some nullWord) :
      Row codec P request
        (.reject request.uid .badRequest "no object provided in admission request")
  | undecoded {text : Bytes} {failure : Failure} (hobject : Submits P request text)
      (h : codec.decode text = .error failure) (hkind : failure.isBadRequest = true) :
      Row codec P request (.reject request.uid .badRequest failure.message)
  /-- The codec does not put a failure to decode down to the object. -/
  | undecodedOtherwise {text : Bytes} {failure : Failure} (hobject : Submits P request text)
      (h : codec.decode text = .error failure) (hkind : failure.isBadRequest = false) :
      Row codec P request (.reject request.uid .internalError failure.message)
  | unselected {text : Bytes} {p : Pod} (hobject : Submits P request text)
      (hdecode : codec.decode text = .ok p) (h : P.selects p = false) :
      Row codec P request (.allow request.uid)
  | unencoded {p : Pod} {failure : Failure} (hselects : Selects codec P request p)
      (h : Unencoded codec P p failure) (hkind : failure.isBadRequest = false) :
      Row codec P request (.reject request.uid .internalError failure.message)
  /-- The codec puts a failure to encode down to the object. -/
  | unencodedOtherwise {p : Pod} {failure : Failure} (hselects : Selects codec P request p)
      (h : Unencoded codec P p failure) (hkind : failure.isBadRequest = true) :
      Row codec P request (.reject request.uid .badRequest failure.message)
  | unread {p : Pod} {before after : Bytes} {e : JsonError}
      (hselects : Selects codec P request p) (hencodes : Encodes codec P p before after)
      (h : Json.read before = .error e) :
      Row codec P request (.reject request.uid .internalError
        (Failure.patch ("original object is not JSON: " ++ e.message)).message)
  | unreadChange {p : Pod} {before after : Bytes} {old : Json} {e : JsonError}
      (hselects : Selects codec P request p) (hencodes : Encodes codec P p before after)
      (hold : Json.read before = .ok old) (h : Json.read after = .error e) :
      Row codec P request (.reject request.uid .internalError
        (Failure.patch ("mutated object is not JSON: " ++ e.message)).message)
  | unchanged {p : Pod} {before after : Bytes} {old new : Json}
      (hselects : Selects codec P request p) (hencodes : Encodes codec P p before after)
      (hold : Json.read before = .ok old) (hnew : Json.read after = .ok new)
      (h : Patch.between old new = []) :
      Row codec P request (.allow request.uid)
  | changed {p : Pod} {before after : Bytes} {old new : Json}
      (hselects : Selects codec P request p) (hencodes : Encodes codec P p before after)
      (hold : Json.read before = .ok old) (hnew : Json.read after = .ok new)
      (h : Patch.between old new ≠ []) :
      Row codec P request
        ((AdmissionResponse.allow request.uid).withPatch (Patch.between old new).write)

/-! ### Stages -/

lemma objectText?_eq_none_iff :
    request.objectText? = none ↔ request.object = none ∨ request.object = some nullWord := by
  rw [AdmissionRequest.objectText?, Option.filter_eq_none_iff]
  cases request.object with
  | none => simp
  | some text => simp

lemma objectText?_eq_some_iff :
    request.objectText? = some text ↔ request.object = some text ∧ text ≠ nullWord := by
  rw [AdmissionRequest.objectText?, Option.filter_eq_some_iff]
  simp

lemma ofRequest_unhandled (codec : Codec) (h : P.handles request.resource = false) :
    (ofRequest codec P request).response = .allow request.uid := by
  simp only [ofRequest, h]
  rfl

lemma ofRequest_missing (codec : Codec) (hhandled : P.handles request.resource = true)
    (h : request.object = none ∨ request.object = some nullWord) :
    (ofRequest codec P request).response =
      .reject request.uid .badRequest "no object provided in admission request" := by
  simp only [ofRequest, hhandled, objectText?_eq_none_iff.2 h]
  rfl

lemma ofRequest_submits (codec : Codec) (h : Submits P request text) :
    ofRequest codec P request = ofObject codec P request.uid text := by
  simp only [ofRequest, h.handled, objectText?_eq_some_iff.2 ⟨h.object, h.given⟩]
  rfl

lemma ofRequest_decoded (h : Submits P request text) (hdecode : codec.decode text = .ok p) :
    ofRequest codec P request = ofPod codec P request.uid p := by
  rw [ofRequest_submits codec h, ofObject]
  simp only [hdecode]

lemma ofRequest_undecoded {failure : Failure} (h : Submits P request text)
    (hdecode : codec.decode text = .error failure) :
    (ofRequest codec P request).response = rejection request.uid failure := by
  rw [ofRequest_submits codec h, ofObject]
  simp only [hdecode]

lemma ofRequest_selects (h : Selects codec P request p) :
    (ofRequest codec P request).response =
      match patchFor codec p (P.mutate p) with
      | .ok patch => (ofPatch P request.uid p patch).response
      | .error failure => rejection request.uid failure := by
  obtain ⟨text, hobject, hdecode⟩ := h.decoded
  rw [ofRequest_decoded hobject hdecode, ofPod]
  simp only [if_pos h.selected]
  cases patchFor codec p (P.mutate p) <;> rfl

lemma ofRequest_unencoded {failure : Failure} (hselects : Selects codec P request p)
    (h : Unencoded codec P p failure) :
    (ofRequest codec P request).response = rejection request.uid failure := by
  rw [ofRequest_selects hselects, patchFor]
  cases h with
  | submitted h => simp only [h]
  | changed hbefore h => simp only [hbefore, h]

lemma ofRequest_encodes {before after : Bytes} (hselects : Selects codec P request p)
    (h : Encodes codec P p before after) :
    (ofRequest codec P request).response =
      match Patch.create before after with
      | .ok patch => (ofPatch P request.uid p patch).response
      | .error failure => rejection request.uid failure := by
  rw [ofRequest_selects hselects]
  simp only [patchFor, h.submitted, h.changed]

/-! ### The table is the decision -/

/-- A row that stands is what the request is answered. -/
lemma Row.eq_response (h : Row codec P request response) :
    response = (ofRequest codec P request).response := by
  cases h with
  | unhandled h => rw [ofRequest_unhandled codec h]
  | missing hhandled h => rw [ofRequest_missing codec hhandled h]
  | undecoded hobject h hkind =>
    rw [ofRequest_undecoded hobject h, rejection, if_pos hkind]
  | undecodedOtherwise hobject h hkind =>
    rw [ofRequest_undecoded hobject h, rejection, if_neg (Bool.eq_false_iff.1 hkind)]
  | unselected hobject hdecode h =>
    rw [ofRequest_decoded hobject hdecode, ofPod]
    simp only [h]
    rfl
  | unencoded hselects h hkind =>
    rw [ofRequest_unencoded hselects h, rejection, if_neg (Bool.eq_false_iff.1 hkind)]
  | unencodedOtherwise hselects h hkind =>
    rw [ofRequest_unencoded hselects h, rejection, if_pos hkind]
  | unread hselects hencodes h =>
    rw [ofRequest_encodes hselects hencodes, Patch.create]
    simp only [h]
    rfl
  | unreadChange hselects hencodes hold h =>
    rw [ofRequest_encodes hselects hencodes, Patch.create]
    simp only [hold, h]
    rfl
  | unchanged hselects hencodes hold hnew h =>
    rw [ofRequest_encodes hselects hencodes, Patch.create]
    simp only [hold, hnew, h]
    rfl
  | @changed p before after old new hselects hencodes hold hnew h =>
    rw [ofRequest_encodes hselects hencodes, Patch.create]
    simp only [hold, hnew]
    cases hpatch : Patch.between old new with
    | nil => exact absurd hpatch h
    | cons op ops => rfl

lemma exists_row_of_unencoded {failure : Failure} (hselects : Selects codec P request p)
    (h : Unencoded codec P p failure) : ∃ response, Row codec P request response := by
  cases hkind : failure.isBadRequest with
  | false => exact ⟨_, .unencoded hselects h hkind⟩
  | true => exact ⟨_, .unencodedOtherwise hselects h hkind⟩

/-- For a pod that is selected some row stands. -/
lemma exists_row_of_selects (hselects : Selects codec P request p) :
    ∃ response, Row codec P request response := by
  cases hbefore : codec.encode .submitted p with
  | error failure => exact exists_row_of_unencoded hselects (.submitted hbefore)
  | ok before =>
    cases hafter : codec.encode .changed (P.mutate p) with
    | error failure => exact exists_row_of_unencoded hselects (.changed hbefore hafter)
    | ok after =>
      have hencodes : Encodes codec P p before after := ⟨hbefore, hafter⟩
      cases hold : Json.read before with
      | error e => exact ⟨_, .unread hselects hencodes hold⟩
      | ok old =>
        cases hnew : Json.read after with
        | error e => exact ⟨_, .unreadChange hselects hencodes hold hnew⟩
        | ok new =>
          by_cases hpatch : Patch.between old new = []
          · exact ⟨_, .unchanged hselects hencodes hold hnew hpatch⟩
          · exact ⟨_, .changed hselects hencodes hold hnew hpatch⟩

/-- For every request some row stands. -/
lemma exists_row (codec : Codec) (P : Policy) (request : AdmissionRequest) :
    ∃ response, Row codec P request response := by
  cases hhandled : P.handles request.resource with
  | false => exact ⟨_, .unhandled hhandled⟩
  | true =>
    cases htext : request.objectText? with
    | none => exact ⟨_, .missing hhandled (objectText?_eq_none_iff.1 htext)⟩
    | some text =>
      obtain ⟨hobject, hgiven⟩ := objectText?_eq_some_iff.1 htext
      have hsubmits : Submits P request text := ⟨hhandled, hobject, hgiven⟩
      cases hdecode : codec.decode text with
      | error failure =>
        cases hkind : failure.isBadRequest with
        | false => exact ⟨_, .undecodedOtherwise hsubmits hdecode hkind⟩
        | true => exact ⟨_, .undecoded hsubmits hdecode hkind⟩
      | ok p =>
        cases hselected : P.selects p with
        | false => exact ⟨_, .unselected hsubmits hdecode hselected⟩
        | true => exact exists_row_of_selects ⟨⟨text, hsubmits, hdecode⟩, hselected⟩

/-- A request is answered by the row that stands and by no other. -/
theorem row_iff : Row codec P request response ↔
    response = (ofRequest codec P request).response := by
  constructor
  · exact Row.eq_response
  · rintro rfl
    obtain ⟨other, hother⟩ := exists_row codec P request
    exact hother.eq_response ▸ hother

end Decision

/-! ### Responses that make sense -/

/-- A patch comes with its type and only if the object is admitted; a status, and with it a reason
and the code that goes with the reason, comes just if it is not. -/
structure AdmissionResponse.Coherent (r : AdmissionResponse) : Prop where
  patchType : r.patchType.isSome = r.patch.isSome
  allowed : r.patch.isSome = true → r.allowed = true
  status : r.status.isSome = true ↔ r.allowed = false
  reason : ∀ s, r.status = some s →
    ∃ reason : Reason, s.reason? = some reason.name ∧ s.code? = some reason.code

namespace AdmissionResponse

lemma coherent_allow (uid : String) : (allow uid).Coherent := by
  constructor
  · rfl
  · intro h
    rfl
  · simp [allow]
  · intro s h
    cases h

lemma coherent_reject (uid : String) (reason : Reason) (message : String) :
    (reject uid reason message).Coherent := by
  constructor
  · rfl
  · intro h
    cases h
  · simp [reject]
  · rintro s ⟨⟩
    exact ⟨reason, rfl, rfl⟩

lemma coherent_withPatch (uid : String) (patch : Bytes) :
    ((allow uid).withPatch patch).Coherent := by
  constructor
  · rfl
  · intro h
    rfl
  · simp [allow, withPatch]
  · intro s h
    cases h

end AdmissionResponse

namespace Decision

open AdmissionResponse

variable {codec : Codec} {P : Policy} {request : AdmissionRequest} {response : AdmissionResponse}

lemma Row.coherent (h : Row codec P request response) : response.Coherent := by
  cases h with
  | unhandled | unselected | unchanged => exact coherent_allow _
  | changed => exact coherent_withPatch _ _
  | _ => exact coherent_reject _ _ _

/-- Every row has the identifier of the request. -/
lemma Row.uid (h : Row codec P request response) : response.uid = request.uid := by
  cases h <;> rfl

/-! ### What a decision does not depend on -/

/-- The codec plays no part unless an object is submitted. -/
lemma ofRequest_of_not_submits (h : ∀ text, ¬ Submits P request text) (other : Codec) :
    ofRequest other P request = ofRequest codec P request := by
  simp only [ofRequest]
  cases hhandled : P.handles request.resource with
  | false => rfl
  | true =>
    cases htext : request.objectText? with
    | none => rfl
    | some text =>
      obtain ⟨hobject, hgiven⟩ := objectText?_eq_some_iff.1 htext
      exact absurd ⟨hhandled, hobject, hgiven⟩ (h text)

/-- What is made of a pod and how pods are written play no part unless a pod is selected. -/
lemma ofRequest_of_not_selects (h : ∀ p, ¬ Selects codec P request p)
    (encode : Snapshot → Pod → Except Failure Bytes) (mutate : Pod → Pod) :
    ofRequest { codec with encode := encode } { P with mutate := mutate } request =
      ofRequest codec P request := by
  simp only [ofRequest]
  cases hhandled : P.handles request.resource with
  | false => rfl
  | true =>
    cases htext : request.objectText? with
    | none => rfl
    | some text =>
      obtain ⟨hobject, hgiven⟩ := objectText?_eq_some_iff.1 htext
      simp only [ofObject]
      cases hdecode : codec.decode text with
      | error failure => rfl
      | ok p =>
        cases hselected : P.selects p with
        | true => exact absurd ⟨⟨text, ⟨hhandled, hobject, hgiven⟩, hdecode⟩, hselected⟩ (h p)
        | false => simp [ofPod, hselected]

end Decision

/-! ### Reviews -/

open Decision

/-- A review with a request is answered in its own envelope by the response to the request. -/
lemma AdmissionReview.answer_of_request (codec : Codec) (P : Policy) {review : AdmissionReview}
    {request : AdmissionRequest} (h : review.request = some request) :
    review.answer codec P =
      .ok (review.reply (ofRequest codec P request).response,
        (ofRequest codec P request).events) := by
  -- the identifier that the review puts into the response is there already
  have huid : (ofRequest codec P request).response.uid = request.uid := (row_iff.2 rfl).uid
  rw [AdmissionReview.answer]
  simp only [h, ← huid]

/-- The row of the table that stands for the request is the response in the answer. -/
lemma AdmissionReview.answer_of_row {codec : Codec} {P : Policy} {review : AdmissionReview}
    {request : AdmissionRequest} {response : AdmissionResponse} (h : review.request = some request)
    (hrow : Row codec P request response) :
    review.answer codec P = .ok (review.reply response, (ofRequest codec P request).events) := by
  rw [hrow.eq_response]
  exact answer_of_request codec P h

/-- A review without a request has no answer; any other is answered in its own envelope, with the
identifier of the request, by the row of the table that stands. The answer does not depend on the
codec unless an object is submitted, nor on how pods are changed and written unless one is
selected. -/
theorem AdmissionReview.answer_follows_table (codec : Codec) (P : Policy)
    (review : AdmissionReview) :
    ((∃ why, review.answer codec P = .error (.malformed why)) ↔ review.request = none) ∧
    ∀ request, review.request = some request → ∃ response events,
      review.answer codec P =
        .ok (⟨review.apiVersion, review.kind, none, some response⟩, events) ∧
      response.uid = request.uid ∧
      (∀ r, Row codec P request r ↔ r = response) ∧
      response.Coherent ∧
      ((∀ text, ¬ Submits P request text) →
        ∀ other, review.answer other P = review.answer codec P) ∧
      ((∀ p, ¬ Selects codec P request p) → ∀ encode mutate,
        review.answer { codec with encode := encode } { P with mutate := mutate } =
          review.answer codec P) := by
  constructor
  · rw [AdmissionReview.answer]
    cases review.request with
    | none => simp
    | some request => simp
  · intro request hrequest
    obtain ⟨response, hrow⟩ := exists_row codec P request
    have hanswer (codec : Codec) (P : Policy) := answer_of_request codec P hrequest
    refine ⟨response, (ofRequest codec P request).events, answer_of_row hrequest hrow, hrow.uid,
      fun r => ?_, hrow.coherent, fun h other => ?_, fun h encode mutate => ?_⟩
    · rw [hrow.eq_response]
      exact row_iff
    · rw [hanswer, hanswer, ofRequest_of_not_submits h other]
    · rw [hanswer, hanswer, ofRequest_of_not_selects h encode mutate]

/-! ### Failures of another kind -/

/-- A codec that decodes no text, and each time fails like this. -/
def Codec.undecoding (failure : Failure) : Codec where
  decode _ := .error failure
  encode _ p := .ok p.encode

/-- A codec that decodes every text as the empty pod and encodes no pod, and each time fails like
this. -/
def Codec.unencoding (failure : Failure) : Codec where
  decode _ := .ok ⟨[]⟩
  encode _ _ := .error failure

/-- A request to admit the empty pod. -/
def emptyPodRequest : AdmissionRequest :=
  Session.request (.object []) .create

/-- A review that asks to admit the empty pod. -/
def emptyPodReview : AdmissionReview :=
  ⟨"admission.k8s.io/v1", "AdmissionReview", some emptyPodRequest, none⟩

lemma submits_emptyPodRequest (name : String) :
    Submits (RuntimeClass.policy name) emptyPodRequest (Json.object []).write :=
  ⟨rfl, rfl, by decide⟩

lemma selects_emptyPodRequest (failure : Failure) (name : String) :
    Selects (.unencoding failure) (RuntimeClass.policy name) emptyPodRequest ⟨[]⟩ :=
  ⟨⟨_, submits_emptyPodRequest name, rfl⟩, rfl⟩

/-- An object that is not decoded is not always put down to the request, nor is a pod that is not
encoded always put down to the webhook: the codec may fail with the kind of the other stage. -/
theorem AdmissionReview.answer_otherwise_emptyPodReview :
    (Submits (RuntimeClass.policy RuntimeClass.defaultName) emptyPodRequest
        (Json.object []).write ∧
      ∃ events, emptyPodReview.answer (.undecoding (.patch "no reader"))
          (RuntimeClass.policy RuntimeClass.defaultName) =
        .ok (emptyPodReview.reply (.reject emptyPodRequest.uid .internalError
          (Failure.patch "no reader").message), events)) ∧
    Selects (.unencoding (.decode ⟨.expectedValue, 1, 1⟩))
        (RuntimeClass.policy RuntimeClass.defaultName) emptyPodRequest ⟨[]⟩ ∧
      ∃ events, emptyPodReview.answer (.unencoding (.decode ⟨.expectedValue, 1, 1⟩))
          (RuntimeClass.policy RuntimeClass.defaultName) =
        .ok (emptyPodReview.reply (.reject emptyPodRequest.uid .badRequest
          (Failure.decode ⟨.expectedValue, 1, 1⟩).message), events) := by
  have hsubmits := submits_emptyPodRequest RuntimeClass.defaultName
  have hselects := selects_emptyPodRequest (.decode ⟨.expectedValue, 1, 1⟩)
    RuntimeClass.defaultName
  refine ⟨⟨hsubmits, _, AdmissionReview.answer_of_row rfl ?_⟩, hselects, _,
    AdmissionReview.answer_of_row rfl ?_⟩
  · exact .undecodedOtherwise hsubmits rfl rfl
  · exact .unencodedOtherwise hselects (.submitted rfl) rfl

end PodAdmission

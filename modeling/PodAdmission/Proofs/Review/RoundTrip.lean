import PodAdmission.Proofs.Admission.Soundness
import PodAdmission.Proofs.Admission.Table
import PodAdmission.Proofs.Review.Answers
import PodAdmission.Proofs.Review.Building
import PodAdmission.Proofs.Review.Status
import PodAdmission.Proofs.Text.Base64
import PodAdmission.Proofs.Text.MediaType

/-!
# Reviews written and read again

A review that was read comes back as it is once it is written and read again, and so does every
answer to a review. The text of an object is put back as it was taken out, a patch survives base64,
and nothing of a status is lost.
-/

namespace PodAdmission

open Ascii Json Reader Form

/-! ### Patches -/

lemma spelled_plain {content : Bytes}
    (h : ∀ b ∈ content, b < 0x80 ∧ ¬ b < 0x20 ∧ b ≠ 0x22 ∧ b ≠ 0x5C) :
    Spelled content content := by
  induction content with
  | nil => exact .nil
  | cons b content ih =>
    obtain ⟨⟨-, hcontrol, hquote, hescape⟩, hrest⟩ := List.forall_mem_cons.1 h
    exact .plain hquote hescape hcontrol (ih hrest)

/-- The bytes of a patch are restored from base64. -/
lemma restores_base64 (bytes : Bytes) :
    Restores (readAs base64Text acceptBase64) (writeBase64 bytes) bytes := by
  have hplain := Base64.plain_encode bytes
  have hscan := Utf8.scan_ascii (fun b hb => (hplain b hb).1) []
  obtain ⟨s, hs⟩ := Utf8.exists_encode_of_scan (congrArg Prod.snd hscan)
  have hspelled : Spelled (Utf8.encode s) (Base64.encode bytes) := hs ▸ spelled_plain hplain
  have hspells : (Document.text s).Spells (writeBase64 bytes) := .text hspelled
  have haccept : acceptBase64 (.text s) = .ok bytes := by
    rw [acceptBase64, ← hs, Base64.decode_encode]
  refine restores_of_agrees (agrees_readAs base64Text acceptBase64) hspells (by simp) ?_
  simp [Document.leaf?, haccept, Except.toOption]

/-! ### What is written -/

namespace AdmissionRequest

variable {r : AdmissionRequest}

/-- The texts of the objects are values other than `null`. -/
structure Sound (r : AdmissionRequest) : Prop where
  object : ∀ v ∈ r.object, Embeddable v
  oldObject : ∀ v ∈ r.oldObject, Embeddable v

lemma restores_embeddable {v : Bytes} (h : Embeddable v) : Restores readRaw (id v) v := by
  obtain ⟨hlexical, ⟨s, rfl⟩, hgiven⟩ := h
  exact restores_raw hlexical hgiven

/-- A sound request is restored from what is written of it. -/
lemma restores_read (h : r.Sound) (depth : Nat) :
    Restores (AdmissionRequest.read (depth + 2)) r.write r := by
  have hkind (k : GroupVersionKind) := k.restores_read depth
  have hresource (r : GroupVersionResource) := r.restores_read depth
  simp only [write, List.append_assoc, List.cons_append, List.nil_append]
  apply restores_of_builds form (depth + 1) (settled _)
    (by simp [form, Slot.required, Slot.optional])
  refine .required (restores_readString r.uid) ?_
  refine .required (hkind r.kind) ?_
  refine .required (hresource r.resource) ?_
  refine .optional r.subResource settles_readString (fun s _ => restores_readString s) rfl ?_
  refine .optional r.requestKind (GroupVersionKind.settles_read _) (fun k _ => hkind k) rfl ?_
  refine .optional r.requestResource (GroupVersionResource.settles_read _) (fun r _ => hresource r)
    rfl ?_
  refine .optional r.name settles_readString (fun s _ => restores_readString s) rfl ?_
  refine .optional r.objectNamespace settles_readString (fun s _ => restores_readString s) rfl ?_
  refine .required (r.operation.restores_read (depth + 1)) ?_
  refine .optional r.object settles_readRaw (fun v hv => restores_embeddable (h.object v hv)) rfl ?_
  refine .optional r.oldObject settles_readRaw
    (fun v hv => restores_embeddable (h.oldObject v hv)) rfl ?_
  exact .last r.dryRun settles_readFlag (fun b _ => restores_flag b) rfl

end AdmissionRequest

namespace AdmissionResponse

variable {r : AdmissionResponse}

/-- The status, if there is one, holds the fields it should. -/
def Sound (r : AdmissionResponse) : Prop :=
  ∀ s ∈ r.status, s.Sound

/-- A sound response is restored from what is written of it. -/
lemma restores_read (h : r.Sound) {depth : Nat}
    (hreturns : Shape.returns (.record "Status" Shape.statusFields) depth = true) :
    Restores (AdmissionResponse.read (depth + 1)) r.write r := by
  simp only [write, List.append_assoc, List.cons_append, List.nil_append]
  apply restores_of_builds form depth (settled _) (by simp [form, Slot.required, Slot.optional])
  refine .required (restores_readString r.uid) ?_
  refine .required (restores_flag r.allowed) ?_
  refine .optional r.status (Status.settles_read _)
    (fun s hs => Status.restores_read (h s hs) hreturns) rfl ?_
  refine .optional r.patch (settles_readAs _ _) (fun bytes _ => restores_base64 bytes) rfl ?_
  exact .last r.patchType (settles_readVariant _ _) (fun t _ => t.restores_read depth) rfl

end AdmissionResponse

namespace AdmissionReview

variable {r : AdmissionReview}

/-- The request and the response, whichever are there, are sound. -/
structure Sound (r : AdmissionReview) : Prop where
  request : ∀ q ∈ r.request, q.Sound
  response : ∀ a ∈ r.response, a.Sound

/-- A sound review is read back from what is written of it. -/
lemma decode_write (h : r.Sound) : decode r.write = .ok r := by
  refine readWhole_of_restores (Form.settles_read settled maxDepth) ?_
  simp only [write, List.cons_append, List.nil_append]
  apply restores_of_builds form 126 (settled _) (by simp [form, Slot.required, Slot.optional])
  refine .required (restores_readString r.apiVersion) ?_
  refine .required (restores_readString r.kind) ?_
  refine .optional r.request (AdmissionRequest.settles_read _)
    (fun q hq => AdmissionRequest.restores_read (h.request q hq) 124) rfl ?_
  exact .last r.response (AdmissionResponse.settles_read _)
    (fun a ha => AdmissionResponse.restores_read (h.response a ha) (by decide +kernel)) rfl

end AdmissionReview

/-! ### What is read -/

open Slot

namespace AdmissionRequest

/-- Every request that is read is sound. -/
lemma gives_read (depth : Nat) (bytes : Bytes) :
    Gives Sound (AdmissionRequest.read depth bytes) := by
  refine Form.gives_read (fun depth => ?_) (fun _ => ⟨by simp [form, blank], by simp [form, blank]⟩)
    depth bytes
  simp only [form, List.forall_mem_cons]
  refine ⟨preserves_required fun _ _ hr => ⟨hr.object, hr.oldObject⟩,
    preserves_required fun _ _ hr => ⟨hr.object, hr.oldObject⟩,
    preserves_required fun _ _ hr => ⟨hr.object, hr.oldObject⟩,
    preserves_other fun _ _ hr => ⟨hr.object, hr.oldObject⟩,
    preserves_other fun _ _ hr => ⟨hr.object, hr.oldObject⟩,
    preserves_other fun _ _ hr => ⟨hr.object, hr.oldObject⟩,
    preserves_other fun _ _ hr => ⟨hr.object, hr.oldObject⟩,
    preserves_other fun _ _ hr => ⟨hr.object, hr.oldObject⟩,
    preserves_required fun _ _ hr => ⟨hr.object, hr.oldObject⟩, ?_, ?_,
    preserves_other fun _ _ hr => ⟨hr.object, hr.oldObject⟩, List.forall_mem_nil _⟩
  · exact preserves_optional gives_readOptional_readRaw fun _ _ hr ho => ⟨ho, hr.oldObject⟩
  · exact preserves_optional gives_readOptional_readRaw fun _ _ hr ho => ⟨hr.object, ho⟩

end AdmissionRequest

namespace AdmissionResponse

/-- Every response that is read is sound. -/
lemma gives_read (depth : Nat) (bytes : Bytes) :
    Gives Sound (AdmissionResponse.read depth bytes) := by
  refine Form.gives_read (fun depth => ?_) (fun _ => by simp [Sound, form]) depth bytes
  simp only [form, List.forall_mem_cons]
  refine ⟨preserves_required fun _ _ hr => hr, preserves_required fun _ _ hr => hr, ?_,
    preserves_other fun _ _ hr => hr, preserves_other fun _ _ hr => hr,
    List.forall_mem_nil _⟩
  exact preserves_optional (Shape.gives_readOptional (Status.gives_read depth)) fun _ _ _ ho => ho

/-- The response of every row of the table is sound. -/
lemma sound_of_row {codec : Codec} {P : Policy} {request : AdmissionRequest}
    {r : AdmissionResponse} (h : Decision.Row codec P request r) : r.Sound := by
  cases h with
  | unhandled | unselected | unchanged | changed => simp [Sound, allow, withPatch]
  | _ =>
    rintro s ⟨⟩
    exact Status.sound_failure _ _

end AdmissionResponse

namespace AdmissionReview

variable {r : AdmissionReview}

/-- Every review that is read is sound. -/
lemma sound_of_decode {bytes : Bytes} (h : decode bytes = .ok r) : r.Sound := by
  have hgives (bytes : Bytes) : Gives Sound (Form.read form maxDepth bytes) := by
    refine Form.gives_read (fun depth => ?_) (fun _ => ⟨by simp [form], by simp [form]⟩)
      maxDepth bytes
    simp only [form, List.forall_mem_cons]
    refine ⟨preserves_required fun _ _ hr => ⟨hr.request, hr.response⟩,
      preserves_required fun _ _ hr => ⟨hr.request, hr.response⟩, ?_, ?_,
      List.forall_mem_nil _⟩
    · exact preserves_optional (Shape.gives_readOptional (AdmissionRequest.gives_read depth))
        fun r o hr ho => ⟨ho, hr.response⟩
    · exact preserves_optional (Shape.gives_readOptional (AdmissionResponse.gives_read depth))
        fun r o hr ho => ⟨hr.request, ho⟩
  obtain ⟨rest, hread⟩ := readWhole_ok h
  exact hgives bytes r rest hread

/-- Every answer to a review is sound. -/
lemma sound_of_answer {codec : Codec} {P : Policy} {review : AdmissionReview}
    {events : List Event} (h : review.answer codec P = .ok (r, events)) : r.Sound := by
  rw [answer] at h
  split at h
  · cases h
  · rename_i request hrequest
    cases h
    have hsound := AdmissionResponse.sound_of_row (Decision.row_iff.2 rfl :
      Decision.Row codec P request (Decision.ofRequest codec P request).response)
    refine ⟨by simp [reply], ?_⟩
    rintro a ⟨⟩
    exact hsound

/-- Every review that is read, whichever parts it has, is read back from what is written of it, and
so is every answer to a review, whatever the codec and the policy make of the request. What is read
back is written as the same text. -/
theorem reads_back_written :
    (∀ bytes review, decode bytes = .ok review → ∃ again,
      decode review.write = .ok again ∧ again = review ∧ again.write = review.write) ∧
    ∀ codec P review reply events, answer codec P review = .ok (reply, events) → ∃ again,
      decode reply.write = .ok again ∧ again = reply ∧ again.write = reply.write :=
  ⟨fun _ review h => ⟨review, decode_write (sound_of_decode h), rfl, rfl⟩,
    fun _ _ _ reply _ h => ⟨reply, decode_write (sound_of_answer h), rfl, rfl⟩⟩

/-- A review that has both a request and a response. -/
def answeredReview : Json :=
  .object [("apiVersion", .text "admission.k8s.io/v1"), ("kind", .text "AdmissionReview"),
    ("request", .object [("uid", .text "u"),
      ("kind", .object [("group", .text ""), ("kind", .text "Pod"), ("version", .text "v1")]),
      ("resource",
        .object [("group", .text ""), ("resource", .text "pods"), ("version", .text "v1")]),
      ("operation", .text "UPDATE"), ("object", .list []), ("oldObject", .null)]),
    ("response", .object [("uid", .text "u"), ("allowed", .bool true),
      ("status", .object [("message", .text "as \"asked\"")]), ("patch", .text "W10="),
      ("patchType", .text "JSONPatch")])]

/-- A review that asks whether a pod may be created. -/
def podReview : AdmissionReview where
  apiVersion := "admission.k8s.io/v1"
  kind := "AdmissionReview"
  request := some (Session.request agnhostDocument .create)
  response := none

/-- The review with both parts is read back, and so is the answer to the review of a pod. -/
theorem reads_back_answeredReview :
    (∃ review, decode answeredReview.write = .ok review ∧ decode review.write = .ok review) ∧
    ∃ reply events, answer Codec.json HostProcess.policy podReview = .ok (reply, events) ∧
      decode reply.write = .ok reply := by
  constructor
  · have hread : (decode answeredReview.write).toOption.isSome = true := by decide +kernel
    obtain ⟨review, hsome⟩ := Option.isSome_iff_exists.1 hread
    have hreview := decode_eq_ok_iff.2 hsome
    obtain ⟨again, hagain, rfl, -⟩ := reads_back_written.1 _ review hreview
    exact ⟨again, hreview, hagain⟩
  · obtain ⟨reply, events, hanswer⟩ : ∃ reply events,
        answer Codec.json HostProcess.policy podReview = .ok (reply, events) := ⟨_, _, rfl⟩
    obtain ⟨again, hagain, rfl, -⟩ := reads_back_written.2 _ _ _ reply events hanswer
    exact ⟨again, events, hanswer, hagain⟩

end AdmissionReview

end PodAdmission

import PodAdmission.Decision
import PodAdmission.Proofs.Policy.Builtin

/-!
# Responses

What a request is answered: a text that is no pod is rejected, a pod that is not selected is
admitted as it is, and a pod that is selected is admitted with the patch of the change if the
changed pod comes back from its text, and else rejected.
-/

namespace PodAdmission

open Json Reader Pod

variable {P : Policy} {request : AdmissionRequest} {text : Bytes} {p : Pod} {patch : Patch}
  {touched : Pointer → Prop} {uid : String}

namespace Decision

lemma ofRequest_eq (hhandles : P.handles request.resource = true)
    (hobject : request.objectText? = some text) :
    ofRequest Codec.json P request = ofObject Codec.json P request.uid text := by
  rw [ofRequest]
  simp only [if_pos hhandles, hobject]

lemma decode_json_eq_ok_iff : Codec.json.decode text = .ok p ↔ Pod.decode text = .ok p := by
  cases hdecode : Pod.decode text with
  | error e => simp [Codec.json, hdecode, Except.mapError]
  | ok q => simp [Codec.json, hdecode, Except.mapError]

/-- A text that is no pod is rejected. -/
lemma ofObject_undecoded {e : JsonError} (h : Pod.decode text = .error e) :
    (ofObject Codec.json P uid text).response =
      .reject uid .badRequest (Failure.decode e).message := by
  have hdecode : Codec.json.decode text = .error (.decode e) := by
    simp only [Codec.json, h]
    rfl
  rw [ofObject]
  simp only [hdecode]
  rfl

lemma ofObject_decoded (h : Pod.decode text = .ok p) :
    ofObject Codec.json P uid text = ofPod Codec.json P uid p := by
  rw [ofObject]
  simp only [decode_json_eq_ok_iff.2 h]

/-- A pod that is not selected is admitted as it is. -/
lemma ofPod_unselected (codec : Codec) (uid : String) (h : P.selects p = false) :
    (ofPod codec P uid p).response = .allow uid := by
  rw [ofPod]
  rw [h]
  rfl

lemma patchFor_json (p q : Pod) :
    patchFor Codec.json p q = Patch.create p.encode q.encode := rfl

lemma create_of_read {before after : Bytes} {a b : Json} (ha : Json.read before = .ok a)
    (hb : Json.read after = .ok b) : Patch.create before after = .ok (Patch.diff [] a b) := by
  rw [Patch.create]
  simp only [ha, hb]
  rfl

lemma create_of_unread (before : Bytes) {after : Bytes} (h : ∀ b, Json.read after ≠ .ok b) :
    ∃ why, Patch.create before after = .error (.patch why) := by
  rw [Patch.create]
  cases Json.read before with
  | error e => exact ⟨_, rfl⟩
  | ok a =>
    cases hb : Json.read after with
    | error e => exact ⟨_, rfl⟩
    | ok b => exact absurd hb (h b)

lemma ofPatch_nil (P : Policy) (uid : String) (p : Pod) :
    (ofPatch P uid p []).response = .allow uid := rfl

lemma ofPatch_ne_nil (P : Policy) (uid : String) (p : Pod) (h : patch ≠ []) :
    (ofPatch P uid p patch).response = (AdmissionResponse.allow uid).withPatch patch.write := by
  cases patch with
  | nil => exact absurd rfl h
  | cons op ops => rfl

/-- If the changed pod comes back from its text, the patch is that of the change. -/
lemma patchFor_recovered {q : Pod} (hp : p.Sound) (hchange : Change p q patch touched)
    (hrecovers : q.toJson.Recovers maxDepth) :
    ∃ a b, Json.read p.encode = .ok a ∧ Json.read q.encode = .ok b ∧ patch.run? a = some b ∧
      Patch.diff [] a b = patch ∧ patchFor Codec.json p q = .ok patch := by
  obtain ⟨b, hb⟩ := Option.isSome_iff_exists.1 (recovers_iff.1 hrecovers)
  obtain ⟨a, ha, hrun, hdiff⟩ := hchange.recovered b hb
  have hreadA : Json.read p.encode = .ok a := (read_write_eq_ok_iff (wellFormed_toJson hp)).2 ha
  have hreadB : Json.read q.encode = .ok b := (read_write_eq_ok_iff hchange.wellFormed).2 hb
  refine ⟨a, b, hreadA, hreadB, hrun, hdiff, ?_⟩
  rw [patchFor_json, create_of_read hreadA hreadB, hdiff]

/-- If it does not, there is no patch. -/
lemma patchFor_unrecovered {q : Pod} (hchange : Change p q patch touched)
    (hrecovers : ¬ q.toJson.Recovers maxDepth) :
    ∃ why, patchFor Codec.json p q = .error (.patch why) := by
  simp only [patchFor_json]
  refine create_of_unread p.encode fun b hb => hrecovers (recovers_iff.2 ?_)
  rw [(read_write_eq_ok_iff hchange.wellFormed).1 hb]
  rfl

/-- A pod that is selected is admitted with the patch of the change, if the changed pod comes back
from its text. -/
lemma ofPod_selected (uid : String) (hp : p.Sound) (hselects : P.selects p = true)
    (hchange : Change p (P.mutate p) patch touched)
    (hrecovers : (P.mutate p).toJson.Recovers maxDepth) :
    ∃ a b, Json.read p.encode = .ok a ∧ Json.read (P.mutate p).encode = .ok b ∧
      patch.run? a = some b ∧ Patch.diff [] a b = patch ∧
      ofPod Codec.json P uid p = ofPatch P uid p patch := by
  obtain ⟨a, b, ha, hb, hrun, hdiff, hpatch⟩ := patchFor_recovered hp hchange hrecovers
  refine ⟨a, b, ha, hb, hrun, hdiff, ?_⟩
  rw [ofPod]
  simp only [if_pos hselects, hpatch]

/-- A pod that is selected is rejected, if the changed pod does not come back from its text. -/
lemma ofPod_unrecovered (uid : String) (hselects : P.selects p = true)
    (hchange : Change p (P.mutate p) patch touched)
    (hrecovers : ¬ (P.mutate p).toJson.Recovers maxDepth) :
    ∃ why, (ofPod Codec.json P uid p).response = .reject uid .internalError why := by
  obtain ⟨why, hpatch⟩ := patchFor_unrecovered hchange hrecovers
  refine ⟨(Failure.patch why).message, ?_⟩
  rw [ofPod]
  simp only [if_pos hselects, hpatch]
  rfl

end Decision

/-! ### The policies of the two webhooks -/

lemma Policy.Builtin.handles (h : P.Builtin) (resource : GroupVersionResource) :
    P.handles resource = resource.isPod := by
  cases h <;> rfl

/-- The response of a webhook to a request. -/
def Policy.respond (P : Policy) (request : AdmissionRequest) : AdmissionResponse :=
  (Decision.ofRequest Codec.json P request).response

lemma Policy.Builtin.respond_eq (h : P.Builtin) (hpod : request.resource.isPod = true)
    (hobject : request.objectText? = some text) :
    P.respond request = (Decision.ofObject Codec.json P request.uid text).response := by
  rw [Policy.respond, Decision.ofRequest_eq ((h.handles _).trans hpod) hobject]

/-- The text of an object is the object of a request that has it. -/
lemma objectText?_write {members : Entries Json}
    (h : request.object = some (Json.object members).write) :
    request.objectText? = some (Json.object members).write := by
  have hne : (Json.object members).write ≠ Ascii.nullWord := by
    rw [write_object]
    intro heq
    exact absurd (List.cons.inj heq).1 (by decide)
  rw [AdmissionRequest.objectText?, h, Option.filter_some, if_pos (by simpa using hne)]

lemma objectText?_of_decode {D : Json} (hD : D.WellFormed) (hdecode : Pod.decode D.write = .ok p)
    (h : request.object = some D.write) : request.objectText? = some D.write := by
  obtain ⟨members, rfl⟩ := object_of_ofJson? ((decode_write_eq_ok_iff hD).1 hdecode)
  exact objectText?_write h

/-- A patch in a response is that of the change that the policy makes of a selected pod. -/
lemma Policy.Builtin.change_of_patch (hP : P.Builtin) {D : Json} (hD : D.WellFormed)
    (hpod : request.resource.isPod = true) (hobject : request.object = some D.write)
    (hdecode : Pod.decode D.write = .ok p) {bytes : Bytes}
    (hpatch : (P.respond request).patch = some bytes) :
    ∃ patch touched, bytes = patch.write ∧ Change p (P.mutate p) patch touched ∧
      (HasMetadata D → ∀ path, touched path → Policy.Touches D p P path) := by
  have hp := sound_of_decode hdecode
  rw [hP.respond_eq hpod (objectText?_of_decode hD hdecode hobject),
    Decision.ofObject_decoded hdecode] at hpatch
  cases hselects : P.selects p with
  | false =>
    rw [Decision.ofPod_unselected Codec.json request.uid hselects] at hpatch
    cases hpatch
  | true =>
    obtain ⟨patch, touched, hchange, htouches⟩ := hP.change hp hselects
    by_cases hrecovers : (P.mutate p).toJson.Recovers maxDepth
    · obtain ⟨a, b, -, -, -, -, heq⟩ :=
        Decision.ofPod_selected request.uid hp hselects hchange hrecovers
      rw [heq] at hpatch
      cases patch with
      | nil => cases hpatch
      | cons op ops =>
        obtain rfl := Option.some.inj hpatch
        exact ⟨_, touched, rfl, hchange, fun hmetadata =>
          htouches D hD hmetadata ((decode_write_eq_ok_iff hD).1 hdecode)⟩
    · obtain ⟨why, heq⟩ := Decision.ofPod_unrecovered request.uid hselects hchange hrecovers
      rw [heq] at hpatch
      cases hpatch

/-- The response to a pod that a policy selects and can change carries the patch of the change. -/
lemma Policy.Builtin.patch_of_change (hP : P.Builtin) {D : Json} (hD : D.WellFormed)
    (hpod : request.resource.isPod = true) (hobject : request.object = some D.write)
    (hdecode : Pod.decode D.write = .ok p) (hselects : P.selects p = true)
    (hchange : Change p (P.mutate p) patch touched)
    (hrecovers : (P.mutate p).toJson.Recovers maxDepth) (hne : patch ≠ []) :
    (P.respond request).patch = some patch.write := by
  obtain ⟨a, b, -, -, -, -, heq⟩ := Decision.ofPod_selected request.uid
    (sound_of_decode hdecode) hselects hchange hrecovers
  rw [hP.respond_eq hpod (objectText?_of_decode hD hdecode hobject),
    Decision.ofObject_decoded hdecode, heq, Decision.ofPatch_ne_nil P request.uid p hne]
  rfl

end PodAdmission

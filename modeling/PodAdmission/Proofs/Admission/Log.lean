import PodAdmission.Proofs.Admission.Table
import PodAdmission.Proofs.Json.Answers
import PodAdmission.Proofs.Patch.Values

/-!
# What the log tells of a request

A request takes one of five courses (`Course`), whatever the codec and the policy are, and each of
them leaves events of its own: one at the level that its outcome calls for, and a second one, for
debugging, if there is a patch. So from the log alone it can be told whether a pod was changed and
by how many operations, and why it was rejected; `Accounts` tells how the events and the response
go together.
-/

namespace PodAdmission

open Ascii Json

/-- The value of a field of an event. -/
def Event.field? (name : String) (e : Event) : Option EventValue :=
  e.fields.lookup name

namespace Decision

variable {codec : Codec} {P : Policy} {request : AdmissionRequest} {text : Bytes} {p : Pod}
  {patch : Patch} {failure : Failure} {d : Decision}

/-! ### Courses -/

/-- The policy is about the resource, but there is no object, or it is `null`. -/
structure Lacks (P : Policy) (request : AdmissionRequest) : Prop where
  handled : P.handles request.resource = true
  object : request.object = none ∨ request.object = some nullWord

/-- The object is a pod that the policy does not select. -/
structure Ignores (codec : Codec) (P : Policy) (request : AdmissionRequest) (p : Pod) : Prop where
  decoded : ∃ text, Submits P request text ∧ codec.decode text = .ok p
  ignored : P.selects p = false

/-- The object cannot be decoded, the selected pod cannot be written before or after the change, or
its two texts cannot be compared. -/
inductive Fails (codec : Codec) (P : Policy) (request : AdmissionRequest) : Failure → Prop where
  | decode {text : Bytes} {failure : Failure} (hobject : Submits P request text)
      (h : codec.decode text = .error failure) : Fails codec P request failure
  | encode {p : Pod} {failure : Failure} (hselects : Selects codec P request p)
      (h : Unencoded codec P p failure) : Fails codec P request failure
  | diff {p : Pod} {before after : Bytes} {failure : Failure}
      (hselects : Selects codec P request p) (hencodes : Encodes codec P p before after)
      (h : Patch.create before after = .error failure) : Fails codec P request failure

/-- The two texts of the selected pod have this patch between them. -/
structure Makes (codec : Codec) (P : Policy) (request : AdmissionRequest) (p : Pod)
    (patch : Patch) : Prop where
  selected : Selects codec P request p
  created : ∃ before after, Encodes codec P p before after ∧
    Patch.create before after = .ok patch

/-- What can happen to a request. -/
inductive Course (codec : Codec) (P : Policy) (request : AdmissionRequest) : Prop where
  | unhandled (h : P.handles request.resource = false)
  | lacking (h : Lacks P request)
  | failed {failure : Failure} (h : Fails codec P request failure)
  | ignored {p : Pod} (h : Ignores codec P request p)
  | patched {p : Pod} {patch : Patch} (h : Makes codec P request p patch)

lemma course_of_selects (h : Selects codec P request p) : Course codec P request := by
  cases hbefore : codec.encode .submitted p with
  | error failure => exact .failed (.encode h (.submitted hbefore))
  | ok before =>
    cases hafter : codec.encode .changed (P.mutate p) with
    | error failure => exact .failed (.encode h (.changed hbefore hafter))
    | ok after =>
      cases hcreate : Patch.create before after with
      | error failure => exact .failed (.diff h ⟨hbefore, hafter⟩ hcreate)
      | ok patch => exact .patched ⟨h, before, after, ⟨hbefore, hafter⟩, hcreate⟩

lemma course (codec : Codec) (P : Policy) (request : AdmissionRequest) :
    Course codec P request := by
  cases hhandled : P.handles request.resource with
  | false => exact .unhandled hhandled
  | true =>
    cases htext : request.objectText? with
    | none => exact .lacking ⟨hhandled, objectText?_eq_none_iff.1 htext⟩
    | some text =>
      obtain ⟨hobject, hgiven⟩ := objectText?_eq_some_iff.1 htext
      cases hdecode : codec.decode text with
      | error failure => exact .failed (.decode ⟨hhandled, hobject, hgiven⟩ hdecode)
      | ok p =>
        cases hselects : P.selects p with
        | false => exact .ignored ⟨⟨text, ⟨hhandled, hobject, hgiven⟩, hdecode⟩, hselects⟩
        | true => exact course_of_selects ⟨⟨text, ⟨hhandled, hobject, hgiven⟩, hdecode⟩, hselects⟩

/-! ### Decisions -/

lemma unhandled_eq (codec : Codec) (h : P.handles request.resource = false) :
    ofRequest codec P request = ⟨.allow request.uid,
      [⟨.debug, "Resource not handled by policy, allowing unchanged",
        [("uid", .text request.uid), ("policy", .text P.name),
          ("group", .text request.resource.group),
          ("resource", .text request.resource.resource)]⟩]⟩ := by
  simp [ofRequest, h]

lemma Lacks.eq (h : Lacks P request) (codec : Codec) :
    ofRequest codec P request =
      ⟨.reject request.uid .badRequest "no object provided in admission request",
        [⟨.warn, "No object in admission request",
          [("uid", .text request.uid), ("policy", .text P.name)]⟩]⟩ := by
  simp [ofRequest, h.handled, objectText?_eq_none_iff.2 h.object]

lemma Ignores.eq (h : Ignores codec P request p) :
    ofRequest codec P request = ⟨.allow request.uid,
      [⟨.debug, "Pod does not require mutation",
        [("uid", .text request.uid), ("policy", .text P.name),
          ("pod", .text p.displayName)]⟩]⟩ := by
  obtain ⟨text, hobject, hdecode⟩ := h.decoded
  rw [ofRequest_decoded hobject hdecode, ofPod]
  simp [h.ignored]

lemma Selects.eq (h : Selects codec P request p) :
    ofRequest codec P request = ofPod codec P request.uid p := by
  obtain ⟨text, hobject, hdecode⟩ := h.decoded
  rw [ofRequest_decoded hobject hdecode]

lemma Makes.eq (h : Makes codec P request p patch) :
    ofRequest codec P request = ofPatch P request.uid p patch := by
  obtain ⟨before, after, hencodes, hcreate⟩ := h.created
  rw [h.selected.eq, ofPod, if_pos h.selected.selected, patchFor]
  simp only [hencodes.submitted, hencodes.changed, hcreate]

lemma Fails.eq (h : Fails codec P request failure) : ∃ message, ofRequest codec P request =
    ⟨rejection request.uid failure, [⟨.error, message,
      [("uid", .text request.uid), ("policy", .text P.name),
        ("error", .text failure.message)]⟩]⟩ := by
  cases h with
  | decode hobject h =>
    refine ⟨"Failed to decode pod", ?_⟩
    rw [ofRequest_submits codec hobject, ofObject]
    simp only [h]
  | encode hselects h =>
    refine ⟨"Failed to build patch", ?_⟩
    rw [hselects.eq, ofPod, if_pos hselects.selected, patchFor]
    cases h with
    | submitted h => simp only [h]
    | changed hbefore h => simp only [hbefore, h]
  | diff hselects hencodes h =>
    refine ⟨"Failed to build patch", ?_⟩
    rw [hselects.eq, ofPod, if_pos hselects.selected, patchFor]
    simp only [hencodes.submitted, hencodes.changed, h]

/-! ### Events -/

/-- The events at a level. -/
def logged (level : Level) (d : Decision) : List Event :=
  d.events.filter fun e => e.level = level

/-- There is one event at the level if the condition holds, and it tells what it should, and else
there is none. -/
structure LogsOnce (d : Decision) (level : Level) (condition : Prop) (tells : Event → Prop) :
    Prop where
  once : condition → ∃ e, d.logged level = [e] ∧ tells e
  never : ¬ condition → d.logged level = []

lemma LogsOnce.of_once {level : Level} {condition : Prop} {tells : Event → Prop} {e : Event}
    (h : condition) (hlogged : d.logged level = [e]) (he : tells e) :
    d.LogsOnce level condition tells :=
  ⟨fun _ => ⟨e, hlogged, he⟩, fun hnot => absurd h hnot⟩

lemma LogsOnce.of_never {level : Level} {condition : Prop} {tells : Event → Prop}
    (h : ¬ condition) (hlogged : d.logged level = []) : d.LogsOnce level condition tells :=
  ⟨fun hc => absurd hc h, fun _ => hlogged⟩

/-- The event and the response are about the same patch, which has an operation. -/
def TellsPatch (d : Decision) (e : Event) : Prop :=
  e.message = "Mutating pod" ∧ ∃ patch : Patch, d.response.patch = some patch.write ∧
    e.field? "patch_ops" = some (.count patch.length) ∧
    Patch.operationsIn? patch.write = some patch.length ∧ 1 ≤ patch.length

/-- The event and the response give the same reason for a rejection. -/
def TellsError (d : Decision) (e : Event) : Prop :=
  d.response.allowed = false ∧ ∃ status message, d.response.status = some status ∧
    status.message? = some message ∧ e.field? "error" = some (.text message)

/-- The events of a request tell what it is answered. -/
structure Accounts (codec : Codec) (P : Policy) (request : AdmissionRequest) (d : Decision) :
    Prop where
  uid : ∀ e ∈ d.events, e.field? "uid" = some (.text request.uid)
  info : d.LogsOnce .info (d.response.patch.isSome = true) d.TellsPatch
  error : d.LogsOnce .error (∃ failure, Fails codec P request failure) d.TellsError
  warn : d.LogsOnce .warn (Lacks P request ∨ ∃ p, Makes codec P request p [])
    fun e => e.field? "policy" = some (.text P.name)
  lacking : Lacks P request → d.response.allowed = false
  unchanged : ∀ p, Makes codec P request p [] →
    d.response.allowed = true ∧ d.response.patch = none
  quiet : (P.handles request.resource = false ∨ ∃ p, Ignores codec P request p) →
    ∃ e, d.events = [e] ∧ e.level = .debug

lemma uid_of_mem_events (codec : Codec) (P : Policy) (request : AdmissionRequest) :
    ∀ e ∈ (ofRequest codec P request).events, e.field? "uid" = some (.text request.uid) := by
  cases course codec P request with
  | unhandled h => simp [unhandled_eq codec h, Event.field?]
  | lacking h => simp [h.eq codec, Event.field?]
  | failed h =>
    obtain ⟨message, heq⟩ := h.eq
    simp [heq, Event.field?]
  | ignored h => simp [h.eq, Event.field?]
  | @patched p patch h =>
    rw [h.eq]
    cases patch <;> simp [ofPatch, Event.field?]

/-- The text of a patch between two texts has an item for every operation. -/
lemma operationsIn?_of_create {before after : Bytes} (h : Patch.create before after = .ok patch) :
    Patch.operationsIn? patch.write = some patch.length := by
  rw [Patch.create] at h
  split at h
  · cases h
  · split at h
    · cases h
    · rename_i new hnew
      cases h
      have hnumeric : new.Numeric := (wellFormed_of_read hnew).numeric
      refine Patch.operationsIn?_write fun op hop => Operation.lexical_write fun v hv => ?_
      exact (Patch.draws_diff [] _ new op hop v hv).numeric hnumeric

lemma logsOnce_info (codec : Codec) (P : Policy) (request : AdmissionRequest) :
    (ofRequest codec P request).LogsOnce .info
      ((ofRequest codec P request).response.patch.isSome = true)
      (ofRequest codec P request).TellsPatch := by
  cases course codec P request with
  | unhandled h =>
    rw [unhandled_eq codec h]
    exact .of_never Bool.false_ne_true rfl
  | lacking h =>
    rw [h.eq codec]
    exact .of_never Bool.false_ne_true rfl
  | failed h =>
    obtain ⟨message, heq⟩ := h.eq
    rw [heq]
    exact .of_never Bool.false_ne_true rfl
  | ignored h =>
    rw [h.eq]
    exact .of_never Bool.false_ne_true rfl
  | @patched p patch h =>
    obtain ⟨before, after, -, hcreate⟩ := h.created
    have hcount := operationsIn?_of_create hcreate
    rw [h.eq]
    cases patch with
    | nil => exact .of_never Bool.false_ne_true rfl
    | cons op ops =>
      exact .of_once rfl rfl ⟨rfl, op :: ops, rfl, rfl, hcount, Nat.succ_le_succ (Nat.zero_le _)⟩

lemma logsOnce_error (codec : Codec) (P : Policy) (request : AdmissionRequest) :
    (ofRequest codec P request).LogsOnce .error (∃ failure, Fails codec P request failure)
      (ofRequest codec P request).TellsError := by
  constructor
  · rintro ⟨failure, h⟩
    obtain ⟨message, heq⟩ := h.eq
    rw [heq]
    exact ⟨_, rfl, rfl, _, failure.message, rfl, rfl, rfl⟩
  · intro hnot
    cases course codec P request with
    | unhandled h =>
      rw [unhandled_eq codec h]
      rfl
    | lacking h =>
      rw [h.eq codec]
      rfl
    | failed h => exact absurd ⟨_, h⟩ hnot
    | ignored h =>
      rw [h.eq]
      rfl
    | @patched p patch h =>
      rw [h.eq]
      cases patch <;> rfl

lemma logsOnce_warn (codec : Codec) (P : Policy) (request : AdmissionRequest) :
    (ofRequest codec P request).LogsOnce .warn
      (Lacks P request ∨ ∃ p, Makes codec P request p [])
      fun e => e.field? "policy" = some (.text P.name) := by
  constructor
  · rintro (h | ⟨p, h⟩)
    · rw [h.eq codec]
      exact ⟨_, rfl, rfl⟩
    · rw [h.eq]
      exact ⟨_, rfl, rfl⟩
  · intro hnot
    cases course codec P request with
    | unhandled h =>
      rw [unhandled_eq codec h]
      rfl
    | lacking h => exact absurd (.inl h) hnot
    | failed h =>
      obtain ⟨message, heq⟩ := h.eq
      rw [heq]
      rfl
    | ignored h =>
      rw [h.eq]
      rfl
    | @patched p patch h =>
      cases patch with
      | nil => exact absurd (.inr ⟨p, h⟩) hnot
      | cons op ops =>
        rw [h.eq]
        rfl

/-- The log of a request tells what the request is answered, whatever the codec and the policy are.
That a pod is changed is said just if there is a patch, with the number of operations that the text
of the patch has; that something went wrong is said just if it did, in the words of the rejection;
there is a warning just if there is no object or nothing to change; and nothing but an event for
debugging if the policy has no part in it. -/
theorem log_accounts (codec : Codec) (P : Policy) (request : AdmissionRequest) :
    Accounts codec P request (ofRequest codec P request) := by
  refine ⟨uid_of_mem_events codec P request, logsOnce_info codec P request,
    logsOnce_error codec P request, logsOnce_warn codec P request, ?_, ?_, ?_⟩
  · intro h
    rw [h.eq codec]
    rfl
  · intro p h
    rw [h.eq]
    exact ⟨rfl, rfl⟩
  · rintro (h | ⟨p, h⟩)
    · rw [unhandled_eq codec h]
      exact ⟨_, rfl, rfl⟩
    · rw [h.eq]
      exact ⟨_, rfl, rfl⟩

end Decision

end PodAdmission

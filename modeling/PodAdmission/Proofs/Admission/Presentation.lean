import PodAdmission.Proofs.Admission.Response
import PodAdmission.Proofs.Admission.Table
import PodAdmission.Proofs.Pod.RoundTrip
import PodAdmission.Proofs.Schema.Presentation

/-!
# Presentations of a pod

A pod is read, written, selected and admitted alike from any two presentations of one document,
provided that neither is taken for something else: free values in which an object starts with the
reserved key and goes on are read in one order of members and refused in another.
-/

namespace PodAdmission

open Ascii Json Reader Shape

variable {D D' : Document} {text text' : Bytes} {p q : Pod} {P : Policy}
  {request : AdmissionRequest}

namespace Pod

/-- The two documents present the same pod. -/
def Alike (D D' : Document) : Prop :=
  Shape.Alike (header "Pod") (.record "Pod" podFields) D D'

/-- No free value in the document of a pod has an object that is taken for a document in a text
though it has other members. -/
def Clear (D : Document) : Prop :=
  Shape.Clear (.record "Pod" podFields) D

lemma read?_eq (h : D.HasText text) :
    read? (header "Pod") (.record "Pod" podFields) maxDepth D =
      (Pod.decode text).toOption.map fun p => .record p.fields := by
  rw [decode_text h, ofDocument?, Option.map_map]
  rfl

lemma read?_isSome_iff (h : D.HasText text) :
    (read? (header "Pod") (.record "Pod" podFields) maxDepth D).isSome = true ↔
      ∃ p, Pod.decode text = .ok p := by
  rw [read?_eq h, Option.isSome_map]
  cases Pod.decode text <;> simp [Except.toOption]

lemma read?_eq_iff (h : D.HasText text) (h' : D'.HasText text') :
    read? (header "Pod") (.record "Pod" podFields) maxDepth D =
        read? (header "Pod") (.record "Pod" podFields) maxDepth D' ↔
      ∀ p, Pod.decode text = .ok p ↔ Pod.decode text' = .ok p := by
  have hinj : Function.Injective fun p : Pod => Datum.record p.fields :=
    fun p q heq => congrArg Pod.mk (Datum.record.inj heq)
  rw [read?_eq h, read?_eq h', (Option.map_injective hinj).eq_iff]
  cases Pod.decode text <;> cases Pod.decode text' <;> simp [Except.toOption, eq_comm]

end Pod

/-! ### Answers -/

/-- Whoever asks gets the same answers about a pod from both texts. -/
structure SameAnswers (text text' : Bytes) : Prop where
  decode : ∀ p, Pod.decode text = .ok p ↔ Pod.decode text' = .ok p
  encode : ∀ p q, Pod.decode text = .ok p → Pod.decode text' = .ok q → p.encode = q.encode
  selects : ∀ (P : Policy) p q, Pod.decode text = .ok p → Pod.decode text' = .ok q →
    P.selects p = P.selects q
  allowed : ∀ (P : Policy) (request : AdmissionRequest),
    (P.respond { request with object := some text }).allowed =
      (P.respond { request with object := some text' }).allowed
  reason : ∀ (P : Policy) (request : AdmissionRequest),
    (P.respond { request with object := some text }).reason? =
      (P.respond { request with object := some text' }).reason?
  patch : ∀ (P : Policy) (request : AdmissionRequest),
    (P.respond { request with object := some text }).patch =
      (P.respond { request with object := some text' }).patch

lemma respond_unhandled (h : P.handles request.resource = false) (text : Bytes) :
    P.respond { request with object := some text } = .allow request.uid :=
  Decision.ofRequest_unhandled Codec.json h

lemma decode_nullWord (p : Pod) : Pod.decode nullWord ≠ .ok p := by
  have h : (Pod.decode nullWord).toOption = none := rfl
  intro hp
  rw [hp] at h
  cases h

lemma respond_decoded (hhandled : P.handles request.resource = true)
    (h : Pod.decode text = .ok p) :
    P.respond { request with object := some text } =
      (Decision.ofPod Codec.json P request.uid p).response := by
  have hgiven : text ≠ nullWord := fun heq => decode_nullWord p (heq ▸ h)
  have hsubmits : Decision.Submits P { request with object := some text } text :=
    ⟨hhandled, rfl, hgiven⟩
  rw [Policy.respond, Decision.ofRequest_submits Codec.json hsubmits, Decision.ofObject_decoded h]

lemma respond_undecoded (hhandled : P.handles request.resource = true)
    (h : ∀ p, Pod.decode text ≠ .ok p) :
    ∃ why, P.respond { request with object := some text } =
      .reject request.uid .badRequest why := by
  by_cases hnull : text = nullWord
  · exact ⟨_, Decision.ofRequest_missing Codec.json hhandled (.inr (congrArg some hnull))⟩
  · have hsubmits : Decision.Submits P { request with object := some text } text :=
      ⟨hhandled, rfl, hnull⟩
    rw [Policy.respond, Decision.ofRequest_submits Codec.json hsubmits]
    cases hdecode : Pod.decode text with
    | ok p => exact absurd hdecode (h p)
    | error e => exact ⟨_, Decision.ofObject_undecoded hdecode⟩

/-- What is said of a response that shows its verdict and no message. -/
lemma respond_congr (h : ∀ p, Pod.decode text = .ok p ↔ Pod.decode text' = .ok p) (P : Policy)
    (request : AdmissionRequest) :
    P.respond { request with object := some text } =
        P.respond { request with object := some text' } ∨
      ∃ why why', P.respond { request with object := some text } =
          .reject request.uid .badRequest why ∧
        P.respond { request with object := some text' } =
          .reject request.uid .badRequest why' := by
  cases hhandled : P.handles request.resource with
  | false =>
    left
    rw [respond_unhandled hhandled, respond_unhandled hhandled]
  | true =>
    by_cases hread : ∃ p, Pod.decode text = .ok p
    · left
      obtain ⟨p, hp⟩ := hread
      rw [respond_decoded hhandled hp, respond_decoded hhandled ((h p).1 hp)]
    · right
      obtain ⟨why, hwhy⟩ := respond_undecoded hhandled fun p hp => hread ⟨p, hp⟩
      obtain ⟨why', hwhy'⟩ := respond_undecoded hhandled fun p hp => hread ⟨p, (h p).2 hp⟩
      exact ⟨why, why', hwhy, hwhy'⟩

/-- Texts of which the same pod is read, or none, are answered alike. -/
lemma sameAnswers_of_decode (h : ∀ p, Pod.decode text = .ok p ↔ Pod.decode text' = .ok p) :
    SameAnswers text text' := by
  have hpod (p q : Pod) (hp : Pod.decode text = .ok p) (hq : Pod.decode text' = .ok q) : p = q :=
    Except.ok.inj (((h p).1 hp).symm.trans hq)
  refine ⟨h, fun p q hp hq => by rw [hpod p q hp hq], fun P p q hp hq => by rw [hpod p q hp hq],
    fun P request => ?_, fun P request => ?_, fun P request => ?_⟩
  all_goals
    obtain heq | ⟨why, why', hwhy, hwhy'⟩ := respond_congr h P request
    · rw [heq]
    · rw [hwhy, hwhy']
      rfl

/-- Two presentations of a pod without duplicate keys are answered alike, wherever white space is in
their texts, just if neither is read while the other has a free value with an object that starts
with the reserved key and goes on. -/
theorem sameAnswers_iff (hD : D.Distinct) (h : Pod.Alike D D') (ht : D.HasText text)
    (ht' : D'.HasText text') :
    SameAnswers text text' ↔
      ((∃ p, Pod.decode text = .ok p) → Pod.Clear D') ∧
        ((∃ p, Pod.decode text' = .ok p) → Pod.Clear D) := by
  have hread := h.read?_eq_iff hD maxDepth
  rw [Pod.read?_eq_iff ht ht', Pod.read?_isSome_iff ht, Pod.read?_isSome_iff ht'] at hread
  exact ⟨fun hsame => hread.1 hsame.decode, fun hclear => sameAnswers_of_decode (hread.2 hclear)⟩

/-- The fields that a manager owns may come in any order. -/
lemma alike_managedDocument {fields fields' : Entries Json}
    (h : (documentMembers fields).Perm (documentMembers fields')) :
    Pod.Alike (Pod.managedDocument fields).document (Pod.managedDocument fields').document :=
  Alike.only_member (Alike.only_member (Alike.only_item (Alike.only_member (.permuted h))))

/-- A pod is answered alike if the members of its free value come in another order, a member is
added that is unknown, its specification is `null` and the text has white space around it. -/
theorem sameAnswers_managedPod :
    let fields := [("a", Json.bool false), ("b", Json.number (.whole 2))]
    let D := Pod.managedDocument fields
    let D' := Json.object [("spec", .null), ("extra", .bool true), ("metadata", .object
      [("managedFields", .list [.object [("fieldsV1", .object fields.reverse)]])])]
    let text' := [space] ++ (D'.write ++ [newline])
    D.document.Distinct ∧ Pod.Alike D.document D'.document ∧ D.document.HasText D.write ∧
      D'.document.HasText text' ∧ Pod.decode D.write = .ok (Pod.managedPod fields) ∧
      SameAnswers D.write text' := by
  intro fields D D' text'
  have hD : D.Numeric := by simp [D, Pod.managedDocument, fields, Number.Valid]
  have hD' : D'.Numeric := by simp [D', fields, Number.Valid]
  have hdistinct : D.document.Distinct := by
    simp [D, Pod.managedDocument, fields, document, documentMembers, documentItems,
      Entries.Distinct, Document.Distinct.number, Document.Distinct.bool]
  have hpermuted : Pod.Alike D.document (Pod.managedDocument fields.reverse).document :=
    alike_managedDocument (.swap _ _ _)
  have halike : Pod.Alike D.document D'.document :=
    hpermuted.trans ((Alike.unknown rfl rfl rfl (.bool true)).trans (.null rfl rfl))
  have htext' : D'.document.HasText text' :=
    .mk (by simp [Blank, isSpace]) (spells_write hD') (by simp [Blank, isSpace])
  have hclear : Pod.Clear D.document :=
    @clear_of_read? (header "Pod") (.record "Pod" podFields) D.document maxDepth rfl
  have hclear' : Pod.Clear D'.document :=
    @clear_of_read? (header "Pod") (.record "Pod" podFields) D'.document maxDepth rfl
  exact ⟨hdistinct, halike, (spells_write hD).hasText, htext',
    Pod.decode_write_of_ofJson? hD rfl,
    (sameAnswers_iff hdistinct halike (spells_write hD).hasText htext').2
      ⟨fun _ => hclear', fun _ => hclear⟩⟩

/-- A pod whose free value has the reserved key behind another key is read, and not if the reserved
key comes first. -/
theorem not_sameAnswers_managedPod :
    let fields := [("!", Json.number (.whole 2)), (embeddingKey, Json.text "1")]
    let D := Pod.managedDocument fields
    let D' := Pod.managedDocument fields.reverse
    D.document.Distinct ∧ Pod.Alike D.document D'.document ∧
      D.document.HasText D.write ∧ D'.document.HasText D'.write ∧
      Pod.decode D.write = .ok (Pod.managedPod fields) ∧
      (∀ q, Pod.decode D'.write ≠ .ok q) ∧ ¬ SameAnswers D.write D'.write := by
  intro fields D D'
  have hD : D.Numeric := by simp [D, Pod.managedDocument, fields, Number.Valid]
  have hD' : D'.Numeric := by simp [D', Pod.managedDocument, fields, Number.Valid]
  have hdecode : Pod.decode D.write = .ok (Pod.managedPod fields) :=
    Pod.decode_write_of_ofJson? hD rfl
  have hfails : ∀ q, Pod.decode D'.write ≠ .ok q := by
    intro q hq
    have hread := Pod.decode_write hD'
    rw [hq] at hread
    cases hread
  have hdistinct : D.document.Distinct := by
    simp [D, Pod.managedDocument, fields, document, documentMembers, documentItems,
      Entries.Distinct, Document.Distinct.number, Document.Distinct.text, embeddingKey]
  exact ⟨hdistinct, alike_managedDocument (.swap _ _ _), (spells_write hD).hasText,
    (spells_write hD').hasText, hdecode, hfails,
    fun hsame => hfails _ ((hsame.decode _).1 hdecode)⟩

end PodAdmission

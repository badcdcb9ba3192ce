import PodAdmission.Proofs.Pod.Document
import PodAdmission.Proofs.Schema.Reread

/-!
# Pods written and read again

A pod that was read is the same, to the second, once it is written and read again, just if no free
value in it is `null` and every one can be read back from its text: it is not nested too deep, and
no object in it starts with the key that marks a document in a text.
-/

namespace PodAdmission.Pod

open Datum Json Reader Shape

variable {p q : Pod} {text : Bytes}

/-- The value stands in the pod where any value may stand, behind as many brackets. -/
def HasFree (p : Pod) (n : Nat) (j : Json) : Prop :=
  (Datum.record p.fields).Contains n (.free j)

/-- The instant stands in the pod. -/
def HasTime (p : Pod) (t : Instant) : Prop :=
  ∃ n, (Datum.record p.fields).Contains n (.time t)

/-- The pod with its instants to the second. -/
def toTheSecond (p : Pod) : Pod :=
  ⟨fieldsToTheSecond p.fields⟩

/-- Written and read again, the pod is the same to the second and has the same text. -/
structure ComesBack (p : Pod) : Prop where
  decode : Pod.decode p.encode = .ok p.toTheSecond
  encode : p.toTheSecond.encode = p.encode
  eq_self : (∀ t, p.HasTime t → t.nanosecond = 0) → p.toTheSecond = p

lemma encode_toTheSecond (p : Pod) : p.toTheSecond.encode = p.encode := by
  have h := toJson_toTheSecond (.record p.fields)
  rw [Datum.toTheSecond, Datum.toJson, Datum.toJson] at h
  rw [Pod.encode, Pod.encode, toJson_eq, toJson_eq, members_eq, members_eq, toTheSecond,
    Json.object.inj h]

lemma toTheSecond_eq_self (h : ∀ t, p.HasTime t → t.nanosecond = 0) : p.toTheSecond = p :=
  congrArg Pod.mk (Datum.record.inj (Datum.toTheSecond_eq_self fun n t ht => h t ⟨n, ht⟩))

/-- Every pod that is read is readable again. -/
lemma readable_of_decode (h : Pod.decode text = .ok p) : (Datum.record p.fields).Readable := by
  obtain ⟨rest, hread⟩ := readWhole_ok h
  have hgives : Gives (fun p : Pod => (Datum.record p.fields).Readable) (Pod.read text) := by
    have hpartly := gives_readRecord (P := fun _ d => d.Readable) "Pod" (header "Pod")
      (fun f hf => gives_readable (ordered_of_mem ordered_pod hf)) maxDepth text
    exact hpartly.map (f := fun fields => Pod.mk (complete podFields fields)) fun made hmade =>
      readable_complete (ascending_of_ordered ordered_pod) hmade
  exact hgives p rest hread

lemma written_members (h : p.Sound) : Written (header "Pod") podFields p.fields p.members := by
  have hkind : ∀ f ∈ podFields, "kind" < f.1 := by decide
  refine ⟨(wellFormed_toJson h).ascending, fun {k f} hf => ?_, fun m hm hnone => ?_⟩
  · exact get?_members (hkind _ (Entries.mem_of_get? hf)) p
  · rw [members_eq, List.mem_cons, List.mem_cons] at hm
    rcases hm with rfl | rfl | hm
    · exact ⟨"v1", rfl, rfl⟩
    · exact ⟨"Pod", rfl, rfl⟩
    · rw [fieldsToJson_eq] at hm
      obtain ⟨e, he, rfl⟩ := List.mem_map.1 hm
      have hget := Entries.get?_of_mem h.ascending he
      obtain ⟨f, hf, -⟩ := Holds.given (ascending_of_ordered ordered_pod) h hget
      cases hnone.symm.trans hf

/-- A pod is read back without the free values that are `null`, if the others come back. -/
lemma decode_encode (h : p.Sound) (hreadable : (Datum.record p.fields).Readable)
    (hback : ∀ n j, p.HasFree n j → j.back? (maxDepth - n) = some j) :
    Pod.decode p.encode = .ok ⟨rereadFields p.fields⟩ := by
  have hfields : returnsFields podFields 126 = true := returns_pod
  rw [Pod.encode, decode_write_eq_ok_iff (wellFormed_toJson h), ofJson?_eq_some_iff, toJson_eq]
  exact fullOfJson?_of_written (written_members h) hfields ordered_pod h hreadable hback

/-- If a pod is read back at all, its free values come back. -/
lemma back?_of_decode_encode (h : p.Sound) (hq : Pod.decode p.encode = .ok q) :
    ∀ n j, p.HasFree n j → (j.back? (maxDepth - n)).isSome = true := by
  rw [Pod.encode, decode_write_eq_ok_iff (wellFormed_toJson h), ofJson?_eq_some_iff,
    toJson_eq] at hq
  exact back?_of_fullOfJson? (written_members h) (ascending_of_ordered ordered_pod) h
    (fun f hf d hd => back?_of_ofJson? (ordered_of_mem ordered_pod hf) hd) (hq ▸ rfl)

/-- A pod in which all numbers of free values are whole comes back just if no free value is `null`
and each is recovered from its text. -/
theorem comesBack_iff (h : Pod.decode text = .ok p) (hwhole : ∀ n j, p.HasFree n j → j.Whole) :
    p.ComesBack ↔ ∀ n j, p.HasFree n j → j ≠ .null ∧ j.Recovers (maxDepth - n) := by
  have hsound := sound_of_decode h
  have hreadable := readable_of_decode h
  constructor
  · intro hback n j hj
    have hfree := back?_of_decode_encode hsound hback.decode
    have hsame : ∀ n j, p.HasFree n j → j.back? (maxDepth - n) = some j := fun n j hj =>
      back?_eq_self (hreadable.regular n j hj) (hwhole n j hj) (recovers_iff.2 (hfree n j hj))
    have hread := decode_encode hsound hreadable hsame
    have heq : (Datum.record p.fields).reread = (Datum.record p.fields).toTheSecond :=
      congrArg (fun p : Pod => Datum.record p.fields)
        (Except.ok.inj (hread.symm.trans hback.decode))
    exact ⟨ne_null_of_reread returns_pod rfl ordered_pod hsound heq n j hj,
      recovers_iff.2 (hfree n j hj)⟩
  · intro hfree
    have hsame : ∀ n j, p.HasFree n j → j.back? (maxDepth - n) = some j := fun n j hj =>
      back?_eq_self (hreadable.regular n j hj) (hwhole n j hj) (hfree n j hj).2
    have heq := reread_eq_toTheSecond fun n j hj => (hfree n j hj).1
    refine ⟨?_, encode_toTheSecond p, toTheSecond_eq_self⟩
    rw [decode_encode hsound hreadable hsame]
    exact congrArg (fun d => Except.ok (Pod.mk d)) (Datum.record.inj heq)

/-- A document with the fields that a manager owns. -/
def managedDocument (fields : Entries Json) : Json :=
  .object [("metadata", .object
    [("managedFields", .list [.object [("fieldsV1", .object fields)]])])]

/-- A pod with the fields that a manager owns. -/
def managedPod (fields : Entries Json) : Pod :=
  ⟨[("metadata", .record
    [("managedFields", .list [.record [("fieldsV1", .free (.object fields))]])])]⟩

lemma eq_of_hasFree_managedPod {fields : Entries Json} {n : Nat} {j : Json}
    (h : (managedPod fields).HasFree n j) : n = 4 ∧ j = .object fields := by
  rw [HasFree, managedPod] at h
  cases h with
  | field he h =>
    obtain rfl := List.mem_singleton.1 he
    cases h with
    | field he h =>
      obtain rfl := List.mem_singleton.1 he
      cases h with
      | item hx h =>
        obtain rfl := List.mem_singleton.1 hx
        cases h with
        | field he h =>
          obtain rfl := List.mem_singleton.1 he
          cases h
          exact ⟨rfl, rfl⟩

lemma whole_managedPod {fields : Entries Json} (h : ∀ m ∈ fields, m.2.Whole) {n : Nat} {j : Json}
    (hj : (managedPod fields).HasFree n j) : j.Whole := by
  obtain ⟨rfl, rfl⟩ := eq_of_hasFree_managedPod hj
  intro x hx
  cases hx with
  | member hm hx => exact h _ hm x hx

/-- A pod with a flag and a number in its only free value comes back. -/
theorem comesBack_managedPod :
    let fields := [("a", Json.bool false), ("b", Json.number (.whole 2))]
    Pod.decode (managedDocument fields).write = .ok (managedPod fields) ∧
      (∀ n j, (managedPod fields).HasFree n j → j.Whole) ∧ (managedPod fields).ComesBack := by
  intro fields
  have hdecode : Pod.decode (managedDocument fields).write = .ok (managedPod fields) :=
    decode_write_of_ofJson? (by simp [managedDocument, fields, Number.Valid]) rfl
  have hwhole : ∀ n j, (managedPod fields).HasFree n j → j.Whole := by
    refine fun n j => whole_managedPod fun m hm x hx => ?_
    simp only [fields, List.mem_cons, List.not_mem_nil, or_false] at hm
    rcases hm with rfl | rfl <;> cases hx
  refine ⟨hdecode, hwhole, (comesBack_iff hdecode hwhole).2 fun n j hj => ?_⟩
  obtain ⟨rfl, rfl⟩ := eq_of_hasFree_managedPod hj
  exact ⟨by simp, recovers_iff.2 (by decide +kernel)⟩

/-- A pod whose free value has the key that marks a document in a text behind another key in the
text that the pod is read from, and in front of it in the text that the pod is written as, is not
read again. -/
theorem not_comesBack_managedPod :
    let fields := [(embeddingKey, Json.text "1"), ("b", Json.number (.whole 2))]
    Pod.decode (managedDocument fields.reverse).write = .ok (managedPod fields) ∧
      (∀ n j, (managedPod fields).HasFree n j → j.Whole) ∧
      ∀ q, Pod.decode (managedPod fields).encode ≠ .ok q := by
  intro fields
  refine ⟨decode_write_of_ofJson? (by simp [managedDocument, fields, Number.Valid]) rfl, ?_, ?_⟩
  · refine fun n j => whole_managedPod fun m hm x hx => ?_
    simp only [fields, List.mem_cons, List.not_mem_nil, or_false] at hm
    rcases hm with rfl | rfl <;> cases hx
  · intro q hq
    have hnumeric : (managedPod fields).toJson.Numeric := by
      simp [toJson_eq, members_eq, managedPod, fields, Datum.fieldsToJson, Datum.toJson,
        Datum.itemsToJson, Number.Valid]
    have hread := decode_write hnumeric
    rw [← Pod.encode, hq] at hread
    cases hread

end PodAdmission.Pod

import PodAdmission.Decision
import PodAdmission.Proofs.Review.Place

/-!
# The object under review does not disturb its envelope

An envelope is what stands before and behind the text of the object under review. It is read in the
same way whichever lexical value stands there: what is read differs in the object alone, and that is
the text of the value. So a review whose object is no pod, or is nested too deep to be read, is
answered like any other.
-/

namespace PodAdmission

open Ascii Json Reader Form Slot

/-! ### The object in its request and the request in its review -/

/-- A value that an envelope can hold as its object: lexical UTF-8 and not `null`. -/
structure Embeddable (v : Bytes) : Prop where
  lexical : Lexical v
  utf8 : ∃ s, v = Utf8.encode s
  given : v ≠ nullWord

namespace AdmissionRequest

/-- The request with another object. -/
def withObject (v : Bytes) (r : AdmissionRequest) : AdmissionRequest :=
  { r with object := some v }

lemma keeps_withObject (depth : Nat) (v : Bytes) :
    (AdmissionRequest.form depth).Keeps "object" (withObject v) := by
  intro slot hslot hkey
  simp only [AdmissionRequest.form, List.mem_cons, List.not_mem_nil, or_false] at hslot
  rcases hslot with rfl | rfl | rfl | rfl | rfl | rfl | rfl | rfl | rfl | rfl | rfl | rfl
  · exact keeps_required fun _ _ => rfl
  · exact keeps_required fun _ _ => rfl
  · exact keeps_required fun _ _ => rfl
  · exact keeps_optional fun _ _ => rfl
  · exact keeps_optional fun _ _ => rfl
  · exact keeps_optional fun _ _ => rfl
  · exact keeps_optional fun _ _ => rfl
  · exact keeps_optional fun _ _ => rfl
  · exact keeps_required fun _ _ => rfl
  · exact absurd rfl hkey
  · exact keeps_optional fun _ _ => rfl
  · exact keeps_optional fun _ _ => rfl

/-- The member of a request that holds the object. -/
def objectSlot : Slot AdmissionRequest :=
  .optional "object" readRaw fun r v => { r with object := v }

lemma place_object (depth : Nat) : ∃ later,
    (AdmissionRequest.form depth).Place "object" 9 objectSlot later := by
  refine ⟨_, rfl, rfl, ?_⟩
  decide

/-- The text of an embeddable value is what is read as the object. -/
lemma fills_object :
    Fills objectSlot (fun v : {v // Embeddable v} => v.1) fun v r => r.withObject v.1 := by
  refine .inl fun ⟨v, hv⟩ r => ?_
  obtain ⟨s, rfl⟩ := hv.utf8
  have hread := (reads_readOptional settles_readRaw hv.lexical hv.given).taken_eq
  rw [(reads_readRaw_encode hv.lexical).taken_eq] at hread
  rw [objectSlot, taken_optional, hread]
  rfl

/-- A request is read in the same way whichever value is its object. -/
lemma exists_reads {pre post : Bytes} (h : Under "object" 9 pre post) (depth : Nat) :
    ∃ o : Option AdmissionRequest, ∀ v, Embeddable v →
      Reads (AdmissionRequest.read (depth + 1)) (pre ++ (v ++ post)) (o.map (withObject v)) := by
  obtain ⟨later, hplace⟩ := place_object depth
  obtain ⟨o, ho⟩ := exists_reads_under h (AdmissionRequest.settled depth) hplace
    (fun v : {v // Embeddable v} => v.2.lexical) fills_object
    fun v => keeps_withObject depth v.1
  exact ⟨o, fun v hv => ho ⟨v, hv⟩⟩

end AdmissionRequest

namespace AdmissionReview

/-- The review with another request. -/
def withRequest (request : AdmissionRequest) (r : AdmissionReview) : AdmissionReview :=
  { r with request := some request }

lemma keeps_withRequest (depth : Nat) (request : AdmissionRequest) :
    (AdmissionReview.form depth).Keeps "request" (withRequest request) := by
  intro slot hslot hkey
  simp only [AdmissionReview.form, List.mem_cons, List.not_mem_nil, or_false] at hslot
  rcases hslot with rfl | rfl | rfl | rfl
  · exact keeps_required fun _ _ => rfl
  · exact keeps_required fun _ _ => rfl
  · exact absurd rfl hkey
  · exact keeps_optional fun _ _ => rfl

/-- The member of a review that holds the request. -/
def requestSlot (depth : Nat) : Slot AdmissionReview :=
  .optional "request" (AdmissionRequest.read depth) fun r v => { r with request := v }

lemma place_request (depth : Nat) : ∃ later,
    (AdmissionReview.form depth).Place "request" 2 (requestSlot depth) later := by
  refine ⟨_, rfl, rfl, fun slot hslot => ?_⟩
  rw [List.mem_singleton.1 hslot]
  exact (by decide : "response" ≠ "request")

/-- What stands before and behind the object in the text of a review. -/
inductive Envelope : (pre post : Bytes) → Prop where
  | mk {w pre pre' post' post w' : Bytes} (hw : Blank w) (hrequest : Under "request" 2 pre post)
      (hobject : Under "object" 9 pre' post') (hw' : Blank w') :
      Envelope (w ++ (pre ++ pre')) (post' ++ (post ++ w'))

/-- Whatever the object, its request is read into the review, or no request is. -/
lemma exists_fills_request {pre post : Bytes} (h : Under "object" 9 pre post) (depth : Nat) :
    ∃ request : AdmissionRequest, Fills (requestSlot (depth + 1))
      (fun v : {v // Embeddable v} => pre ++ (v.1 ++ post))
      fun v => withRequest (request.withObject v.1) := by
  obtain ⟨o, ho⟩ := AdmissionRequest.exists_reads h depth
  have hread (v : {v // Embeddable v}) (r : AdmissionReview) :
      taken ((requestSlot (depth + 1)).read r) (pre ++ (v.1 ++ post)) =
        o.map fun request => r.withRequest (request.withObject v.1) := by
    obtain ⟨hlexical, hne⟩ := h.lexical v.2.lexical
    have hread := reads_readOptional (AdmissionRequest.settles_read (depth + 1)) hlexical hne
    rw [requestSlot, taken_optional, hread.taken_eq, (ho v.1 v.2).taken_eq, Option.map_map,
      Option.map_map]
    rfl
  cases o with
  | none => exact ⟨.blank, .inr fun v r => hread v r⟩
  | some request => exact ⟨request, .inl fun v r => hread v r⟩

/-- The text of a review is read in the same way whichever value is the object. -/
theorem exists_decode {pre post : Bytes} (h : Envelope pre post) :
    ∃ o : Option (AdmissionReview × AdmissionRequest), ∀ v, Embeddable v →
      (decode (pre ++ (v ++ post))).toOption =
        o.map fun read => read.1.withRequest (read.2.withObject v) := by
  cases h with
  | @mk w pre pre' post' post w' hw hrequest hobject hw' =>
    obtain ⟨request, hfills⟩ := exists_fills_request hobject 125
    obtain ⟨later, hplace⟩ := place_request 126
    obtain ⟨o, ho⟩ := exists_reads_under hrequest (settled 126) hplace
      (fun v : {v // Embeddable v} => (hobject.lexical v.2.lexical).1) hfills
      fun v => keeps_withRequest 126 (request.withObject v.1)
    refine ⟨o.map fun review => (review, request), fun v hv => ?_⟩
    have hdelimited := delimited_blank hw' delimited_nil
    rw [List.append_nil] at hdelimited
    have hread : Yields
        (Form.read form maxDepth (w ++ (pre ++ (pre' ++ (v ++ post') ++ post) ++ w')))
        (o.map (withRequest (request.withObject v))) w' := ho ⟨v, hv⟩ w w' hw hdelimited
    have hassoc : w ++ (pre ++ pre') ++ (v ++ (post' ++ (post ++ w'))) =
        w ++ (pre ++ (pre' ++ (v ++ post') ++ post) ++ w') := by
      simp
    rw [hassoc, decode, yields_readWhole hw' hread, Option.map_map]
    rfl

lemma decode_eq_ok_iff {bytes : Bytes} {review : AdmissionReview} :
    decode bytes = .ok review ↔ (decode bytes).toOption = some review := by
  cases decode bytes <;> simp [Except.toOption]

/-- An object without members. -/
def emptyObject : Bytes := [openObject, closeObject]

lemma embeddable_emptyObject : Embeddable emptyObject where
  lexical := .object (.close blank_nil)
  utf8 := ⟨"\x7b\x7d", by decide⟩
  given := by decide

/-- Whatever lexical value stands for the object in the text of a review, the review is read just
if it is read with an object without members in its place, and then the two differ in the object
alone. The object under review is the text of the value, and the review is answered under the
identifier of its request, whatever pods the codec makes of that text. -/
theorem decode_isolates_object {pre post v : Bytes} (h : Envelope pre post) (hv : Embeddable v) :
    ((∃ review, decode (pre ++ (v ++ post)) = .ok review) ↔
      ∃ review, decode (pre ++ (emptyObject ++ post)) = .ok review) ∧
    ∀ review, decode (pre ++ (v ++ post)) = .ok review → ∃ request,
      review.request = some request ∧ request.objectText? = some v ∧
      decode (pre ++ (emptyObject ++ post)) =
        .ok { review with request := some { request with object := some emptyObject } } ∧
      ∀ codec P, ∃ response events,
        review.answer codec P =
          .ok (⟨review.apiVersion, review.kind, none, some response⟩, events) ∧
        response.uid = request.uid := by
  obtain ⟨o, ho⟩ := exists_decode h
  cases o with
  | none =>
    have hnone {v : Bytes} (hv : Embeddable v) :
        ¬ ∃ review, decode (pre ++ (v ++ post)) = .ok review := by
      rintro ⟨review, hreview⟩
      cases (ho v hv).symm.trans (decode_eq_ok_iff.1 hreview)
    refine ⟨iff_of_false (hnone hv) (hnone embeddable_emptyObject), fun review hreview => ?_⟩
    exact absurd ⟨review, hreview⟩ (hnone hv)
  | some read =>
    obtain ⟨envelope, request⟩ := read
    have hok {v : Bytes} (hv : Embeddable v) : decode (pre ++ (v ++ post)) =
        .ok (envelope.withRequest (request.withObject v)) := decode_eq_ok_iff.2 (ho v hv)
    have hplain := hok embeddable_emptyObject
    refine ⟨⟨fun _ => ⟨_, hplain⟩, fun _ => ⟨_, hok hv⟩⟩, fun review hreview => ?_⟩
    obtain rfl := Except.ok.inj ((hok hv).symm.trans hreview)
    refine ⟨request.withObject v, rfl, ?_, hplain, fun codec P => ⟨_, _, rfl, rfl⟩⟩
    simp [AdmissionRequest.objectText?, AdmissionRequest.withObject, hv.given]

/-- Whole values behind a member, and the bracket that closes the object around them. -/
def othersOf (others : List (String × Json)) : Bytes :=
  (others.map fun m => memberOf m.1 m.2.write).flatMap (comma :: ·) ++ [closeObject]

/-- The first member of an object stands under its key. -/
lemma under_first (key : String) (index : Nat) {others : List (String × Json)}
    (h : ∀ m ∈ others, m.2.Numeric) :
    Under key index (openObject :: (writeText key ++ [colon])) (othersOf others) := by
  have hparts : Parts closeObject (fun m t => t = memberOf m.1 m.2.write) false others
      (othersOf others) := parts_flatMap fun m _ => rfl
  obtain ⟨after, hafter⟩ : ∃ after, Parts closeObject (Member Lexical.Item) false after
      (othersOf others) := by
    refine hparts.imp fun m hm t ht => ?_
    rw [ht]
    have hspells := spells_write (h m hm)
    exact (keyed_memberOf m.1 hspells).member fun t ht => ⟨t, rfl, ht.lexical⟩
  have hkey : writeText key ++ [colon] =
      [] ++ quote :: ((Utf8.encode key).flatMap escapeByte ++ quote :: ([] ++ colon :: [])) := by
    simp [writeText]
  rw [hkey]
  exact .member (.first blank_nil hafter) (spelled_flatMap (Utf8.encode key)) blank_nil blank_nil

/-- A list of half a character and a number that is out of range. -/
def surrogateList : Bytes :=
  Utf8.encode "[\"\\ud800\",1e999]"

lemma embeddable_surrogateList : Embeddable surrogateList where
  lexical := by
    have hsurrogate : Lexical (quote :: ([backslash, lowerU, 0x64, 0x38, 0x30, 0x30] ++ [quote])) :=
      Lexical.token (.text (.code (by decide) .nil))
    have hrun (ds : Bytes) (h : ds.all isDigit = true) : IsRun ds := List.all_eq_true.1 h
    have hlarge : Lexical ([0x31] ++ [] ++ lowerE :: ([] ++ [0x39, 0x39, 0x39])) :=
      Lexical.token (.number (.mk (.run (by decide) (hrun _ rfl)) .none
        (.some (.inl rfl) .none (hrun _ rfl))))
    have hlist := Lexical.list (.first blank_nil ⟨rfl, hsurrogate⟩
      (.next blank_nil blank_nil ⟨rfl, hlarge⟩ (.close blank_nil)))
    exact hlist
  utf8 := ⟨_, rfl⟩
  given := by decide +kernel

/-- What stands before the object in a review that asks to create a pod. -/
def front : Bytes :=
  openObject :: (writeText "request" ++ [colon]) ++ (openObject :: (writeText "object" ++ [colon]))

/-- What stands behind the object in a review that asks to create a pod. -/
def back : Bytes :=
  othersOf [("uid", .text "u"),
    ("kind", .object [("group", .text ""), ("kind", .text "Pod"), ("version", .text "v1")]),
    ("resource",
      .object [("group", .text ""), ("resource", .text "pods"), ("version", .text "v1")]),
    ("operation", .text "CREATE")] ++
  (othersOf [("apiVersion", .text "admission.k8s.io/v1"), ("kind", .text "AdmissionReview")] ++ [])

lemma envelope_front_back : Envelope front back :=
  .mk blank_nil (under_first "request" 2 (by simp)) (under_first "object" 9 (by simp)) blank_nil

/-- A review of a value that is no pod and cannot even be read is read and answered. -/
theorem decode_isolates_surrogateList :
    Envelope front back ∧ Embeddable surrogateList ∧
      (Pod.decode surrogateList).toOption.isNone = true ∧
      ∃ review request, decode (front ++ (surrogateList ++ back)) = .ok review ∧
        review.request = some request ∧ request.objectText? = some surrogateList ∧
        decode (front ++ (emptyObject ++ back)) =
          .ok { review with request := some { request with object := some emptyObject } } ∧
        ∀ codec P, ∃ response events,
          review.answer codec P =
            .ok (⟨review.apiVersion, review.kind, none, some response⟩, events) ∧
          response.uid = request.uid := by
  obtain ⟨hiff, hreads⟩ := decode_isolates_object envelope_front_back embeddable_surrogateList
  have hplain : (decode (front ++ (emptyObject ++ back))).toOption.isSome = true := by
    decide +kernel
  obtain ⟨plain, hsome⟩ := Option.isSome_iff_exists.1 hplain
  obtain ⟨review, hreview⟩ := hiff.2 ⟨plain, decode_eq_ok_iff.2 hsome⟩
  obtain ⟨request, hall⟩ := hreads review hreview
  exact ⟨envelope_front_back, embeddable_surrogateList, by decide +kernel, review, request, hreview,
    hall⟩

end AdmissionReview

end PodAdmission

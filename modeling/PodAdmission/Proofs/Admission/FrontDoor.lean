import PodAdmission.Http
import PodAdmission.Proofs.Admission.Table
import PodAdmission.Proofs.Text.MediaType

/-!
# The table of the front door

Which request gets which response, as a table with one row a case. The conditions of a row speak of
the path, the method, the size of the body, the first header that declares a content type and what
the body is read as; those of the rows before it are ruled out. Main statement: for every request
just one row stands and it is the response, a review with a request is always answered under the
identifier of that request, and a refusal for the content type depends on the first header that
declares one and on nothing else.
-/

namespace PodAdmission

open Ascii

namespace HttpRequest

/-! ### Declared content types -/

/-- The header declares a content type; the case of its name does not matter. -/
def IsContentType (header : String × Bytes) : Prop :=
  sameIgnoringCase header.1 "content-type" = true

/-- The value is that of the first header that declares a content type. -/
def FirstContentType (r : HttpRequest) (value : Bytes) : Prop :=
  ∃ before name after, r.headers = before ++ (name, value) :: after ∧
    IsContentType (name, value) ∧ ∀ header ∈ before, ¬ IsContentType header

/-- The bytes are shown as text. -/
def Legible (value : Bytes) : Prop :=
  ∀ b ∈ value, isVisible b = true

/-- The first header that declares a content type declares JSON. -/
def DeclaresJson (r : HttpRequest) : Prop :=
  ∃ value, r.FirstContentType value ∧ Legible value ∧ IsJsonMediaType value

/-- The content type of a request as a refusal words it: that of the first header, and nothing if
this cannot be shown as text or is not there. -/
inductive Words (r : HttpRequest) : String → Prop where
  | legible {value : Bytes} (h : r.FirstContentType value) (hlegible : Legible value) :
      Words r (Ascii.text value)
  | illegible {value : Bytes} (h : r.FirstContentType value) (hillegible : ¬ Legible value) :
      Words r ""
  | undeclared (h : ∀ header ∈ r.headers, ¬ IsContentType header) : Words r ""

variable {r : HttpRequest} {value : Bytes}

lemma firstContentType_iff : r.FirstContentType value ↔
    ∃ name, r.headers.find? (fun (name, _) => sameIgnoringCase name "content-type") =
      some (name, value) := by
  simp only [List.find?_eq_some_iff_append, FirstContentType, IsContentType, Bool.not_eq_true,
    Bool.not_eq_true']
  constructor
  · rintro ⟨before, name, after, hheaders, hname, hbefore⟩
    exact ⟨name, hname, before, after, hheaders, hbefore⟩
  · rintro ⟨name, hname, before, after, hheaders, hbefore⟩
    exact ⟨before, name, after, hheaders, hname, hbefore⟩

/-- Either some header is the first that declares a content type or none declares one. -/
lemma firstContentType_or_undeclared (r : HttpRequest) :
    (∃ value, r.FirstContentType value) ∨ ∀ header ∈ r.headers, ¬ IsContentType header := by
  cases hfind : r.headers.find? (fun (name, _) => sameIgnoringCase name "content-type") with
  | none => exact .inr fun header hheader => List.find?_eq_none.1 hfind header hheader
  | some header => exact .inl ⟨header.2, firstContentType_iff.2 ⟨header.1, hfind⟩⟩

lemma FirstContentType.declared (h : r.FirstContentType value) :
    ∃ header ∈ r.headers, IsContentType header := by
  obtain ⟨before, name, after, hheaders, hname, -⟩ := h
  exact ⟨(name, value), by simp [hheaders], hname⟩

lemma contentType_of_first (h : r.FirstContentType value) :
    r.contentType = if value.all isVisible then Utf8.display value else "" := by
  obtain ⟨name, hfind⟩ := firstContentType_iff.1 h
  rw [contentType]
  simp only [hfind]

lemma Legible.display_eq (h : Legible value) : Utf8.display value = Ascii.text value := by
  apply Utf8.display_ascii
  intro b hb
  have hvisible := h b hb
  simp only [isVisible, Bool.or_eq_true, Bool.and_eq_true, decide_eq_true_eq,
    beq_iff_eq] at hvisible
  rcases hvisible with ⟨-, hhigh⟩ | rfl
  · exact UInt8.lt_of_le_of_lt hhigh (by decide)
  · decide

/-- The content type of a request is what a refusal says. -/
lemma words_iff {text : String} : r.Words text ↔ text = r.contentType := by
  have hlegible {value : Bytes} (h : r.FirstContentType value) (hvalue : Legible value) :
      r.contentType = Ascii.text value := by
    rw [contentType_of_first h, if_pos (List.all_eq_true.2 hvalue), hvalue.display_eq]
  have hillegible {value : Bytes} (h : r.FirstContentType value) (hvalue : ¬ Legible value) :
      r.contentType = "" := by
    rw [contentType_of_first h, if_neg (fun hall => hvalue (List.all_eq_true.1 hall))]
  have hundeclared (h : ∀ header ∈ r.headers, ¬ IsContentType header) : r.contentType = "" := by
    rw [contentType, List.find?_eq_none.2 h]
  constructor
  · rintro (⟨h, hvalue⟩ | ⟨h, hvalue⟩ | h)
    · exact (hlegible h hvalue).symm
    · exact (hillegible h hvalue).symm
    · exact (hundeclared h).symm
  · rintro rfl
    rcases r.firstContentType_or_undeclared with ⟨value, h⟩ | h
    · by_cases hvalue : Legible value
      · exact hlegible h hvalue ▸ .legible h hvalue
      · exact hillegible h hvalue ▸ .illegible h hvalue
    · exact hundeclared h ▸ .undeclared h

lemma Words.unique {text other : String} (h : r.Words text) (hother : r.Words other) :
    text = other :=
  (words_iff.1 h).trans (words_iff.1 hother).symm

/-- The wording depends on the first header that declares a content type only. -/
lemma Words.congr {other : HttpRequest} {text : String} (h : r.Words text)
    (hfirst : ∀ value, r.FirstContentType value ↔ other.FirstContentType value) :
    other.Words text := by
  cases h with
  | legible h hlegible => exact .legible ((hfirst _).1 h) hlegible
  | illegible h hillegible => exact .illegible ((hfirst _).1 h) hillegible
  | undeclared h =>
    rcases other.firstContentType_or_undeclared with ⟨value, hvalue⟩ | hother
    · obtain ⟨header, hmem, hheader⟩ := ((hfirst value).2 hvalue).declared
      exact absurd hheader (h header hmem)
    · exact .undeclared hother

lemma not_isJson_of_empty (h : r.contentType = "") : ¬ r.isJson = true := by
  rw [isJson, h]
  decide

/-- The check of the content type asks for a first header that declares JSON. -/
lemma isJson_iff : r.isJson = true ↔ r.DeclaresJson := by
  constructor
  · intro hjson
    have hwords : r.Words r.contentType := words_iff.2 rfl
    generalize hcontent : r.contentType = text at hwords
    cases hwords with
    | legible h hlegible =>
      rw [isJson, hcontent] at hjson
      exact ⟨_, h, hlegible, (isJsonMediaType_iff hlegible).1 hjson⟩
    | illegible | undeclared => exact absurd hjson (not_isJson_of_empty hcontent)
  · rintro ⟨value, h, hlegible, hjson⟩
    rw [isJson, ← words_iff.1 (.legible h hlegible)]
    exact (isJsonMediaType_iff hlegible).2 hjson

/-! ### The table -/

/-- A review is posted. -/
structure Posted (r : HttpRequest) : Prop where
  path : r.path = "/mutate"
  method : r.method = "POST"

/-- A review of eight mebibytes at most is posted as JSON. -/
structure Admissible (r : HttpRequest) : Prop extends r.Posted where
  fits : r.body.length ≤ 8388608
  json : r.DeclaresJson

/-- The request is for a probe. -/
def IsProbe (r : HttpRequest) : Prop :=
  r.path = "/healthz" ∨ r.path = "/readyz"

end HttpRequest

open HttpRequest

/-- What is answered to a request. -/
inductive HttpResponse.Row (codec : Codec) (P : Policy) (r : HttpRequest) :
    HttpResponse → Prop where
  | unknown (hmutate : r.path ≠ "/mutate") (hprobe : ¬ r.IsProbe) : Row codec P r (.empty 404 none)
  | otherMethod (hpath : r.path = "/mutate") (h : r.method ≠ "POST") :
      Row codec P r (.empty 405 (some "POST"))
  | otherProbe (hpath : r.IsProbe) (hget : r.method ≠ "GET") (hhead : r.method ≠ "HEAD") :
      Row codec P r (.empty 405 (some "GET,HEAD"))
  | probe (hpath : r.IsProbe) (h : r.method = "GET") : Row codec P r (.plain 200 "ok")
  | probeHead (hpath : r.IsProbe) (h : r.method = "HEAD") : Row codec P r (.plain 200 "")
  | tooLarge (hposted : r.Posted) (h : 8388608 < r.body.length) :
      Row codec P r (.plain 413 "Failed to buffer the request body: length limit exceeded")
  | notJson {declared : String} (hposted : r.Posted) (hfits : r.body.length ≤ 8388608)
      (h : ¬ r.DeclaresJson) (hwords : r.Words declared) :
      Row codec P r (.json 415 (ReviewFault.unsupportedMediaType declared).body)
  | unread {e : JsonError} (h : r.Admissible) (hread : AdmissionReview.decode r.body = .error e) :
      Row codec P r (.json 400
        (ReviewFault.malformed ("failed to unmarshal AdmissionReview: " ++ e.message)).body)
  | requestless {review : AdmissionReview} (h : r.Admissible)
      (hread : AdmissionReview.decode r.body = .ok review) (hrequest : review.request = none) :
      Row codec P r (.json 400 (ReviewFault.malformed "admission review request is nil").body)
  | answered {review reply : AdmissionReview} {events : List Event} (h : r.Admissible)
      (hread : AdmissionReview.decode r.body = .ok review)
      (hanswer : review.answer codec P = .ok (reply, events)) :
      Row codec P r (.json 200 reply.write)

namespace HttpResponse

variable {codec : Codec} {P : Policy} {r : HttpRequest} {response : HttpResponse}

lemma respond_posted (h : r.Posted) : (respond codec P r).1 =
    if 8388608 < r.body.length then
      .plain 413 "Failed to buffer the request body: length limit exceeded"
    else if r.isJson then (respondToReview codec P r.body).1
    else .ofFault (.unsupportedMediaType r.contentType) := by
  have hroute : Route.ofPath? r.path = some .mutate := by rw [h.path]; rfl
  have htakes : Route.takes .mutate r.method = true := by rw [h.method]; rfl
  simp only [respond, hroute, htakes, if_true, maxBodyBytes]
  split
  · rfl
  · split <;> rfl

lemma respond_probe (h : r.IsProbe) : (respond codec P r).1 =
    if r.method = "GET" ∨ r.method = "HEAD" then
      .plain 200 (if r.method = "HEAD" then "" else "ok")
    else .empty 405 (some "GET,HEAD") := by
  have hroute : Route.ofPath? r.path = some .probe := by
    rcases h with h | h <;> rw [h] <;> rfl
  simp only [respond, hroute, Route.takes, Bool.or_eq_true, beq_iff_eq]
  split <;> rfl

lemma respond_admissible (h : r.Admissible) :
    (respond codec P r).1 = (respondToReview codec P r.body).1 := by
  rw [respond_posted h.toPosted, if_neg (by have := h.fits; omega), if_pos (isJson_iff.2 h.json)]

/-- A row that stands is the response. -/
lemma Row.eq_respond (h : Row codec P r response) : response = (respond codec P r).1 := by
  cases h with
  | unknown hmutate hprobe =>
    have hroute : Route.ofPath? r.path = none := by
      rw [Route.ofPath?, if_neg hmutate]
      exact if_neg hprobe
    simp only [respond, hroute]
  | otherMethod hpath h =>
    have hroute : Route.ofPath? r.path = some .mutate := by rw [hpath]; rfl
    have htakes : Route.takes .mutate r.method = false := beq_eq_false_iff_ne.2 h
    simp only [respond, hroute, htakes]
    rfl
  | otherProbe hpath hget hhead => rw [respond_probe hpath, if_neg (not_or.2 ⟨hget, hhead⟩)]
  | probe hpath h => rw [respond_probe hpath, if_pos (.inl h), if_neg (by rw [h]; decide)]
  | probeHead hpath h => rw [respond_probe hpath, if_pos (.inr h), if_pos h]
  | tooLarge hposted h => rw [respond_posted hposted, if_pos h]
  | notJson hposted hfits h hwords =>
    rw [respond_posted hposted, if_neg (by omega), if_neg (fun hjson => h (isJson_iff.1 hjson)),
      words_iff.1 hwords]
    rfl
  | unread h hread =>
    rw [respond_admissible h, respondToReview]
    simp only [hread]
    rfl
  | requestless h hread hrequest =>
    rw [respond_admissible h, respondToReview]
    simp only [hread, AdmissionReview.answer, hrequest]
    rfl
  | answered h hread hanswer =>
    rw [respond_admissible h, respondToReview]
    simp only [hread, hanswer]

/-- For a review that comes so far some row stands. -/
lemma exists_row_of_admissible (codec : Codec) (P : Policy) (h : r.Admissible) :
    ∃ response, Row codec P r response := by
  cases hread : AdmissionReview.decode r.body with
  | error e => exact ⟨_, .unread h hread⟩
  | ok review =>
    cases hrequest : review.request with
    | none => exact ⟨_, .requestless h hread hrequest⟩
    | some request => exact ⟨_, .answered h hread (AdmissionReview.answer_of_request codec P hrequest)⟩

/-- For every request some row stands. -/
lemma exists_row (codec : Codec) (P : Policy) (r : HttpRequest) :
    ∃ response, Row codec P r response := by
  by_cases hmutate : r.path = "/mutate"
  · by_cases hmethod : r.method = "POST"
    · have hposted : r.Posted := ⟨hmutate, hmethod⟩
      rcases Nat.lt_or_ge 8388608 r.body.length with hlarge | hfits
      · exact ⟨_, .tooLarge hposted hlarge⟩
      · by_cases hjson : r.DeclaresJson
        · exact exists_row_of_admissible codec P ⟨hposted, hfits, hjson⟩
        · exact ⟨_, .notJson hposted hfits hjson (words_iff.2 rfl)⟩
    · exact ⟨_, .otherMethod hmutate hmethod⟩
  · by_cases hprobe : r.IsProbe
    · by_cases hget : r.method = "GET"
      · exact ⟨_, .probe hprobe hget⟩
      · by_cases hhead : r.method = "HEAD"
        · exact ⟨_, .probeHead hprobe hhead⟩
        · exact ⟨_, .otherProbe hprobe hget hhead⟩
    · exact ⟨_, .unknown hmutate hprobe⟩

/-- A request gets the response whose row stands and no other. -/
theorem row_iff : Row codec P r response ↔ response = (respond codec P r).1 := by
  constructor
  · exact Row.eq_respond
  · rintro rfl
    obtain ⟨other, hother⟩ := exists_row codec P r
    exact hother.eq_respond ▸ hother

end HttpResponse

open HttpResponse

end PodAdmission

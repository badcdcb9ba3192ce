import PodAdmission.Pod.Basic
import PodAdmission.Proofs.Schema.Parts

/-!
# Pods and documents

Every pod that is read from a text holds the fields it should (`Pod.Sound`), and a written document
is read as the pod that `Pod.ofJson?` makes of it.
-/

namespace PodAdmission.Pod

open Json Reader Shape

variable {p q : Pod} {D : Json} {key : String} {d : Datum}

/-- The pod belongs to its shape and is written as a well formed value. -/
def Sound (p : Pod) : Prop :=
  Holds (.record "Pod" podFields) (.record p.fields)

lemma Sound.conforms (h : p.Sound) : p.Conforms :=
  h.1

/-- The pod that is read from the text of a document. -/
def ofJson? (D : Json) : Option Pod :=
  (fullOfJson? (header "Pod") podFields maxDepth D).map Pod.mk

lemma ofJson?_eq_some_iff :
    ofJson? D = some p ↔ fullOfJson? (header "Pod") podFields maxDepth D = some p.fields := by
  constructor
  · intro h
    obtain ⟨fields, hfields, rfl⟩ := Option.map_eq_some_iff.1 h
    exact hfields
  · intro h
    rw [ofJson?, h]
    rfl

/-- What is read of a document, free values being read as given. -/
def ofDocument? (free : FreeReading) (D : Document) : Option Pod :=
  (D.record? (header "Pod") (fieldsOfDocument? free podFields) maxDepth).map fun given =>
    ⟨complete podFields given⟩

/-- The text of a document is read as the pod that it holds. -/
theorem decode_text {D : Document} {text : Bytes} (h : D.HasText text) :
    (Pod.decode text).toOption = ofDocument? (Document.value? (some Json.read)) D := by
  have hrecord := agrees_readRecord "Pod" (header "Pod")
    (fieldsAgree fun f (_ : f ∈ podFields) depth => Shape.agrees_read f.2.2 depth) maxDepth
  exact (hrecord.map fun given => Pod.mk (complete podFields given)).readWhole h

lemma ofDocument?_document (D : Json) :
    ofDocument? (Document.value? (some Json.read)) D.document = ofJson? D := by
  rw [ofDocument?, record?_document fun f _ depth j => Shape.ofDocument?_document f.2.2 depth j,
    ofJson?, fullOfJson?, Option.map_map]
  rfl

/-- A written document is read as the pod that it holds. -/
theorem decode_write (hD : D.Numeric) : (Pod.decode D.write).toOption = ofJson? D := by
  rw [decode_text (spells_write hD).hasText, ofDocument?_document]

/-- The order of members does not have to be the one in which values keep them. -/
lemma decode_write_of_ofJson? (hD : D.Numeric) (h : ofJson? D = some p) :
    Pod.decode D.write = .ok p := by
  rw [← decode_write hD] at h
  cases hdecode : Pod.decode D.write with
  | error e =>
    rw [hdecode] at h
    cases h
  | ok q =>
    rw [hdecode] at h
    rw [Option.some.inj h]

lemma decode_write_eq_ok_iff (hD : D.WellFormed) :
    Pod.decode D.write = .ok p ↔ ofJson? D = some p := by
  refine ⟨fun h => ?_, decode_write_of_ofJson? hD.numeric⟩
  rw [← decode_write hD.numeric, h]
  rfl

/-- Every pod that is read is sound. -/
theorem sound_of_decode {text : Bytes} (h : Pod.decode text = .ok p) : p.Sound := by
  obtain ⟨rest, hread⟩ := readWhole_ok h
  have hgives : Gives Sound (Pod.read text) := by
    have hpartly := gives_readRecord "Pod" (header "Pod")
      (fun f hf => gives_read (ordered_of_mem ordered_pod hf)) maxDepth text
    exact hpartly.map (f := fun fields => Pod.mk (complete podFields fields)) fun made hmade =>
      holds_completed ordered_pod hmade
  exact hgives p rest hread

/-! ### Written pods -/

/-- The members of the object that a pod is written as. -/
def members (p : Pod) : Entries Json :=
  (header "Pod").map (fun (k, v) => (k, .text v)) ++ Datum.fieldsToJson p.fields

lemma toJson_eq (p : Pod) : p.toJson = .object p.members := rfl

lemma members_eq (p : Pod) :
    p.members = ("apiVersion", .text "v1") :: ("kind", .text "Pod") ::
      Datum.fieldsToJson p.fields := rfl

lemma kind_lt_of_mem (h : p.Sound) {e : String × Datum} (he : e ∈ p.fields) : "kind" < e.1 := by
  obtain ⟨f, hf, heq⟩ := h.1.2.1 e he
  have hfields : ∀ f ∈ podFields, "kind" < f.1 := by decide
  rw [← heq]
  exact hfields f hf

lemma wellFormed_toJson (h : p.Sound) : p.toJson.WellFormed := by
  have hfields := h.2
  rw [Datum.toJson] at hfields
  have hkeys : ∀ m ∈ Datum.fieldsToJson p.fields, "kind" < m.1 := by
    intro m hm
    rw [fieldsToJson_eq] at hm
    obtain ⟨e, he, rfl⟩ := List.mem_map.1 hm
    exact kind_lt_of_mem h he
  have hheader : "apiVersion" < "kind" := by decide
  rw [toJson_eq, members_eq]
  refine WellFormed.object ?_ ?_
  · refine List.pairwise_cons.2 ⟨fun m hm => ?_,
      List.pairwise_cons.2 ⟨fun m hm => hkeys m hm, hfields.ascending⟩⟩
    rcases List.mem_cons.1 hm with rfl | hm
    · exact hheader
    · exact String.lt_trans hheader (hkeys m hm)
  · rw [List.forall_mem_cons, List.forall_mem_cons]
    exact ⟨WellFormed.text _, WellFormed.text _, hfields.members⟩

lemma unreserved_members (p : Pod) : Unreserved p.members := by
  intro m hm
  obtain rfl := Option.some.inj hm
  decide

lemma back?_toJson (p : Pod) :
    p.toJson.back? maxDepth = (backMembers? 126 p.members).map .object :=
  back?_object 126 (unreserved_members p)

lemma get?_members (h : "kind" < key) (p : Pod) :
    Entries.get? key p.members = (Entries.get? key p.fields).map Datum.toJson := by
  have hkind : "kind" ≠ key := fun heq => String.lt_irrefl key (heq ▸ h)
  have hversion : "apiVersion" ≠ key := fun heq =>
    String.lt_irrefl key (String.lt_trans (heq ▸ (by decide : "apiVersion" < "kind")) h)
  rw [members_eq, Entries.get?, if_neg hversion, Entries.get?, if_neg hkind,
    Datum.get?_fieldsToJson]

lemma members_insert (h : "kind" < key) (d : Datum) (p : Pod) :
    (Pod.mk (Entries.insert key d p.fields)).members =
      Entries.insert key d.toJson p.members := by
  have hversion : "apiVersion" < key := String.lt_trans (by decide) h
  have hskip {k : String} (hk : k < key) : k ≠ key ∧ ¬ key < k :=
    ⟨fun heq => String.lt_irrefl key (heq ▸ hk),
      fun hlt => String.lt_irrefl key (String.lt_trans hlt hk)⟩
  rw [members_eq, members_eq, Entries.insert, if_neg (hskip hversion).1, if_neg (hskip hversion).2,
    Entries.insert, if_neg (hskip h).1, if_neg (hskip h).2, Datum.fieldsToJson_insert]

/-! ### Parts of pods -/

lemma Sound.metadata (h : p.Sound) : ∃ r, Entries.get? "metadata" p.fields = some (.record r) ∧
    Holds objectMeta (.record r) := by
  have hfield : Entries.get? "metadata" podFields = some (.required, objectMeta) := rfl
  obtain ⟨d, hd, hholds⟩ := h.required hfield
  obtain ⟨r, rfl⟩ := hholds.record
  exact ⟨r, hd, hholds⟩

lemma metadata_eq {m : Record} (hm : Entries.get? "metadata" p.fields = some (.record m)) :
    p.metadata = m := by
  rw [metadata, Record.record?, hm]
  rfl

lemma spec?_eq {spec : Record} (hspec : Entries.get? "spec" p.fields = some (.record spec)) :
    p.spec? = some spec := by
  rw [spec?, Record.record?, hspec]
  rfl

lemma Sound.spec (h : p.Sound) (hd : Entries.get? "spec" p.fields = some d) :
    ∃ r, d = .record r ∧ Holds podSpec (.record r) := by
  have hfield : Entries.get? "spec" podFields = some (.optional, podSpec) := rfl
  have hholds := h.field hfield hd
  obtain ⟨r, rfl⟩ := hholds.record
  exact ⟨r, rfl, hholds⟩

lemma exists_records {ds : List Datum} (h : ∀ d ∈ ds, ∃ r, d = .record r) :
    ∃ rs : List Record, ds = rs.map .record := by
  induction ds with
  | nil => exact ⟨[], rfl⟩
  | cons d ds ih =>
    obtain ⟨⟨r, rfl⟩, hrest⟩ := List.forall_mem_cons.1 h
    obtain ⟨rs, rfl⟩ := ih hrest
    exact ⟨r :: rs, rfl⟩

lemma filterMap_asRecord? (rs : List Record) :
    (rs.map Datum.record).filterMap Datum.asRecord? = rs := by
  rw [List.filterMap_map]
  exact List.filterMap_some

/-- The containers of a specification, and of a pod that has it. -/
lemma Sound.containers (h : p.Sound) {spec : Record}
    (hspec : Entries.get? "spec" p.fields = some (.record spec)) :
    ∃ cs : List Record, Entries.get? "containers" spec = some (.list (cs.map .record)) ∧
      p.containers = cs.map Container.mk ∧ ∀ c ∈ cs, Holds container (.record c) := by
  obtain ⟨r, heq, hholds⟩ := h.spec hspec
  obtain rfl := Datum.record.inj heq
  obtain ⟨d, hd, hlist⟩ : ∃ d, Entries.get? "containers" spec = some d ∧
      Holds (.list container) d := hholds.required rfl
  obtain ⟨ds, rfl, hds⟩ := hlist.list
  obtain ⟨cs, rfl⟩ := exists_records fun d hd => (hds d hd).record
  refine ⟨cs, hd, ?_, fun c hc => hds _ (List.mem_map_of_mem hc)⟩
  rw [Pod.containers, containersIn, spec?_eq hspec, Option.bind_some, Record.list?, hd]
  simp only [Option.bind_some, Datum.asList?]
  rw [filterMap_asRecord?]

end PodAdmission.Pod

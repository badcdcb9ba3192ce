import PodAdmission.Proofs.Json.Restoring
import PodAdmission.Proofs.Schema.Reread
import PodAdmission.Review.Codec

/-!
# Statuses read back

There is no instant and no free value in a status, so nothing of it is lost when it is written and
read again. Every status that is read, and that of every rejection, holds the fields it should.
-/

namespace PodAdmission

open Json Reader Datum Shape

/-! ### Data without instants and free values -/

namespace Shape

mutual

/-- There are no instants and no free values in data of the shape. -/
def isPlain : Shape → Bool
  | .time => false
  | .free => false
  | .list item => isPlain item
  | .dict item => isPlain item
  | .record _ fields => arePlain fields
  | _ => true

/-- The same for the fields of a record. -/
def arePlain : List (String × Presence × Shape) → Bool
  | [] => true
  | (_, _, shape) :: rest => isPlain shape && arePlain rest

end

variable {s : Shape} {d : Datum}

lemma isPlain_of_mem {fields : List (String × Presence × Shape)} (h : arePlain fields = true)
    {f : String × Presence × Shape} (hf : f ∈ fields) : isPlain f.2.2 = true := by
  induction fields with
  | nil => cases hf
  | cons g fields ih =>
    obtain ⟨name, presence, shape⟩ := g
    rw [arePlain, Bool.and_eq_true] at h
    rcases List.mem_cons.1 hf with rfl | hf
    · exact h.1
    · exact ih h.2 hf

/-- What stands in a plain datum is no instant and no free value. -/
def Lasting (d : Datum) : Prop :=
  ∀ n x, d.Contains n x → (∀ t, x ≠ .time t) ∧ ∀ j, x ≠ .free j

lemma lasting_text (s : String) : Lasting (.text s) := by
  intro n x hx
  cases hx
  exact ⟨by simp, by simp⟩

lemma lasting_flag (b : Bool) : Lasting (.flag b) := by
  intro n x hx
  cases hx
  exact ⟨by simp, by simp⟩

lemma lasting_whole (n : Int) : Lasting (.whole n) := by
  intro m x hx
  cases hx
  exact ⟨by simp, by simp⟩

lemma lasting_list {items : List Datum} (h : ∀ d ∈ items, Lasting d) : Lasting (.list items) := by
  intro n x hx
  cases hx with
  | self => exact ⟨by simp, by simp⟩
  | item hmem hx => exact h _ hmem _ x hx

lemma lasting_record {r : Record} (h : ∀ e ∈ r, Lasting e.2) : Lasting (.record r) := by
  intro n x hx
  cases hx with
  | self => exact ⟨by simp, by simp⟩
  | field hmem hx => exact h _ hmem _ x hx

theorem lasting_of_isPlain (hplain : isPlain s = true) (hordered : ordered s = true)
    (hd : Holds s d) : Lasting d := by
  induction s generalizing d with
  | list item ih =>
    obtain ⟨ds, rfl, hds⟩ := hd.list
    rw [isPlain] at hplain
    rw [ordered] at hordered
    exact lasting_list fun d hmem => ih hplain hordered (hds d hmem)
  | dict item ih =>
    obtain ⟨r, rfl⟩ := hd.dict
    have ha : Entries.Ascending r := hd.1.1
    rw [isPlain] at hplain
    rw [ordered] at hordered
    exact lasting_record fun e hmem => ih hplain hordered (hd.entry (Entries.get?_of_mem ha hmem))
  | record name fields ih =>
    obtain ⟨r, rfl⟩ := hd.record
    have ha := ascending_of_ordered hordered
    rw [isPlain] at hplain
    refine lasting_record fun e hmem => ?_
    obtain ⟨f, hf, hfield⟩ := hd.given ha (Entries.get?_of_mem hd.ascending hmem)
    have hmem := Entries.mem_of_get? hf
    exact ih _ hmem (isPlain_of_mem hplain hmem) (ordered_of_mem hordered hmem) hfield
  | time => cases hplain
  | free => cases hplain
  | _ =>
    cases d with
    | text t => exact lasting_text t
    | flag b => exact lasting_flag b
    | whole n => exact lasting_whole n
    | _ => exact absurd hd.1 (by simp [Fits])

/-- A lasting datum comes back as it is. -/
lemma Lasting.reread_eq (h : Lasting d) : d.reread = d := by
  rw [reread_eq_toTheSecond fun n j hj => absurd rfl ((h n _ hj).2 j),
    toTheSecond_eq_self fun n t ht => absurd rfl ((h n _ ht).1 t)]

lemma Lasting.readable (h : Lasting d) : d.Readable :=
  ⟨fun n t ht => absurd rfl ((h n _ ht).1 t), fun n j hj => absurd rfl ((h n _ hj).2 j)⟩

end Shape

/-! ### Statuses -/

namespace Status

variable {s : Status} {depth : Nat}

/-- The status belongs to its shape and is written as a well formed value. -/
def Sound (s : Status) : Prop :=
  Holds (.record "Status" statusFields) (.record s.fields)

lemma ordered_status : ordered (.record "Status" statusFields) = true := by
  decide +kernel

lemma lasting_of_sound (h : s.Sound) : Lasting (.record s.fields) :=
  lasting_of_isPlain (by decide +kernel) ordered_status h

/-- A status is sound once the fields that it lacks are filled in. -/
lemma sound_complete {made : Record} (h : Partly Holds statusFields made) :
    Sound ⟨complete statusFields made⟩ :=
  holds_completed ordered_status h

/-- The status of a rejection is sound. -/
lemma sound_failure (reason : Reason) (message : String) : (failure reason message).Sound := by
  have hcode : IsInt32 reason.code := by cases reason <;> decide
  have htext (s : String) : Holds .text (.text s) := ⟨trivial, WellFormed.text s⟩
  have hgiven : Partly Holds statusFields [("code", .whole reason.code),
      ("message", .text message), ("reason", .text reason.name), ("status", .text "Failure")] := by
    have hkeys : ["code", "message", "reason", "status"].Pairwise (· < ·) := by decide
    refine ⟨(Entries.ascending_iff_map_fst _).2 hkeys, ?_⟩
    simp only [List.forall_mem_cons]
    exact ⟨⟨_, rfl, holds_int32 hcode⟩, ⟨_, rfl, htext _⟩, ⟨_, rfl, htext _⟩, ⟨_, rfl, htext _⟩,
      nofun⟩
  exact sound_complete hgiven

/-- Every status that is read is sound. -/
lemma gives_read (depth : Nat) (bytes : Bytes) : Gives Sound (Status.read depth bytes) := by
  have hpartly := gives_readRecord "Status" (header "Status")
    (fun f hf => Shape.gives_read (ordered_of_mem ordered_status hf)) depth bytes
  exact hpartly.map (f := fun fields => Status.mk (complete statusFields fields)) fun _ hmade =>
    sound_complete hmade

/-- The members in front of the fields are passed over. -/
lemma fullOfJson?_toJson (s : Status) :
    fullOfJson? (header "Status") statusFields (depth + 1) s.toJson =
      fullOfJson? (header "Status") statusFields (depth + 1) (.object (fieldsToJson s.fields)) := by
  rfl

lemma numeric_toJson (h : s.Sound) : s.toJson.Numeric := by
  have hfields : (Json.object (fieldsToJson s.fields)).Numeric := h.2.numeric
  rw [numeric_object_iff] at hfields
  rw [toJson, numeric_object_iff]
  intro m hm
  rcases List.mem_append.1 hm with hm | hm
  · obtain ⟨e, -, rfl⟩ := List.mem_map.1 hm
    exact numeric_text e.2
  · exact hfields m hm

/-- A sound status is restored from what is written of it. -/
theorem restores_read (h : s.Sound)
    (hreturns : returns (.record "Status" statusFields) depth = true) :
    Restores (Status.read depth) s.toJson.write s := by
  obtain ⟨below, rfl, hfields⟩ := returns_record hreturns
  have ha := ascending_of_ordered ordered_status
  have hlasting := lasting_of_sound h
  have hfull : fullOfJson? (header "Status") statusFields (below + 1) s.toJson = some s.fields := by
    rw [fullOfJson?_toJson, fullOfJson?_of_written (written_fieldsToJson ha h) hfields
      ordered_status h hlasting.readable (fun n j hj => absurd rfl ((hlasting n _ hj).2 j))]
    exact congrArg some (Datum.record.inj hlasting.reread_eq)
  have hagrees := (agrees_readRecord "Status" (header "Status")
    (fieldsAgree fun f (_ : f ∈ statusFields) depth => Shape.agrees_read f.2.2 depth)
    (below + 1)).map fun given => Status.mk (complete statusFields given)
  refine restores_of_agrees hagrees (spells_write (numeric_toJson h)) ?_ ?_
  · simp [toJson, document_object]
  · rw [record?_document fun f _ depth j => Shape.ofDocument?_document f.2.2 depth j]
    obtain ⟨given, hgiven, heq⟩ := Option.map_eq_some_iff.1 hfull
    rw [hgiven, Option.map_some, heq]

end Status

end PodAdmission

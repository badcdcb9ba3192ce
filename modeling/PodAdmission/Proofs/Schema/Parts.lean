import PodAdmission.Proofs.Schema.FieldChange

/-!
# Parts of data

What a datum of a shape consists of.
-/

namespace PodAdmission.Shape

open Json

variable {name key : String} {fields : List (String × Presence × Shape)} {presence : Presence}
  {s item : Shape} {r : Record} {d : Datum}

/-! ### Data that belong to a shape -/

lemma Fits.text (h : Fits .text d) : ∃ t, d = .text t := by
  cases d with
  | text t => exact ⟨t, rfl⟩
  | _ => exact absurd h (by simp [Fits])

lemma Fits.list (h : Fits (.list item) d) : ∃ ds, d = .list ds ∧ ∀ e ∈ ds, Fits item e := by
  cases d with
  | list ds =>
    rw [Fits] at h
    exact ⟨ds, rfl, h⟩
  | _ => exact absurd h (by simp [Fits])

lemma Fits.texts (h : Fits (.list .text) d) : ∃ ts, d = Shape.texts ts := by
  obtain ⟨ds, rfl, hds⟩ := h.list
  clear h
  induction ds with
  | nil => exact ⟨[], rfl⟩
  | cons e ds ih =>
    obtain ⟨he, hrest⟩ := List.forall_mem_cons.1 hds
    obtain ⟨t, rfl⟩ := he.text
    obtain ⟨ts, hts⟩ := ih hrest
    exact ⟨t :: ts, by rw [Datum.list.inj hts, Shape.texts, List.map_cons]⟩

lemma fits_texts (ts : List String) : Fits (.list .text) (Shape.texts ts) := by
  rw [Shape.texts, Fits]
  intro d hd
  obtain ⟨t, -, rfl⟩ := List.mem_map.1 hd
  trivial

lemma Fits.dict (h : Fits (.dict item) d) : ∃ r, d = .record r := by
  cases d with
  | record r => exact ⟨r, rfl⟩
  | _ => exact absurd h (by simp [Fits])

lemma Fits.record (h : Fits (.record name fields) d) : ∃ r, d = .record r := by
  cases d with
  | record r => exact ⟨r, rfl⟩
  | _ => exact absurd h (by simp [Fits])

/-- What is in a field belongs to the shape of the field. -/
lemma Fits.field (h : (Shape.record name fields).Fits (.record r))
    (hfield : Entries.get? key fields = some (presence, s)) (hd : Entries.get? key r = some d) :
    s.Fits d := by
  have hfits := fitsFields_iff.1 h.2.2 _ (Entries.mem_of_get? hfield)
  simp only [hd] at hfits
  exact hfits

/-- A required field is there. -/
lemma Fits.required (h : (Shape.record name fields).Fits (.record r))
    (hfield : Entries.get? key fields = some (.required, s)) :
    ∃ d, Entries.get? key r = some d ∧ s.Fits d := by
  cases hd : Entries.get? key r with
  | some d => exact ⟨d, rfl, h.field hfield hd⟩
  | none =>
    have hfits := fitsFields_iff.1 h.2.2 _ (Entries.mem_of_get? hfield)
    simp only [hd] at hfits
    cases hfits

/-- The shape of a field has its field names in ascending order, too. -/
lemma ordered_field (key : String) (h : ordered (.record name fields) = true)
    (hfield : Entries.get? key fields = some (presence, s)) : ordered s = true :=
  ordered_of_mem h (Entries.mem_of_get? hfield)

/-- A field may be set to whatever belongs to its shape. -/
lemma Fits.insert (hordered : ordered (.record name fields) = true)
    (h : (Shape.record name fields).Fits (.record r)) (key : String)
    (hfield : Entries.get? key fields = some (presence, s)) (hd : s.Fits d) :
    (Shape.record name fields).Fits (.record (Entries.insert key d r)) := by
  refine ⟨Entries.ascending_insert key d h.1, fun e he => ?_, fitsFields_iff.2 fun f hf => ?_⟩
  · rcases Entries.mem_insert he with rfl | he
    · exact ⟨_, Entries.mem_of_get? hfield, rfl⟩
    · exact h.2.1 e he
  · rw [Entries.get?_insert]
    split_ifs with hkey
    · have hf' := Entries.get?_of_mem (ascending_of_ordered hordered) hf
      rw [hkey, hfield] at hf'
      obtain rfl := (Prod.mk.inj (Option.some.inj hf')).2
      exact hd
    · exact fitsFields_iff.1 h.2.2 f hf

/-- An entry may be set to whatever belongs to the shape of the entries. -/
lemma Fits.insert_entry (h : (Shape.dict item).Fits (.record r)) (key : String)
    (hd : item.Fits d) : (Shape.dict item).Fits (.record (Entries.insert key d r)) := by
  rw [Fits] at h ⊢
  refine ⟨Entries.ascending_insert key d h.1, fun e he => ?_⟩
  rcases Entries.mem_insert he with rfl | he
  · exact hd
  · exact h.2 e he

/-! ### Data that are written alike -/

/-- Equal objects in which fields of records are written have what is written alike in them. -/
lemma get?_of_sameMembers {r' : Record} {d' : Datum} {xs ys : Entries Json}
    (h : sameMembers xs ys = true)
    (hxs : Entries.get? key xs = (Entries.get? key r).map Datum.toJson)
    (hys : Entries.get? key ys = (Entries.get? key r').map Datum.toJson)
    (hd' : Entries.get? key r' = some d') :
    ∃ d, Entries.get? key r = some d ∧ d.toJson.same d'.toJson = true := by
  rcases Patch.get?_of_sameMembers h key with ⟨-, hnone⟩ | ⟨x, y, hx, hy, hsame⟩
  · rw [hys, hd'] at hnone
    cases hnone
  · rw [hys, hd'] at hy
    rw [hxs] at hx
    obtain ⟨d, hd, rfl⟩ := Option.map_eq_some_iff.1 hx
    obtain rfl := Option.some.inj hy
    exact ⟨d, hd, hsame⟩

/-- Records that are written alike have in every field what is written alike. -/
lemma get?_of_same {r' : Record} {d' : Datum}
    (h : (Datum.record r).toJson.same (Datum.record r').toJson = true)
    (hd' : Entries.get? key r' = some d') :
    ∃ d, Entries.get? key r = some d ∧ d.toJson.same d'.toJson = true := by
  rw [Datum.toJson, Datum.toJson] at h
  exact get?_of_sameMembers h (Datum.get?_fieldsToJson _ _) (Datum.get?_fieldsToJson _ _) hd'

lemma forall₂_of_same {ds es : List Datum}
    (h : (Datum.list ds).toJson.same (Datum.list es).toJson = true) :
    List.Forall₂ (fun d e => d.toJson.same e.toJson = true) ds es := by
  rw [Datum.toJson, Datum.toJson, itemsToJson_eq, itemsToJson_eq, same] at h
  induction ds generalizing es with
  | nil =>
    cases es with
    | nil => exact .nil
    | cons e es => cases h
  | cons d ds ih =>
    cases es with
    | nil => cases h
    | cons e es =>
      rw [List.map_cons, List.map_cons, sameItems, Bool.and_eq_true] at h
      exact .cons h.1 (ih h.2)

/-! ### Data that are written well formed -/

lemma Holds.text (h : Holds .text d) : ∃ t, d = .text t :=
  h.1.text

lemma Holds.list (h : Holds (.list item) d) : ∃ ds, d = .list ds ∧ ∀ e ∈ ds, Holds item e := by
  obtain ⟨ds, rfl, hds⟩ := h.1.list
  refine ⟨ds, rfl, fun e he => ⟨hds e he, ?_⟩⟩
  have hwf := h.2
  rw [Datum.toJson, itemsToJson_eq] at hwf
  exact hwf.items _ (List.mem_map_of_mem he)

lemma Holds.texts (h : Holds (.list .text) d) : ∃ ts, d = Shape.texts ts :=
  h.1.texts

lemma Holds.dict (h : Holds (.dict item) d) : ∃ r, d = .record r :=
  h.1.dict

lemma Holds.record (h : Holds (.record name fields) d) : ∃ r, d = .record r :=
  h.1.record

lemma Holds.ascending (h : Holds (.record name fields) (.record r)) : Entries.Ascending r :=
  h.1.1

lemma Holds.entry (h : Holds (.dict item) (.record r)) (hd : Entries.get? key r = some d) :
    Holds item d := by
  have hmem := Entries.mem_of_get? hd
  have hfits := h.1
  rw [Fits] at hfits
  refine ⟨hfits.2 _ hmem, ?_⟩
  have hwf := h.2
  rw [Datum.toJson, fieldsToJson_eq] at hwf
  exact hwf.members _ (List.mem_map_of_mem hmem)

lemma Holds.field (h : Holds (.record name fields) (.record r))
    (hfield : Entries.get? key fields = some (presence, s)) (hd : Entries.get? key r = some d) :
    Holds s d := by
  refine ⟨h.1.field hfield hd, ?_⟩
  have hwf := h.2
  rw [Datum.toJson, fieldsToJson_eq] at hwf
  exact hwf.members _ (List.mem_map_of_mem (Entries.mem_of_get? hd))

lemma Holds.required (h : Holds (.record name fields) (.record r))
    (hfield : Entries.get? key fields = some (.required, s)) :
    ∃ d, Entries.get? key r = some d ∧ Holds s d := by
  obtain ⟨d, hd, -⟩ := h.1.required hfield
  exact ⟨d, hd, h.field hfield hd⟩

end PodAdmission.Shape

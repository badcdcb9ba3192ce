import PodAdmission.Proofs.Json.Answers
import PodAdmission.Pod.Shape.Whole
import PodAdmission.Proofs.Schema.Fields

/-!
# What readers answer

Whatever the text is, a datum that is read against a shape belongs to the shape and is written as a
well formed value. The shapes have their field names in ascending order, so that a name leads to
one field.
-/

namespace PodAdmission

open Ascii Json Reader

namespace Shape

/-! ### Order of field names -/

mutual

/-- The fields of every record come in ascending order of names. -/
def ordered : Shape → Bool
  | .list item => ordered item
  | .dict item => ordered item
  | .record _ fields => ((fields.map Prod.fst).Pairwise (· < ·) : Bool) && orderedFields fields
  | _ => true

/-- The shapes of some fields have their field names in ascending order. -/
def orderedFields : List (String × Presence × Shape) → Bool
  | [] => true
  | (_, _, shape) :: rest => ordered shape && orderedFields rest

end

lemma orderedFields_iff {fields : List (String × Presence × Shape)} :
    orderedFields fields = true ↔ ∀ f ∈ fields, ordered f.2.2 = true := by
  induction fields with
  | nil => simp [orderedFields]
  | cons e fields ih =>
    obtain ⟨name, presence, shape⟩ := e
    rw [orderedFields, Bool.and_eq_true, ih, List.forall_mem_cons]

lemma ordered_of_mem {name : String} {fields : List (String × Presence × Shape)}
    (h : ordered (.record name fields) = true) {f : String × Presence × Shape} (hf : f ∈ fields) :
    ordered f.2.2 = true := by
  rw [ordered, Bool.and_eq_true] at h
  exact orderedFields_iff.1 h.2 f hf

lemma ascending_of_ordered {name : String} {fields : List (String × Presence × Shape)}
    (h : ordered (.record name fields) = true) : Entries.Ascending fields := by
  rw [ordered, Bool.and_eq_true, decide_eq_true_eq] at h
  exact (Entries.ascending_iff_map_fst fields).2 h.1

set_option maxRecDepth 4000 in
/-- The fields of pods are in ascending order of names. -/
lemma ordered_pod : ordered (.record "Pod" podFields) = true := by
  decide +kernel

/-! ### Data of a shape -/

/-- The datum belongs to the shape and is written as a well formed value. -/
def Holds (s : Shape) (d : Datum) : Prop :=
  s.Fits d ∧ d.toJson.WellFormed

lemma itemsToJson_eq (items : List Datum) :
    Datum.itemsToJson items = items.map Datum.toJson := by
  induction items with
  | nil => rfl
  | cons d items ih => rw [Datum.itemsToJson, ih, List.map_cons]

lemma fieldsToJson_eq (fields : Record) :
    Datum.fieldsToJson fields = fields.map fun e => (e.1, e.2.toJson) := by
  induction fields with
  | nil => rfl
  | cons e fields ih => rw [Datum.fieldsToJson, ih, List.map_cons]

lemma wellFormed_list {items : List Datum} (h : ∀ d ∈ items, d.toJson.WellFormed) :
    (Datum.list items).toJson.WellFormed := by
  rw [Datum.toJson, itemsToJson_eq]
  apply WellFormed.list
  intro x hx
  obtain ⟨d, hd, rfl⟩ := List.mem_map.1 hx
  exact h d hd

lemma wellFormed_record {entries : Record} (ha : Entries.Ascending entries)
    (h : ∀ e ∈ entries, e.2.toJson.WellFormed) : (Datum.record entries).toJson.WellFormed := by
  rw [Datum.toJson, fieldsToJson_eq]
  refine WellFormed.object ?_ fun m hm => ?_
  · rw [Entries.ascending_iff_map_fst, List.map_map]
    exact (Entries.ascending_iff_map_fst entries).1 ha
  · obtain ⟨e, he, rfl⟩ := List.mem_map.1 hm
    exact h e he

lemma holds_list {item : Shape} {items : List Datum} (h : ∀ d ∈ items, Holds item d) :
    Holds (.list item) (.list items) :=
  ⟨fun d hd => (h d hd).1, wellFormed_list fun d hd => (h d hd).2⟩

lemma holds_dict {item : Shape} {entries : Record} (ha : Entries.Ascending entries)
    (h : ∀ e ∈ entries, Holds item e.2) : Holds (.dict item) (.record entries) :=
  ⟨⟨ha, fun e he => (h e he).1⟩, wellFormed_record ha fun e he => (h e he).2⟩

lemma fitsFields_iff {fields : List (String × Presence × Shape)} {entries : Record} :
    FitsFields fields entries ↔ ∀ f ∈ fields,
      match Entries.get? f.1 entries with
      | some d => f.2.2.Fits d
      | none => f.2.1 = .optional := by
  induction fields with
  | nil => simp [FitsFields]
  | cons f fields ih =>
    obtain ⟨name, presence, shape⟩ := f
    rw [FitsFields]
    constructor
    · rintro ⟨hfirst, hrest⟩
      exact List.forall_mem_cons.2 ⟨hfirst, ih.1 hrest⟩
    · intro h
      exact ⟨h _ List.mem_cons_self, ih.2 fun f hf => h f (List.mem_cons_of_mem _ hf)⟩

/-- What has been read of a record so far, each field being as its shape wants it. -/
def Partly (P : Shape → Datum → Prop) (fields : List (String × Presence × Shape))
    (made : Record) : Prop :=
  Entries.Ascending made ∧ ∀ e ∈ made, ∃ f, Entries.get? e.1 fields = some f ∧ P f.2 e.2

/-! ### Defaults -/

lemma mem_defaults {fields : List (String × Presence × Shape)} {e : String × Datum}
    (h : e ∈ defaults fields) :
    ∃ shape, (e.1, Presence.required, shape) ∈ fields ∧ e.2 = default shape := by
  induction fields with
  | nil => cases h
  | cons f fields ih =>
    obtain ⟨name, presence, shape⟩ := f
    cases presence with
    | required =>
      rw [defaults] at h
      rcases List.mem_cons.1 h with rfl | h
      · exact ⟨shape, List.mem_cons_self, rfl⟩
      · obtain ⟨s, hs, heq⟩ := ih h
        exact ⟨s, List.mem_cons_of_mem _ hs, heq⟩
    | optional =>
      rw [defaults] at h
      obtain ⟨s, hs, heq⟩ := ih h
      exact ⟨s, List.mem_cons_of_mem _ hs, heq⟩

lemma mem_defaults_of_required {fields : List (String × Presence × Shape)}
    {f : String × Presence × Shape} (hf : f ∈ fields) (hp : f.2.1 = .required) :
    (f.1, default f.2.2) ∈ defaults fields := by
  induction fields with
  | nil => cases hf
  | cons e fields ih =>
    obtain ⟨name, presence, shape⟩ := e
    rcases List.mem_cons.1 hf with rfl | htail
    · obtain rfl : presence = .required := hp
      exact List.mem_cons_self
    · cases presence with
      | required => exact List.mem_cons_of_mem _ (ih htail)
      | optional => exact ih htail

/-- A field that is neither given nor has a default may be left out. -/
lemma presence_of_get?_defaults {fields : List (String × Presence × Shape)}
    {f : String × Presence × Shape} (hf : f ∈ fields)
    (h : Entries.get? f.1 (defaults fields) = none) : f.2.1 = .optional := by
  cases hp : f.2.1 with
  | optional => rfl
  | required =>
    exact absurd rfl (Entries.ne_of_get?_eq_none h (mem_defaults_of_required hf hp))

lemma ascending_defaults {fields : List (String × Presence × Shape)}
    (ha : Entries.Ascending fields) : Entries.Ascending (defaults fields) := by
  induction fields with
  | nil => exact List.Pairwise.nil
  | cons f fields ih =>
    obtain ⟨name, presence, shape⟩ := f
    cases presence with
    | required =>
      refine List.pairwise_cons.2 ⟨fun e he => ?_, ih ha.tail⟩
      obtain ⟨s, hs, -⟩ := mem_defaults he
      exact ha.head_lt hs
    | optional => exact ih ha.tail

/-- The fields that a record is completed with are as their shapes want them if the defaults are. -/
lemma partly_complete {P : Shape → Datum → Prop} {fields : List (String × Presence × Shape)}
    (ha : Entries.Ascending fields) {made : Record} (h : Partly P fields made)
    (hdefault : ∀ f ∈ fields, P f.2.2 (default f.2.2)) :
    Partly P fields (complete fields made) := by
  obtain ⟨hasc, hmade⟩ := h
  have hfull := ascending_complete fields hasc
  refine ⟨hfull, fun e he => ?_⟩
  have hget := Entries.get?_of_mem hfull he
  rw [get?_complete] at hget
  cases hgiven : Entries.get? e.1 made with
  | some d =>
    rw [hgiven] at hget
    obtain rfl := Option.some.inj hget
    exact hmade _ (Entries.mem_of_get? hgiven)
  | none =>
    rw [hgiven] at hget
    obtain ⟨shape, hmem, heq⟩ := mem_defaults (Entries.mem_of_get? hget)
    refine ⟨_, Entries.get?_of_mem ha hmem, ?_⟩
    rw [heq]
    exact hdefault _ hmem

/-- A record that is read so far belongs to its shape once it is completed. -/
lemma holds_complete {name : String} {fields : List (String × Presence × Shape)}
    (ha : Entries.Ascending fields) {made : Record} (h : Partly Holds fields made)
    (hdefault : ∀ f ∈ fields, Holds f.2.2 (default f.2.2)) :
    Holds (.record name fields) (.record (complete fields made)) := by
  obtain ⟨hfull, hentry⟩ := partly_complete ha h hdefault
  refine ⟨⟨hfull, fun e he => ?_, fitsFields_iff.2 fun f hf => ?_⟩,
    wellFormed_record hfull fun e he => ?_⟩
  · obtain ⟨f, hf, -⟩ := hentry e he
    exact ⟨_, Entries.mem_of_get? hf, rfl⟩
  · cases hget : Entries.get? f.1 (complete fields made) with
    | some d =>
      obtain ⟨g, hg, hd⟩ := hentry _ (Entries.mem_of_get? hget)
      rw [Entries.get?_of_mem ha hf] at hg
      obtain rfl := Option.some.inj hg
      exact hd.1
    | none =>
      rw [get?_complete, Option.or_eq_none_iff] at hget
      exact presence_of_get?_defaults hf hget.2
  · obtain ⟨f, -, hd⟩ := hentry e he
    exact hd.2

lemma valid_of_isInt32 {n : Int} (h : IsInt32 n) : (Number.whole n).Valid := by
  obtain ⟨hlow, hhigh⟩ := h
  exact ⟨by omega, by omega⟩

lemma valid_of_isInt64 {n : Int} (h : IsInt64 n) : (Number.whole n).Valid := by
  obtain ⟨hlow, hhigh⟩ := h
  exact ⟨by omega, by omega⟩

lemma holds_int32 {n : Int} (h : IsInt32 n) : Holds .int32 (.whole n) :=
  ⟨h, WellFormed.number (valid_of_isInt32 h)⟩

lemma holds_int64 {n : Int} (h : IsInt64 n) : Holds .int64 (.whole n) :=
  ⟨h, WellFormed.number (valid_of_isInt64 h)⟩

lemma holds_intOrText {n : Int} (h : IsInt32 n) : Holds .intOrText (.whole n) :=
  ⟨h, WellFormed.number (valid_of_isInt32 h)⟩

/-- The default of a shape belongs to it. -/
lemma holds_default {s : Shape} (h : ordered s = true) : Holds s (default s) := by
  induction s with
  | text => exact ⟨trivial, WellFormed.text ""⟩
  | flag => exact ⟨trivial, WellFormed.bool false⟩
  | int32 => exact holds_int32 (by decide)
  | int64 => exact holds_int64 (by decide)
  | intOrText => exact holds_intOrText (by decide)
  | time => exact ⟨trivial, WellFormed.text _⟩
  | free => exact ⟨trivial, WellFormed.null⟩
  | list item ih => exact holds_list fun d hd => absurd hd List.not_mem_nil
  | dict item ih => exact holds_dict List.Pairwise.nil fun e he => absurd he List.not_mem_nil
  | record name fields ih =>
    have ha := ascending_of_ordered h
    have hfull : Holds (.record name fields) (.record (complete fields [])) :=
      holds_complete ha ⟨List.Pairwise.nil, fun e he => nomatch he⟩
        fun f hf => ih f hf (ordered_of_mem h hf)
    have heq : complete fields [] = defaults fields :=
      Entries.ext (ascending_complete fields List.Pairwise.nil) (ascending_defaults ha) fun k => by
        rw [get?_complete]
        rfl
    rwa [heq] at hfull

/-- What is read of a record belongs to its shape once the defaults are filled in. -/
lemma holds_completed {name : String} {fields : List (String × Presence × Shape)} {made : Record}
    (h : ordered (.record name fields) = true) (hmade : Partly Holds fields made) :
    Holds (.record name fields) (.record (complete fields made)) :=
  holds_complete (ascending_of_ordered h) hmade fun _ hf => holds_default (ordered_of_mem h hf)

/-! ### Readers -/

lemma gives_readAs {α : Type} {P : α → Prop} (wanted : String) {accept : Json → Except Cause α}
    (h : ∀ j a, j.WellFormed → accept j = .ok a → P a) (bytes : Bytes) :
    Gives P (readAs wanted accept bytes) := by
  unfold readAs
  split
  · exact gives_error _
  · split_ifs
    · exact gives_error _
    · exact gives_error _
    · split
      · exact gives_error _
      · rename_i value rest hvalue
        split
        · rename_i a ha
          exact gives_ok (h value a (gives_readLeaf _ _ _ _ hvalue) ha) _
        · exact gives_error _

lemma gives_refuse {α : Type} {P : α → Prop} (wanted : String) (bytes : Bytes) :
    Gives P (readAs wanted (refuse wanted) bytes) :=
  gives_readAs wanted (fun j a _ h => by cases h) bytes

lemma gives_readList {α : Type} {P : α → Prop} {item : Nat → Bytes → Read α}
    (h : ∀ depth bytes, Gives P (item depth bytes)) (depth : Nat) (bytes : Bytes) :
    Gives (fun xs => ∀ x ∈ xs, P x) (readList item depth bytes) := by
  unfold readList
  split
  · exact gives_error _
  · split
    · split
      · exact gives_error _
      · exact gives_readItems (h _) true (fun x hx => absurd hx List.not_mem_nil) _ _
    · exact gives_refuse _ _

lemma gives_readDict {P : Datum → Prop} {item : Nat → Bytes → Read Datum}
    (h : ∀ depth bytes, Gives P (item depth bytes)) (depth : Nat) (bytes : Bytes) :
    Gives (fun d => ∃ made, d = .record made ∧ Entries.Ascending made ∧ ∀ e ∈ made, P e.2)
      (readDict item depth bytes) := by
  have hmember (depth : Nat) (made : Record) (key : String) (bytes : Bytes)
      (hmade : Entries.Ascending made ∧ ∀ e ∈ made, P e.2) :
      Gives (fun made : Record => Entries.Ascending made ∧ ∀ e ∈ made, P e.2)
        (addMember (item depth) made key bytes) := by
    intro made' rest hadd
    obtain ⟨d, start, hd, rfl⟩ := addMember_ok hadd
    refine ⟨Entries.ascending_insert key d hmade.1, fun e he => ?_⟩
    rcases Entries.mem_insert he with rfl | he
    · exact h _ _ _ _ hd
    · exact hmade.2 e he
  unfold readDict
  split
  · exact gives_error _
  · split
    · split
      · exact gives_error _
      · exact (gives_readMembers (hmember _) true
          ⟨List.Pairwise.nil, fun e he => absurd he List.not_mem_nil⟩ _ _).map
          fun made hmade => ⟨made, rfl, hmade⟩
    · exact gives_refuse _ _

lemma gives_readOptional {α : Type} {P : α → Prop} {read : Bytes → Read α}
    (h : ∀ bytes, Gives P (read bytes)) (bytes : Bytes) :
    Gives (fun o => ∀ a, o = some a → P a) (readOptional read bytes) := by
  unfold readOptional
  split
  · exact (h []).map fun a ha b hb => Option.some.inj hb ▸ ha
  · split
    · rename_i rest _ _
      cases readWord nullWord.tail rest with
      | error fault => exact gives_error _
      | ok r => exact gives_ok (P := fun o => ∀ a, o = some a → P a) (fun a ha => by cases ha) r
    · exact (h _).map fun a ha b hb => Option.some.inj hb ▸ ha

section Partly

variable {P : Shape → Datum → Prop} {fields : List (String × Presence × Shape)} {made : Record}

lemma Partly.erase (h : Partly P fields made) (key : String) :
    Partly P fields (Entries.erase key made) :=
  ⟨Entries.ascending_erase key h.1, fun e he => h.2 e (Entries.mem_of_mem_erase he)⟩

lemma Partly.insert (h : Partly P fields made) {key : String} {f : Presence × Shape}
    (hf : Entries.get? key fields = some f) {d : Datum} (hd : P f.2 d) :
    Partly P fields (Entries.insert key d made) := by
  refine ⟨Entries.ascending_insert key d h.1, ?_⟩
  intro e he
  rcases Entries.mem_insert he with rfl | he
  · exact ⟨f, hf, hd⟩
  · exact h.2 e he

lemma gives_readField (fixed : List (String × String)) {depth : Nat}
    (h : ∀ f ∈ fields, ∀ bytes, Gives (P f.2.2) (f.2.2.read depth bytes))
    (hmade : Partly P fields made) (key : String) (bytes : Bytes) :
    Gives (Partly P fields) (readField fixed (readers fields depth) made key bytes) := by
  intro made' rest hread
  obtain ⟨behind, -, hfield⟩ := fieldRead_of_ok hread
  cases hfield with
  | given hreader hd =>
    rw [get?_readers] at hreader
    obtain ⟨f, hkey, rfl⟩ := Option.map_eq_some_iff.1 hreader
    exact hmade.insert hkey
      (gives_readOptional (h _ (Entries.mem_of_get? hkey)) _ _ _ hd _ rfl)
  | null => exact hmade.erase key
  | fixed => exact hmade
  | other => exact hmade

lemma gives_readRecord (name : String) (fixed : List (String × String))
    (h : ∀ f ∈ fields, ∀ depth bytes, Gives (P f.2.2) (f.2.2.read depth bytes)) (depth : Nat)
    (bytes : Bytes) :
    Gives (Partly P fields) (readRecord name fixed (readers fields) depth bytes) := by
  unfold readRecord
  split
  · exact gives_error _
  · split
    · split
      · exact gives_error _
      · exact gives_readMembers (fun made key bytes hmade =>
          gives_readField fixed (fun f hf bytes => h f hf _ bytes) hmade key bytes) true
          ⟨List.Pairwise.nil, fun e he => absurd he List.not_mem_nil⟩ _ _
    · split
      · split <;> exact gives_error _
      · exact gives_refuse _ _

end Partly

lemma gives_readInt32 (depth : Nat) (bytes : Bytes) :
    Gives (Holds .int32) (Shape.int32.read depth bytes) := by
  refine gives_readAs _ (fun j d hj hd => ?_) _
  unfold acceptInt32 at hd
  split at hd
  · split_ifs at hd with hn
    obtain rfl := Except.ok.inj hd
    exact holds_int32 hn
  · cases hd

lemma gives_readInt64 (depth : Nat) (bytes : Bytes) :
    Gives (Holds .int64) (Shape.int64.read depth bytes) := by
  refine gives_readAs _ (fun j d hj hd => ?_) _
  unfold acceptInt64 at hd
  split at hd
  · split_ifs at hd with hn
    obtain rfl := Except.ok.inj hd
    exact holds_int64 hn
  · cases hd

lemma gives_readIntOrText (depth : Nat) (bytes : Bytes) :
    Gives (Holds .intOrText) (Shape.intOrText.read depth bytes) := by
  have haccept (j : Json) (d : Datum) (_ : j.WellFormed) (hd : acceptIntOrText j = .ok d) :
      Holds .intOrText d := by
    unfold acceptIntOrText at hd
    split at hd
    · obtain rfl := Except.ok.inj hd
      exact ⟨trivial, WellFormed.text _⟩
    · split_ifs at hd with hn
      obtain rfl := Except.ok.inj hd
      exact holds_intOrText hn
    · cases hd
  rw [read]
  unfold readIntOrText
  split
  · exact gives_error _
  · split
    · split
      · exact gives_error _
      · split <;> exact gives_error _
    · exact gives_readAs _ haccept _

lemma gives_readTime (depth : Nat) (bytes : Bytes) :
    Gives (Holds .time) (Shape.time.read depth bytes) := by
  refine gives_readAs _ (fun j d hj hd => ?_) _
  unfold acceptTime at hd
  split at hd
  · split at hd
    · obtain rfl := Except.ok.inj hd
      exact ⟨trivial, WellFormed.text _⟩
    · cases hd
  · cases hd

/-- Whatever is read against a shape belongs to it. -/
theorem gives_read {s : Shape} (h : ordered s = true) (depth : Nat) (bytes : Bytes) :
    Gives (Holds s) (s.read depth bytes) := by
  induction s generalizing depth bytes with
  | text =>
    refine Gives.map (P := fun _ => True) ?_ fun s _ => ⟨trivial, WellFormed.text s⟩
    exact gives_readAs _ (fun _ _ _ _ => trivial) _
  | flag =>
    refine Gives.map (P := fun _ => True) ?_ fun b _ => ⟨trivial, WellFormed.bool b⟩
    exact gives_readAs _ (fun _ _ _ _ => trivial) _
  | int32 => exact gives_readInt32 depth bytes
  | int64 => exact gives_readInt64 depth bytes
  | intOrText => exact gives_readIntOrText depth bytes
  | time => exact gives_readTime depth bytes
  | free =>
    exact (gives_readValueWith (fun t j ht => regular_of_read ht) depth bytes).map
      fun j hj => ⟨trivial, hj.wellFormed⟩
  | list item ih =>
    rw [ordered] at h
    exact (gives_readList (ih h) depth bytes).map fun ds hds => holds_list hds
  | dict item ih =>
    rw [ordered] at h
    intro d rest hd
    obtain ⟨made, rfl, hmade⟩ := gives_readDict (ih h) depth bytes d rest hd
    exact holds_dict hmade.1 hmade.2
  | record name fields ih =>
    have hpartly :=
      gives_readRecord name [] (fun f hf => ih f hf (ordered_of_mem h hf)) depth bytes
    exact hpartly.map fun made hmade => holds_completed h hmade

end Shape

end PodAdmission

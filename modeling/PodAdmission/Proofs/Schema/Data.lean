import PodAdmission.Proofs.Instant
import PodAdmission.Proofs.Schema.Answers

/-!
# Data written and read again

`Datum.reread` is what comes back of a datum that is written and read again: instants to the
second, and without the fields that hold a free `null`, which reads as if they were left out. If no
free value is `null` it is `Datum.toTheSecond`, and the datum itself if no instant has a fraction
of a second.
-/

namespace PodAdmission

open Json

namespace Datum

/-- What holds of a list if it holds of its items and of a record if it holds of its fields holds
of every datum. -/
@[elab_as_elim, induction_eliminator]
theorem induction {motive : Datum → Prop} (text : ∀ s, motive (.text s))
    (flag : ∀ b, motive (.flag b)) (whole : ∀ n, motive (.whole n)) (time : ∀ t, motive (.time t))
    (free : ∀ j, motive (.free j)) (list : ∀ items, (∀ d ∈ items, motive d) → motive (.list items))
    (record : ∀ fields, (∀ e ∈ fields, motive e.2) → motive (.record fields)) (d : Datum) :
    motive d := by
  refine @Datum.rec motive (fun items => ∀ d ∈ items, motive d)
    (fun fields => ∀ e ∈ fields, motive e.2) (fun e => motive e.2)
    text flag whole time free list record ?_ ?_ ?_ ?_ ?_ d
  · intro d hd
    cases hd
  · intro x items hx hitems d hd
    rcases List.mem_cons.1 hd with rfl | hd
    · exact hx
    · exact hitems d hd
  · intro e he
    cases he
  · intro f fields hf hfields e he
    rcases List.mem_cons.1 he with rfl | he
    · exact hf
    · exact hfields e he
  · intro k d hd
    exact hd

/-- The one datum stands in the other, behind as many brackets. -/
inductive Contains : Datum → Nat → Datum → Prop where
  | self (d : Datum) : Contains d 0 d
  | item {items : List Datum} {x y : Datum} {n : Nat} (hx : x ∈ items) (h : Contains x n y) :
      Contains (.list items) (n + 1) y
  | field {fields : Record} {e : String × Datum} {y : Datum} {n : Nat} (he : e ∈ fields)
      (h : Contains e.2 n y) : Contains (.record fields) (n + 1) y

/-- A free value that is `null`. -/
def isNull : Datum → Bool
  | .free .null => true
  | _ => false

/-- Every free value in the datum is as the predicate says of the depth that is left behind the
brackets around it. -/
def EachFree (P : Nat → Json → Prop) (depth : Nat) (d : Datum) : Prop :=
  ∀ n j, d.Contains n (.free j) → P (depth - n) j

/-! ### What comes back -/

mutual

/-- The datum with its instants to the second. -/
def toTheSecond : Datum → Datum
  | .time t => .time t.toTheSecond
  | .list items => .list (itemsToTheSecond items)
  | .record fields => .record (fieldsToTheSecond fields)
  | d => d

/-- Items with their instants to the second. -/
def itemsToTheSecond : List Datum → List Datum
  | [] => []
  | d :: rest => d.toTheSecond :: itemsToTheSecond rest

/-- Fields with their instants to the second. -/
def fieldsToTheSecond : List (String × Datum) → List (String × Datum)
  | [] => []
  | (k, d) :: rest => (k, d.toTheSecond) :: fieldsToTheSecond rest

end

mutual

/-- What comes back of a datum that is written and read again. -/
def reread : Datum → Datum
  | .time t => .time t.toTheSecond
  | .list items => .list (rereadItems items)
  | .record fields => .record (rereadFields fields)
  | d => d

/-- What comes back of items. -/
def rereadItems : List Datum → List Datum
  | [] => []
  | d :: rest => d.reread :: rereadItems rest

/-- What comes back of fields. -/
def rereadFields : List (String × Datum) → List (String × Datum)
  | [] => []
  | (k, d) :: rest => if d.isNull then rereadFields rest else (k, d.reread) :: rereadFields rest

end

variable {d : Datum} {fields : Record}

section EachFree

variable {P : Nat → Json → Prop} {depth : Nat}

lemma eachFree_free_iff {j : Json} : EachFree P depth (.free j) ↔ P depth j := by
  constructor
  · intro h
    exact h 0 j (.self _)
  · intro h n k hk
    cases hk
    exact h

lemma eachFree_list_iff {items : List Datum} :
    EachFree P (depth + 1) (.list items) ↔ ∀ d ∈ items, EachFree P depth d := by
  constructor
  · intro h d hd n j hj
    rw [← Nat.add_sub_add_right depth 1 n]
    exact h (n + 1) j (.item hd hj)
  · intro h n j hj
    cases hj with
    | item hd hj =>
      rw [Nat.add_sub_add_right]
      exact h _ hd _ j hj

lemma eachFree_record_iff :
    EachFree P (depth + 1) (.record fields) ↔ ∀ e ∈ fields, EachFree P depth e.2 := by
  constructor
  · intro h e he n j hj
    rw [← Nat.add_sub_add_right depth 1 n]
    exact h (n + 1) j (.field he hj)
  · intro h n j hj
    cases hj with
    | field he hj =>
      rw [Nat.add_sub_add_right]
      exact h _ he _ j hj

end EachFree

lemma itemsToTheSecond_eq (items : List Datum) :
    itemsToTheSecond items = items.map toTheSecond := by
  induction items with
  | nil => rfl
  | cons d items ih => rw [itemsToTheSecond, ih, List.map_cons]

lemma fieldsToTheSecond_eq (fields : Record) :
    fieldsToTheSecond fields = fields.map fun e => (e.1, e.2.toTheSecond) := by
  induction fields with
  | nil => rfl
  | cons e fields ih => rw [fieldsToTheSecond, ih, List.map_cons]

lemma rereadItems_eq (items : List Datum) : rereadItems items = items.map reread := by
  induction items with
  | nil => rfl
  | cons d items ih => rw [rereadItems, ih, List.map_cons]

lemma rereadFields_eq (fields : Record) : rereadFields fields =
    (fields.filter fun e => !e.2.isNull).map fun e => (e.1, e.2.reread) := by
  induction fields with
  | nil => rfl
  | cons e fields ih =>
    obtain ⟨k, d⟩ := e
    rw [rereadFields, ih]
    cases hd : d.isNull <;> simp [hd]

lemma isNull_iff : d.isNull = true ↔ d = .free .null := by
  constructor
  · intro h
    rw [isNull.eq_def] at h
    split at h
    · rfl
    · cases h
  · rintro rfl
    rfl

/-- Only a free `null` is written as `null`. -/
lemma toJson_eq_null_iff : d.toJson = .null ↔ d.isNull = true := by
  rw [isNull_iff]
  cases d <;> simp [toJson]

lemma toJson_ne_null (h : d.isNull = false) : d.toJson ≠ .null := by
  rw [ne_eq, toJson_eq_null_iff, h]
  exact Bool.false_ne_true

lemma ascending_rereadFields (h : Entries.Ascending fields) :
    Entries.Ascending (rereadFields fields) := by
  rw [rereadFields_eq, Entries.ascending_iff_map_fst, List.map_map]
  exact (Entries.ascending_iff_map_fst _).1 (h.filter _)

lemma get?_rereadFields (h : Entries.Ascending fields) (k : String) :
    Entries.get? k (rereadFields fields) =
      (Entries.get? k fields).bind fun d => if d.isNull then none else some d.reread := by
  induction fields with
  | nil => rfl
  | cons e fields ih =>
    obtain ⟨l, d⟩ := e
    rw [rereadFields, Entries.get?]
    cases hd : d.isNull with
    | true =>
      rw [if_pos rfl, ih h.tail]
      split_ifs with hk
      · subst hk
        rw [h.get?_tail]
        simp [hd]
      · rfl
    | false =>
      rw [if_neg Bool.false_ne_true, Entries.get?]
      split_ifs with hk
      · simp [hd]
      · exact ih h.tail

/-- The instants do not differ in what is written of them. -/
lemma toJson_toTheSecond (d : Datum) : d.toTheSecond.toJson = d.toJson := by
  induction d with
  | time t => rfl
  | list items ih =>
    rw [toTheSecond, itemsToTheSecond_eq, toJson, toJson, Shape.itemsToJson_eq,
      Shape.itemsToJson_eq, List.map_map]
    exact congrArg Json.list (List.map_congr_left ih)
  | record fields ih =>
    rw [toTheSecond, fieldsToTheSecond_eq, toJson, toJson, Shape.fieldsToJson_eq,
      Shape.fieldsToJson_eq, List.map_map]
    exact congrArg Json.object (List.map_congr_left fun e he => Prod.ext rfl (ih e he))
  | _ => rfl

lemma toTheSecond_eq_self (h : ∀ n t, d.Contains n (.time t) → t.nanosecond = 0) :
    d.toTheSecond = d := by
  induction d with
  | time t => exact congrArg time (Instant.toTheSecond_eq_self (h 0 t (.self _)))
  | list items ih =>
    have hitems : items.map toTheSecond = items.map id :=
      List.map_congr_left fun d hd => ih d hd fun n t ht => h _ t (.item hd ht)
    rw [toTheSecond, itemsToTheSecond_eq, hitems, List.map_id]
  | record fields ih =>
    have hfields : fields.map (fun e => (e.1, e.2.toTheSecond)) = fields.map id :=
      List.map_congr_left fun e he =>
        Prod.ext rfl (ih e he fun n t ht => h _ t (.field he ht))
    rw [toTheSecond, fieldsToTheSecond_eq, hfields, List.map_id]
  | _ => rfl

/-- A datum in which no free value is `null` comes back with its instants to the second. -/
lemma reread_eq_toTheSecond (h : ∀ n j, d.Contains n (.free j) → j ≠ .null) :
    d.reread = d.toTheSecond := by
  induction d with
  | list items ih =>
    rw [reread, toTheSecond, rereadItems_eq, itemsToTheSecond_eq]
    exact congrArg list (List.map_congr_left fun d hd => ih d hd fun n j hj => h _ j (.item hd hj))
  | record fields ih =>
    have hnull : ∀ e ∈ fields, (!e.2.isNull) = true := by
      intro e he
      rw [Bool.not_eq_true', Bool.eq_false_iff]
      intro hnull
      rw [isNull_iff] at hnull
      exact h 1 .null (.field he (hnull ▸ .self _)) rfl
    rw [reread, toTheSecond, rereadFields_eq, fieldsToTheSecond_eq, List.filter_eq_self.2 hnull]
    exact congrArg record (List.map_congr_left fun e he =>
      Prod.ext rfl (ih e he fun n j hj => h _ j (.field he hj)))
  | _ => rfl

/-- If all fields come back, none of them is written as `null`. -/
lemma fields_of_reread (h : rereadFields fields = fieldsToTheSecond fields) :
    ∀ e ∈ fields, e.2.isNull = false ∧ e.2.reread = e.2.toTheSecond := by
  rw [rereadFields_eq, fieldsToTheSecond_eq] at h
  have hlength := congrArg List.length h
  rw [List.length_map, List.length_map, List.length_filter_eq_length_iff] at hlength
  rw [List.filter_eq_self.2 hlength] at h
  intro e he
  refine ⟨by simpa using hlength e he, ?_⟩
  exact congrArg Prod.snd (List.map_inj_left.1 h e he)

/-! ### What is read -/

/-- What every datum that is read is: its instants are days of the calendar, and its free values are
such as are read from documents. -/
structure Readable (d : Datum) : Prop where
  valid : ∀ n t, d.Contains n (.time t) → t.Valid
  regular : ∀ n j, d.Contains n (.free j) → j.Regular

lemma readable_text (s : String) : (text s).Readable :=
  ⟨fun _ _ h => (nomatch h), fun _ _ h => (nomatch h)⟩

lemma readable_flag (b : Bool) : (flag b).Readable :=
  ⟨fun _ _ h => (nomatch h), fun _ _ h => (nomatch h)⟩

lemma readable_whole (n : Int) : (whole n).Readable :=
  ⟨fun _ _ h => (nomatch h), fun _ _ h => (nomatch h)⟩

lemma readable_time {t : Instant} (h : t.Valid) : (time t).Readable := by
  refine ⟨fun n u hu => ?_, fun n j hj => (nomatch hj)⟩
  cases hu
  exact h

lemma readable_free {j : Json} (h : j.Regular) : (free j).Readable := by
  refine ⟨fun n t ht => (nomatch ht), fun n k hk => ?_⟩
  cases hk
  exact h

lemma readable_list {items : List Datum} (h : ∀ d ∈ items, d.Readable) :
    (list items).Readable := by
  constructor
  · intro n t ht
    cases ht with
    | item hd ht => exact (h _ hd).valid _ t ht
  · intro n j hj
    cases hj with
    | item hd hj => exact (h _ hd).regular _ j hj

lemma readable_record (h : ∀ e ∈ fields, e.2.Readable) : (record fields).Readable := by
  constructor
  · intro n t ht
    cases ht with
    | field he ht => exact (h _ he).valid _ t ht
  · intro n j hj
    cases hj with
    | field he hj => exact (h _ he).regular _ j hj

lemma Readable.items {items : List Datum} (h : (list items).Readable) :
    ∀ d ∈ items, d.Readable :=
  fun _ hd => ⟨fun _ t ht => h.valid _ t (.item hd ht), fun _ j hj => h.regular _ j (.item hd hj)⟩

lemma Readable.entries {r : Record} (h : (record r).Readable) : ∀ e ∈ r, e.2.Readable :=
  fun _ he => ⟨fun _ t ht => h.valid _ t (.field he ht), fun _ j hj => h.regular _ j (.field he hj)⟩

end Datum

namespace Shape

open Datum Reader

variable {d : Datum}

lemma readable_default (s : Shape) : (default s).Readable := by
  induction s with
  | text => exact readable_text ""
  | flag => exact readable_flag false
  | int32 => exact readable_whole 0
  | int64 => exact readable_whole 0
  | intOrText => exact readable_whole 0
  | time => exact readable_time (by constructor <;> decide)
  | free => exact readable_free ⟨WellFormed.null, unfolded_leaf trivial⟩
  | list item ih => exact readable_list fun d hd => nomatch hd
  | dict item ih => exact readable_record fun e he => nomatch he
  | record name fields ih =>
    rw [default]
    refine readable_record fun e he => ?_
    obtain ⟨s, hs, heq⟩ := mem_defaults he
    rw [heq]
    exact ih _ hs

lemma readable_complete {fields : List (String × Presence × Shape)} {made : Record}
    (ha : Entries.Ascending fields) (h : Partly (fun _ d => d.Readable) fields made) :
    (Datum.record (complete fields made)).Readable := by
  obtain ⟨-, hmade⟩ := partly_complete ha h fun f _ => readable_default f.2.2
  refine readable_record fun e he => ?_
  obtain ⟨f, -, hd⟩ := hmade e he
  exact hd

/-- Data without an instant or a free value are readable. -/
lemma readable_of_fits {s : Shape} (hs : s = .int32 ∨ s = .int64 ∨ s = .intOrText)
    (h : s.Fits d) : d.Readable := by
  cases d with
  | whole n => exact readable_whole n
  | text t => exact readable_text t
  | _ => rcases hs with rfl | rfl | rfl <;> exact absurd h (by simp [Fits])

/-- Whatever is read against a shape is readable. -/
theorem gives_readable {s : Shape} (h : ordered s = true) (depth : Nat) (bytes : Bytes) :
    Gives Readable (s.read depth bytes) := by
  induction s generalizing depth bytes with
  | text =>
    refine Gives.map (P := fun _ => True) ?_ fun s _ => readable_text s
    exact gives_readAs _ (fun _ _ _ _ => trivial) _
  | flag =>
    refine Gives.map (P := fun _ => True) ?_ fun b _ => readable_flag b
    exact gives_readAs _ (fun _ _ _ _ => trivial) _
  | int32 => exact fun d _ hd => readable_of_fits (by simp) (gives_read h depth bytes d _ hd).1
  | int64 => exact fun d _ hd => readable_of_fits (by simp) (gives_read h depth bytes d _ hd).1
  | intOrText => exact fun d _ hd => readable_of_fits (by simp) (gives_read h depth bytes d _ hd).1
  | time =>
    refine gives_readAs _ (fun j d _ hd => ?_) _
    unfold acceptTime at hd
    split at hd
    · split at hd
      · rename_i t ht
        obtain rfl := Except.ok.inj hd
        exact readable_time (Instant.valid_of_read ht)
      · cases hd
    · cases hd
  | free =>
    exact (gives_readValueWith (fun t j ht => regular_of_read ht) depth bytes).map
      fun j hj => readable_free hj
  | list item ih =>
    rw [ordered] at h
    exact (gives_readList (ih h) depth bytes).map fun ds hds => readable_list hds
  | dict item ih =>
    rw [ordered] at h
    intro d rest hd
    obtain ⟨made, rfl, -, hmade⟩ := gives_readDict (ih h) depth bytes d rest hd
    exact readable_record hmade
  | record name fields ih =>
    have hpartly := gives_readRecord (P := fun _ d => d.Readable) name []
      (fun f hf => ih f hf (ordered_of_mem h hf)) depth bytes
    exact hpartly.map fun made hmade => readable_complete (ascending_of_ordered h) hmade

end Shape

end PodAdmission

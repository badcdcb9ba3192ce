/-!
# Keyed entries

Association lists with text keys, in ascending order of keys. They hold the members of a JSON
object, the entries of a string map and the fields of a record alike, so that all three are written
in one order and the last value given for a key is the one that stays.

The operations keep the order (`Ascending`) but do not ask for it.
-/

namespace PodAdmission

/-- Values under text keys. -/
abbrev Entries (α : Type) := List (String × α)

namespace Entries

variable {α β : Type}

/-- The value under a key. -/
def get? (key : String) : Entries α → Option α
  | [] => none
  | (k, v) :: rest => if k = key then some v else get? key rest

/-- Sets the value under a key: in place if the key is there, else before the first greater key. -/
def insert (key : String) (value : α) : Entries α → Entries α
  | [] => [(key, value)]
  | (k, v) :: rest =>
    if k = key then (key, value) :: rest
    else if key < k then (key, value) :: (k, v) :: rest
    else (k, v) :: insert key value rest

/-- Takes a key away. -/
def erase (key : String) : Entries α → Entries α
  | [] => []
  | (k, v) :: rest => if k = key then rest else (k, v) :: erase key rest

/-- Changes the value under a key, if the key is there. -/
def modify (key : String) (f : α → α) : Entries α → Entries α
  | [] => []
  | (k, v) :: rest => if k = key then (k, f v) :: rest else (k, v) :: modify key f rest

/-- The entries under these pairs, a later pair taking precedence. -/
def ofList (pairs : List (String × α)) : Entries α :=
  pairs.foldl (fun es (k, v) => insert k v es) []

/-- Every key is less than all that follow it. -/
def Ascending (es : Entries α) : Prop :=
  es.Pairwise (fun a b => a.1 < b.1)

/-! ### Look-up after a change -/

@[simp] theorem get?_nil (key : String) : get? key ([] : Entries α) = none := rfl

@[simp] theorem get?_insert_self (key : String) (value : α) (es : Entries α) :
    get? key (insert key value es) = some value := by
  induction es with
  | nil => simp [insert, get?]
  | cons e rest ih =>
    obtain ⟨k, v⟩ := e
    by_cases hk : k = key
    · simp [insert, get?, hk]
    · by_cases hlt : key < k
      · simp [insert, get?, hk, hlt]
      · simp [insert, get?, hk, hlt, ih]

theorem get?_insert_of_ne {key other : String} (h : other ≠ key) (value : α) (es : Entries α) :
    get? other (insert key value es) = get? other es := by
  induction es with
  | nil => simp [insert, get?, Ne.symm h]
  | cons e rest ih =>
    obtain ⟨k, v⟩ := e
    by_cases hk : k = key
    · subst hk
      simp [insert, get?, Ne.symm h]
    · by_cases hlt : key < k
      · simp [insert, get?, hk, hlt, Ne.symm h]
      · simp [insert, get?, hk, hlt, ih]

theorem get?_erase_of_ne {key other : String} (h : other ≠ key) (es : Entries α) :
    get? other (erase key es) = get? other es := by
  induction es with
  | nil => rfl
  | cons e rest ih =>
    obtain ⟨k, v⟩ := e
    by_cases hk : k = key
    · subst hk
      simp [erase, get?, Ne.symm h]
    · simp [erase, get?, hk, ih]

/-- A key that no entry has leads to nothing. -/
theorem get?_eq_none {key : String} {es : Entries α} (h : ∀ e ∈ es, e.1 ≠ key) :
    get? key es = none := by
  induction es with
  | nil => rfl
  | cons e rest ih =>
    obtain ⟨k, v⟩ := e
    have hk : k ≠ key := h (k, v) List.mem_cons_self
    simp [get?, hk, ih fun e he => h e (List.mem_cons_of_mem _ he)]

theorem get?_erase_self (key : String) {es : Entries α} (h : es.Ascending) :
    get? key (erase key es) = none := by
  induction es with
  | nil => rfl
  | cons e rest ih =>
    obtain ⟨k, v⟩ := e
    obtain ⟨hfirst, hrest⟩ := List.pairwise_cons.1 h
    by_cases hk : k = key
    · simp only [erase, hk, if_true]
      exact get?_eq_none fun e he heq => String.lt_irrefl _ (heq ▸ hk ▸ hfirst e he)
    · simp [erase, get?, hk, ih hrest]

theorem get?_modify (key other : String) (f : α → α) (es : Entries α) :
    get? other (modify key f es) =
      if other = key then (get? other es).map f else get? other es := by
  induction es with
  | nil => simp [modify, get?]
  | cons e rest ih =>
    obtain ⟨k, v⟩ := e
    by_cases hk : k = key
    · subst hk
      by_cases ho : k = other
      · simp [modify, get?, ho]
      · simp [modify, get?, ho, Ne.symm ho]
    · by_cases ho : k = other
      · simp [modify, get?, ho, ho ▸ hk]
      · simpa [modify, get?, hk, ho] using ih

/-! ### Order after a change -/

/-- The order of keys is total. -/
theorem lt_of_not_lt {key k : String} (hne : k ≠ key) (hlt : ¬ key < k) : k < key := by
  rcases Decidable.em (k < key) with h | h
  · exact h
  · exact absurd (String.le_antisymm (String.not_lt.1 hlt) (String.not_lt.1 h)) hne

/-- An entry after a change is the one set or was there before. -/
theorem mem_insert {key : String} {value : α} {es : Entries α} {e : String × α}
    (h : e ∈ insert key value es) : e = (key, value) ∨ e ∈ es := by
  induction es with
  | nil => simpa [insert] using h
  | cons d rest ih =>
    obtain ⟨k, v⟩ := d
    by_cases hk : k = key
    · simp only [insert, hk, if_true, List.mem_cons] at h
      exact h.imp id (List.mem_cons_of_mem _)
    · by_cases hlt : key < k
      · simpa [insert, hk, hlt] using h
      · simp only [insert, hk, hlt, if_false, List.mem_cons] at h
        rcases h with h | h
        · exact .inr (h ▸ List.mem_cons_self)
        · exact (ih h).imp id (List.mem_cons_of_mem _)

theorem ascending_insert (key : String) (value : α) {es : Entries α} (h : es.Ascending) :
    Ascending (insert key value es) := by
  induction es with
  | nil => simp [insert, Ascending]
  | cons d rest ih =>
    obtain ⟨k, v⟩ := d
    obtain ⟨hfirst, hrest⟩ := List.pairwise_cons.1 h
    by_cases hk : k = key
    · subst hk
      simp only [insert, if_true]
      exact List.pairwise_cons.2 ⟨hfirst, hrest⟩
    · by_cases hlt : key < k
      · simp only [insert, hk, hlt, if_true, if_false]
        refine List.pairwise_cons.2 ⟨fun e he => ?_, h⟩
        rcases List.mem_cons.1 he with rfl | he
        · exact hlt
        · exact String.lt_trans hlt (hfirst e he)
      · simp only [insert, hk, hlt, if_false]
        refine List.pairwise_cons.2 ⟨fun e he => ?_, ih hrest⟩
        rcases mem_insert he with rfl | he
        · exact lt_of_not_lt hk hlt
        · exact hfirst e he

end Entries

end PodAdmission

import PodAdmission.Patch.Diff
import PodAdmission.Proofs.Patch.Perform

/-!
# The patch of a change

The patch between two documents below a path is the patch between them at the root, put below the
path. Between equal documents it is empty, and between an object and the same object with a member
set it is about that member alone.
-/

namespace PodAdmission.Patch

open Json

/-! ### Paths -/

lemma additions_under (path : Pointer) (index : Nat) (items : List Json) :
    additions path index items = (additions [] index items).under path := by
  induction items generalizing index with
  | nil => rfl
  | cons x items ih =>
    rw [additions, ih, additions]
    rfl

lemma trimmings_under (path : Pointer) (index : Nat) (items : List Json) :
    trimmings path index items = (trimmings [] index items).under path := by
  simp only [trimmings, under]
  rw [List.map_map]
  rfl

lemma removals_under (path : Pointer) (old new : Entries Json) :
    removals path old new = (removals [] old new).under path := by
  simp only [removals, under]
  rw [List.map_map]
  rfl

/-- The operations for a member of a new object. -/
def diffMember (old : Entries Json) (m : String × Json) : Patch :=
  match Entries.get? m.1 old with
  | some o => (diff [] o m.2).under [m.1]
  | none => [.add [m.1] m.2]

lemma diffMembers_under {new : Entries Json}
    (ih : ∀ m ∈ new, ∀ path old, diff path old m.2 = (diff [] old m.2).under path)
    (path : Pointer) (old : Entries Json) :
    diffMembers path old new = under path (new.flatMap (diffMember old)) := by
  induction new with
  | nil => rfl
  | cons m new ihNew =>
    obtain ⟨k, v⟩ := m
    rw [diffMembers, ihNew fun m hm => ih m (List.mem_cons_of_mem _ hm), List.flatMap_cons,
      under_append]
    congr 1
    rw [diffMember]
    cases Entries.get? k old with
    | none => rfl
    | some o =>
      simp only
      rw [ih (k, v) List.mem_cons_self, under_under]

lemma diffItems_under {new : List Json}
    (ih : ∀ x ∈ new, ∀ path old, diff path old x = (diff [] old x).under path) (path : Pointer)
    (index : Nat) (old : List Json) :
    diffItems path index old new = (diffItems [] index old new).under path := by
  induction new generalizing index old with
  | nil =>
    rw [diffItems, diffItems]
    exact trimmings_under path index old
  | cons v new ihNew =>
    have hv := ih v List.mem_cons_self
    cases old with
    | nil =>
      rw [diffItems, diffItems]
      exact additions_under path index (v :: new)
    | cons o old =>
      rw [diffItems, diffItems, ihNew (fun x hx => ih x (List.mem_cons_of_mem _ hx)), hv,
        hv ([] ++ [toString index]), under_append, under_under]
      rfl

/-- Anything but a list or an object is replaced if it differs. -/
lemma diff_leaf (path : Pointer) (old : Json) {new : Json} (hlist : ∀ items, new ≠ .list items)
    (hobject : ∀ members, new ≠ .object members) :
    diff path old new = if old.same new then [] else [.replace path new] := by
  cases new with
  | list items => exact absurd rfl (hlist items)
  | object members => exact absurd rfl (hobject members)
  | _ => simp only [diff]

/-- A difference below a path is the difference at the root below the path. -/
theorem diff_under (path : Pointer) (old new : Json) :
    diff path old new = (diff [] old new).under path := by
  induction new generalizing path old with
  | list items ih =>
    cases old with
    | list olds =>
      simp only [diff]
      exact diffItems_under ih path 0 olds
    | _ => simp [diff, under, Operation.under]
  | object members ih =>
    cases old with
    | object olds =>
      simp only [diff]
      rw [diffMembers_under ih, diffMembers_under ih, removals_under, under_append, under_nil]
    | _ => simp [diff, under, Operation.under]
  | _ =>
    rw [diff_leaf path old (by simp) (by simp), diff_leaf [] old (by simp) (by simp)]
    split_ifs <;> simp [under, Operation.under]

/-- The patch between two objects is made member by member. -/
lemma diff_object (old new : Entries Json) :
    diff [] (.object old) (.object new) = new.flatMap (diffMember old) ++ removals [] old new := by
  simp only [diff]
  rw [diffMembers_under (fun m _ path old => diff_under path old m.2), under_nil]

/-- The patch between two lists is made item by item. -/
lemma diff_list (old new : List Json) :
    diff [] (.list old) (.list new) = diffItems [] 0 old new := by
  simp only [diff]

lemma inner_diffMember (old : Entries Json) (m : String × Json) : Inner (diffMember old m) := by
  rw [diffMember]
  split
  · exact inner_under m.1 [] _
  · rintro op h
    obtain rfl := List.mem_singleton.1 h
    exact List.cons_ne_nil _ _

lemma inner_diffItems (index : Nat) (old new : List Json) :
    Inner (diffItems [] index old new) := by
  induction new generalizing index old with
  | nil =>
    rw [diffItems]
    intro op h
    obtain ⟨x, -, rfl⟩ := List.mem_map.1 h
    exact List.cons_ne_nil _ _
  | cons v new ih =>
    cases old with
    | nil =>
      rw [diffItems, additions_under]
      have hadd (index : Nat) (items : List Json) : Inner (additions [] index items) := by
        induction items generalizing index with
        | nil => exact inner_nil
        | cons x items ihItems =>
          intro op h
          rcases List.mem_cons.1 h with rfl | h
          · exact List.cons_ne_nil _ _
          · exact ihItems (index + 1) op h
      rw [under_nil]
      exact hadd index (v :: new)
    | cons o old =>
      rw [diffItems, diff_under]
      exact (inner_under _ [] _).append (ih (index + 1) old)

/-- Every operation of a difference is about a part of the document, or replaces the whole. -/
lemma inner_diff (old new : Json) : Inner (diff [] old new) := by
  have hreplace (value : Json) : Inner [.replace [] value] := by
    intro op h
    obtain rfl := List.mem_singleton.1 h
    exact trivial
  cases new with
  | list items =>
    cases old with
    | list olds =>
      rw [diff_list]
      exact inner_diffItems 0 olds items
    | _ => exact hreplace _
  | object members =>
    cases old with
    | object olds =>
      rw [diff_object]
      refine Inner.append (fun op h => ?_) fun op h => ?_
      · obtain ⟨m, -, hop⟩ := List.mem_flatMap.1 h
        exact inner_diffMember olds m op hop
      · obtain ⟨m, -, rfl⟩ := List.mem_map.1 h
        exact List.cons_ne_nil _ _
    | _ => exact hreplace _
  | _ =>
    rw [diff_leaf [] old (by simp) (by simp)]
    split_ifs
    · exact inner_nil
    · exact hreplace _

/-! ### Equal documents -/

lemma removals_eq_nil {old new : Entries Json}
    (h : ∀ m ∈ old, (Entries.get? m.1 new).isSome = true) : removals [] old new = [] := by
  rw [removals]
  rw [List.filter_eq_nil_iff.2, List.map_nil]
  intro m hm
  obtain ⟨v, hv⟩ := Option.isSome_iff_exists.1 (h m hm)
  simp [hv]

lemma get?_of_sameMembers {old new : Entries Json} (h : sameMembers old new = true) (k : String) :
    (Entries.get? k old = none ∧ Entries.get? k new = none) ∨
      ∃ o v, Entries.get? k old = some o ∧ Entries.get? k new = some v ∧ o.same v = true := by
  induction new generalizing old with
  | nil =>
    cases old with
    | nil => exact .inl ⟨rfl, rfl⟩
    | cons m old => simp [sameMembers] at h
  | cons n new ih =>
    cases old with
    | nil => simp [sameMembers] at h
    | cons m old =>
      obtain ⟨l, o⟩ := m
      obtain ⟨l', v⟩ := n
      simp only [sameMembers, Bool.and_eq_true, beq_iff_eq] at h
      obtain ⟨⟨rfl, hv⟩, hrest⟩ := h
      rw [Entries.get?, Entries.get?]
      split_ifs
      · exact .inr ⟨o, v, rfl, rfl, hv⟩
      · exact ih hrest

lemma diffItems_eq_nil {new : List Json} (ih : ∀ x ∈ new, ∀ old : Json, old.WellFormed →
      old.same x = true → diff [] old x = []) {old : List Json} (hold : ∀ x ∈ old, x.WellFormed)
    (h : sameItems old new = true) (index : Nat) : diffItems [] index old new = [] := by
  induction new generalizing old index with
  | nil =>
    cases old with
    | nil => rw [diffItems]; rfl
    | cons o old => simp [sameItems] at h
  | cons v new ihNew =>
    cases old with
    | nil => simp [sameItems] at h
    | cons o old =>
      rw [sameItems, Bool.and_eq_true] at h
      rw [diffItems, diff_under, ih v List.mem_cons_self o (hold o List.mem_cons_self) h.1,
        ihNew (fun x hx => ih x (List.mem_cons_of_mem _ hx))
          (fun x hx => hold x (List.mem_cons_of_mem _ hx)) h.2]
      rfl

/-- Between equal documents there is nothing to do. -/
theorem diff_eq_nil_of_same {old new : Json} (hold : old.WellFormed) (hnew : new.WellFormed)
    (h : old.same new = true) : diff [] old new = [] := by
  induction new generalizing old with
  | list items ih =>
    cases old with
    | list olds =>
      rw [diff_list]
      exact diffItems_eq_nil (fun x hx old hold => ih x hx hold (hnew.items x hx)) hold.items h 0
    | _ => simp [same] at h
  | object members ih =>
    cases old with
    | object olds =>
      have hkeys := get?_of_sameMembers h
      rw [diff_object, removals_eq_nil, List.append_nil, List.flatMap_eq_nil_iff]
      · intro m hm
        obtain ⟨-, hnone⟩ | ⟨o, v, ho, hv, hsame⟩ := hkeys m.1
        · exact absurd rfl (Entries.ne_of_get?_eq_none hnone hm)
        · rw [Entries.get?_of_mem hnew.ascending hm] at hv
          obtain rfl := Option.some.inj hv
          rw [diffMember, ho]
          simp only
          rw [ih m hm (hold.members _ (Entries.mem_of_get? ho)) (hnew.members m hm) hsame]
          rfl
      · intro m hm
        obtain ⟨hnone, -⟩ | ⟨o, v, -, hv, -⟩ := hkeys m.1
        · exact absurd rfl (Entries.ne_of_get?_eq_none hnone hm)
        · rw [hv]
          rfl
    | _ => simp [same] at h
  | _ => rw [diff_leaf [] old (by simp) (by simp), if_pos h]

lemma diff_self {j : Json} (h : j.WellFormed) : diff [] j j = [] :=
  diff_eq_nil_of_same h h (same_self j)

/-! ### Members set -/

lemma diffMember_self {members : Entries Json} (h : (object members).WellFormed)
    {m : String × Json} (hm : m ∈ members) : diffMember members m = [] := by
  rw [diffMember, Entries.get?_of_mem h.ascending hm]
  simp only
  rw [diff_self (h.members m hm)]
  rfl

lemma removals_insert (old : Entries Json) (key : String) (v : Json) :
    removals [] old (Entries.insert key v old) = [] := by
  apply removals_eq_nil
  intro m hm
  rw [Entries.get?_insert]
  split_ifs with hk
  · rfl
  · cases hget : Entries.get? m.1 old with
    | some o => rfl
    | none => exact absurd rfl (Entries.ne_of_get?_eq_none hget hm)

lemma flatMap_eq_of_get? {es : Entries Json} (ha : es.Ascending) {f : String × Json → Patch}
    {key : String} {v : Json} (hkey : Entries.get? key es = some v)
    (h : ∀ m ∈ es, m.1 ≠ key → f m = []) : es.flatMap f = f (key, v) := by
  induction es with
  | nil => cases hkey
  | cons m es ih =>
    obtain ⟨l, w⟩ := m
    rw [List.flatMap_cons]
    rw [Entries.get?] at hkey
    split_ifs at hkey with hl
    · obtain rfl := Option.some.inj hkey
      subst hl
      have hrest : es.flatMap f = [] := List.flatMap_eq_nil_iff.2 fun m hm =>
        h m (List.mem_cons_of_mem _ hm) fun heq => String.lt_irrefl l (heq ▸ ha.head_lt hm)
      rw [hrest, List.append_nil]
    · rw [h (l, w) List.mem_cons_self hl, ih ha.tail hkey fun m hm =>
        h m (List.mem_cons_of_mem _ hm)]
      rfl

lemma flatMap_eq_of_get?_get? {es : Entries Json} (ha : es.Ascending) {f : String × Json → Patch}
    {key key' : String} {v v' : Json} (hlt : key < key') (hkey : Entries.get? key es = some v)
    (hkey' : Entries.get? key' es = some v')
    (h : ∀ m ∈ es, m.1 ≠ key → m.1 ≠ key' → f m = []) :
    es.flatMap f = f (key, v) ++ f (key', v') := by
  induction es with
  | nil => cases hkey
  | cons m es ih =>
    obtain ⟨l, w⟩ := m
    have hne : key ≠ key' := fun heq => String.lt_irrefl key (heq ▸ hlt)
    rw [List.flatMap_cons]
    rw [Entries.get?] at hkey hkey'
    split_ifs at hkey with hl
    · obtain rfl := Option.some.inj hkey
      subst hl
      rw [if_neg hne] at hkey'
      rw [flatMap_eq_of_get? ha.tail hkey' fun m hm hm' =>
        h m (List.mem_cons_of_mem _ hm) (fun heq => String.lt_irrefl l (heq ▸ ha.head_lt hm)) hm']
    · split_ifs at hkey' with hl'
      · -- the lower key would come behind the greater one
        subst hl'
        exact absurd (String.lt_trans hlt (ha.head_lt (Entries.mem_of_get? hkey)))
          (String.lt_irrefl key)
      · rw [h (l, w) List.mem_cons_self hl hl', ih ha.tail hkey hkey' fun m hm =>
          h m (List.mem_cons_of_mem _ hm)]
        rfl

/-- If one member of an object is set, the patch is about that member. -/
theorem diff_insert {members : Entries Json} (h : (object members).WellFormed) (key : String)
    (v : Json) :
    diff [] (.object members) (.object (Entries.insert key v members)) =
      diffMember members (key, v) := by
  rw [diff_object, removals_insert, List.append_nil]
  refine flatMap_eq_of_get? (Entries.ascending_insert key v h.ascending)
    (Entries.get?_insert_self key v members) fun m hm hne => ?_
  rcases Entries.mem_insert hm with rfl | hm
  · exact absurd rfl hne
  · exact diffMember_self h hm

/-- If two members of an object are set, the patch is about the one and then the other. -/
theorem diff_insert_insert {members : Entries Json} (h : (object members).WellFormed)
    {key key' : String} (hlt : key < key') (v v' : Json) :
    diff [] (.object members)
        (.object (Entries.insert key' v' (Entries.insert key v members))) =
      diffMember members (key, v) ++ diffMember members (key', v') := by
  have hne : key ≠ key' := fun heq => String.lt_irrefl key (heq ▸ hlt)
  have hremovals : removals [] members (Entries.insert key' v' (Entries.insert key v members)) =
      [] := by
    apply removals_eq_nil
    intro m hm
    rw [Entries.get?_insert, Entries.get?_insert, Entries.get?_of_mem h.ascending hm]
    split_ifs <;> rfl
  rw [diff_object, hremovals, List.append_nil]
  refine flatMap_eq_of_get?_get?
    (Entries.ascending_insert key' v' (Entries.ascending_insert key v h.ascending)) hlt ?_
    (Entries.get?_insert_self key' v' _) fun m hm hkey hkey' => ?_
  · rw [Entries.get?_insert, if_neg hne, Entries.get?_insert_self]
  · rcases Entries.mem_insert hm with rfl | hm
    · exact absurd rfl hkey'
    · rcases Entries.mem_insert hm with rfl | hm
      · exact absurd rfl hkey
      · exact diffMember_self h hm

end PodAdmission.Patch

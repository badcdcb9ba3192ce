import PodAdmission.Proofs.Patch.Diff

/-!
# Carrying out a difference

The patch between two documents can be carried out on the first, whatever they are, and leaves a
value that is equal to the second. So it is empty just if the two are equal.

Lists are followed from the front: what stands before an index is done and what stands behind it is
as in the old list, so an addition lands at the end and every removal finds the next item at the
same index. In objects the members of the new one are set first, one by one, and what is left over
is removed.
-/

namespace PodAdmission.Patch

open Json

/-- The patch between two documents turns the one into a value equal to the other. -/
def Replays (old new : Json) : Prop :=
  ∃ made, run? (diff [] old new) old = some made ∧ made.same new = true

/-! ### Lists -/

lemma run?_trimmings (done items : List Json) :
    run? (trimmings [] done.length items) (.list (done ++ items)) = some (.list done) := by
  induction items with
  | nil => rw [List.append_nil]; rfl
  | cons x items ih =>
    have hremove : (Operation.remove [toString done.length]).perform?
        (.list (done ++ x :: items)) = some (.list (done ++ items)) := by
      simp only [Operation.perform?, editParent?, Operation.removeChild?,
        Pointer.index?_toString]
      rw [if_pos (by simp), List.eraseIdx_append_of_length_le (Nat.le_refl _)]
      simp
    have hrun : run? (trimmings [] done.length (x :: items)) (.list (done ++ x :: items)) =
        ((Operation.remove [toString done.length]).perform? (.list (done ++ x :: items))).bind
          (run? (trimmings [] done.length items)) := rfl
    rw [hrun, hremove]
    exact ih

lemma run?_additions (done items : List Json) :
    run? (additions [] done.length items) (.list done) = some (.list (done ++ items)) := by
  induction items generalizing done with
  | nil => rw [List.append_nil]; rfl
  | cons x items ih =>
    have hadd : (Operation.add [toString done.length] x).perform? (.list done) =
        some (.list (done ++ [x])) := by
      have hdash : toString done.length ≠ "-" := by
        intro heq
        have hindex := Pointer.index?_toString done.length
        rw [heq] at hindex
        cases hindex
      simp only [Operation.perform?, editParent?, Operation.addChild?, if_neg hdash,
        Pointer.index?_toString]
      rw [if_pos (Nat.le_refl _), List.insertIdx_length_self]
    have hrun : run? (additions [] done.length (x :: items)) (.list done) =
        ((Operation.add [toString done.length] x).perform? (.list done)).bind
          (run? (additions [] (done.length + 1) items)) := rfl
    have hrest := ih (done ++ [x])
    rw [List.length_append, List.length_singleton, List.append_assoc] at hrest
    rw [hrun, hadd]
    exact hrest

/-- From an index on, the items before it being done. -/
lemma run?_diffItems {new : List Json} (ih : ∀ x ∈ new, ∀ old : Json, old.WellFormed →
      Replays old x) (done : List Json) {old : List Json} (hold : ∀ x ∈ old, x.WellFormed) :
    ∃ made, run? (diffItems [] done.length old new) (.list (done ++ old)) =
      some (.list (done ++ made)) ∧ sameItems made new = true := by
  induction new generalizing done old with
  | nil =>
    rw [diffItems]
    exact ⟨[], by rw [run?_trimmings, List.append_nil], rfl⟩
  | cons v new ihNew =>
    cases old with
    | nil =>
      rw [diffItems, List.append_nil]
      exact ⟨v :: new, run?_additions done (v :: new), sameItems_self fun x _ => same_self x⟩
    | cons o old =>
      obtain ⟨w, hw, hsame⟩ := ih v List.mem_cons_self o (hold o List.mem_cons_self)
      obtain ⟨made, hmade, hrest⟩ := ihNew (fun x hx => ih x (List.mem_cons_of_mem _ hx))
        (done ++ [w]) fun x hx => hold x (List.mem_cons_of_mem _ hx)
      have hitem : (done ++ o :: old)[done.length]? = some o := by
        rw [List.getElem?_append_right (Nat.le_refl _), Nat.sub_self]
        rfl
      have hset : (done ++ o :: old).set done.length w = (done ++ [w]) ++ old := by
        rw [List.set_append_right _ _ (Nat.le_refl _), Nat.sub_self]
        simp
      refine ⟨w :: made, ?_, ?_⟩
      · rw [List.length_append, List.length_singleton] at hmade
        rw [diffItems, diff_under, run?_append, List.nil_append,
          run?_under_list (inner_diff o v) hitem, hw]
        simp only [Option.map_some, Option.bind_some]
        rw [hset, hmade, List.append_assoc, List.singleton_append]
      · rw [sameItems, hsame, hrest]
        rfl

/-! ### Objects -/

/-- The member of a new object is set. -/
lemma run?_diffMember {m : String × Json} (ih : ∀ old : Json, old.WellFormed → Replays old m.2)
    {old xs : Entries Json} (hold : (object old).WellFormed) (hxs : Entries.Ascending xs)
    (hget : Entries.get? m.1 xs = Entries.get? m.1 old) :
    ∃ made, run? (diffMember old m) (.object xs) = some (.object (Entries.insert m.1 made xs)) ∧
      made.same m.2 = true := by
  rw [diffMember]
  cases ho : Entries.get? m.1 old with
  | none => exact ⟨m.2, rfl, same_self m.2⟩
  | some o =>
    obtain ⟨made, hmade, hsame⟩ := ih o (hold.members _ (Entries.mem_of_get? ho))
    refine ⟨made, ?_, hsame⟩
    simp only
    rw [run?_under_object (inner_diff o m.2) hxs (hget.trans ho), hmade]
    rfl

/-- The members of a new object are set, and the other ones stay as they are. -/
lemma run?_diffMembers {new : Entries Json} (ih : ∀ m ∈ new, ∀ old : Json, old.WellFormed →
      Replays old m.2) (hnew : new.Ascending) {old xs : Entries Json}
    (hold : (object old).WellFormed) (hxs : Entries.Ascending xs)
    (hget : ∀ m ∈ new, Entries.get? m.1 xs = Entries.get? m.1 old) :
    ∃ ys, run? (new.flatMap (diffMember old)) (.object xs) = some (.object ys) ∧
      Entries.Ascending ys ∧ ∀ k, match Entries.get? k new with
        | some v => ∃ y, Entries.get? k ys = some y ∧ y.same v = true
        | none => Entries.get? k ys = Entries.get? k xs := by
  induction new generalizing xs with
  | nil => exact ⟨xs, rfl, hxs, fun k => rfl⟩
  | cons m new ihNew =>
    obtain ⟨l, v⟩ := m
    obtain ⟨made, hmade, hsame⟩ := run?_diffMember (ih (l, v) List.mem_cons_self) hold hxs
      (hget (l, v) List.mem_cons_self)
    have hrest : ∀ m ∈ new, Entries.get? m.1 (Entries.insert l made xs) =
        Entries.get? m.1 old := by
      intro m hm
      rw [Entries.get?_insert_of_ne (hnew.ne_of_mem_tail hm)]
      exact hget m (List.mem_cons_of_mem _ hm)
    obtain ⟨ys, hys, hasc, hkeys⟩ := ihNew (fun m hm => ih m (List.mem_cons_of_mem _ hm))
      hnew.tail (Entries.ascending_insert l made hxs) hrest
    refine ⟨ys, ?_, hasc, fun k => ?_⟩
    · rw [List.flatMap_cons, run?_append, hmade]
      exact hys
    · have hk := hkeys k
      rw [Entries.get?]
      split_ifs with heq
      · -- no later member has this key
        subst heq
        rw [hnew.get?_tail, Entries.get?_insert_self] at hk
        exact ⟨made, hk, hsame⟩
      · rwa [Entries.get?_insert_of_ne (Ne.symm heq)] at hk

lemma perform?_remove {ys : Entries Json} {key : String} {v : Json}
    (h : Entries.get? key ys = some v) :
    (Operation.remove [key]).perform? (.object ys) = some (.object (Entries.erase key ys)) := by
  simp only [Operation.perform?, editParent?, Operation.removeChild?, h]

/-- Members are removed, and the other ones stay as they are. -/
lemma run?_removals {gone : Entries Json} (hgone : gone.Ascending) {ys : Entries Json}
    (hys : Entries.Ascending ys) (hall : ∀ m ∈ gone, (Entries.get? m.1 ys).isSome = true) :
    ∃ zs, run? (gone.map fun m => .remove [m.1]) (.object ys) = some (.object zs) ∧
      Entries.Ascending zs ∧ ∀ k, Entries.get? k zs =
        if (Entries.get? k gone).isSome then none else Entries.get? k ys := by
  induction gone generalizing ys with
  | nil => exact ⟨ys, rfl, hys, fun k => rfl⟩
  | cons m gone ih =>
    obtain ⟨l, o⟩ := m
    obtain ⟨v, hv⟩ := Option.isSome_iff_exists.1 (hall (l, o) List.mem_cons_self)
    obtain ⟨zs, hzs, hasc, hkeys⟩ := ih hgone.tail (Entries.ascending_erase l hys) fun m hm => by
      rw [Entries.get?_erase_of_ne (hgone.ne_of_mem_tail hm)]
      exact hall m (List.mem_cons_of_mem _ hm)
    refine ⟨zs, ?_, hasc, fun k => ?_⟩
    · rw [List.map_cons, run?_cons, perform?_remove hv]
      exact hzs
    · rw [hkeys k, Entries.get?]
      by_cases hk : l = k
      · subst hk
        rw [if_pos rfl, hgone.get?_tail, Entries.get?_erase_self l hys]
        rfl
      · rw [if_neg hk, Entries.get?_erase_of_ne (Ne.symm hk)]

lemma sameMembers_of_forall₂ {xs ys : Entries Json}
    (h : List.Forall₂ (fun x y => x.1 = y.1 ∧ x.2.same y.2 = true) xs ys) :
    sameMembers xs ys = true := by
  induction h with
  | nil => rfl
  | @cons x y xs ys hxy _ ih =>
    obtain ⟨k, v⟩ := x
    obtain ⟨l, w⟩ := y
    rw [sameMembers, hxy.2, ih]
    simpa using hxy.1

/-- The patch between two objects sets members and then removes what is left over. -/
lemma replays_object {old new : Entries Json} (hold : (object old).WellFormed)
    (hnew : (object new).WellFormed)
    (ih : ∀ m ∈ new, ∀ old : Json, old.WellFormed → Replays old m.2) :
    Replays (.object old) (.object new) := by
  obtain ⟨ys, hys, hysAsc, hset⟩ := run?_diffMembers ih hnew.ascending hold hold.ascending
    fun m _ => rfl
  have hgone : Entries.Ascending (old.filter fun m => (Entries.get? m.1 new).isNone) :=
    hold.ascending.filter _
  obtain ⟨zs, hzs, hzsAsc, hremoved⟩ := run?_removals hgone hysAsc fun m hm => by
    obtain ⟨hmem, hnone⟩ := List.mem_filter.1 hm
    have hkey := hset m.1
    rw [Option.isNone_iff_eq_none.1 hnone] at hkey
    rw [hkey, Entries.get?_of_mem hold.ascending hmem]
    rfl
  have hsame : ∀ k, Option.Rel (fun x y : Json => x.same y = true) (Entries.get? k zs)
      (Entries.get? k new) := by
    intro k
    have hkey := hset k
    rw [hremoved k, Entries.get?_filter_fst fun k => (Entries.get? k new).isNone]
    cases hnewKey : Entries.get? k new with
    | some v =>
      rw [hnewKey] at hkey
      obtain ⟨y, hy, hsame⟩ := hkey
      rw [hy]
      exact .some hsame
    | none =>
      -- a key that only the old object has is one of those removed
      rw [hnewKey] at hkey
      rw [hkey]
      cases Entries.get? k old <;> exact .none
  refine ⟨.object zs, ?_, sameMembers_of_forall₂
    (Entries.forall₂_of_get? hzsAsc hnew.ascending hsame)⟩
  rw [diff_object, run?_append, hys]
  exact hzs

/-- The patch between any two documents turns the one into a value equal to the other. -/
theorem replays {old new : Json} (hold : old.WellFormed) (hnew : new.WellFormed) :
    Replays old new := by
  induction new generalizing old with
  | list items ih =>
    cases old with
    | list olds =>
      obtain ⟨made, hmade, hsame⟩ := run?_diffItems
        (fun x hx old hold => ih x hx hold (hnew.items x hx)) [] hold.items
      refine ⟨.list made, ?_, hsame⟩
      rw [diff_list]
      exact hmade
    | _ => exact ⟨_, rfl, same_self _⟩
  | object members ih =>
    cases old with
    | object olds =>
      exact replays_object hold hnew fun m hm old hold => ih m hm hold (hnew.members m hm)
    | _ => exact ⟨_, rfl, same_self _⟩
  | _ =>
    rw [Replays, diff_leaf [] old (by simp) (by simp)]
    split_ifs with hsame
    · exact ⟨old, rfl, hsame⟩
    · exact ⟨_, rfl, same_self _⟩

/-- The patch between two documents is empty just if they are equal. -/
theorem diff_eq_nil_iff {old new : Json} (hold : old.WellFormed) (hnew : new.WellFormed) :
    diff [] old new = [] ↔ old.same new = true := by
  constructor
  · intro h
    obtain ⟨made, hmade, hsame⟩ := replays hold hnew
    rw [h] at hmade
    obtain rfl := Option.some.inj hmade
    exact hsame
  · exact diff_eq_nil_of_same hold hnew

/-! ### Lists of texts -/

lemma run?_diff_text (s t : String) : run? (diff [] (.text s) (.text t)) (.text s) =
    some (.text t) := by
  rw [diff_leaf [] _ (by simp) (by simp)]
  split_ifs with hsame
  · have heq : s = t := by simpa [same] using hsame
    rw [heq]
    rfl
  · rfl

lemma eq_of_same_text {j : Json} {t : String} (h : j.same (.text t) = true) : j = .text t := by
  cases j with
  | text s => simpa [same] using h
  | _ => cases h

lemma eq_of_sameItems_texts {items : List Json} {texts : List String}
    (h : sameItems items (texts.map .text) = true) : items = texts.map .text := by
  induction texts generalizing items with
  | nil =>
    cases items with
    | nil => rfl
    | cons x items => cases h
  | cons t texts ih =>
    cases items with
    | nil => cases h
    | cons x items =>
      rw [List.map_cons, sameItems, Bool.and_eq_true] at h
      rw [eq_of_same_text h.1, ih h.2, List.map_cons]

lemma wellFormed_texts (texts : List String) : (Json.list (texts.map .text)).WellFormed := by
  refine .list fun x hx => ?_
  obtain ⟨t, -, rfl⟩ := List.mem_map.1 hx
  exact .text t

/-- The patch between two lists of texts turns the one into the other. -/
theorem run?_diff_texts (old new : List String) :
    run? (diff [] (.list (old.map .text)) (.list (new.map .text))) (.list (old.map .text)) =
      some (.list (new.map .text)) := by
  obtain ⟨made, hmade, hsame⟩ := replays (wellFormed_texts old) (wellFormed_texts new)
  cases made with
  | list items => rw [hmade, eq_of_sameItems_texts hsame]
  | _ => cases hsame

end PodAdmission.Patch

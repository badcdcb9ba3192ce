import Mathlib.Data.List.Forall2
import Mathlib.Tactic.Common
import PodAdmission.Entries

/-!
# Runs over lists and entries

Runs over the items of a list that may fail, and entries that are put together one after the other.
-/

namespace PodAdmission

section Runs

variable {α β σ : Type}

lemma mapM_congr {f g : α → Option β} {l : List α} (h : ∀ a ∈ l, f a = g a) :
    l.mapM f = l.mapM g := by
  induction l with
  | nil => rfl
  | cons a l ih =>
    rw [List.mapM_cons, List.mapM_cons, h a List.mem_cons_self,
      ih fun b hb => h b (List.mem_cons_of_mem _ hb)]

lemma mapM_eq_some_iff {f : α → Option β} {l : List α} {l' : List β} :
    l.mapM f = some l' ↔ List.Forall₂ (fun a b => f a = some b) l l' := by
  induction l generalizing l' with
  | nil => simp [List.forall₂_nil_left_iff, eq_comm]
  | cons a l ih =>
    rw [List.mapM_cons]
    constructor
    · intro h
      cases ha : f a with
      | none =>
        rw [ha] at h
        cases h
      | some b =>
        cases hl : l.mapM f with
        | none =>
          rw [ha, hl] at h
          cases h
        | some bs =>
          rw [ha, hl] at h
          obtain rfl := Option.some.inj h
          exact .cons ha (ih.1 hl)
    · intro h
      cases h with
      | cons ha hl =>
        rw [ha, ih.2 hl]
        rfl

lemma mapM_isSome_iff {f : α → Option β} {l : List α} :
    (l.mapM f).isSome = true ↔ ∀ a ∈ l, (f a).isSome = true := by
  induction l with
  | nil => simp
  | cons a l ih =>
    rw [List.mapM_cons, List.forall_mem_cons, ← ih]
    cases f a <;> cases l.mapM f <;> simp

lemma foldlM_congr {f g : σ → α → Option σ} {l : List α} (h : ∀ a ∈ l, ∀ s, f s a = g s a) (s : σ) :
    l.foldlM f s = l.foldlM g s := by
  induction l generalizing s with
  | nil => rfl
  | cons a l ih =>
    rw [List.foldlM_cons, List.foldlM_cons, h a List.mem_cons_self]
    congr 1
    funext s'
    exact ih (fun b hb => h b (List.mem_cons_of_mem _ hb)) s'

/-- A run over a list does not change if one item is replaced by one that it treats alike. -/
lemma mapM_replace {f : α → Option β} {a b : α} (h : f a = f b) (before behind : List α) :
    (before ++ a :: behind).mapM f = (before ++ b :: behind).mapM f := by
  rw [List.mapM_append, List.mapM_append, List.mapM_cons, List.mapM_cons, h]

lemma foldlM_replace {f : σ → α → Option σ} {a b : α} (h : ∀ s, f s a = f s b)
    (before behind : List α) (s : σ) :
    (before ++ a :: behind).foldlM f s = (before ++ b :: behind).foldlM f s := by
  rw [List.foldlM_append, List.foldlM_append]
  congr 1
  funext s'
  rw [List.foldlM_cons, List.foldlM_cons, h]

/-- A run that succeeds succeeds at every item. -/
lemma isSome_of_foldlM {f : σ → α → Option σ} {l : List α} {s : σ}
    (h : (l.foldlM f s).isSome = true) : ∀ a ∈ l, ∃ s', (f s' a).isSome = true := by
  induction l generalizing s with
  | nil =>
    intro a ha
    cases ha
  | cons b l ih =>
    rw [List.foldlM_cons] at h
    cases hb : f s b with
    | none =>
      rw [hb] at h
      cases h
    | some s' =>
      rw [hb] at h
      intro a ha
      rcases List.mem_cons.1 ha with rfl | ha
      · exact ⟨s, by rw [hb]; rfl⟩
      · exact ih h a ha

end Runs

namespace Entries

variable {α β : Type} {key k : String} {v : α} {es fs : Entries α}

/-! ### Look-up -/

lemma get?_insert (key k : String) (v : α) (es : Entries α) :
    get? k (insert key v es) = if k = key then some v else get? k es := by
  split_ifs with hk
  · rw [hk, get?_insert_self]
  · exact get?_insert_of_ne hk v es

lemma mem_of_get? (h : get? key es = some v) : (key, v) ∈ es := by
  induction es with
  | nil => cases h
  | cons e es ih =>
    obtain ⟨l, w⟩ := e
    rw [get?] at h
    split_ifs at h with hl
    · cases h
      exact hl ▸ List.mem_cons_self
    · exact List.mem_cons_of_mem _ (ih h)

lemma Ascending.head_lt (h : Ascending ((key, v) :: es)) {e : String × α} (he : e ∈ es) :
    key < e.1 :=
  (List.pairwise_cons.1 h).1 e he

lemma Ascending.tail {e : String × α} (h : Ascending (e :: es)) : Ascending es :=
  (List.pairwise_cons.1 h).2

lemma Ascending.ne_of_mem_tail (h : Ascending ((key, v) :: es)) {e : String × α} (he : e ∈ es) :
    e.1 ≠ key :=
  fun heq => String.lt_irrefl key (heq ▸ h.head_lt he)

/-- No key comes twice. -/
lemma Ascending.get?_tail (h : Ascending ((key, v) :: es)) : get? key es = none :=
  get?_eq_none fun _ he heq => String.lt_irrefl key (heq ▸ h.head_lt he)

lemma ne_of_get?_eq_none (h : get? key es = none) {e : String × α} (he : e ∈ es) : e.1 ≠ key := by
  induction es with
  | nil => cases he
  | cons f es ih =>
    obtain ⟨l, w⟩ := f
    rw [get?] at h
    split_ifs at h with hl
    rcases List.mem_cons.1 he with rfl | he
    · exact hl
    · exact ih h he

/-- No two entries have the same key. -/
def Distinct (es : Entries α) : Prop :=
  (es.map Prod.fst).Nodup

lemma Ascending.distinct (h : Ascending es) : Distinct es := by
  rw [Distinct, List.nodup_iff_pairwise_ne, List.pairwise_map]
  refine List.Pairwise.imp (fun {a b} hlt => ?_) h
  exact fun heq => String.lt_irrefl b.1 (heq ▸ hlt)

lemma distinct_cons {e : String × α} : Distinct (e :: es) ↔ get? e.1 es = none ∧ Distinct es := by
  rw [Distinct, List.map_cons, List.nodup_cons, Distinct]
  refine and_congr_left fun _ => ⟨fun h => get?_eq_none fun d hd heq => ?_, fun h hmem => ?_⟩
  · exact h (heq ▸ List.mem_map_of_mem hd)
  · obtain ⟨d, hd, heq⟩ := List.mem_map.1 hmem
    exact ne_of_get?_eq_none h hd heq

lemma Distinct.get?_of_mem (hd : Distinct es) (h : (key, v) ∈ es) : get? key es = some v := by
  induction es with
  | nil => cases h
  | cons e es ih =>
    obtain ⟨hfirst, hrest⟩ := distinct_cons.1 hd
    rw [get?]
    rcases List.mem_cons.1 h with rfl | h
    · rw [if_pos rfl]
    · rw [if_neg (Ne.symm (ne_of_get?_eq_none hfirst h)), ih hrest h]

lemma get?_of_mem (ha : Ascending es) (h : (key, v) ∈ es) : get? key es = some v :=
  ha.distinct.get?_of_mem h

/-- The order of distinct entries does not matter. -/
lemma Distinct.get?_perm (hd : Distinct es) (h : es.Perm fs) (k : String) :
    get? k es = get? k fs := by
  have hd' : Distinct fs := (h.map Prod.fst).nodup_iff.1 hd
  cases hk : get? k fs with
  | some v => exact hd.get?_of_mem (h.mem_iff.2 (mem_of_get? hk))
  | none => exact get?_eq_none fun e he => ne_of_get?_eq_none hk (h.mem_iff.1 he)

lemma isSome_of_rel {R : α → β → Prop} {o : Option α} {o' : Option β} (h : Option.Rel R o o') :
    o.isSome = o'.isSome := by
  cases h <;> rfl

/-- The first of the keys is the same if all of them are. -/
lemma Ascending.head_eq {k l : String} {v : α} {w : β} {es : Entries α} {fs : Entries β}
    (ha : Ascending ((k, v) :: es)) (hb : Ascending ((l, w) :: fs))
    (h : ∀ j, (get? j ((k, v) :: es)).isSome = (get? j ((l, w) :: fs)).isSome) : k = l := by
  have hk := h k
  have hl := h l
  simp only [get?, if_true, Option.isSome_some] at hk hl
  by_contra hne
  -- else each of the two stands behind the other
  simp only [if_neg hne, if_neg (Ne.symm hne)] at hk hl
  obtain ⟨u, hu⟩ := Option.isSome_iff_exists.1 hk.symm
  obtain ⟨u', hu'⟩ := Option.isSome_iff_exists.1 hl
  exact String.lt_irrefl l (String.lt_trans (hb.head_lt (mem_of_get? hu))
    (ha.head_lt (mem_of_get? hu')))

/-- Entries with related values under the same keys are related one by one. -/
theorem forall₂_of_get? {R : α → β → Prop} {es : Entries α} {fs : Entries β} (ha : Ascending es)
    (hb : Ascending fs) (h : ∀ k, Option.Rel R (get? k es) (get? k fs)) :
    List.Forall₂ (fun e f => e.1 = f.1 ∧ R e.2 f.2) es fs := by
  induction es generalizing fs with
  | nil =>
    cases fs with
    | nil => exact .nil
    | cons f fs =>
      obtain ⟨l, w⟩ := f
      have hl := h l
      rw [get?_nil, get?, if_pos rfl] at hl
      cases hl
  | cons e es ih =>
    obtain ⟨k, v⟩ := e
    cases fs with
    | nil =>
      have hk := h k
      rw [get?_nil, get?, if_pos rfl] at hk
      cases hk
    | cons f fs =>
      obtain ⟨l, w⟩ := f
      obtain rfl := ha.head_eq hb fun j => isSome_of_rel (h j)
      have hv := h k
      rw [get?, get?, if_pos rfl, if_pos rfl] at hv
      cases hv with
      | some hv =>
        refine .cons ⟨rfl, hv⟩ (ih ha.tail hb.tail fun j => ?_)
        by_cases hj : j = k
        · rw [hj, ha.get?_tail, hb.get?_tail]
          exact .none
        · have hrest := h j
          rwa [get?, get?, if_neg (Ne.symm hj), if_neg (Ne.symm hj)] at hrest

/-- Entries with the same values under the same keys are the same. -/
theorem ext (ha : Ascending es) (hb : Ascending fs) (h : ∀ k, get? k es = get? k fs) :
    es = fs := by
  have hall : List.Forall₂ (fun e f => e.1 = f.1 ∧ e.2 = f.2) es fs :=
    forall₂_of_get? ha hb fun k => by
      rw [h k]
      cases get? k fs with
      | none => exact .none
      | some v => exact .some rfl
  rw [← List.forall₂_eq_eq_eq]
  exact hall.imp fun _ _ h => Prod.ext h.1 h.2

lemma insert_of_get? (ha : Ascending es) (h : get? key es = some v) : insert key v es = es := by
  apply ext (ascending_insert key v ha) ha
  intro k
  rw [get?_insert]
  split_ifs with hk
  · rw [hk, h]
  · rfl

/-- Of two values set under one key the later one stays. -/
lemma insert_insert (key : String) (v w : α) (es : Entries α) :
    insert key w (insert key v es) = insert key w es := by
  induction es with
  | nil => simp [insert]
  | cons e es ih =>
    obtain ⟨k, u⟩ := e
    by_cases hk : k = key
    · simp [insert, hk]
    · by_cases hlt : key < k
      · simp [insert, hk, hlt]
      · simp [insert, hk, hlt, ih]

lemma insert_comm {key' : String} (hne : key ≠ key') (v w : α) (ha : Ascending es) :
    insert key v (insert key' w es) = insert key' w (insert key v es) := by
  refine ext (ascending_insert key v (ascending_insert key' w ha))
    (ascending_insert key' w (ascending_insert key v ha)) fun k => ?_
  simp only [get?_insert]
  split_ifs with hk hk'
  · exact absurd (hk.symm.trans hk') hne
  all_goals rfl

/-! ### Removal -/

lemma mem_of_mem_erase {e : String × α} (h : e ∈ erase key es) : e ∈ es := by
  induction es with
  | nil => cases h
  | cons f es ih =>
    obtain ⟨l, w⟩ := f
    rw [erase] at h
    split_ifs at h with hl
    · exact List.mem_cons_of_mem _ h
    · rcases List.mem_cons.1 h with rfl | h
      · exact List.mem_cons_self
      · exact List.mem_cons_of_mem _ (ih h)

lemma erase_of_get?_eq_none (h : get? key es = none) : erase key es = es := by
  induction es with
  | nil => rfl
  | cons e es ih =>
    obtain ⟨l, w⟩ := e
    rw [get?] at h
    rw [erase]
    split_ifs at h ⊢ with hl
    rw [ih h]

lemma ascending_erase (key : String) (h : Ascending es) : Ascending (erase key es) := by
  induction es with
  | nil => exact h
  | cons e es ih =>
    obtain ⟨l, w⟩ := e
    rw [erase]
    split_ifs with hl
    · exact h.tail
    · exact List.pairwise_cons.2 ⟨fun f hf => h.head_lt (mem_of_mem_erase hf), ih h.tail⟩

/-- The entries whose keys pass a test. -/
lemma get?_filter_fst (p : String → Bool) (es : Entries α) (k : String) :
    get? k (es.filter fun e => p e.1) = if p k then get? k es else none := by
  induction es with
  | nil => simp
  | cons e es ih =>
    obtain ⟨l, w⟩ := e
    rw [List.filter_cons, get?]
    by_cases hl : l = k
    · subst hl
      cases hp : p l <;> simp_all [get?]
    · cases p l <;> simp [get?, hl, ih]

/-! ### Change in place -/

lemma map_fst_modify (key : String) (f : α → α) (es : Entries α) :
    (modify key f es).map Prod.fst = es.map Prod.fst := by
  induction es with
  | nil => rfl
  | cons e es ih =>
    obtain ⟨l, w⟩ := e
    rw [modify]
    split_ifs
    · rfl
    · rw [List.map_cons, ih, List.map_cons]

lemma ascending_iff_map_fst (es : Entries α) :
    es.Ascending ↔ (es.map Prod.fst).Pairwise (· < ·) := by
  rw [List.pairwise_map]
  rfl

lemma ascending_modify (key : String) (f : α → α) (h : Ascending es) :
    Ascending (modify key f es) := by
  rw [ascending_iff_map_fst, map_fst_modify, ← ascending_iff_map_fst]
  exact h

/-- A change in place of a key that is there sets it. -/
lemma modify_eq_insert (f : α → α) (ha : Ascending es) (h : get? key es = some v) :
    modify key f es = insert key (f v) es := by
  apply ext (ascending_modify key f ha) (ascending_insert key _ ha)
  intro k
  rw [get?_modify, get?_insert]
  split_ifs with hk
  · rw [hk, h]
    rfl
  · rfl

lemma modify_of_get?_eq_none (f : α → α) (h : get? key es = none) : modify key f es = es := by
  induction es with
  | nil => rfl
  | cons e es ih =>
    obtain ⟨l, w⟩ := e
    rw [get?] at h
    rw [modify]
    split_ifs at h ⊢ with hl
    rw [ih h]

/-- A change in place and an entry under another key do not depend on their order. -/
lemma modify_insert {key' : String} (h : key ≠ key') (f : α → α) (v : α) (es : Entries α) :
    modify key f (insert key' v es) = insert key' v (modify key f es) := by
  induction es with
  | nil => simp [insert, modify, h.symm]
  | cons e es ih =>
    obtain ⟨k, w⟩ := e
    by_cases hk : k = key
    · subst hk
      by_cases hlt : key' < k
      · simp [insert, modify, h, h.symm, hlt]
      · simp [insert, modify, h, hlt]
    · by_cases hk' : k = key'
      · subst hk'
        simp [insert, modify, h.symm]
      · by_cases hlt : key' < k
        · simp [insert, modify, hk, hk', h.symm, hlt]
        · simp [insert, modify, hk, hk', hlt, ih]

lemma modify_modify (key : String) (f g : α → α) (es : Entries α) :
    modify key f (modify key g es) = modify key (f ∘ g) es := by
  induction es with
  | nil => rfl
  | cons e es ih =>
    obtain ⟨k, w⟩ := e
    by_cases hk : k = key
    · simp [modify, hk]
    · simp [modify, hk, ih]

/-! ### Putting together

Entries that are made of other entries one after the other: an entry fails, adds a value under its
key, or adds nothing.
-/

section Collect

variable {step : Entries β → String × α → Option (Entries β)}
  {f : String → α → Option (Option β)}

/-- Adds a value under a key, if there is one. -/
def extend (key : String) (o : Option β) (made : Entries β) : Entries β :=
  match o with
  | some d => insert key d made
  | none => made

lemma ascending_extend {made : Entries β} (key : String) (o : Option β) (h : Ascending made) :
    Ascending (extend key o made) := by
  cases o with
  | none => exact h
  | some d => exact ascending_insert key d h

lemma get?_extend {made : Entries β} (h : get? key made = none) (o : Option β) (k : String) :
    get? k (extend key o made) = if k = key then o else get? k made := by
  cases o with
  | none =>
    split_ifs with hk
    · rw [hk]
      exact h
    · rfl
  | some d => exact get?_insert key k d made

/-- What an entry does to the entries made so far, none of which has its key. -/
def Collects (step : Entries β → String × α → Option (Entries β))
    (f : String → α → Option (Option β)) (e : String × α) : Prop :=
  ∀ made, Ascending made → get? e.1 made = none →
    step made e = (f e.1 e.2).map fun o => extend e.1 o made

/-- None of the entries made so far has the key of one to come. -/
lemma get?_extend_tail {e : String × α} {made : Entries β} (hd : Distinct (e :: es))
    (hnew : ∀ d ∈ e :: es, get? d.1 made = none) (o : Option β) :
    ∀ d ∈ es, get? d.1 (extend e.1 o made) = none := by
  intro d he
  rw [get?_extend (hnew e List.mem_cons_self), if_neg, hnew d (List.mem_cons_of_mem _ he)]
  exact ne_of_get?_eq_none (distinct_cons.1 hd).1 he

lemma collect_isSome (hstep : ∀ e ∈ es, Collects step f e) (hd : Distinct es) {made : Entries β}
    (hmade : Ascending made) (hnew : ∀ e ∈ es, get? e.1 made = none)
    (hall : ∀ e ∈ es, (f e.1 e.2).isSome = true) :
    ∃ all, es.foldlM step made = some all ∧ Ascending all ∧
      ∀ k, get? k all = match get? k es with
        | some v => (f k v).join
        | none => get? k made := by
  induction es generalizing made with
  | nil => exact ⟨made, rfl, hmade, fun k => rfl⟩
  | cons e es ih =>
    obtain ⟨l, w⟩ := e
    obtain ⟨o, ho⟩ := Option.isSome_iff_exists.1 (hall _ List.mem_cons_self)
    have hl := hnew _ List.mem_cons_self
    have hfirst := hstep _ List.mem_cons_self made hmade hl
    rw [ho, Option.map_some] at hfirst
    obtain ⟨all, hfold, hasc, hkeys⟩ := ih (fun e he => hstep e (List.mem_cons_of_mem _ he))
      (distinct_cons.1 hd).2 (ascending_extend l o hmade) (get?_extend_tail hd hnew o)
      fun e he => hall e (List.mem_cons_of_mem _ he)
    refine ⟨all, ?_, hasc, ?_⟩
    · rw [List.foldlM_cons, hfirst]
      exact hfold
    · intro k
      rw [hkeys k, get?]
      by_cases hk : l = k
      · subst hk
        rw [(distinct_cons.1 hd).1, if_pos rfl]
        simp only [get?_extend hl, if_true]
        rw [ho]
        rfl
      · rw [if_neg hk]
        cases get? k es with
        | some v => rfl
        | none =>
          simp only [get?_extend hl]
          rw [if_neg (Ne.symm hk)]

lemma isSome_of_collect (hstep : ∀ e ∈ es, Collects step f e) (hd : Distinct es)
    {made all : Entries β} (hmade : Ascending made) (hnew : ∀ e ∈ es, get? e.1 made = none)
    (h : es.foldlM step made = some all) : ∀ e ∈ es, (f e.1 e.2).isSome = true := by
  induction es generalizing made with
  | nil =>
    intro e he
    cases he
  | cons e es ih =>
    have hfirst := hstep e List.mem_cons_self made hmade (hnew e List.mem_cons_self)
    rw [List.foldlM_cons, hfirst] at h
    cases ho : f e.1 e.2 with
    | none =>
      rw [ho] at h
      cases h
    | some o =>
      rw [ho] at h
      have hrest := ih (fun e he => hstep e (List.mem_cons_of_mem _ he)) (distinct_cons.1 hd).2
        (ascending_extend e.1 o hmade) (get?_extend_tail hd hnew o) h
      exact List.forall_mem_cons.2 ⟨Option.isSome_iff_exists.2 ⟨o, ho⟩, hrest⟩

/-- Entries are made of distinct entries just if none of these fails, and hold under every
key what the one under that key adds. -/
theorem collect_eq_some_iff (hstep : ∀ e ∈ es, Collects step f e) (hd : Distinct es)
    {all : Entries β} :
    es.foldlM step [] = some all ↔
      Ascending all ∧ (∀ e ∈ es, (f e.1 e.2).isSome = true) ∧
        ∀ k, get? k all = (get? k es).bind fun v => (f k v).join := by
  have hkeys (hall : ∀ e ∈ es, (f e.1 e.2).isSome = true) :
      ∃ all, es.foldlM step [] = some all ∧ Ascending all ∧
        ∀ k, get? k all = (get? k es).bind fun v => (f k v).join := by
    obtain ⟨all, hfold, hasc, hget⟩ := collect_isSome hstep hd List.Pairwise.nil
      (fun e _ => rfl) hall
    refine ⟨all, hfold, hasc, ?_⟩
    intro k
    rw [hget k]
    cases get? k es <;> rfl
  constructor
  · intro h
    have hall := isSome_of_collect hstep hd List.Pairwise.nil (fun e _ => rfl) h
    obtain ⟨all', hfold, hasc, hget⟩ := hkeys hall
    rw [h] at hfold
    obtain rfl := Option.some.inj hfold
    exact ⟨hasc, hall, hget⟩
  · rintro ⟨hasc, hall, hget⟩
    obtain ⟨all', hfold, hasc', hget'⟩ := hkeys hall
    rw [hfold, ext hasc' hasc fun k => (hget' k).trans (hget k).symm]

/-- The order in which distinct entries are taken does not matter. -/
theorem collect_perm (hstep : ∀ e ∈ es, Collects step f e) (hd : Distinct es) (h : es.Perm fs) :
    es.foldlM step [] = fs.foldlM step [] := by
  have hd' : Distinct fs := (h.map Prod.fst).nodup_iff.1 hd
  apply Option.ext
  intro all
  rw [collect_eq_some_iff hstep hd,
    collect_eq_some_iff (fun e he => hstep e (h.mem_iff.2 he)) hd']
  simp only [hd.get?_perm h, h.mem_iff]

end Collect

end Entries

end PodAdmission

import PodAdmission.Proofs.Pod.Commute

/-!
# Runs of annotations

Annotations that are set one after the other. What a run leaves under a key is the value that comes
last for that key or, if the run has none, what was there before (`get?_insertAll`). So runs in
which the values for every key come in the same order make the same pod of a pod, however the calls
for different keys are mixed, and nothing but the annotations depends on them.
-/

namespace PodAdmission

namespace Entries

variable {α β : Type} {key : String} {pairs pairs' : List (String × α)} {es : Entries α}

/-- Sets values under keys one after the other. -/
def insertAll (pairs : List (String × α)) (es : Entries α) : Entries α :=
  pairs.foldl (fun es e => insert e.1 e.2 es) es

/-- The pairs with a key. -/
def under (key : String) (pairs : List (String × α)) : List (String × α) :=
  pairs.filter fun e => e.1 = key

/-- The value that comes last for a key. -/
def last? (key : String) (pairs : List (String × α)) : Option α :=
  (under key pairs).getLast?.map Prod.snd

@[simp] lemma insertAll_cons (e : String × α) (pairs : List (String × α)) (es : Entries α) :
    insertAll (e :: pairs) es = insertAll pairs (insert e.1 e.2 es) := rfl

@[simp] lemma last?_nil (key : String) : last? key ([] : List (String × α)) = none := rfl

lemma last?_cons (key : String) (e : String × α) (pairs : List (String × α)) :
    last? key (e :: pairs) = (last? key pairs).or (if key = e.1 then some e.2 else none) := by
  rw [last?, last?, under, List.filter_cons]
  by_cases hkey : key = e.1
  · simp only [hkey, decide_true, if_true, under]
    rw [List.getLast?_cons]
    cases (pairs.filter fun d => d.1 = e.1).getLast? <;> rfl
  · simp [hkey, Ne.symm hkey, under]

lemma last?_append (key : String) (before after : List (String × α)) :
    last? key (before ++ after) = (last? key after).or (last? key before) := by
  induction before with
  | nil => simp
  | cons e before ih =>
    rw [List.cons_append, last?_cons, ih, last?_cons, Option.or_assoc]

lemma last?_eq_none (h : ∀ e ∈ pairs, e.1 ≠ key) : last? key pairs = none := by
  have hunder : under key pairs = [] := by
    apply List.filter_eq_nil_iff.2
    intro e he
    simpa using h e he
  rw [last?, hunder]
  rfl

/-- A run keeps the order. -/
lemma ascending_insertAll (h : es.Ascending) : (insertAll pairs es).Ascending := by
  induction pairs generalizing es with
  | nil => exact h
  | cons e pairs ih => exact ih (ascending_insert e.1 e.2 h)

/-- Under a key there is what comes last for it or else what was there before. -/
theorem get?_insertAll (key : String) (pairs : List (String × α)) (es : Entries α) :
    get? key (insertAll pairs es) = (last? key pairs).or (get? key es) := by
  induction pairs generalizing es with
  | nil => rfl
  | cons e pairs ih =>
    rw [insertAll_cons, ih, last?_cons, get?_insert, Option.or_assoc]
    split_ifs <;> rfl

/-- How the values for different keys are mixed does not matter. -/
theorem insertAll_congr (ha : es.Ascending) (h : ∀ key, under key pairs = under key pairs') :
    insertAll pairs es = insertAll pairs' es := by
  refine ext (ascending_insertAll ha) (ascending_insertAll ha) fun key => ?_
  rw [get?_insertAll, get?_insertAll, last?, last?, h]

lemma under_map (f : α → β) (key : String) (pairs : List (String × α)) :
    under key (pairs.map fun e => (e.1, f e.2)) = (under key pairs).map fun e => (e.1, f e.2) := by
  rw [under, List.filter_map, under]
  rfl

lemma eq_nil_of_under (h : ∀ key, under key pairs = []) : pairs = [] := by
  apply List.eq_nil_iff_forall_not_mem.2
  intro e he
  have hmem : e ∈ under e.1 pairs := List.mem_filter.2 ⟨he, by simp⟩
  rw [h] at hmem
  cases hmem

end Entries

namespace Pod

variable {p : Pod} {calls calls' : List (String × String)}

/-- Sets annotations one after the other. -/
def annotateAll (calls : List (String × String)) (p : Pod) : Pod :=
  calls.foldl (fun p call => p.annotate call.1 call.2) p

/-- The annotations that calls set, as entries of a record. -/
def entriesOf (calls : List (String × String)) : List (String × Datum) :=
  calls.map fun call => (call.1, .text call.2)

@[simp] lemma annotateAll_cons (call : String × String) (calls : List (String × String))
    (p : Pod) : p.annotateAll (call :: calls) = (p.annotate call.1 call.2).annotateAll calls := rfl

lemma annotations_annotateAll (calls : List (String × String)) (p : Pod) :
    (p.annotateAll calls).annotations = Entries.insertAll (entriesOf calls) p.annotations := by
  induction calls generalizing p with
  | nil => rfl
  | cons call calls ih =>
    rw [annotateAll_cons, ih, annotations_annotate]
    rfl

/-- A run with a call changes the annotations and nothing else. -/
lemma annotateAll_eq (h : calls ≠ []) (p : Pod) : p.annotateAll calls =
    p.withAnnotations (Entries.insertAll (entriesOf calls) p.annotations) := by
  induction calls generalizing p with
  | nil => exact absurd rfl h
  | cons call calls ih =>
    rw [annotateAll_cons]
    cases calls with
    | nil => rfl
    | cons next calls =>
      rw [ih (List.cons_ne_nil _ _), annotations_annotate, annotate_eq_withAnnotations,
        withAnnotations_withAnnotations]
      rfl

/-- A run changes nothing or the annotations. -/
lemma annotateAll_cases (calls : List (String × String)) (p : Pod) :
    p.annotateAll calls = p ∨ p.annotateAll calls =
      p.withAnnotations (Entries.insertAll (entriesOf calls) p.annotations) := by
  by_cases h : calls = []
  · rw [h]
    exact .inl rfl
  · exact .inr (annotateAll_eq h p)

/-- The pod is what a run of annotations makes of another: its annotations are in order, those that
were set have the value that came last, and all else is as it was. -/
structure Annotated (calls : List (String × String)) (p q : Pod) : Prop where
  ascending : Entries.Ascending q.annotations
  last : ∀ before key value after, calls = before ++ (key, value) :: after →
    (∀ call ∈ after, call.1 ≠ key) → Entries.get? key q.annotations = some (.text value)
  kept : ∀ key, (∀ call ∈ calls, call.1 ≠ key) →
    Entries.get? key q.annotations = Entries.get? key p.annotations
  metadata : ∀ k, k ≠ "annotations" → Entries.get? k q.metadata = Entries.get? k p.metadata
  fields : ∀ k, k ≠ "metadata" → Entries.get? k q.fields = Entries.get? k p.fields
  rest : q = p ∨ q = p.withAnnotations q.annotations

lemma get?_annotations_annotateAll (key : String) (calls : List (String × String)) (p : Pod) :
    Entries.get? key (p.annotateAll calls).annotations =
      ((Entries.last? key calls).map Datum.text).or (Entries.get? key p.annotations) := by
  rw [annotations_annotateAll, Entries.get?_insertAll, Entries.last?, entriesOf,
    Entries.under_map, List.getLast?_map, Option.map_map, Entries.last?, Option.map_map]
  rfl

lemma annotated_annotateAll (hp : Entries.Ascending p.annotations)
    (calls : List (String × String)) : Annotated calls p (p.annotateAll calls) := by
  constructor
  · rw [annotations_annotateAll]
    exact Entries.ascending_insertAll hp
  · rintro before key value after rfl hafter
    rw [get?_annotations_annotateAll, Entries.last?_append, Entries.last?_cons,
      Entries.last?_eq_none hafter]
    simp
  · intro key hcalls
    rw [get?_annotations_annotateAll, Entries.last?_eq_none hcalls]
    rfl
  · intro k hk
    rcases annotateAll_cases calls p with heq | heq
    · rw [heq]
    · rw [heq, metadata_withAnnotations, Entries.get?_insert_of_ne hk]
  · intro k hk
    rcases annotateAll_cases calls p with heq | heq
    · rw [heq]
    · rw [heq, withAnnotations, Entries.get?_insert_of_ne hk]
  · rw [annotations_annotateAll]
    exact annotateAll_cases calls p

/-- Runs with the same calls for every key make the same pod of a pod. -/
lemma annotateAll_congr (hp : Entries.Ascending p.annotations)
    (h : ∀ key, Entries.under key calls = Entries.under key calls') :
    p.annotateAll calls = p.annotateAll calls' := by
  have hnil : calls = [] ↔ calls' = [] := by
    constructor
    · rintro rfl
      exact Entries.eq_nil_of_under fun key => (h key).symm
    · rintro rfl
      exact Entries.eq_nil_of_under h
  have hentries (key : String) : Entries.under key (entriesOf calls) =
      Entries.under key (entriesOf calls') := by
    rw [entriesOf, entriesOf, Entries.under_map, Entries.under_map, h]
  by_cases hcalls : calls = []
  · rw [hcalls, hnil.1 hcalls]
  · rw [annotateAll_eq hcalls, annotateAll_eq (mt hnil.2 hcalls),
      Entries.insertAll_congr hp hentries]

/-- Annotations that are set one after the other stay in order, the last value for a key is the one
that is kept, and nothing else in the pod changes. In whatever order the calls for different keys
come, the pod and its text are the same. -/
theorem annotateAll_keeps_last (hp : Entries.Ascending p.annotations)
    (calls : List (String × String)) :
    Annotated calls p (p.annotateAll calls) ∧
    ∀ calls', (∀ key, calls.filter (fun call => call.1 = key) =
        calls'.filter (fun call => call.1 = key)) →
      p.annotateAll calls = p.annotateAll calls' ∧
      (p.annotateAll calls).encode = (p.annotateAll calls').encode := by
  refine ⟨annotated_annotateAll hp calls, fun calls' h => ?_⟩
  have heq : p.annotateAll calls = p.annotateAll calls' := annotateAll_congr hp h
  exact ⟨heq, congrArg Pod.encode heq⟩

/-- A pod with two annotations. -/
def notedTwicePod : Pod :=
  ⟨[("metadata", .record [("annotations", .record [("b", .text "0"), ("c", .text "9")])])]⟩

/-- A new annotation set twice and one that is there, in two orders. -/
theorem annotateAll_keeps_last_notedTwicePod :
    let calls := [("a", "1"), ("b", "2"), ("a", "3")]
    Entries.Ascending notedTwicePod.annotations ∧
    (notedTwicePod.annotateAll calls).annotations =
      [("a", .text "3"), ("b", .text "2"), ("c", .text "9")] ∧
    Annotated calls notedTwicePod (notedTwicePod.annotateAll calls) ∧
    notedTwicePod.annotateAll calls =
      notedTwicePod.annotateAll [("b", "2"), ("a", "1"), ("a", "3")] := by
  intro calls
  have hp : Entries.Ascending notedTwicePod.annotations :=
    (Entries.ascending_iff_map_fst _).2 (by decide)
  obtain ⟨hannotated, horder⟩ := annotateAll_keeps_last hp calls
  refine ⟨hp, rfl, hannotated, (horder _ fun key => ?_).1⟩
  by_cases ha : "a" = key
  · simp [calls, ← ha]
  · by_cases hb : "b" = key <;> simp [calls, ha, hb]

end Pod

end PodAdmission

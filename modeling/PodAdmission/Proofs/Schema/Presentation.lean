import PodAdmission.Proofs.Json.Meaning
import PodAdmission.Proofs.Schema.Reading

/-!
# Presentations of a document

`Shape.Alike` says that two documents present the same to a reader against a shape: members come in
another order, members that the shape does not know are added or left out, and so is `null` for
fields. What documents mean against a shape does not depend on the presentation, so what is read of
them depends on it just if one is clear where it holds free values and the other is not.
-/

namespace PodAdmission.Shape

open Json Reader

variable {fixed : List (String × String)} {free free' : FreeReading} {s : Shape} {name : String}
  {fields : List (String × Presence × Shape)} {D D' X x y : Document} {depth : Nat}

/-- What is read of a document against a shape. If it is a record, it has fixed members besides. -/
def ofDocumentWith? (fixed : List (String × String)) (free : FreeReading) :
    Shape → (depth : Nat) → Document → Option Datum
  | .record _ fields, depth, D =>
    (D.record? fixed (fieldsOfDocument? free fields) depth).map fun given =>
      .record (complete fields given)
  | s, depth, D => s.ofDocument? free depth D

lemma ofDocumentWith?_nil (free : FreeReading) (s : Shape) (depth : Nat) (D : Document) :
    ofDocumentWith? [] free s depth D = s.ofDocument? free depth D := by
  cases s <;> rfl

/-! ### Fields -/

/-- What is read for a field that may be left out is seen from what is read of the document. -/
lemma optional?_congr {α : Type} {value? value?' : Document → Option α}
    (hleaf : x.leaf? = y.leaf?) (h : x ≠ .null → value? x = value?' y) :
    Document.optional? value? x = Document.optional? value?' y := by
  by_cases hx : x = .null
  · have hy : y = .null := Document.eq_null_iff.2 (hleaf ▸ Document.eq_null_iff.1 hx)
    rw [hx, hy]
    rfl
  · have hy : y ≠ .null := fun hy => hx (Document.eq_null_iff.2 (hleaf ▸ Document.eq_null_iff.1 hy))
    rw [Document.optional?_of_ne_null hx, Document.optional?_of_ne_null hy, h hx]

/-- A member may be replaced by one that is read alike. -/
lemma addField?_congr {key : String} (hleaf : x.leaf? = y.leaf?)
    (h : ∀ f, Entries.get? key fields = some f → x ≠ .null →
      f.2.ofDocument? free depth x = f.2.ofDocument? free' depth y) (made : Record) :
    Document.addField? fixed (fieldsOfDocument? free fields depth) made (key, x) =
      Document.addField? fixed (fieldsOfDocument? free' fields depth) made (key, y) := by
  rw [Document.addField?, Document.addField?, get?_fieldsOfDocument?, get?_fieldsOfDocument?]
  cases hkey : Entries.get? key fields with
  | none =>
    simp only [Option.map_none, Document.text?, hleaf]
    rfl
  | some f =>
    simp only [Option.map_some, optional?_congr hleaf (h f hkey)]

/-! ### Free values -/

/-- The document stands where a document against the shape may hold any value. -/
inductive HasFree : Shape → Document → Document → Prop where
  | self (X : Document) : HasFree .free X X
  | item {s : Shape} {items : List Document} {x X : Document} (hx : x ∈ items)
      (h : HasFree s x X) : HasFree (.list s) (.list items) X
  | entry {s : Shape} {members : List (String × Document)} {m : String × Document} {X : Document}
      (hm : m ∈ members) (h : HasFree s m.2 X) : HasFree (.dict s) (.object members) X
  | field {name : String} {fields : List (String × Presence × Shape)} {f : Presence × Shape}
      {members : List (String × Document)} {m : String × Document} {X : Document}
      (hfield : Entries.get? m.1 fields = some f) (hm : m ∈ members) (hnull : m.2 ≠ .null)
      (h : HasFree f.2 m.2 X) : HasFree (.record name fields) (.object members) X

/-- Free values are read alike wherever they stand in the document. -/
def FreeAgree (free free' : FreeReading) (s : Shape) (D : Document) : Prop :=
  ∀ X, HasFree s D X → ∀ depth, free depth X = free' depth X

lemma record?_congr (hfields : ∀ f ∈ fields, ∀ depth D, FreeAgree free free' f.2.2 D →
      f.2.2.ofDocument? free depth D = f.2.2.ofDocument? free' depth D)
    (h : FreeAgree free free' (.record name fields) D) :
    D.record? fixed (fieldsOfDocument? free fields) depth =
      D.record? fixed (fieldsOfDocument? free' fields) depth := by
  cases D with
  | object members =>
    cases depth with
    | zero => rfl
    | succ depth =>
      refine foldlM_congr (fun m hm made => addField?_congr rfl (fun f hf hnull => ?_) made) []
      exact hfields (m.1, f) (Entries.mem_of_get? hf) depth m.2 fun X hX =>
        h X (.field hf hm hnull hX)
  | _ => cases depth <;> rfl

/-- What is read of a document changes with nothing but what is read of its free values. -/
lemma ofDocument?_congr (h : FreeAgree free free' s D) :
    s.ofDocument? free depth D = s.ofDocument? free' depth D := by
  induction s generalizing depth D with
  | free => exact congrArg (Option.map Datum.free) (h D (.self D) depth)
  | list item ih =>
    cases D with
    | list items =>
      cases depth with
      | zero => rfl
      | succ depth =>
        exact congrArg (Option.map Datum.list)
          (mapM_congr fun x hx => ih fun X hX => h X (.item hx hX))
    | _ => cases depth <;> rfl
  | dict item ih =>
    cases D with
    | object members =>
      cases depth with
      | zero => rfl
      | succ depth =>
        refine congrArg (Option.map Datum.record) (foldlM_congr (fun m hm made => ?_) [])
        rw [addMember?, addMember?, ih fun X hX => h X (.entry hm hX)]
    | _ => cases depth <;> rfl
  | record name fields ih =>
    exact congrArg (Option.map _) (record?_congr (fun f hf depth D => ih f hf) h)
  | _ => rfl

lemma ofDocumentWith?_congr (h : FreeAgree free free' s D) :
    ofDocumentWith? fixed free s depth D = ofDocumentWith? fixed free' s depth D := by
  cases s with
  | record name fields =>
    exact congrArg (Option.map _)
      (record?_congr (fun f _ depth D hD => ofDocument?_congr hD) h)
  | _ => exact ofDocument?_congr h

/-- If a document is read, every free value in it is. -/
lemma isSome_of_hasFree (hX : HasFree s D X)
    (h : (ofDocumentWith? fixed free s depth D).isSome = true) :
    ∃ depth, (free depth X).isSome = true := by
  induction hX generalizing fixed depth with
  | self X =>
    have hfree : ((free depth X).map Datum.free).isSome = true := h
    rw [Option.isSome_map] at hfree
    exact ⟨depth, hfree⟩
  | @item s items x X hx hX ih =>
    cases depth with
    | zero => cases h
    | succ depth =>
      have hitems : ((items.mapM (s.ofDocument? free depth)).map Datum.list).isSome = true := h
      rw [Option.isSome_map, mapM_isSome_iff] at hitems
      exact ih (ofDocumentWith?_nil free s depth x ▸ hitems x hx)
  | @entry s members m X hm hX ih =>
    cases depth with
    | zero => cases h
    | succ depth =>
      have hmembers : ((members.foldlM (addMember? (s.ofDocument? free depth)) []).map
        Datum.record).isSome = true := h
      rw [Option.isSome_map, foldlM_addMember?_isSome_iff] at hmembers
      exact ih (ofDocumentWith?_nil free s depth m.2 ▸ hmembers m hm)
  | @field name fields f members m X hfield hm hnull hX ih =>
    cases depth with
    | zero => cases h
    | succ depth =>
      rw [ofDocumentWith?, Option.isSome_map] at h
      obtain ⟨made, hmade⟩ := isSome_of_foldlM h m hm
      rw [Document.addField?, get?_fieldsOfDocument?, hfield] at hmade
      simp only [Option.map_some, Option.isSome_map, Document.optional?_of_ne_null hnull] at hmade
      exact ih (ofDocumentWith?_nil free f.2 depth m.2 ▸ hmade)

/-! ### Presentations -/

/-- What the items of a list are read against. -/
def item : Shape → Shape
  | .list item => item
  | _ => .free

/-- What the value of a member is read against. -/
def member (key : String) : Shape → Shape
  | .dict item => item
  | .record _ fields =>
    match Entries.get? key fields with
    | some f => f.2
    | none => .free
  | _ => .free

/-- The two documents present the same to a reader against the shape. If it is a record, it has
fixed members besides. -/
inductive Alike : (fixed : List (String × String)) → Shape → Document → Document → Prop where
  | refl (fixed : List (String × String)) (s : Shape) (D : Document) : Alike fixed s D D
  | permuted {fixed : List (String × String)} {s : Shape} {ms ms' : List (String × Document)}
      (h : ms.Perm ms') : Alike fixed s (.object ms) (.object ms')
  | unknown {fixed : List (String × String)} {name key : String}
      {fields : List (String × Presence × Shape)} {D : Document} {ms : List (String × Document)}
      (hfield : Entries.get? key fields = none) (hfixed : Entries.get? key fixed = none)
      (hnew : Entries.get? key ms = none) (hD : D.Distinct) :
      Alike fixed (.record name fields) (.object ms) (.object ((key, D) :: ms))
  | null {fixed : List (String × String)} {name key : String}
      {fields : List (String × Presence × Shape)} {f : Presence × Shape}
      {ms : List (String × Document)} (hfield : Entries.get? key fields = some f)
      (hnew : Entries.get? key ms = none) :
      Alike fixed (.record name fields) (.object ms) (.object ((key, .null) :: ms))
  | item {fixed : List (String × String)} {s : Shape} {x y : Document}
      {before behind : List Document} (h : Alike [] s.item x y) :
      Alike fixed s (.list (before ++ x :: behind)) (.list (before ++ y :: behind))
  | member {fixed : List (String × String)} {s : Shape} {key : String} {x y : Document}
      {before behind : List (String × Document)} (h : Alike [] (s.member key) x y) :
      Alike fixed s (.object (before ++ (key, x) :: behind))
        (.object (before ++ (key, y) :: behind))
  | symm {fixed : List (String × String)} {s : Shape} {x y : Document} (h : Alike fixed s x y) :
      Alike fixed s y x
  | trans {fixed : List (String × String)} {s : Shape} {x y z : Document} (h : Alike fixed s x y)
      (h' : Alike fixed s y z) : Alike fixed s x z

lemma Alike.only_item (h : Alike [] s.item x y) : Alike fixed s (.list [x]) (.list [y]) :=
  @Alike.item fixed s x y [] [] h

lemma Alike.only_member {key : String} (h : Alike [] (s.member key) x y) :
    Alike fixed s (.object [(key, x)]) (.object [(key, y)]) :=
  @Alike.member fixed s key x y [] [] h

/-- Presentations do not differ in values without parts. -/
lemma Alike.leaf?_eq (h : Alike fixed s x y) : x.leaf? = y.leaf? := by
  induction h with
  | symm h ih => exact ih.symm
  | trans h h' ih ih' => exact ih.trans ih'
  | _ => rfl

lemma distinct_replace (key : String) (x y : Document)
    (before behind : List (String × Document)) :
    Entries.Distinct (before ++ (key, x) :: behind) ↔
      Entries.Distinct (before ++ (key, y) :: behind) := by
  simp [Entries.Distinct]

/-- No presentation of a document has two members under one key if one has none. -/
lemma Alike.distinct_iff (h : Alike fixed s x y) : x.Distinct ↔ y.Distinct := by
  induction h with
  | refl => exact Iff.rfl
  | permuted h =>
    rw [Document.distinct_object_iff, Document.distinct_object_iff, Entries.Distinct,
      Entries.Distinct, (h.map Prod.fst).nodup_iff]
    simp only [h.mem_iff]
  | unknown hfield hfixed hnew hD => simp [Entries.distinct_cons, hnew, hD]
  | null hfield hnew => simp [Entries.distinct_cons, hnew, Document.Distinct.null]
  | item h ih => simp [or_imp, forall_and, ih]
  | @member fixed s key x y before behind h ih =>
    rw [Document.distinct_object_iff, Document.distinct_object_iff, distinct_replace key x y]
    simp [or_imp, forall_and, ih]
  | symm h ih => exact ih.symm
  | trans h h' ih ih' => exact ih.trans ih'

/-! ### Meaning -/

/-- What a document means against a shape. -/
abbrev meaning? (fixed : List (String × String)) (s : Shape) (depth : Nat) (D : Document) :
    Option Datum :=
  ofDocumentWith? fixed Document.meaning? s depth D

lemma meaning?_permuted {ms ms' : List (String × Document)} (hd : Entries.Distinct ms)
    (h : ms.Perm ms') :
    meaning? fixed s depth (.object ms) = meaning? fixed s depth (.object ms') := by
  cases depth with
  | zero => cases s <;> rfl
  | succ depth =>
    cases s with
    | free => exact congrArg (Option.map Datum.free) (Document.objectMeaning?_perm hd h)
    | dict item =>
      exact congrArg (Option.map Datum.record)
        (Entries.collect_perm (fun m _ => collects_addMember? m) hd h)
    | record name fields =>
      exact congrArg (Option.map _) (Entries.collect_perm (fun m _ => collects_addField? m) hd h)
    | _ => rfl

lemma meaning?_replace_item {before behind : List Document}
    (h : ∀ depth, meaning? [] s.item depth x = meaning? [] s.item depth y) :
    meaning? fixed s depth (.list (before ++ x :: behind)) =
      meaning? fixed s depth (.list (before ++ y :: behind)) := by
  cases depth with
  | zero => cases s <;> rfl
  | succ depth =>
    cases s with
    | free =>
      have hfree := Option.map_injective (fun _ _ => Datum.free.inj) (h depth)
      exact congrArg (fun o => (o.map Json.list).map Datum.free) (mapM_replace hfree before behind)
    | list s =>
      have hitem : s.ofDocument? Document.meaning? depth x =
          s.ofDocument? Document.meaning? depth y := by
        simpa only [meaning?, ofDocumentWith?_nil, item] using h depth
      exact congrArg (Option.map Datum.list) (mapM_replace hitem before behind)
    | _ => rfl

lemma meaning?_replace_member {key : String} {before behind : List (String × Document)}
    (hleaf : x.leaf? = y.leaf?)
    (h : ∀ depth, meaning? [] (s.member key) depth x = meaning? [] (s.member key) depth y) :
    meaning? fixed s depth (.object (before ++ (key, x) :: behind)) =
      meaning? fixed s depth (.object (before ++ (key, y) :: behind)) := by
  cases depth with
  | zero => cases s <;> rfl
  | succ depth =>
    cases s with
    | free =>
      have hfree := Option.map_injective (fun _ _ => Datum.free.inj) (h depth)
      exact congrArg (Option.map Datum.free)
        (Document.objectMeaning?_replace hleaf hfree key before behind)
    | dict s =>
      have hitem : s.ofDocument? Document.meaning? depth x =
          s.ofDocument? Document.meaning? depth y := by
        simpa only [meaning?, ofDocumentWith?_nil, member] using h depth
      refine congrArg (Option.map Datum.record) (foldlM_replace (fun made => ?_) before behind [])
      simp only [addMember?, hitem]
    | record name fields =>
      refine congrArg (Option.map _) (foldlM_replace (fun made => ?_) before behind [])
      refine addField?_congr hleaf (fun f hf _ => ?_) made
      have hfield := h depth
      rw [meaning?, meaning?, ofDocumentWith?_nil, ofDocumentWith?_nil, member, hf] at hfield
      exact hfield
    | _ => rfl

/-- A member that adds nothing may be left out. -/
lemma meaning?_cons {key : String} {ms : List (String × Document)}
    (h : ∀ depth, memberOfDocument? fixed Document.meaning? fields depth key D = some none) :
    meaning? fixed (.record name fields) depth (.object ((key, D) :: ms)) =
      meaning? fixed (.record name fields) depth (.object ms) := by
  cases depth with
  | zero => rfl
  | succ depth =>
    have hadd : Document.addField? fixed (fieldsOfDocument? Document.meaning? fields depth) []
        (key, D) = _ := collects_addField? (key, D) [] List.Pairwise.nil (Entries.get?_nil key)
    rw [h depth] at hadd
    refine congrArg (Option.map _) ?_
    rw [Document.record?, Document.record?, List.foldlM_cons, hadd]
    rfl

/-- What a document means does not depend on its presentation. -/
theorem Alike.meaning?_eq (h : Alike fixed s x y) (hx : x.Distinct) (depth : Nat) :
    meaning? fixed s depth x = meaning? fixed s depth y := by
  induction h generalizing depth with
  | refl => rfl
  | permuted h => exact meaning?_permuted (Document.distinct_object_iff.1 hx).1 h
  | unknown hfield hfixed hnew hD =>
    refine (meaning?_cons fun depth => ?_).symm
    simp only [memberOfDocument?, hfield, hfixed]
  | null hfield hnew =>
    refine (meaning?_cons fun depth => ?_).symm
    simp only [memberOfDocument?, hfield]
    rfl
  | @item fixed s x y before behind h ih =>
    have hitem := Document.distinct_list_iff.1 hx x (by simp)
    exact meaning?_replace_item (ih hitem)
  | @member fixed s key x y before behind h ih =>
    have hmember := (Document.distinct_object_iff.1 hx).2 (key, x) (by simp)
    exact meaning?_replace_member h.leaf?_eq (ih hmember)
  | symm h ih => exact (ih (h.distinct_iff.2 hx) depth).symm
  | trans h h' ih ih' => exact (ih hx depth).trans (ih' (h.distinct_iff.1 hx) depth)

/-! ### Reading -/

/-- What is read of a document against a shape. -/
abbrev read? (fixed : List (String × String)) (s : Shape) (depth : Nat) (D : Document) :
    Option Datum :=
  ofDocumentWith? fixed (Document.value? (some Json.read)) s depth D

/-- No free value in the document has an object that is taken for a document in a text though it
has other members. -/
def Clear (s : Shape) (D : Document) : Prop :=
  ∀ X, HasFree s D X → X.Clear

lemma read?_of_clear (h : Clear s D) : read? fixed s depth D = meaning? fixed s depth D :=
  ofDocumentWith?_congr fun X hX => Document.value?_of_clear (h X hX)

lemma clear_of_read? (h : (read? fixed s depth D).isSome = true) : Clear s D := by
  intro X hX
  obtain ⟨depth, hread⟩ := isSome_of_hasFree hX h
  exact Document.clear_of_value? hread

/-- Two presentations of a document are read alike just if none of them is read while the other is
not clear. -/
theorem Alike.read?_eq_iff (h : Alike fixed s D D') (hD : D.Distinct) (depth : Nat) :
    read? fixed s depth D = read? fixed s depth D' ↔
      ((read? fixed s depth D).isSome = true → Clear s D') ∧
        ((read? fixed s depth D').isSome = true → Clear s D) := by
  constructor
  · intro heq
    exact ⟨fun hread => clear_of_read? (heq ▸ hread), fun hread => clear_of_read? (heq ▸ hread)⟩
  · rintro ⟨hclear', hclear⟩
    have hmean := h.meaning?_eq hD depth
    by_cases hread : (read? fixed s depth D).isSome = true
    · rw [read?_of_clear (clear_of_read? hread), read?_of_clear (hclear' hread), hmean]
    · by_cases hread' : (read? fixed s depth D').isSome = true
      · rw [read?_of_clear (clear_of_read? hread'), read?_of_clear (hclear hread'), hmean]
      · rw [Option.not_isSome_iff_eq_none.1 hread, Option.not_isSome_iff_eq_none.1 hread']

end PodAdmission.Shape

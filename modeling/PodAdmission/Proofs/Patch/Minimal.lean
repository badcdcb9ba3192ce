import PodAdmission.Proofs.Admission.Table
import PodAdmission.Proofs.Json.Answers
import PodAdmission.Proofs.Patch.Replay

/-!
# Parts that a patch leaves alone

Every operation of the patch between two documents is about a place where they differ: it replaces
the whole, or it adds or removes a part that only one of them has, or it comes from the patch
between the two parts under one token (`Origin`). So what a pointer leads to in both documents
alike is left alone, and so is everything inside of it (`Spares`). This follows by induction on the
pointer, whose tokens take objects and lists apart in the same way.
-/

namespace PodAdmission

open Json

/-! ### Parts -/

namespace Json

lemma child?_list (items : List Json) (i : Nat) :
    child? (toString i) (.list items) = items[i]? := by
  simp only [child?, Pointer.index?_toString]

/-- What a token leads to in a value that a document can hold is such a value. -/
lemma WellFormed.child {token : String} {doc x : Json} (h : doc.WellFormed)
    (hx : doc.child? token = some x) : x.WellFormed := by
  cases doc with
  | object members => exact h.members _ (Entries.mem_of_get? hx)
  | list items =>
    simp only [child?] at hx
    split at hx
    · exact h.items x (List.mem_of_getElem? hx)
    · cases hx
  | _ => cases hx

lemma at?_cons_eq_some {token : String} {q : Pointer} {doc x : Json} :
    at? (token :: q) doc = some x ↔ ∃ part, doc.child? token = some part ∧ part.at? q = some x := by
  rw [at?]
  cases doc.child? token with
  | none => simp
  | some part => simp

end Json

namespace Operation

lemma path_under (tokens : Pointer) (op : Operation) :
    (op.under tokens).path = tokens ++ op.path := by
  cases op <;> rfl

end Operation

namespace Patch

lemma mem_under {tokens : Pointer} {p : Patch} {op : Operation} :
    op ∈ p.under tokens ↔ ∃ below ∈ p, below.under tokens = op :=
  List.mem_map

/-! ### Where operations come from -/

/-- What an operation between two documents is about. -/
inductive Origin (old new : Json) : Operation → Prop where
  /-- The whole, which is not the same in both. -/
  | whole {op : Operation} (hpath : op.path = []) (h : old.same new = false) : Origin old new op
  /-- A part that one of them lacks. -/
  | missing {op : Operation} {token : String} (hpath : op.path = [token])
      (h : old.child? token = none ∨ new.child? token = none) : Origin old new op
  /-- The two parts under a token. -/
  | part {token : String} {o v : Json} {op : Operation} (hold : old.child? token = some o)
      (hnew : new.child? token = some v) (h : op ∈ diff [] o v) :
      Origin old new (op.under [token])

variable {old new : Json} {op : Operation}

lemma path_of_mem_additions {index : Nat} {items : List Json} (h : op ∈ additions [] index items) :
    ∃ i, index ≤ i ∧ op.path = [toString i] := by
  induction items generalizing index with
  | nil => cases h
  | cons x items ih =>
    rcases List.mem_cons.1 h with rfl | h
    · exact ⟨index, Nat.le_refl _, rfl⟩
    · obtain ⟨i, hi, hpath⟩ := ih h
      exact ⟨i, by omega, hpath⟩

/-- The items in front of the index are the same in number on both sides. -/
lemma origin_of_mem_diffItems {olds news : List Json} (front front' : List Json)
    (hfront : front.length = front'.length)
    (h : op ∈ diffItems [] front.length olds news) :
    Origin (.list (front ++ olds)) (.list (front' ++ news)) op := by
  induction news generalizing olds front front' with
  | nil =>
    obtain ⟨x, -, rfl⟩ := List.mem_map.1 (diffItems.eq_1 _ _ olds ▸ h)
    refine .missing rfl (.inr ?_)
    rw [child?_list, List.append_nil, hfront, List.getElem?_eq_none (Nat.le_refl _)]
  | cons v news ih =>
    cases olds with
    | nil =>
      rw [diffItems] at h
      obtain ⟨i, hi, hpath⟩ := path_of_mem_additions h
      refine .missing hpath (.inl ?_)
      rw [child?_list, List.append_nil, List.getElem?_eq_none hi]
    | cons o olds =>
      rw [diffItems, diff_under, List.mem_append, List.nil_append] at h
      rcases h with h | h
      · obtain ⟨below, hbelow, rfl⟩ := mem_under.1 h
        refine .part ?_ ?_ hbelow
        · rw [child?_list]
          simp
        · rw [hfront, child?_list]
          simp
      · have hlength : (front ++ [o]).length = (front' ++ [v]).length := by simp [hfront]
        have hrest := ih (front ++ [o]) (front' ++ [v]) hlength (by simpa using h)
        simpa using hrest

lemma origin_of_mem_diffMember {olds news : Entries Json} (hnews : news.Ascending)
    {m : String × Json} (hm : m ∈ news) (h : op ∈ diffMember olds m) :
    Origin (.object olds) (.object news) op := by
  have hnew : (Json.object news).child? m.1 = some m.2 := Entries.get?_of_mem hnews hm
  rw [diffMember] at h
  cases hold : Entries.get? m.1 olds with
  | none =>
    rw [hold] at h
    obtain rfl := List.mem_singleton.1 h
    exact .missing rfl (.inl hold)
  | some o =>
    rw [hold] at h
    obtain ⟨below, hbelow, rfl⟩ := mem_under.1 h
    exact .part hold hnew hbelow

lemma origin_of_mem_removals {olds news : Entries Json} (h : op ∈ removals [] olds news) :
    Origin (.object olds) (.object news) op := by
  obtain ⟨m, hm, rfl⟩ := List.mem_map.1 h
  exact .missing rfl (.inr (Option.isNone_iff_eq_none.1 (List.mem_filter.1 hm).2))

/-- Every operation between two documents is about a place where they differ. -/
theorem origin_of_mem_diff (hnew : new.WellFormed) (h : op ∈ diff [] old new) :
    Origin old new op := by
  have hreplace {value : Json} (hop : op ∈ [Operation.replace [] value])
      (hdiffers : old.same new = false) : Origin old new op := by
    obtain rfl := List.mem_singleton.1 hop
    exact .whole rfl hdiffers
  cases new with
  | list news =>
    cases old with
    | list olds => exact origin_of_mem_diffItems [] [] rfl (diff_list _ _ ▸ h)
    | _ => exact hreplace h rfl
  | object news =>
    cases old with
    | object olds =>
      rw [diff_object, List.mem_append, List.mem_flatMap] at h
      rcases h with ⟨m, hm, h⟩ | h
      · exact origin_of_mem_diffMember hnew.ascending hm h
      · exact origin_of_mem_removals h
    | _ => exact hreplace h rfl
  | _ =>
    rw [diff_leaf [] old (by simp) (by simp)] at h
    split_ifs at h with hsame
    · cases h
    · exact hreplace h (Bool.eq_false_iff.2 hsame)

/-! ### What is left alone -/

/-- What a pointer leads to in both documents alike is not the place of an operation, and none is
inside of it. -/
def Spares (patch : Patch) (old new : Json) : Prop :=
  ∀ (q : Pointer) (x y : Json), old.at? q = some x → new.at? q = some y → x.same y = true →
    ∀ op ∈ patch, ¬ q <+: op.path

lemma spares_diff (hold : old.WellFormed) (hnew : new.WellFormed) :
    Spares (diff [] old new) old new := by
  intro q x y hx hy hsame op hop hprefix
  induction q generalizing old new op with
  | nil =>
    obtain rfl := Option.some.inj hx
    obtain rfl := Option.some.inj hy
    rw [diff_eq_nil_of_same hold hnew hsame] at hop
    cases hop
  | cons token q ih =>
    obtain ⟨o, ho, hx⟩ := at?_cons_eq_some.1 hx
    obtain ⟨v, hv, hy⟩ := at?_cons_eq_some.1 hy
    cases origin_of_mem_diff hnew hop with
    | whole hpath h =>
      rw [hpath] at hprefix
      exact List.cons_ne_nil _ _ (List.prefix_nil.1 hprefix)
    | missing hpath h =>
      rw [hpath, List.cons_prefix_cons] at hprefix
      rw [← hprefix.1, ho, hv] at h
      rcases h with h | h <;> cases h
    | part hold' hnew' h =>
      rw [Operation.path_under, List.singleton_append, List.cons_prefix_cons] at hprefix
      obtain ⟨rfl, hprefix⟩ := hprefix
      rw [ho] at hold'
      rw [hv] at hnew'
      cases hold'
      cases hnew'
      exact ih (hold.child ho) (hnew.child hv) hx hy _ h hprefix

/-! ### Patches made -/

lemma create_spares {submitted changed : Bytes} {patch : Patch}
    (h : create submitted changed = .ok patch) : ∃ old new, Json.read submitted = .ok old ∧
      Json.read changed = .ok new ∧ patch.Spares old new := by
  rw [create] at h
  split at h
  · cases h
  · rename_i old hold
    split at h
    · cases h
    · rename_i new hnew
      cases h
      exact ⟨old, new, hold, hnew, spares_diff (wellFormed_of_read hold) (wellFormed_of_read hnew)⟩

end Patch

namespace Decision

variable {codec : Codec} {P : Policy} {request : AdmissionRequest} {response : AdmissionResponse}

/-- A patch that a response carries is the one between the two texts of the pod. -/
lemma Row.exists_patch {text : Bytes} (h : Row codec P request response)
    (hpatch : response.patch = some text) : ∃ p before after patch,
      Selects codec P request p ∧ Encodes codec P p before after ∧
        Patch.create before after = .ok patch ∧ text = patch.write := by
  cases h with
  | changed hselects hencodes hold hnew hne =>
    refine ⟨_, _, _, _, hselects, hencodes, ?_, (Option.some.inj hpatch).symm⟩
    simp only [Patch.create, hold, hnew]
  | _ => cases hpatch

end Decision

namespace Patch

/-- The patch between any two documents leaves alone what is the same in both. So does the patch
made from two texts, and so does the patch that a response carries, whatever the codec is and
whatever the policy does to the pod. -/
theorem spares_same_parts :
    (∀ old new : Json, old.WellFormed → new.WellFormed → (between old new).Spares old new) ∧
    (∀ submitted changed patch, create submitted changed = .ok patch → ∃ old new,
      Json.read submitted = .ok old ∧ Json.read changed = .ok new ∧ patch.Spares old new) ∧
    ∀ codec P request text, (Decision.ofRequest codec P request).response.patch = some text →
      ∃ p before after old new, ∃ patch : Patch, Decision.Selects codec P request p ∧
        Decision.Encodes codec P p before after ∧ Json.read before = .ok old ∧
        Json.read after = .ok new ∧ text = patch.write ∧ patch.Spares old new := by
  refine ⟨fun old new => spares_diff, fun submitted changed patch => create_spares,
    fun codec P request text h => ?_⟩
  obtain ⟨p, before, after, patch, hselects, hencodes, hcreate, htext⟩ :=
    (Decision.row_iff.2 rfl).exists_patch h
  obtain ⟨old, new, hold, hnew, hspares⟩ := create_spares hcreate
  exact ⟨p, before, after, old, new, patch, hselects, hencodes, hold, hnew, htext, hspares⟩

/-- The first item of a list stays where it is, though the second is removed and a sibling of the
list is replaced. -/
theorem spares_firstItem :
    let old := Json.object [("a", .text "v"), ("b", .list [.text "x", .text "y"])]
    let new := Json.object [("a", .text "w"), ("b", .list [.text "x"])]
    between old new = [.replace ["a"] (.text "w"), .remove ["b", "1"]] ∧
      ∀ op ∈ between old new, ¬ ["b", "0"] <+: op.path := by
  intro old new
  have hold : old.WellFormed := .object ((Entries.ascending_iff_map_fst _).2 (by decide)) (by simp)
  have hnew : new.WellFormed := .object ((Entries.ascending_iff_map_fst _).2 (by decide)) (by simp)
  exact ⟨rfl, spares_same_parts.1 old new hold hnew ["b", "0"] (.text "x") (.text "x") rfl rfl rfl⟩

end Patch

end PodAdmission

import Mathlib.Data.List.Forall2
import PodAdmission.Proofs.Json.Frame
import PodAdmission.Proofs.Json.Recovery
import PodAdmission.Proofs.Patch.Codec
import PodAdmission.Proofs.Patch.Replay
import PodAdmission.Proofs.Schema.Answers

/-!
# Changes of data

A patch that is computed from the one text of a datum has to fit any other. `Shape.Change` says that
it does: it is the difference of the values that come back of the two data, and it turns every value
that is read as the old datum into one that is read as the new, touching nothing but the places
given.

A change of a field is a change of the record, a change of every item is a change of the list, and
so on up to the whole document.
-/

namespace PodAdmission

open Json Reader

/-! ### Plain patches -/

namespace Patch

variable {p q : Patch}

lemma plain_nil : Plain [] := by
  intro op h
  cases h

lemma Plain.append (hp : Plain p) (hq : Plain q) : Plain (p ++ q) := by
  intro op h
  rcases List.mem_append.1 h with h | h
  · exact hp op h
  · exact hq op h

lemma Plain.under (hp : Plain p) (tokens : Pointer) : Plain (p.under tokens) := by
  intro op h
  obtain ⟨op', h', rfl⟩ := List.mem_map.1 h
  have hop := hp op' h'
  cases op' <;> exact hop

lemma plain_add {path : Pointer} {v : Json} (h : v.Plain) : Plain [.add path v] := by
  intro op hop
  obtain rfl := List.mem_singleton.1 hop
  exact h

lemma plain_diff_text (path : Pointer) (s t : String) :
    Plain (diff path (.text s) (.text t)) := by
  rw [diff_leaf path _ (by simp) (by simp)]
  split_ifs
  · exact plain_nil
  · intro op hop
    obtain rfl := List.mem_singleton.1 hop
    exact .text t

lemma plain_diffItems_texts (index : Nat) (old new : List String) :
    Plain (diffItems [] index (old.map .text) (new.map .text)) := by
  induction new generalizing index old with
  | nil =>
    intro op hop
    rw [List.map_nil, diffItems] at hop
    obtain ⟨x, -, rfl⟩ := List.mem_map.1 hop
    trivial
  | cons t new ih =>
    cases old with
    | nil =>
      have hadd (index : Nat) (ss : List String) : Plain (additions [] index (ss.map .text)) := by
        induction ss generalizing index with
        | nil => exact plain_nil
        | cons s ss ihAdd =>
          intro op hop
          rcases List.mem_cons.1 hop with rfl | hop
          · exact .text s
          · exact ihAdd (index + 1) op hop
      exact hadd index (t :: new)
    | cons s old =>
      rw [List.map_cons, List.map_cons, diffItems]
      exact (plain_diff_text _ s t).append (ih (index + 1) old)

lemma plain_diff_texts (old new : List String) :
    Plain (diff [] (.list (old.map .text)) (.list (new.map .text))) := by
  rw [diff_list]
  exact plain_diffItems_texts 0 old new

end Patch

namespace Shape

/-! ### Data -/

/-- A patch changes a datum into another wherever the datum is written. -/
structure Change (s : Shape) (depth : Nat) (patch : Patch) (touched : Pointer → Prop)
    (d d' : Datum) : Prop where
  wellFormed : d'.toJson.WellFormed
  plain : patch.Plain
  inner : patch.Inner
  recovered : ∀ y, d'.toJson.back? depth = some y → ∃ x, d.toJson.back? depth = some x ∧
    patch.run? x = some y ∧ Patch.diff [] x y = patch
  submitted : ∀ x, x.WellFormed → s.ofJson? depth x = some d → ∃ y, patch.run? x = some y ∧
    y.WellFormed ∧ s.ofJson? depth y = some d' ∧ x.SameBut touched y

variable {s : Shape} {depth : Nat} {patch patch' : Patch} {touched touched' : Pointer → Prop}
  {d d' : Datum} {field field' : String}

lemma Change.mono {wider : Pointer → Prop} (h : s.Change depth patch touched d d')
    (hle : ∀ path, touched path → wider path) : s.Change depth patch wider d d' := by
  refine ⟨h.wellFormed, h.plain, h.inner, h.recovered, ?_⟩
  intro x hx hd
  obtain ⟨y, hrun, hy, hd', hsame⟩ := h.submitted x hx hd
  exact ⟨y, hrun, hy, hd', hsame.mono hle⟩

/-- Nothing to do. -/
lemma Change.refl (s : Shape) (depth : Nat) (touched : Pointer → Prop)
    (h : d.toJson.WellFormed) : s.Change depth [] touched d d := by
  refine ⟨h, Patch.plain_nil, Patch.inner_nil, fun y hy => ⟨y, hy, rfl, ?_⟩, fun x hx hd => ?_⟩
  · exact Patch.diff_self (wellFormed_back? h hy)
  · exact ⟨x, rfl, hx, hd, .refl touched x⟩

/-- A datum that is written plainly and comes back as it is. -/
structure Stable (s : Shape) (depth : Nat) (d : Datum) : Prop where
  plain : d.toJson.Plain
  back : d.toJson.back? depth = some d.toJson
  ofJson : s.ofJson? depth d.toJson = some d

/-- A datum that is written in one way only. -/
structure Rigid (s : Shape) (depth : Nat) (d : Datum) : Prop extends s.Stable depth d where
  unique : ∀ x, x.WellFormed → s.ofJson? depth x = some d → x = d.toJson

lemma Change.of_rigid (hd : s.Rigid depth d) (hd' : s.Rigid depth d')
    (hplain : (Patch.diff [] d.toJson d'.toJson).Plain)
    (hrun : (Patch.diff [] d.toJson d'.toJson).run? d.toJson = some d'.toJson) :
    s.Change depth (Patch.diff [] d.toJson d'.toJson) (· = []) d d' := by
  refine ⟨hd'.plain.wellFormed, hplain, Patch.inner_diff _ _, ?_, ?_⟩
  · intro y hy
    rw [hd'.back] at hy
    obtain rfl := Option.some.inj hy
    exact ⟨d.toJson, hd.back, hrun, rfl⟩
  · intro x hx hx'
    obtain rfl := hd.unique x hx hx'
    exact ⟨d'.toJson, hrun, hd'.plain.wellFormed, hd'.ofJson, .touched (by rfl) _ _⟩

/-! ### Texts -/

lemma textOfJson?_eq_some_iff {x : Json} {t : String} : textOfJson? x = some t ↔ x = .text t := by
  rw [textOfJson?]
  cases x with
  | number n => cases hn : n.reread? <;> simp [rereadLeaf?, hn, acceptText, Except.toOption]
  | _ => simp [rereadLeaf?, acceptText, Except.toOption]

lemma ofJson?_text_eq_some_iff {x : Json} :
    ofJson? .text depth x = some d ↔ ∃ t, d = .text t ∧ x = .text t := by
  rw [ofJson?]
  constructor
  · intro h
    obtain ⟨t, ht, rfl⟩ := Option.map_eq_some_iff.1 h
    exact ⟨t, rfl, textOfJson?_eq_some_iff.1 ht⟩
  · rintro ⟨t, rfl, rfl⟩
    rfl

lemma rigid_text (depth : Nat) (t : String) : Rigid .text depth (.text t) := by
  refine ⟨⟨.text t, back?_text depth t, rfl⟩, fun x _ h => ?_⟩
  obtain ⟨u, heq, rfl⟩ := ofJson?_text_eq_some_iff.1 h
  cases heq
  rfl

/-- A list of texts. -/
def texts (ts : List String) : Datum :=
  .list (ts.map .text)

lemma toJson_texts (ts : List String) : (texts ts).toJson = .list (ts.map .text) := by
  rw [texts, Datum.toJson, itemsToJson_eq, List.map_map]
  rfl

lemma same_text_iff {t u : String} :
    (Datum.text t).toJson.same (Datum.text u).toJson = true ↔ t = u := by
  simp [Datum.toJson, same]

lemma same_texts_iff {ts us : List String} :
    (texts ts).toJson.same (texts us).toJson = true ↔ ts = us := by
  rw [toJson_texts, toJson_texts]
  constructor
  · intro h
    exact List.map_injective_iff.2 (fun t u htu => Json.text.inj htu)
      (Patch.eq_of_sameItems_texts h)
  · rintro rfl
    exact same_self _

lemma ofJson?_list_eq_some_iff {item : Shape} {x : Json} :
    ofJson? (.list item) (depth + 1) x = some d ↔ ∃ xs ds, x = .list xs ∧ d = .list ds ∧
      List.Forall₂ (fun x d => item.ofJson? depth x = some d) xs ds := by
  rw [ofJson?]
  constructor
  · intro h
    obtain ⟨ds, hds, rfl⟩ := Option.map_eq_some_iff.1 h
    cases x with
    | list xs => exact ⟨xs, ds, rfl, rfl, mapM_eq_some_iff.1 hds⟩
    | _ => cases hds
  · rintro ⟨xs, ds, rfl, rfl, h⟩
    rw [itemsOfJson?, mapM_eq_some_iff.2 h]
    rfl

lemma forall₂_text {xs : List Json} {ts : List String} :
    List.Forall₂ (fun x d => ofJson? .text depth x = some d) xs (ts.map .text) ↔
      xs = ts.map .text := by
  induction ts generalizing xs with
  | nil => simp [List.forall₂_nil_right_iff]
  | cons t ts ih =>
    rw [List.map_cons, List.map_cons]
    constructor
    · intro h
      cases h with
      | cons hx hxs =>
        obtain ⟨u, heq, rfl⟩ := ofJson?_text_eq_some_iff.1 hx
        cases heq
        rw [ih.1 hxs]
    · rintro rfl
      exact .cons (ofJson?_text_eq_some_iff.2 ⟨t, rfl, rfl⟩) (ih.2 rfl)

lemma rigid_texts (depth : Nat) (ts : List String) :
    Rigid (.list .text) (depth + 1) (texts ts) := by
  refine ⟨⟨?_, ?_, ?_⟩, fun x _ h => ?_⟩
  · rw [toJson_texts]
    exact .texts ts
  · rw [toJson_texts]
    exact back?_texts depth ts
  · rw [toJson_texts]
    exact ofJson?_list_eq_some_iff.2 ⟨_, _, rfl, rfl, forall₂_text.2 rfl⟩
  · rw [toJson_texts]
    obtain ⟨xs, ds, rfl, heq, hitems⟩ := ofJson?_list_eq_some_iff.1 h
    obtain rfl := Datum.list.inj heq
    rw [forall₂_text.1 hitems]

lemma Change.text (depth : Nat) (t u : String) :
    Change .text depth (Patch.diff [] (.text t) (.text u)) (· = []) (.text t) (.text u) :=
  .of_rigid (rigid_text depth t) (rigid_text depth u) (Patch.plain_diff_text [] t u)
    (Patch.run?_diff_text t u)

lemma Change.texts (depth : Nat) (ts us : List String) :
    Change (.list .text) (depth + 1)
      (Patch.diff [] (Shape.texts ts).toJson (Shape.texts us).toJson) (· = [])
      (Shape.texts ts) (Shape.texts us) := by
  refine .of_rigid (rigid_texts depth ts) (rigid_texts depth us) ?_ ?_
  · rw [toJson_texts, toJson_texts]
    exact Patch.plain_diff_texts ts us
  · rw [toJson_texts, toJson_texts]
    exact Patch.run?_diff_texts ts us

end Shape

end PodAdmission

import PodAdmission.Patch.Pointer
import PodAdmission.Proofs.Entries
import PodAdmission.Proofs.Json.Basic

/-!
# What two documents have in common

`Json.SameBut touched x y` says that two values are the same but for what stands at certain places:
lists have the same length, objects have the same keys, and whatever is not at a touched place or
below one is equal.
-/

namespace PodAdmission.Json

variable {touched wider : Pointer → Prop} {x y z v : Json} {key : String} {members : Entries Json}

/-- Two values are the same but for what stands at the places given. -/
inductive SameBut : (Pointer → Prop) → Json → Json → Prop where
  | refl (touched : Pointer → Prop) (x : Json) : SameBut touched x x
  | touched {touched : Pointer → Prop} (h : touched []) (x y : Json) : SameBut touched x y
  | list {touched : Pointer → Prop} {xs ys : List Json} (hlength : xs.length = ys.length)
      (h : ∀ (i : Nat) x y, xs[i]? = some x → ys[i]? = some y →
        SameBut (fun path => touched (toString i :: path)) x y) :
      SameBut touched (.list xs) (.list ys)
  | object {touched : Pointer → Prop} {xs ys : Entries Json}
      (hkeys : ∀ k, ¬ touched [k] → (Entries.get? k xs).isSome = (Entries.get? k ys).isSome)
      (h : ∀ k x y, Entries.get? k xs = some x → Entries.get? k ys = some y →
        SameBut (fun path => touched (k :: path)) x y) :
      SameBut touched (.object xs) (.object ys)

/-- The places below a token. -/
def Below (token : String) (touched : Pointer → Prop) (path : Pointer) : Prop :=
  ∃ rest, path = token :: rest ∧ touched rest

lemma SameBut.mono (h : SameBut touched x y) (hle : ∀ path, touched path → wider path) :
    SameBut wider x y := by
  induction h generalizing wider with
  | refl touched x => exact .refl wider x
  | touched h x y => exact .touched (hle [] h) x y
  | list hlength h ih =>
    exact .list hlength fun i x y hx hy => ih i x y hx hy fun path => hle _
  | object hkeys h ih =>
    exact .object (fun k hk => hkeys k (mt (hle [k]) hk)) fun k x y hx hy =>
      ih k x y hx hy fun path => hle _

lemma SameBut.trans (hxy : SameBut touched x y) (hyz : SameBut touched y z) :
    SameBut touched x z := by
  induction hxy generalizing z with
  | refl touched x => exact hyz
  | touched h x y => exact .touched h x z
  | @list touched xs ys hlength h ih =>
    cases hyz with
    | refl => exact .list hlength h
    | touched h => exact .touched h _ _
    | @list _ _ zs hlength' h' =>
      refine .list (hlength.trans hlength') fun i x z hx hz => ?_
      have hi : i < ys.length := hlength ▸ (List.getElem?_eq_some_iff.1 hx).1
      have hy : ys[i]? = some ys[i] := List.getElem?_eq_getElem hi
      exact ih i x _ hx hy (h' i _ z hy hz)
  | @object touched xs ys hkeys h ih =>
    cases hyz with
    | refl => exact .object hkeys h
    | touched h => exact .touched h _ _
    | @object _ _ zs hkeys' h' =>
      refine .object (fun k hk => (hkeys k hk).trans (hkeys' k hk)) fun k x z hx hz => ?_
      cases hy : Entries.get? k ys with
      | some y => exact ih k x y hx hy (h' k y z hy hz)
      | none =>
        -- a key that only the value in the middle lacks is touched
        by_cases hk : touched [k]
        · exact .touched hk x z
        · have hsame := hkeys k hk
          rw [hx, hy] at hsame
          cases hsame

/-- Setting a touched member. -/
lemma SameBut.set (h : touched [key]) (v : Json) (members : Entries Json) :
    SameBut touched (.object members) (.object (Entries.insert key v members)) := by
  refine .object (fun k hk => ?_) fun k x y hx hy => ?_
  · rw [Entries.get?_insert, if_neg]
    rintro rfl
    exact hk h
  · rw [Entries.get?_insert] at hy
    split_ifs at hy with hk
    · exact .touched (hk ▸ h) x y
    · rw [hx] at hy
      obtain rfl := Option.some.inj hy
      exact .refl _ x

/-- Changing a member. -/
lemma SameBut.member (hget : Entries.get? key members = some x) (h : SameBut touched x y) :
    SameBut (Below key touched) (.object members) (.object (Entries.insert key y members)) := by
  refine .object (fun k hk => ?_) fun k x' y' hx hy => ?_
  · rw [Entries.get?_insert]
    split_ifs with heq
    · rw [heq, hget]
      rfl
    · rfl
  · rw [Entries.get?_insert] at hy
    split_ifs at hy with hk
    · subst hk
      rw [hget] at hx
      obtain rfl := Option.some.inj hx
      obtain rfl := Option.some.inj hy
      exact h.mono fun path hpath => ⟨path, rfl, hpath⟩
    · rw [hx] at hy
      obtain rfl := Option.some.inj hy
      exact .refl _ x'

end PodAdmission.Json

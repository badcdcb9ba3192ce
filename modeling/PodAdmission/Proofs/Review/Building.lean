import PodAdmission.Proofs.Json.Restoring
import PodAdmission.Proofs.Review.Settling

/-!
# Forms read back

The members of a written form come in the order of its slots, some that are not required left out.
Read one after the other they build the structure that they were written for, so a form is restored
from what is written of it.
-/

namespace PodAdmission

open Ascii Json Reader

namespace Form

variable {α β : Type} {a b : α} {slot : Slot α} {slots : List (Slot α)}
  {members : List (String × Bytes)} {key : String}

/-- Read into the slots one by one, the members take one structure to another. -/
inductive Builds : List (Slot α) → α → List (String × Bytes) → α → Prop where
  | done (a : α) : Builds [] a [] a
  | given {slot : Slot α} {slots : List (Slot α)} {a a' b : α} {t : Bytes}
      {members : List (String × Bytes)} (ht : Lexical t) (hread : taken (slot.read a) t = some a')
      (h : Builds slots a' members b) : Builds (slot :: slots) a ((slot.key, t) :: members) b
  | skipped {slot : Slot α} {slots : List (Slot α)} {a b : α} {members : List (String × Bytes)}
      (hslot : slot.isRequired = false) (h : Builds slots a members b) :
      Builds (slot :: slots) a members b

/-- All members that build a structure are lexical values. -/
lemma Builds.lexical (h : Builds slots a members b) : ∀ m ∈ members, Lexical m.2 := by
  induction h with
  | done => nofun
  | given ht _ _ ih => exact List.forall_mem_cons.2 ⟨ht, ih⟩
  | skipped _ _ ih => exact ih

/-- The keys that have been read are in front of the slots that are left. -/
structure Reached (form : Form α) (seen : List String) (slots : List (Slot α)) : Prop where
  split : ∃ before, form.slots = before ++ slots ∧ ∀ k ∈ seen, ∃ slot ∈ before, slot.key = k
  complete : ∀ slot ∈ form.slots, slot.isRequired = true → slot.key ∈ seen ∨ slot ∈ slots

section Reached

variable {form : Form α} {seen : List String} {t : Bytes}

lemma reached_start (form : Form α) : form.Reached [] form.slots :=
  ⟨⟨[], rfl, nofun⟩, fun _ hslot _ => .inr hslot⟩

/-- The next slot is behind when its key has been read, or when it is not required. -/
lemma Reached.next (h : form.Reached seen (slot :: slots)) {seen' : List String}
    (hkept : ∀ k ∈ seen, k ∈ seen') (hnew : ∀ k ∈ seen', k = slot.key ∨ k ∈ seen)
    (hslot : slot.isRequired = true → slot.key ∈ seen') : form.Reached seen' slots := by
  obtain ⟨⟨before, hsplit, hseen⟩, hcomplete⟩ := h
  refine ⟨⟨before ++ [slot], by simp [hsplit], fun k hk => ?_⟩, fun other hother hrequired => ?_⟩
  · obtain rfl | hk := hnew k hk
    · exact ⟨slot, by simp, rfl⟩
    · obtain ⟨first, hfirst, rfl⟩ := hseen k hk
      exact ⟨first, List.mem_append_left _ hfirst, rfl⟩
  · obtain hread | hleft := hcomplete other hother hrequired
    · exact .inl (hkept _ hread)
    · rcases List.mem_cons.1 hleft with rfl | hleft
      · exact .inl (hslot hrequired)
      · exact .inr hleft

lemma Reached.skip (h : form.Reached seen (slot :: slots)) (hslot : slot.isRequired = false) :
    form.Reached seen slots :=
  h.next (fun _ hk => hk) (fun _ hk => .inr hk) fun hrequired =>
    absurd hrequired (by simp [hslot])

lemma Reached.step (h : form.Reached seen (slot :: slots)) :
    form.Reached (slot.key :: seen) slots :=
  h.next (fun _ hk => List.mem_cons_of_mem _ hk) (fun _ hk => List.mem_cons.1 hk)
    fun _ => List.mem_cons_self

/-- A member under the key of the next slot is read into that slot. -/
lemma Reached.answer_eq (h : form.Reached seen (slot :: slots))
    (hkeys : (form.slots.map Slot.key).Nodup) {a' : α} (hread : taken (slot.read a) t = some a') :
    form.answer (seen, a) slot.key t = some (slot.key :: seen, a') := by
  obtain ⟨⟨before, hsplit, hseen⟩, -⟩ := h
  rw [hsplit, List.map_append, List.map_cons, List.nodup_append] at hkeys
  have hnew : ∀ first ∈ before, first.key ≠ slot.key := fun first hfirst =>
    hkeys.2.2 _ (List.mem_map_of_mem hfirst) _ List.mem_cons_self
  have hfind : form.slots.find? (fun s => s.key == slot.key) = some slot := by
    rw [List.find?_eq_some_iff_append]
    exact ⟨by simp, before, slots, hsplit, fun first hfirst => by simpa using hnew first hfirst⟩
  have hunseen : seen.contains slot.key = false := by
    rw [Bool.eq_false_iff, Ne, List.contains_iff_mem]
    intro hmem
    obtain ⟨first, hfirst, heq⟩ := hseen _ hmem
    exact hnew first hfirst heq
  rw [answer]
  simp only [hfind, hunseen, hread]
  rfl

/-- When no slot is left, every required member has been read. -/
lemma Reached.finish?_eq (h : form.Reached seen []) (a : α) : form.finish? (seen, a) = some a := by
  have hnone :
      form.slots.find? (fun slot => slot.isRequired && !seen.contains slot.key) = none := by
    rw [List.find?_eq_none]
    intro slot hslot
    cases hrequired : slot.isRequired with
    | false => simp
    | true =>
      obtain hread | hleft := h.complete slot hslot hrequired
      · simp [hread]
      · cases hleft
  rw [finish?]
  simp only [hnone]

/-- Members that build a structure are read as it. -/
lemma Builds.foldlM_answer (h : Builds slots a members b) (hreached : form.Reached seen slots)
    (hkeys : (form.slots.map Slot.key).Nodup) :
    ∃ seen', members.foldlM (fun state m => form.answer state m.1 m.2) (seen, a) =
      some (seen', b) ∧ form.Reached seen' [] := by
  induction h generalizing seen with
  | done a => exact ⟨seen, rfl, hreached⟩
  | given ht hread _ ih =>
    obtain ⟨seen', hrest, hdone⟩ := ih hreached.step
    refine ⟨seen', ?_, hdone⟩
    rw [List.foldlM_cons, hreached.answer_eq hkeys hread]
    exact hrest
  | skipped hslot _ ih => exact ih (hreached.skip hslot)

end Reached

/-- A form is restored from an object whose members build the structure. -/
theorem restores_of_builds (form : Nat → Form α) (depth : Nat) (hsettled : (form depth).Settled)
    (hkeys : ((form depth).slots.map Slot.key).Nodup)
    (h : Builds (form depth).slots (form depth).blank members b) :
    Restores (Form.read form (depth + 1)) (objectOf members) b := by
  obtain ⟨u, hobject, hparts⟩ := parts_objectOf h.lexical
  obtain ⟨seen, hfold, hdone⟩ := h.foldlM_answer (reached_start (form depth)) hkeys
  have hread : (form depth).object? (spelledMembers members) = some b := by
    rw [object?, foldlM_spelledMembers, hfold, Option.bind_some, hdone.finish?_eq]
  rw [hobject]
  exact ⟨.object hparts, by simp [openObject, nullWord],
    (reads_object hsettled hparts).taken_eq.trans hread⟩

/-! ### Slots -/

variable {read : Bytes → Read β} {t : Bytes} {v : β}

lemma Builds.required {set : α → β → α} (hv : Restores read t v)
    (h : Builds slots (set a v) members b) :
    Builds (.required key read set :: slots) a ((key, t) :: members) b :=
  .given hv.lexical (hv.map (set a)).taken_eq h

lemma Builds.defaulted {set : α → β → α} (hv : Restores read t v)
    (h : Builds slots (set a v) members b) :
    Builds (.defaulted key read set :: slots) a ((key, t) :: members) b :=
  .given hv.lexical (hv.map (set a)).taken_eq h

/-- A member that may be left out is written if there is something to write. -/
lemma Builds.optional {set : α → Option β → α} {write : β → Bytes} (o : Option β)
    (hread : Settles read) (hv : ∀ v ∈ o, Restores read (write v) v) (hnone : set a none = a)
    (h : Builds slots (set a o) members b) :
    Builds (.optional key read set :: slots) a (optionalMember key write o ++ members) b := by
  cases o with
  | none => exact .skipped rfl (hnone ▸ h)
  | some v =>
    refine .given (hv v rfl).lexical ?_ h
    rw [Slot.optional, taken_map, (hv v rfl).optional hread]
    rfl

/-- The last member of a form. -/
lemma Builds.last {set : α → Option β → α} {write : β → Bytes} (o : Option β)
    (hread : Settles read) (hv : ∀ v ∈ o, Restores read (write v) v) (hnone : set a none = a) :
    Builds [.optional key read set] a (optionalMember key write o) (set a o) := by
  have h : Builds [.optional key read set] a _ _ :=
    .optional o hread hv hnone (.done (set a o))
  rwa [List.append_nil] at h

end Form

/-! ### Members -/

open Form

lemma Form.restores_readVariant {β : Type} {variants : List (String × β)} {name : String} {v : β}
    (h : Entries.get? name variants = some v) (depth : Nat) :
    Restores (readVariant variants depth) (writeText name) v := by
  have hname : acceptVariant variants (.text name) = .ok v := by
    rw [acceptVariant, h]
  obtain ⟨hlexical, hgiven, htaken⟩ := restores_text "variant identifier" hname
  exact ⟨hlexical, hgiven, htaken⟩

lemma Trigger.restores_read (t : Trigger) (depth : Nat) :
    Restores (readVariant Trigger.variants depth) (writeText t.name) t :=
  restores_readVariant (by cases t <;> rfl) depth

lemma PatchType.restores_read (t : PatchType) (depth : Nat) :
    Restores (readVariant PatchType.variants depth) (writeText t.name) t :=
  restores_readVariant (by cases t; rfl) depth

lemma restores_readString (s : String) : Restores readString (writeText s) s :=
  restores_text "a string" rfl

lemma GroupVersionKind.restores_read (k : GroupVersionKind) (depth : Nat) :
    Restores (GroupVersionKind.read (depth + 1)) k.write k := by
  apply restores_of_builds (fun _ => GroupVersionKind.form) depth settled (by decide)
  exact .required (restores_readString k.group) <| .required (restores_readString k.version) <|
    .required (restores_readString k.kind) <| .done _

lemma GroupVersionResource.restores_read (r : GroupVersionResource) (depth : Nat) :
    Restores (GroupVersionResource.read (depth + 1)) r.write r := by
  apply restores_of_builds (fun _ => GroupVersionResource.form) depth settled (by decide)
  exact .required (restores_readString r.group) <| .required (restores_readString r.version) <|
    .required (restores_readString r.resource) <|
    .defaulted (restores_readString r.apiVersion) <| .done _

end PodAdmission

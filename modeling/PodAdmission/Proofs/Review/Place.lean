import PodAdmission.Proofs.Review.Settling

/-!
# Places in a form

A place in a text is what stands before and behind a value: the rest of a list or an object, or of
forms inside each other. Whatever lexical value is put at the place of one member of a form, the
rest of the form is read in the same way, so what is read depends on that value only by the change
that it makes to its member.
-/

namespace PodAdmission

open Ascii Json Reader

/-! ### Places in a text -/

namespace Reader

section Around

variable {α : Type} {P : α → Bytes → Prop} {closer : UInt8} {first : Bool}

/-- What stands before and behind a part between brackets, the closing bracket included. -/
inductive Around (closer : UInt8) (P : α → Bytes → Prop) : (first : Bool) → (before : List α) →
    (pre : Bytes) → (after : List α) → (post : Bytes) → Prop where
  | first {w post : Bytes} {after : List α} (hw : Blank w) (h : Parts closer P false after post) :
      Around closer P true [] w after post
  | next {w w' post : Bytes} {after : List α} (hw : Blank w) (hw' : Blank w')
      (h : Parts closer P false after post) :
      Around closer P false [] (w ++ comma :: w') after post
  | behindFirst {w t pre post : Bytes} {a : α} {before after : List α} (hw : Blank w) (ht : P a t)
      (h : Around closer P false before pre after post) :
      Around closer P true (a :: before) (w ++ (t ++ pre)) after post
  | behindNext {w w' t pre post : Bytes} {a : α} {before after : List α} (hw : Blank w)
      (hw' : Blank w') (ht : P a t) (h : Around closer P false before pre after post) :
      Around closer P false (a :: before) (w ++ comma :: (w' ++ (t ++ pre))) after post

/-- A part at its place is a part between the brackets. -/
lemma Around.parts {before after : List α} {pre post t : Bytes} {a : α}
    (h : Around closer P first before pre after post) (ht : P a t) :
    Parts closer P first (before ++ a :: after) (pre ++ (t ++ post)) := by
  induction h with
  | first hw h => exact .first hw ht h
  | next hw hw' h =>
    rw [List.append_assoc, List.cons_append]
    exact .next hw hw' ht h
  | behindFirst hw hu h ih =>
    rw [List.append_assoc, List.append_assoc]
    exact .first hw hu ih
  | behindNext hw hw' hu h ih =>
    rw [List.append_assoc, List.cons_append, List.cons_append, List.append_assoc, List.append_assoc]
    exact .next hw hw' hu ih

end Around

/-- What stands before and behind the value of a member of a form: in an object the key is in front
of the value, in a list the members that the form has in front of this one. -/
inductive Under (key : String) (index : Nat) : (pre post : Bytes) → Prop where
  | member {before after : List (Bytes × Bytes)} {pre post raw w w' : Bytes}
      (h : Around closeObject (Member Lexical.Item) true before pre after post)
      (hkey : Spelled (Utf8.encode key) raw) (hw : Blank w) (hw' : Blank w') :
      Under key index (openObject :: (pre ++ quote :: (raw ++ quote :: (w ++ colon :: w')))) post
  | item {before after : List Bytes} {pre post : Bytes}
      (h : Around closeList Lexical.Item true before pre after post)
      (hindex : before.length = index) : Under key index (openList :: pre) post

lemma Member.at {raw w w' t : Bytes} (hkey : Content raw) (hw : Blank w) (hw' : Blank w')
    (ht : Lexical t) : Member Lexical.Item (raw, t)
      (quote :: (raw ++ quote :: (w ++ colon :: w')) ++ t) := by
  have hitem : Lexical.Item t t := ⟨rfl, ht⟩
  simpa using Member.mk hkey hw hw' hitem

/-- With a lexical value in its place the text is lexical, and it is no word. -/
lemma Under.lexical {key : String} {index : Nat} {pre post t : Bytes} (h : Under key index pre post)
    (ht : Lexical t) : Lexical (pre ++ (t ++ post)) ∧ pre ++ (t ++ post) ≠ nullWord := by
  cases h with
  | @member before after pre post raw w w' h hkey hw hw' =>
    have hparts := h.parts (Member.at hkey.content hw hw' ht)
    refine ⟨?_, fun heq => absurd (List.cons.inj heq).1 (by decide)⟩
    simpa using Lexical.object hparts
  | item h hindex =>
    have hparts := h.parts (⟨rfl, ht⟩ : Lexical.Item t t)
    exact ⟨by simpa using Lexical.list hparts, fun heq => absurd (List.cons.inj heq).1 (by decide)⟩

end Reader

/-! ### Slots that leave a change alone -/

namespace Slot

variable {α β : Type} {f : α → α}

/-- Reading into the slot and the change do not disturb each other. -/
def Keeps (f : α → α) (slot : Slot α) : Prop :=
  ∀ a t, taken (slot.read (f a)) t = (taken (slot.read a) t).map f

lemma taken_required (key : String) (read : Bytes → Read β) (set : α → β → α) (a : α) (t : Bytes) :
    taken ((required key read set).read a) t = (taken read t).map (set a) :=
  taken_map read (set a) t

lemma taken_optional (key : String) (read : Bytes → Read β) (set : α → Option β → α) (a : α)
    (t : Bytes) :
    taken ((optional key read set).read a) t = (taken (readOptional read) t).map (set a) :=
  taken_map (readOptional read) (set a) t

lemma keeps_required {key : String} {read : Bytes → Read β} {set : α → β → α}
    (h : ∀ a b, set (f a) b = f (set a b)) : (required key read set).Keeps f := by
  intro a t
  rw [taken_required, taken_required, Option.map_map]
  exact congrArg (Option.map · _) (funext fun b => h a b)

lemma keeps_optional {key : String} {read : Bytes → Read β} {set : α → Option β → α}
    (h : ∀ a b, set (f a) b = f (set a b)) : (optional key read set).Keeps f := by
  intro a t
  rw [taken_optional, taken_optional, Option.map_map]
  exact congrArg (Option.map · _) (funext fun b => h a b)

end Slot

namespace Form

variable {α ι : Type} {form : Form α} {key : String} {f : α → α}

/-- Every member of the form but the one under the key leaves the change alone. -/
def Keeps (form : Form α) (key : String) (f : α → α) : Prop :=
  ∀ slot ∈ form.slots, slot.key ≠ key → slot.Keeps f

/-- Once the member under the key is read, what is read of the others leaves the change alone. -/
lemma foldlM_answer_keeps (h : form.Keeps key f) (members : List (Bytes × Bytes))
    {seen : List String} (hseen : key ∈ seen) (a : α) :
    members.foldlM (memberStep form.answer) (seen, f a) =
      (members.foldlM (memberStep form.answer) (seen, a)).map
        fun state => (state.1, f state.2) := by
  induction members generalizing seen a with
  | nil => rfl
  | cons m members ih =>
    rw [List.foldlM_cons, List.foldlM_cons, memberStep, memberStep]
    cases textOf? m.1 with
    | none => rfl
    | some name =>
      simp only [Option.bind_some, answer]
      cases hslot : form.slots.find? fun slot => slot.key == name with
      | none => exact ih hseen a
      | some slot =>
        simp only
        split_ifs with hcontains
        · rfl
        · have hname : slot.key = name := by simpa using List.find?_some hslot
          have hne : slot.key ≠ key := by
            rintro rfl
            exact hcontains (by simpa [hname] using hseen)
          rw [h slot (List.mem_of_find?_eq_some hslot) hne a m.2]
          cases taken (slot.read a) m.2 with
          | none => rfl
          | some a' => exact ih (List.mem_cons_of_mem _ hseen) a'

lemma finish?_keeps (state : List String × α) (f : α → α) :
    form.finish? (state.1, f state.2) = (form.finish? state).map f := by
  simp only [finish?]
  cases form.slots.find? fun slot => slot.isRequired && !state.1.contains slot.key <;> rfl

lemma list?_keeps {slots : List (Slot α)} (h : ∀ slot ∈ slots, slot.Keeps f) (items : List Bytes)
    (a : α) : list? (f a) slots items = (list? a slots items).map f := by
  induction slots generalizing items a with
  | nil => cases items <;> rfl
  | cons slot slots ih =>
    cases items with
    | nil =>
      rw [list?, list?]
      split_ifs <;> rfl
    | cons t items =>
      rw [list?, list?, h slot List.mem_cons_self a t]
      cases taken (slot.read a) t with
      | none => rfl
      | some a' => exact ih (fun slot hslot => h slot (List.mem_cons_of_mem _ hslot)) items a'

/-- The member of a form under a key: where it is in an object and where in a list. -/
structure Place (form : Form α) (key : String) (index : Nat) (slot : Slot α)
    (later : List (Slot α)) : Prop where
  find : form.slots.find? (fun slot => slot.key == key) = some slot
  drop : form.slots.drop index = slot :: later
  later : ∀ slot ∈ later, slot.key ≠ key

/-- What is read into a slot of the texts: a change for every text, or nothing of any. -/
def Fills (slot : Slot α) (text : ι → Bytes) (f : ι → α → α) : Prop :=
  (∀ i a, taken (slot.read a) (text i) = some (f i a)) ∨ ∀ i a, taken (slot.read a) (text i) = none

section Filled

variable {index : Nat} {slot : Slot α} {later : List (Slot α)} {text : ι → Bytes} {f : ι → α → α}

/-- What is read of an object is read of the members before one, of that one and of those after
it. -/
lemma object?_append (form : Form α) (before after : List (Bytes × Bytes)) (m : Bytes × Bytes) :
    form.object? (before ++ m :: after) =
      (before.foldlM (memberStep form.answer) ([], form.blank)).bind fun state =>
        (memberStep form.answer state m).bind fun state =>
          (after.foldlM (memberStep form.answer) state).bind form.finish? := by
  simp only [object?, List.foldlM_append, List.foldlM_cons, Option.bind_eq_bind, Option.bind_assoc]

/-- What is read of an object depends on the text under one key only by the change that this text
makes. -/
lemma exists_object? (hplace : form.Place key index slot later) (hfills : Fills slot text f)
    (hkeeps : ∀ i, form.Keeps key (f i)) {raw : Bytes} (hraw : textOf? raw = some key)
    (before after : List (Bytes × Bytes)) :
    ∃ o : Option α, ∀ i, form.object? (before ++ (raw, text i) :: after) = o.map (f i) := by
  simp only [object?_append]
  cases before.foldlM (memberStep form.answer) ([], form.blank) with
  | none => exact ⟨none, fun i => rfl⟩
  | some state =>
    obtain ⟨seen, a⟩ := state
    simp only [Option.bind_some, memberStep, hraw, answer, hplace.find]
    split_ifs with hseen
    · exact ⟨none, fun i => rfl⟩
    · obtain hread | hread := hfills
      · refine ⟨(after.foldlM (memberStep form.answer) (key :: seen, a)).bind form.finish?,
          fun i => ?_⟩
        have hmem : key ∈ key :: seen := List.mem_cons_self
        simp only [hread, Option.map_some, Option.bind_some,
          foldlM_answer_keeps (hkeeps i) after hmem]
        cases after.foldlM (memberStep form.answer) (key :: seen, a) with
        | none => rfl
        | some state => exact finish?_keeps state (f i)
      · refine ⟨none, fun i => ?_⟩
        rw [hread]
        rfl

/-- What is read of a list depends on the text at one place only by the change that this text
makes. -/
lemma exists_list? (hfills : Fills slot text f) (hkeeps : ∀ i, ∀ slot ∈ later, slot.Keeps (f i))
    (before after : List Bytes) {slots : List (Slot α)}
    (hdrop : slots.drop before.length = slot :: later) (a : α) :
    ∃ o : Option α, ∀ i, list? a slots (before ++ text i :: after) = o.map (f i) := by
  induction before generalizing slots a with
  | nil =>
    obtain rfl : slots = slot :: later := hdrop
    obtain hread | hread := hfills
    · refine ⟨list? a later after, fun i => ?_⟩
      rw [List.nil_append, list?, hread, Option.bind_some, list?_keeps (hkeeps i)]
    · refine ⟨none, fun i => ?_⟩
      rw [List.nil_append, list?, hread]
      rfl
  | cons t before ih =>
    cases slots with
    | nil => cases hdrop
    | cons other slots =>
      simp only [List.cons_append, list?]
      cases taken (other.read a) t with
      | none => exact ⟨none, fun i => rfl⟩
      | some a' => exact ih hdrop a'

/-- What is read of a form depends on the text of one member only by the change that this text
makes. -/
lemma exists_reads_under {form : Nat → Form α} {depth : Nat} {pre post : Bytes}
    (h : Under key index pre post) (hsettled : (form depth).Settled)
    (hplace : (form depth).Place key index slot later) (htext : ∀ i, Lexical (text i))
    (hfills : Fills slot text f) (hkeeps : ∀ i, (form depth).Keeps key (f i)) :
    ∃ o : Option α, ∀ i,
      Reads (Form.read form (depth + 1)) (pre ++ (text i ++ post)) (o.map (f i)) := by
  cases h with
  | @member before after pre post raw w w' h hkey hw hw' =>
    obtain ⟨o, ho⟩ := exists_object? hplace hfills hkeeps (textOf?_spelled hkey) before after
    refine ⟨o, fun i => ?_⟩
    have hparts := h.parts (Member.at hkey.content hw hw' (htext i))
    rw [← ho i]
    simpa using reads_object hsettled hparts
  | @item before after pre post h hindex =>
    have hlater : ∀ i, ∀ slot ∈ later, slot.Keeps (f i) := by
      intro i slot hslot
      have hmem : slot ∈ (form depth).slots := by
        apply List.mem_of_mem_drop (i := index)
        rw [hplace.drop]
        exact List.mem_cons_of_mem _ hslot
      exact hkeeps i slot hmem (hplace.later slot hslot)
    have hdrop : (form depth).slots.drop before.length = slot :: later := hindex ▸ hplace.drop
    obtain ⟨o, ho⟩ := exists_list? hfills hlater before after hdrop (form depth).blank
    refine ⟨o, fun i => ?_⟩
    have hitem : Lexical.Item (text i) (text i) := ⟨rfl, htext i⟩
    have hparts := h.parts hitem
    rw [← ho i]
    simpa using reads_list hsettled hparts

end Filled

end Form

end PodAdmission

import PodAdmission.Proofs.Schema.Settling
import PodAdmission.Review.Codec

/-!
# Lexical values read as reviews

The envelope of a review is read of every lexical value just as of that value alone. What is read of
an object is said member by member (`Form.object?`) and what is read of a list slot by slot
(`Form.list?`).
-/

namespace PodAdmission

open Ascii Json Reader

/-! ### Variants -/

namespace Form

section Variants

variable {β : Type} {t : Bytes}

/-- What ends an object with one member. -/
lemma yields_objectEnd {P : Bytes × Bytes → Bytes → Prop} {others : List (Bytes × Bytes)}
    (h : Parts closeObject P false others t) (v : β) (rest : Bytes) :
    Yields (match skipSpace (t ++ rest) with
      | [] => .error (.here .endInObject [])
      | c :: rest =>
        if c = closeObject then .ok (v, rest) else .error (.here .expectedValue (c :: rest)))
      (if others.isEmpty then some v else none) rest := by
  cases h with
  | close hw =>
    rw [List.append_assoc, List.singleton_append, skipSpace_blank hw (by decide)]
    rfl
  | next hw hw' ht h =>
    rw [List.append_assoc, List.cons_append, skipSpace_blank hw (by decide)]
    rfl

/-- The name of a variant is read whatever comes behind its colon. -/
lemma yields_readTag {w w' raw : Bytes} (hw : Blank w) (hkey : Content raw) (hw' : Blank w')
    (variants : List (String × β)) (rest : Bytes) :
    Yields (readTag variants (w ++ quote :: (raw ++ quote :: (w' ++ colon :: rest))))
      (taken (readAs "variant identifier" (acceptVariant variants)) (quote :: (raw ++ [quote])))
      (w' ++ colon :: rest) := by
  have hcolon : Delimited (w' ++ colon :: rest) :=
    delimited_blank hw' (delimited_cons (by decide) rest)
  have hname := (settles_readAs "variant identifier" (acceptVariant variants)).yields
    (.token (.text hkey)) hcolon
  have hquote : quote :: (raw ++ [quote]) ++ (w' ++ colon :: rest) =
      quote :: (raw ++ quote :: (w' ++ colon :: rest)) := by
    simp
  rw [hquote] at hname
  rw [readTag, skipSpace_blank hw (by decide)]
  exact hname

lemma readTag_close {w : Bytes} (hw : Blank w) (variants : List (String × β)) (rest : Bytes) :
    readTag variants (w ++ [closeObject] ++ rest) =
      .error (.ahead .expectedValue (closeObject :: rest)) := by
  rw [List.append_assoc, List.singleton_append, readTag, skipSpace_blank hw (by decide)]
  rfl

/-- A variant behind a bracket is read whatever comes behind it. -/
lemma exists_yields_readTagged (variants : List (String × β)) {members : List (Bytes × Bytes)}
    (ht : Parts closeObject (Member Lexical.Item) true members t) :
    ∃ o, ∀ rest, Yields (readTagged variants (t ++ rest)) o rest := by
  cases ht with
  | @close _ w hw =>
    refine ⟨none, fun rest => ?_⟩
    rw [readTagged, readTag_close hw]
    exact yields_error _ rest
  | @first w t u m more hw hkeyed hu =>
    cases hkeyed with
    | @mk raw a w₁ w₂ t hkey hw₁ hw₂ ha =>
      obtain ⟨rfl, ha⟩ := ha
      refine ⟨(taken (readAs "variant identifier" (acceptVariant variants))
        (quote :: (raw ++ [quote]))).bind fun v =>
          (taken (readAs "unit" acceptNull) t).bind fun _ => if more.isEmpty then some v else none,
        fun rest => ?_⟩
      have hname := yields_readTag hw hkey hw₁ variants (w₂ ++ (t ++ (u ++ rest)))
      have hunit := settles_readAs "unit" acceptNull t ha w₂ (u ++ rest) hw₂
        (hu.delimited (.inr rfl) rest)
      rw [first_append, readTagged]
      obtain ⟨fault, hread, hvalue⟩ | ⟨v, hread, hvalue⟩ := hname.cases
      · rw [hread, hvalue]
        exact yields_error fault rest
      · rw [hread, hvalue, Option.bind_some]
        simp only [bind, Except.bind, readColon_blank hw₁]
        obtain ⟨fault, hread, hvalue⟩ | ⟨⟨⟩, hread, hvalue⟩ := hunit.cases
        · rw [hread, hvalue]
          exact yields_error fault rest
        · rw [hread, hvalue]
          exact yields_objectEnd hu v rest

/-- A variant is read whatever comes behind it. -/
lemma settles_readVariant (variants : List (String × β)) (depth : Nat) :
    Settles (readVariant variants depth) := by
  refine settles_of_skips (fun w bytes hw => ?_) fun b r ht hspace => ?_
  · simp only [readVariant, skipSpace_append hw]
  · simp only [readVariant, skipSpace_cons hspace]
    by_cases hquote : b = quote
    · simp only [if_pos hquote]
      exact ⟨_, fun rest hrest => (settles_readAs _ _).yields ht hrest⟩
    · simp only [if_neg hquote]
      by_cases hopen : b = openObject
      · subst hopen
        obtain ⟨members, hr⟩ := ht.members
        obtain ⟨o, ho⟩ := exists_yields_readTagged variants hr
        cases depth with
        | zero => exact ⟨none, fun rest _ => rfl⟩
        | succ depth => exact ⟨o, fun rest _ => ho rest⟩
      · simp only [if_neg hopen]
        exact ⟨none, fun rest _ => yields_error _ rest⟩

end Variants

/-! ### Forms -/

section Forms

variable {α : Type} {form : Form α} {t : Bytes}

/-- Every member of the form is read whatever comes behind it. -/
def Settled (form : Form α) : Prop :=
  ∀ slot ∈ form.slots, ∀ a, Settles (slot.read a)

/-- What a member does to the keys read so far and the structure. -/
def answer (form : Form α) (state : List String × α) (key : String) (t : Bytes) :
    Option (List String × α) :=
  match form.slots.find? fun slot => slot.key == key with
  | some slot =>
    if state.1.contains key then none
    else (taken (slot.read state.2) t).map fun a => (key :: state.1, a)
  | none => some state

/-- The structure, if every required member has been read. -/
def finish? (form : Form α) (state : List String × α) : Option α :=
  match form.slots.find? fun slot => slot.isRequired && !state.1.contains slot.key with
  | some _ => none
  | none => some state.2

/-- What is read of the members of an object. -/
def object? (form : Form α) (members : List (Bytes × Bytes)) : Option α :=
  (members.foldlM (memberStep form.answer) ([], form.blank)).bind form.finish?

/-- What is read of the items of a list. -/
def list? (a : α) : List (Slot α) → List Bytes → Option α
  | [], [] => some a
  | [], _ :: _ => none
  | slot :: slots, [] => if (slot :: slots).any Slot.isRequired then none else some a
  | slot :: slots, t :: items => (taken (slot.read a) t).bind fun a => list? a slots items

lemma memberReads_readMember (h : form.Settled) : MemberReads form.readMember form.answer := by
  intro state key t ht w w' rest hw hw' hrest
  rw [readMember, readColon_blank hw, answer]
  cases hslot : form.slots.find? fun slot => slot.key == key with
  | none =>
    simp only [skipValue_lexical ht hw' hrest]
    exact yields_ok state rest
  | some slot =>
    simp only
    split_ifs
    · exact yields_error _ rest
    · have hread := h slot (List.mem_of_find?_eq_some hslot) state.2 t ht w' rest hw' hrest
      exact hread.map fun a => (key :: state.1, a)

/-- An object is read member by member, the opening bracket being taken. -/
lemma yields_readObject (h : form.Settled) {members : List (Bytes × Bytes)}
    (ht : Parts closeObject (Member Lexical.Item) true members t) (rest : Bytes) :
    Yields (form.readObject (t ++ rest)) (form.object? members) rest := by
  rw [readObject, object?]
  obtain ⟨fault, hread, hvalue⟩ | ⟨state, hread, hvalue⟩ :=
    (yields_members (memberReads_readMember h) ht ([], form.blank) rest).cases
  · rw [hread, hvalue]
    exact yields_error fault rest
  · rw [hread, hvalue, Option.bind_some, finish?]
    simp only
    cases form.slots.find? fun slot => slot.isRequired && !state.1.contains slot.key <;> rfl

/-- No item may be left when all members have been read. -/
lemma yields_readListEnd {first : Bool} {items : List Bytes}
    (ht : Parts closeList Lexical.Item first items t) (a : α) (rest : Bytes) :
    Yields ((readListEnd (t ++ rest)).map fun r => (a, r)) (list? a [] items) rest := by
  cases ht with
  | close hw =>
    rw [List.append_assoc, List.singleton_append, readListEnd, skipSpace_blank hw (by decide)]
    rfl
  | first hw ht h =>
    obtain ⟨rfl, ht⟩ := ht
    obtain ⟨b, r, rfl, hspace, hne⟩ := ht.starts
    rw [List.append_assoc, List.append_assoc, List.cons_append, readListEnd,
      skipSpace_blank hw hspace]
    simp only [if_neg hne]
    split_ifs
    · cases skipSpace (r ++ (_ ++ rest)) with
      | nil => exact yields_error _ rest
      | cons c r => simp only; split_ifs <;> exact yields_error _ rest
    · exact yields_error _ rest
  | next hw hw' ht h =>
    obtain ⟨rfl, ht⟩ := ht
    obtain ⟨b, r, rfl, hspace, hne⟩ := ht.starts
    rw [List.append_assoc, List.cons_append, List.append_assoc, List.append_assoc, readListEnd,
      skipSpace_blank hw (by decide)]
    simp only [List.cons_append, skipSpace_blank hw' hspace, if_neg hne]
    exact yields_error _ rest

/-- A list that ends here holds all members that are required, or it is a fault. -/
lemma yields_readSlots_finished {index : Nat} {slot : Slot α} {slots : List (Slot α)}
    {bytes rest : Bytes} (hnext : nextItem (index == 0) bytes = .ok (.finished rest)) (a : α) :
    Yields (readSlots form index a (slot :: slots) bytes) (list? a (slot :: slots) []) rest := by
  have hany : ((slot :: slots).findIdx? Slot.isRequired).isSome =
      (slot :: slots).any Slot.isRequired := List.findIdx?_isSome
  simp only [readSlots, hnext, list?, ← hany]
  cases (slot :: slots).findIdx? Slot.isRequired <;> rfl

/-- An item is read into its slot and then those behind it. -/
lemma yields_readSlots_more {index : Nat} {slot : Slot α} {slots : List (Slot α)}
    {items : List Bytes} {bytes t more rest : Bytes} {a : α}
    (hnext : nextItem (index == 0) bytes = .ok (.more (t ++ more)))
    (hread : Yields (slot.read a (t ++ more)) (taken (slot.read a) t) more)
    (hmore : ∀ a, Yields (readSlots form (index + 1) a slots more) (list? a slots items) rest) :
    Yields (readSlots form index a (slot :: slots) bytes) (list? a (slot :: slots) (t :: items))
      rest := by
  simp only [readSlots, hnext, list?]
  obtain ⟨fault, hread, hvalue⟩ | ⟨a', hread, hvalue⟩ := hread.cases
  · simp only [hread, hvalue]
    exact yields_error fault rest
  · simp only [hread, hvalue, Option.bind_some]
    exact hmore a'

/-- A list is read slot by slot. -/
lemma yields_readSlots {index : Nat} {slots : List (Slot α)} {items : List Bytes}
    (h : ∀ slot ∈ slots, ∀ a, Settles (slot.read a))
    (ht : Parts closeList Lexical.Item (index == 0) items t) (a : α) (rest : Bytes) :
    Yields (readSlots form index a slots (t ++ rest)) (list? a slots items) rest := by
  induction slots generalizing index a items t with
  | nil =>
    rw [readSlots]
    exact yields_readListEnd ht a rest
  | cons slot slots ih =>
    cases items with
    | nil => exact yields_readSlots_finished (nextItem_finished ht rest) a
    | cons item items =>
      obtain ⟨t', u, ⟨rfl, hlexical⟩, hu, hnext⟩ := exists_nextItem ht fun t ht =>
        ht.1 ▸ ht.2.starts
      have hread :=
        (h slot List.mem_cons_self a).yields hlexical (hu.delimited (.inl rfl) rest)
      have hrest : Parts closeList Lexical.Item (index + 1 == 0) items u := hu
      exact yields_readSlots_more (hnext rest) hread fun a =>
        ih (fun slot hslot => h slot (List.mem_cons_of_mem _ hslot)) hrest a

end Forms

section Read

variable {α : Type} {form : Nat → Form α} {t : Bytes}

/-- An object is read as `Form.object?` says. -/
lemma reads_object {depth : Nat} (h : (form depth).Settled) {members : List (Bytes × Bytes)}
    (ht : Parts closeObject (Member Lexical.Item) true members t) :
    Reads (Form.read form (depth + 1)) (openObject :: t) ((form depth).object? members) := by
  intro w rest hw hrest
  rw [List.cons_append, Form.read, skipSpace_blank hw (by decide)]
  exact yields_readObject h ht rest

/-- A list is read as `Form.list?` says. -/
lemma reads_list {depth : Nat} (h : (form depth).Settled) {items : List Bytes}
    (ht : Parts closeList Lexical.Item true items t) :
    Reads (Form.read form (depth + 1)) (openList :: t)
      (list? (form depth).blank (form depth).slots items) := by
  intro w rest hw hrest
  have hfirst : Parts closeList Lexical.Item (0 == 0) items t := ht
  rw [List.cons_append, Form.read, skipSpace_blank hw (by decide)]
  exact yields_readSlots h hfirst (form depth).blank rest

/-- A form is read whatever comes behind it. -/
theorem settles_read (h : ∀ depth, (form depth).Settled) (depth : Nat) :
    Settles (Form.read form depth) := by
  refine settles_of_exists fun t ht => ?_
  obtain ht | ⟨items, u, rfl, hu⟩ | ⟨members, u, rfl, hu⟩ := ht.cases
  · obtain ⟨b, r, rfl, hb⟩ := ht.leads
    refine ⟨taken (readAs (form 0).title (refuse (form 0).title)) (b :: r),
      fun w rest hw hrest => ?_⟩
    have hopen : ¬ (b = openObject ∨ b = openList) := not_or.2 ⟨hb.ne_openObject, hb.ne_openList⟩
    rw [List.cons_append, Form.read, skipSpace_blank hw hb.isSpace]
    simp only [if_neg hopen]
    exact (settles_readAs _ _).yields (.token ht) hrest
  · cases depth with
    | zero =>
      refine ⟨none, fun w rest hw hrest => ?_⟩
      rw [List.cons_append, Form.read, skipSpace_blank hw (by decide)]
      rfl
    | succ depth => exact ⟨_, reads_list (h depth) hu⟩
  · cases depth with
    | zero =>
      refine ⟨none, fun w rest hw hrest => ?_⟩
      rw [List.cons_append, Form.read, skipSpace_blank hw (by decide)]
      rfl
    | succ depth => exact ⟨_, reads_object (h depth) hu⟩

end Read

lemma settles_readString : Settles readString :=
  settles_readAs "a string" acceptText

lemma settles_readFlag : Settles readFlag :=
  settles_readAs "a boolean" acceptBool

end Form

/-! ### Slots -/

namespace Slot

variable {α β : Type} {key : String} {read : Bytes → Read β}

lemma settles_required (h : Settles read) (set : α → β → α) (a : α) :
    Settles ((Slot.required key read set).read a) :=
  h.map (set a)

lemma settles_defaulted (h : Settles read) (set : α → β → α) (a : α) :
    Settles ((Slot.defaulted key read set).read a) :=
  h.map (set a)

lemma settles_optional (h : Settles read) (set : α → Option β → α) (a : α) :
    Settles ((Slot.optional key read set).read a) :=
  (settles_readOptional h).map (set a)

end Slot

/-! ### Envelopes -/

open Form Slot

/-- A status is read whatever comes behind it. -/
lemma Status.settles_read (depth : Nat) : Settles (Status.read depth) :=
  (settles_readRecord "Status" (Shape.header "Status")
    (Shape.settles_readers fun f _ => f.2.2.settles_read) depth).map
      fun fields => (⟨Shape.complete Shape.statusFields fields⟩ : Status)

lemma GroupVersionKind.settled : GroupVersionKind.form.Settled := by
  intro slot hslot a
  simp only [GroupVersionKind.form, List.mem_cons, List.not_mem_nil, or_false] at hslot
  rcases hslot with rfl | rfl | rfl <;> exact settles_required settles_readString _ a

lemma GroupVersionKind.settles_read (depth : Nat) : Settles (GroupVersionKind.read depth) :=
  Form.settles_read (fun _ => GroupVersionKind.settled) depth

lemma GroupVersionResource.settled : GroupVersionResource.form.Settled := by
  intro slot hslot a
  simp only [GroupVersionResource.form, List.mem_cons, List.not_mem_nil, or_false] at hslot
  rcases hslot with rfl | rfl | rfl | rfl
  · exact settles_required settles_readString _ a
  · exact settles_required settles_readString _ a
  · exact settles_required settles_readString _ a
  · exact settles_defaulted settles_readString _ a

lemma GroupVersionResource.settles_read (depth : Nat) :
    Settles (GroupVersionResource.read depth) :=
  Form.settles_read (fun _ => GroupVersionResource.settled) depth

lemma AdmissionRequest.settled (depth : Nat) : (AdmissionRequest.form depth).Settled := by
  intro slot hslot a
  simp only [AdmissionRequest.form, List.mem_cons, List.not_mem_nil, or_false] at hslot
  rcases hslot with rfl | rfl | rfl | rfl | rfl | rfl | rfl | rfl | rfl | rfl | rfl | rfl
  · exact settles_required settles_readString _ a
  · exact settles_required (GroupVersionKind.settles_read depth) _ a
  · exact settles_required (GroupVersionResource.settles_read depth) _ a
  · exact settles_optional settles_readString _ a
  · exact settles_optional (GroupVersionKind.settles_read depth) _ a
  · exact settles_optional (GroupVersionResource.settles_read depth) _ a
  · exact settles_optional settles_readString _ a
  · exact settles_optional settles_readString _ a
  · exact settles_required (settles_readVariant Trigger.variants depth) _ a
  · exact settles_optional settles_readRaw _ a
  · exact settles_optional settles_readRaw _ a
  · exact settles_optional settles_readFlag _ a

lemma AdmissionRequest.settles_read (depth : Nat) : Settles (AdmissionRequest.read depth) :=
  Form.settles_read AdmissionRequest.settled depth

lemma AdmissionResponse.settled (depth : Nat) : (AdmissionResponse.form depth).Settled := by
  intro slot hslot a
  simp only [AdmissionResponse.form, List.mem_cons, List.not_mem_nil, or_false] at hslot
  rcases hslot with rfl | rfl | rfl | rfl | rfl
  · exact settles_required settles_readString _ a
  · exact settles_required settles_readFlag _ a
  · exact settles_optional (Status.settles_read depth) _ a
  · exact settles_optional (settles_readAs base64Text acceptBase64) _ a
  · exact settles_optional (settles_readVariant PatchType.variants depth) _ a

lemma AdmissionResponse.settles_read (depth : Nat) : Settles (AdmissionResponse.read depth) :=
  Form.settles_read AdmissionResponse.settled depth

lemma AdmissionReview.settled (depth : Nat) : (AdmissionReview.form depth).Settled := by
  intro slot hslot a
  simp only [AdmissionReview.form, List.mem_cons, List.not_mem_nil, or_false] at hslot
  rcases hslot with rfl | rfl | rfl | rfl
  · exact settles_required settles_readString _ a
  · exact settles_required settles_readString _ a
  · exact settles_optional (AdmissionRequest.settles_read depth) _ a
  · exact settles_optional (AdmissionResponse.settles_read depth) _ a

end PodAdmission

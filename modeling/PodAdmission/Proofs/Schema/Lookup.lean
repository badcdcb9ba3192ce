import PodAdmission.Proofs.Json.Lookup
import PodAdmission.Proofs.Schema.Answers
import PodAdmission.Proofs.Schema.Settling

/-!
# Data and the places that they come from

What is read of a text against a shape, place by place: a record has under the name of a field what
the outline of the text has under that key, unless that is nothing or `null`; a list has what its
items make, and a string map what is under each of its keys.
-/

namespace PodAdmission

open Ascii Json Reader

variable {o v : Outline} {t : Bytes} {key : String}

/-! ### Values without parts -/

namespace Reader

lemma taken_refuse {α : Type} (wanted : String) (t : Bytes) :
    taken (readAs wanted (refuse wanted : Json → Except Cause α)) t = none := by
  have hgives : Gives (fun _ => False) (readAs wanted (refuse wanted : Json → Except Cause α) t) :=
    Shape.gives_refuse wanted t
  rw [taken]
  cases hread : readAs wanted (refuse wanted : Json → Except Cause α) t with
  | error fault => rfl
  | ok p => exact (hgives p.1 p.2 hread).elim

lemma taken_readAs {α : Type} (wanted : String) (accept : Json → Except Cause α) {b : UInt8}
    {r : Bytes} (h : Leads b) :
    taken (readAs wanted accept) (b :: r) =
      (taken (readLeaf b) r).bind fun v => (accept v).toOption := by
  rw [taken, readAs, skipSpace_cons h.isSpace, taken]
  simp only [if_neg h.ne_openList, if_neg h.ne_openObject]
  cases readLeaf b r with
  | error fault => rfl
  | ok p =>
    obtain ⟨v, rest⟩ := p
    simp only
    cases haccept : accept v <;> simp [haccept, Except.toOption]

lemma map_of_taken_map {α : Type} {r : Read α} {f : α → Json} {j : Json}
    (h : ((r.map fun (a, rest) => (f a, rest)).toOption.map Prod.fst) = some j) :
    ∃ a, r.toOption.map Prod.fst = some a ∧ j = f a := by
  cases r with
  | error fault => cases h
  | ok p => exact ⟨p.1, rfl, (Option.some.inj h).symm⟩

/-- What a value without parts is read as. -/
lemma taken_readLeaf {b : UInt8} {r : Bytes} {j : Json} (h : Token (b :: r))
    (hj : taken (readLeaf b) r = some j) :
    j = .null ∨ (∃ x, j = .bool x ∧ b :: r = writeBool x) ∨ (∃ n, j = .number n) ∨
      ∃ s, j = .text s ∧ (Outline.token (b :: r)).text? = some s := by
  generalize ht : b :: r = t at h
  cases h with
  | null =>
    obtain ⟨rfl, rfl⟩ := List.cons.inj ht
    cases hj
    exact .inl rfl
  | yes =>
    obtain ⟨rfl, rfl⟩ := List.cons.inj ht
    cases hj
    exact .inr (.inl ⟨true, rfl, rfl⟩)
  | no =>
    obtain ⟨rfl, rfl⟩ := List.cons.inj ht
    cases hj
    exact .inr (.inl ⟨false, rfl, rfl⟩)
  | number h =>
    obtain ⟨_, _, rfl, hb⟩ := numeral_eq_cons h
    obtain ⟨rfl, rfl⟩ := List.cons.inj ht
    rw [taken, readLeaf_digit hb] at hj
    obtain ⟨n, -, rfl⟩ := map_of_taken_map hj
    exact .inr (.inr (.inl ⟨n, rfl⟩))
  | negative h =>
    obtain ⟨rfl, rfl⟩ := List.cons.inj ht
    obtain ⟨n, -, rfl⟩ := map_of_taken_map hj
    exact .inr (.inr (.inl ⟨n, rfl⟩))
  | @text raw h =>
    obtain ⟨rfl, rfl⟩ := List.cons.inj ht
    obtain ⟨s, hs, rfl⟩ := map_of_taken_map hj
    exact .inr (.inr (.inr ⟨s, rfl, hs⟩))

lemma shows_leaf {α : Type} {wanted : String} {accept : Json → Except Cause α} {a : α}
    (ho : o.Shows t) (h : taken (readAs wanted accept) t = some a) :
    ∃ b r j, o = .token (b :: r) ∧ Token (b :: r) ∧ taken (readLeaf b) r = some j ∧
      accept j = .ok a := by
  cases ho with
  | token ht =>
    obtain ⟨b, r, rfl, hb⟩ := ht.leads
    rw [taken_readAs wanted accept hb, Option.bind_eq_some_iff] at h
    obtain ⟨j, hj, haccept⟩ := h
    refine ⟨b, r, j, rfl, ht, hj, ?_⟩
    cases hv : accept j with
    | error cause =>
      rw [hv] at haccept
      cases haccept
    | ok a' =>
      rw [hv] at haccept
      rw [Option.some.inj haccept]
  | list _ => cases h
  | object _ => cases h

/-- A text that is read is the one that is spelled. -/
lemma text?_of_taken {wanted : String} {s : String} (ho : o.Shows t)
    (h : taken (readAs wanted acceptText) t = some s) : o.text? = some s := by
  obtain ⟨b, r, j, rfl, ht, hj, haccept⟩ := shows_leaf ho h
  obtain rfl | ⟨x, rfl, -⟩ | ⟨n, rfl⟩ | ⟨s', rfl, hs⟩ := taken_readLeaf ht hj
  · cases haccept
  · cases haccept
  · cases haccept
  · cases haccept
    exact hs

/-- A truth value that is read is the word for it. -/
lemma eq_token_of_taken {wanted : String} {x : Bool} (ho : o.Shows t)
    (h : taken (readAs wanted acceptBool) t = some x) : o = .token (writeBool x) := by
  obtain ⟨b, r, j, rfl, ht, hj, haccept⟩ := shows_leaf ho h
  obtain rfl | ⟨y, rfl, hy⟩ | ⟨n, rfl⟩ | ⟨s, rfl, -⟩ := taken_readLeaf ht hj
  · cases haccept
  · cases haccept
    rw [hy]
  · cases haccept
  · cases haccept

/-! ### Lists -/

/-- Lists that go together with one list in between go together. -/
lemma forall₂_trans {α β γ : Type} {R : α → β → Prop} {S : β → γ → Prop} {xs : List α}
    {ys : List β} {zs : List γ} (h : List.Forall₂ R xs ys) (h' : List.Forall₂ S ys zs) :
    List.Forall₂ (fun x z => ∃ y, R x y ∧ S y z) xs zs := by
  induction h generalizing zs with
  | nil =>
    cases h'
    exact .nil
  | cons hxy h ih =>
    cases h' with
    | cons hyz h' => exact .cons ⟨_, hxy, hyz⟩ (ih h')

/-- A list that is read has what its items make, one by one. -/
lemma items_of_taken {α : Type} {item : Nat → Bytes → Read α}
    (hitem : ∀ depth, Settles (item depth)) {depth : Nat} {xs : List α} (ho : o.Shows t)
    (h : taken (readList item depth) t = some xs) :
    ∃ items inner, o = .list items ∧ List.Forall₂
      (fun v x => ∃ t, v.Shows t ∧ taken (item inner) t = some x) items xs := by
  cases ho with
  | token ht =>
    obtain ⟨b, r, rfl, hb⟩ := ht.leads
    have hrefused : taken (readList item depth) (b :: r) = none := by
      rw [taken, readList, skipSpace_cons hb.isSpace]
      simp only [if_neg hb.ne_openList]
      exact taken_refuse _ _
    rw [hrefused] at h
    cases h
  | object hu =>
    rw [taken, readList, skipSpace_cons (by decide)] at h
    cases h
  | @list items u hu =>
    obtain ⟨texts, hparts, hpairs⟩ := Outline.exists_items hu
    cases depth with
    | zero => cases h
    | succ depth =>
      have hyields := yields_items (hitem depth) hparts []
      rw [List.append_nil] at hyields
      have hread : texts.mapM (taken (item depth)) = some xs :=
        (taken_of_yields hyields).symm.trans h
      refine ⟨items, depth, rfl, ?_⟩
      exact forall₂_trans hpairs (mapM_eq_some_iff.1 hread)

/-! ### Members -/

/-- A member that is answered for changes nothing but what is under its key, and that is as `P`
says. -/
def AnswersKeyed (answer : Record → String → Bytes → Option Record)
    (P : String → Bytes → Option Datum → Prop) : Prop :=
  ∀ made key t made', Entries.Ascending made → answer made key t = some made' →
    Entries.Ascending made' ∧ (∀ k, k ≠ key → Entries.get? k made' = Entries.get? k made) ∧
      P key t (Entries.get? key made')

/-- What is under a key behind some members: what the last of them under that key has put there, or
what was there before. -/
inductive Left (P : Bytes → Option Datum → Prop) (before : Option Datum) :
    Option Outline → Option Datum → Prop where
  | before : Left P before none before
  | last {v : Outline} {t : Bytes} {after : Option Datum} (hv : v.Shows t) (h : P t after) :
      Left P before (some v) after

/-- The members of an object leave under every key what the last of them under it says. -/
lemma left_of_foldlM {answer : Record → String → Bytes → Option Record}
    {P : String → Bytes → Option Datum → Prop} (hanswer : AnswersKeyed answer P)
    {members : List (Bytes × Outline)} {parts : List (Bytes × Bytes)}
    (hpairs : List.Forall₂ Outline.Pairs members parts) {made made' : Record}
    (ha : Entries.Ascending made) (h : parts.foldlM (memberStep answer) made = some made')
    (k : String) :
    Left (P k) (Entries.get? k made) (Outline.lookup k members) (Entries.get? k made') := by
  induction hpairs generalizing made with
  | nil =>
    obtain rfl := Option.some.inj h
    exact .before
  | @cons m n members parts hm hpairs ih =>
    rw [List.foldlM_cons] at h
    obtain ⟨mid, hstep, hrest⟩ := Option.bind_eq_some_iff.1 h
    obtain ⟨key, hkey, hanswered⟩ := Option.bind_eq_some_iff.1 hstep
    obtain ⟨hmid, hother, hown⟩ := hanswer made key n.2 mid ha hanswered
    obtain ⟨hraw, hv⟩ := hm
    have hleft := ih hmid hrest
    rw [Outline.lookup, hraw, hkey]
    cases hlookup : Outline.lookup k members with
    | some v =>
      rw [hlookup] at hleft
      cases hleft with
      | last hv hp => exact .last hv hp
    | none =>
      rw [hlookup] at hleft
      generalize hafter : Entries.get? k made' = after at hleft
      cases hleft with
      | before =>
        by_cases hk : key = k
        · subst hk
          rw [Option.none_or, if_pos rfl]
          exact .last hv hown
        · have hne : some key ≠ some k := fun heq => hk (Option.some.inj heq)
          rw [Option.none_or, if_neg hne, hother k (Ne.symm hk)]
          exact .before

/-- A member that is no field leaves all of them alone. -/
lemma fieldAnswer_unknown {fixed : List (String × String)}
    {readers : List (String × (Bytes → Read Datum))} {made made' : Record}
    (hkey : Entries.get? key readers = none)
    (h : fieldAnswer fixed readers made key t = some made') : made' = made := by
  rw [fieldAnswer, hkey] at h
  simp only at h
  cases hfixed : Entries.get? key fixed with
  | none =>
    rw [hfixed] at h
    exact (Option.some.inj h).symm
  | some value =>
    rw [hfixed] at h
    obtain ⟨s, -, hs⟩ := Option.bind_eq_some_iff.1 h
    split_ifs at hs
    exact (Option.some.inj hs).symm

lemma answersKeyed_fieldAnswer (fixed : List (String × String))
    (readers : List (String × (Bytes → Read Datum))) :
    AnswersKeyed (fieldAnswer fixed readers) fun key t d =>
      ∀ reader, Entries.get? key readers = some reader →
        taken (readOptional reader) t = some d := by
  intro made key t made' ha h
  cases hreader : Entries.get? key readers with
  | some reader =>
    rw [fieldAnswer, hreader] at h
    obtain ⟨d, hd, rfl⟩ := Option.map_eq_some_iff.1 h
    cases d with
    | some d =>
      refine ⟨Entries.ascending_insert key d ha,
        fun k hk => Entries.get?_insert_of_ne hk d made, ?_⟩
      intro reader' heq
      obtain rfl := Option.some.inj (hreader.symm.trans heq)
      rw [hd, Entries.get?_insert_self]
    | none =>
      refine ⟨Entries.ascending_erase key ha, fun k hk => Entries.get?_erase_of_ne hk made, ?_⟩
      intro reader' heq
      obtain rfl := Option.some.inj (hreader.symm.trans heq)
      rw [hd, Entries.get?_erase_self key ha]
  | none =>
    obtain rfl := fieldAnswer_unknown hreader h
    exact ⟨ha, fun k _ => rfl, fun reader heq => by simp [hreader] at heq⟩

lemma answersKeyed_addMember (read : Bytes → Read Datum) :
    AnswersKeyed (fun made key t => (taken read t).map fun d => Entries.insert key d made)
      fun _ t d => ∃ x, d = some x ∧ taken read t = some x := by
  intro made key t made' ha h
  obtain ⟨d, hd, rfl⟩ := Option.map_eq_some_iff.1 h
  exact ⟨Entries.ascending_insert key d ha, fun k hk => Entries.get?_insert_of_ne hk d made,
    d, Entries.get?_insert_self key d made, hd⟩

end Reader

namespace Shape

/-! ### Data made of outlines -/

variable {s : Shape} {d : Datum} {r : Record} {name : String} {fixed : List (String × String)}
  {fields : List (String × Presence × Shape)}

/-- The datum is read of a text with the outline. -/
def Makes (s : Shape) (o : Outline) (d : Datum) : Prop :=
  ∃ t, o.Shows t ∧ ∃ depth, taken (s.read depth) t = some d

/-- The record is read of a text with the outline, and completed. -/
def MakesRecord (name : String) (fixed : List (String × String))
    (fields : List (String × Presence × Shape)) (o : Outline) (r : Record) : Prop :=
  ∃ t, o.Shows t ∧ ∃ depth given,
    taken (readRecord name fixed (readers fields) depth) t = some given ∧ r = complete fields given

/-- What is in a field after there was something under its name or nothing. -/
inductive Filled (s : Shape) (preset : Option Datum) : Option Outline → Option Datum → Prop where
  | missing : Filled s preset none preset
  | null : Filled s preset (some (.token nullWord)) preset
  | given {v : Outline} {d : Datum} (h : s.Makes v d) : Filled s preset (some v) (some d)

/-- What is read and then wrapped up. -/
lemma exists_of_taken_map {α : Type} (read : Bytes → Read α) {f : α → Datum}
    (h : taken (fun bytes => (read bytes).map fun (a, rest) => (f a, rest)) t = some d) :
    ∃ a, taken read t = some a ∧ d = f a := by
  rw [taken_map] at h
  obtain ⟨a, ha, rfl⟩ := Option.map_eq_some_iff.1 h
  exact ⟨a, ha, rfl⟩

lemma Makes.text (h : Makes .text o d) : ∃ x, d = .text x ∧ o.text? = some x := by
  obtain ⟨t, ho, depth, h⟩ := h
  obtain ⟨x, hx, rfl⟩ := exists_of_taken_map (readAs "a string" acceptText) h
  exact ⟨x, rfl, text?_of_taken ho hx⟩

lemma Makes.flag (h : Makes .flag o d) : ∃ x, d = .flag x ∧ o = .token (writeBool x) := by
  obtain ⟨t, ho, depth, h⟩ := h
  obtain ⟨x, hx, rfl⟩ := exists_of_taken_map (readAs "a boolean" acceptBool) h
  exact ⟨x, rfl, eq_token_of_taken ho hx⟩

lemma Makes.list {item : Shape} (h : Makes (.list item) o d) :
    ∃ items ds, o = .list items ∧ d = .list ds ∧ List.Forall₂ item.Makes items ds := by
  obtain ⟨t, ho, depth, h⟩ := h
  obtain ⟨ds, hds, rfl⟩ := exists_of_taken_map (readList item.read depth) h
  obtain ⟨items, inner, rfl, hitems⟩ := items_of_taken (settles_read item) ho hds
  exact ⟨items, ds, rfl, rfl, hitems.imp fun v x ⟨t, hv, hx⟩ => ⟨t, hv, inner, hx⟩⟩

lemma Makes.record (h : Makes (.record name fields) o d) :
    ∃ r, d = .record r ∧ MakesRecord name [] fields o r := by
  obtain ⟨t, ho, depth, h⟩ := h
  obtain ⟨given, hgiven, rfl⟩ :=
    exists_of_taken_map _ (f := fun given => Datum.record (complete fields given)) h
  exact ⟨complete fields given, rfl, t, ho, depth, given, hgiven, rfl⟩

/-- What is read as a string map is an object. -/
lemma object_of_taken_readDict {item : Shape} (ho : o.Shows t)
    (h : taken (readDict item.read depth) t = some d) :
    ∃ members u below, o = .object members ∧ t = openObject :: u ∧ depth = below + 1 ∧
      Parts closeObject (Member Outline.Shows) true members u := by
  cases ho with
  | token ht =>
    obtain ⟨b, u, rfl, hb⟩ := ht.leads
    have hrefused : taken (readDict item.read depth) (b :: u) = none := by
      rw [taken, readDict, skipSpace_cons hb.isSpace]
      simp only [if_neg hb.ne_openObject]
      exact taken_refuse _ _
    cases hrefused.symm.trans h
  | list _ =>
    rw [taken, readDict, skipSpace_cons (by decide)] at h
    cases h
  | @object members u hu =>
    cases depth with
    | zero => cases h
    | succ below => exact ⟨members, u, below, rfl, rfl, rfl, hu⟩

/-- A string map has under every key what comes last under it. -/
lemma Makes.dict {item : Shape} (h : Makes (.dict item) o d) :
    ∃ r, d = .record r ∧ ∀ key, Option.Rel item.Makes (o.member? key) (Entries.get? key r) := by
  obtain ⟨t, ho, depth, h⟩ := h
  obtain ⟨members, u, below, rfl, rfl, rfl, hu⟩ := object_of_taken_readDict ho h
  obtain ⟨parts, hparts, hpairs⟩ := Outline.exists_members hu
  have hyields := yields_members (memberReads_addMember (settles_read item below)) hparts [] []
  rw [List.append_nil] at hyields
  have htaken : taken (readDict item.read (below + 1)) (openObject :: u) = _ :=
    taken_of_yields (hyields.map Datum.record)
  obtain ⟨r, hr, rfl⟩ := Option.map_eq_some_iff.1 (htaken.symm.trans h)
  refine ⟨r, rfl, fun key => ?_⟩
  have hleft := left_of_foldlM (answersKeyed_addMember (item.read below)) hpairs
    List.Pairwise.nil hr key
  change Option.Rel item.Makes (Outline.lookup key members) _
  generalize Outline.lookup key members = v, Entries.get? key r = after at hleft ⊢
  cases hleft with
  | before => exact .none
  | @last v t after hv h =>
    obtain ⟨d, rfl, hd⟩ := h
    exact .some ⟨t, hv, below, hd⟩

lemma Makes.makesRecord (h : Makes (.record name fields) o (.record r)) :
    MakesRecord name [] fields o r := by
  obtain ⟨r', heq, h⟩ := h.record
  obtain rfl := Datum.record.inj heq
  exact h

/-- What is read as a record is an object. -/
lemma object_of_taken_readRecord {given : Record} (ho : o.Shows t)
    (h : taken (readRecord name fixed (readers fields) depth) t = some given) :
    ∃ members u below, o = .object members ∧ t = openObject :: u ∧ depth = below + 1 ∧
      Parts closeObject (Member Outline.Shows) true members u := by
  cases ho with
  | token ht =>
    obtain ⟨b, u, rfl, hb⟩ := ht.leads
    have hrefused : taken (readRecord name fixed (readers fields) depth) (b :: u) = none := by
      rw [taken, readRecord, skipSpace_cons hb.isSpace]
      simp only [if_neg hb.ne_openList, if_neg hb.ne_openObject]
      exact taken_refuse _ _
    cases hrefused.symm.trans h
  | list _ =>
    rw [taken, readRecord, skipSpace_cons (by decide)] at h
    cases depth <;> cases h
  | @object members u hu =>
    cases depth with
    | zero => cases h
    | succ below => exact ⟨members, u, below, rfl, rfl, rfl, hu⟩

/-- A value under the name of a field fills the field, unless it is `null`. -/
lemma filled_of_taken {v : Outline} {d? preset : Option Datum} (hv : v.Shows t)
    (h : taken (readOptional (s.read depth)) t = some d?) :
    Filled s preset (some v) (d?.or preset) := by
  by_cases hnull : t = nullWord
  · subst hnull
    rw [reads_readOptional_null.taken_eq] at h
    obtain rfl := Option.some.inj h
    rw [hv.eq_null]
    exact .null
  · rw [(reads_readOptional (settles_read s depth) ⟨v, hv⟩ hnull).taken_eq] at h
    obtain ⟨d, hd, rfl⟩ := Option.map_eq_some_iff.1 h
    exact .given ⟨t, hv, depth, hd⟩

/-- A record has in every field what is under its name, or else the default. -/
theorem MakesRecord.field (h : MakesRecord name fixed fields o r) {key : String}
    {presence : Presence} (hf : Entries.get? key fields = some (presence, s)) :
    Filled s (Entries.get? key (defaults fields)) (o.member? key) (Entries.get? key r) := by
  obtain ⟨t, ho, depth, given, hgiven, rfl⟩ := h
  obtain ⟨members, u, below, rfl, rfl, rfl, hu⟩ := object_of_taken_readRecord ho hgiven
  obtain ⟨parts, hparts, hpairs⟩ := Outline.exists_members hu
  have hyields := yields_members (memberReads_readField fixed (settles_readers
    (fun (f : String × Presence × Shape) (_ : f ∈ fields) => settles_read f.2.2) below))
    hparts [] []
  rw [List.append_nil] at hyields
  have hfold := (taken_of_yields hyields).symm.trans hgiven
  have hleft := left_of_foldlM (answersKeyed_fieldAnswer fixed (readers fields below)) hpairs
    List.Pairwise.nil hfold key
  have hreader : Entries.get? key (readers fields below) = some (s.read below) := by
    rw [get?_readers, hf]
    rfl
  rw [get?_complete]
  change Filled s _ (Outline.lookup key members) _
  generalize Outline.lookup key members = v, Entries.get? key given = after at hleft ⊢
  cases hleft with
  | before => exact .missing
  | @last v t after hv h => exact filled_of_taken hv (h _ hreader)

/-- A field without a default. -/
lemma MakesRecord.optional (h : MakesRecord name fixed fields o r) {key : String}
    (hf : Entries.get? key fields = some (.optional, s))
    (hdefault : Entries.get? key (defaults fields) = none) :
    Filled s none (o.member? key) (Entries.get? key r) :=
  hdefault ▸ h.field hf

/-! ### Views of a field -/

namespace Filled

variable {v? : Option Outline} {d? preset : Option Datum}

lemma text?_eq (h : Filled .text none v? d?) : d?.bind Datum.asText? = v?.bind Outline.text? := by
  cases h with
  | missing => rfl
  | null => rfl
  | given h =>
    obtain ⟨x, rfl, hx⟩ := h.text
    exact hx.symm

lemma flag?_eq_some_iff (h : Filled .flag none v? d?) {x : Bool} :
    d?.bind Datum.asFlag? = some x ↔ v? = some (.token (writeBool x)) := by
  cases h with
  | missing => exact iff_of_false nofun nofun
  | null => cases x <;> exact iff_of_false nofun nofun
  | given h =>
    obtain ⟨y, rfl, rfl⟩ := h.flag
    cases x <;> cases y <;> simp [Datum.asFlag?, writeBool] <;> decide

/-- What is seen in the record in a field is seen behind its name. -/
lemma bind_record?_iff (h : Filled (.record name fields) none v? d?) {α : Type}
    {view : Record → Option α} {a : α} {key : String} {path : List String}
    {P : Option Outline → Prop} (hP : ¬ P none)
    (hview : ∀ v r, Makes (.record name fields) v (.record r) →
      (view r = some a ↔ P (v.at? (key :: path)))) :
    (d?.bind Datum.asRecord?).bind view = some a ↔ P (v?.bind (Outline.at? (key :: path))) := by
  cases h with
  | missing => exact iff_of_false nofun hP
  | null => exact iff_of_false nofun hP
  | given h =>
    obtain ⟨r, rfl, -⟩ := h.record
    exact hview _ r h

lemma items {item : Shape} (h : Filled (.list item) preset v? d?)
    (hpreset : (preset.bind Datum.asList?).getD [] = []) :
    List.Forall₂ item.Makes (v?.elim [] Outline.items) ((d?.bind Datum.asList?).getD []) := by
  cases h with
  | missing =>
    rw [hpreset]
    exact .nil
  | null =>
    rw [hpreset]
    exact .nil
  | given h =>
    obtain ⟨items, ds, rfl, rfl, hitems⟩ := h.list
    exact hitems

/-- A list of texts is left out, or it is what its items spell. -/
lemma texts? (h : Filled (.list .text) none v? d?) :
    (v? = none ∨ v? = some (.token nullWord)) ∧ d?.bind Datum.asList? = none ∨
      ∃ items texts, v? = some (.list items) ∧
        ((d?.bind Datum.asList?).map fun ds => ds.filterMap Datum.asText?) = some texts ∧
        List.Forall₂ (fun v s => v.text? = some s) items texts := by
  cases h with
  | missing => exact .inl ⟨.inl rfl, rfl⟩
  | null => exact .inl ⟨.inr rfl, rfl⟩
  | given h =>
    obtain ⟨items, ds, rfl, rfl, hitems⟩ := h.list
    refine .inr ⟨items, ds.filterMap Datum.asText?, rfl, rfl, ?_⟩
    clear h
    induction hitems with
    | nil => exact .nil
    | cons hitem _ ih =>
      obtain ⟨s, rfl, hs⟩ := hitem.text
      exact .cons hs ih

/-- What a string map in a field has under a key. -/
lemma text?_dict (h : Filled (.dict .text) none v? d?) (key : String) :
    (d?.bind Datum.asRecord?).bind (Record.text? key) =
      v?.bind fun v => (v.member? key).bind Outline.text? := by
  cases h with
  | missing => rfl
  | null => rfl
  | @given v d h =>
    obtain ⟨r, rfl, hr⟩ := h.dict
    have hkey := hr key
    rw [Option.bind_some, Datum.asRecord?, Option.bind_some, Option.bind_some, Record.text?]
    generalize v.member? key = v?, Entries.get? key r = d? at hkey ⊢
    cases hkey with
    | none => rfl
    | some hmakes =>
      obtain ⟨x, rfl, hx⟩ := Makes.text hmakes
      exact hx.symm

end Filled

end Shape

end PodAdmission

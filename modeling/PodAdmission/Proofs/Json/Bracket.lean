import Mathlib.Tactic.Common
import PodAdmission.Json.Reader.Bracket
import PodAdmission.Proofs.Json.Basic
import PodAdmission.Proofs.Json.Text
import PodAdmission.Proofs.Number.Numeral

/-!
# Lists and objects read back

`Parts` is the grammar of what stands between brackets, whatever the parts are and wherever white
space is. A list is read item by item, and an object member by member. What a reader makes of an
item or a member does not depend on what comes behind it, as long as that cannot continue a number.
-/

namespace PodAdmission

open Ascii Json

namespace Reader

/-! ### Answers -/

/-- The reader answers what `o` holds and stops before `rest`, or fails if `o` holds nothing. -/
def Yields {α : Type} (r : Read α) (o : Option α) (rest : Bytes) : Prop :=
  r.toOption = o.map fun a => (a, rest)

section Yields

variable {α β : Type} {r : Read α} {o : Option α} {rest : Bytes}

lemma yields_ok (a : α) (rest : Bytes) : Yields (.ok (a, rest)) (some a) rest := rfl

lemma yields_error (fault : Fault) (rest : Bytes) : Yields (.error fault : Read α) none rest := rfl

lemma Yields.cases (h : Yields r o rest) :
    (∃ fault, r = .error fault ∧ o = none) ∨ ∃ a, r = .ok (a, rest) ∧ o = some a := by
  rw [Yields] at h
  cases r with
  | error fault =>
    left
    cases o with
    | none => exact ⟨fault, rfl, rfl⟩
    | some a => cases h
  | ok p =>
    right
    cases o with
    | none => cases h
    | some a => exact ⟨a, by rw [Option.some.inj h], rfl⟩

lemma Yields.map (h : Yields r o rest) (f : α → β) :
    Yields (Except.map (fun p => (f p.1, p.2)) r) (o.map f) rest := by
  obtain ⟨fault, rfl, rfl⟩ | ⟨a, rfl, rfl⟩ := h.cases
  · rfl
  · rfl

end Yields

/-! ### White space -/

/-- Nothing but white space. -/
def Blank (w : Bytes) : Prop :=
  ∀ b ∈ w, isSpace b = true

/-- A text that starts like a value. -/
def Starts (t : Bytes) : Prop :=
  ∃ b r, t = b :: r ∧ isSpace b = false ∧ b ≠ closeList

variable {w t rest : Bytes} {b : UInt8}

lemma blank_nil : Blank [] := by
  intro b hb
  cases hb

lemma skipSpace_cons (h : isSpace b = false) (r : Bytes) : skipSpace (b :: r) = b :: r := by
  simp [skipSpace, h]

lemma skipSpace_append (hw : Blank w) (rest : Bytes) :
    skipSpace (w ++ rest) = skipSpace rest :=
  List.dropWhile_append_of_pos hw

/-- White space in front of something else is passed over. -/
lemma skipSpace_blank (hw : Blank w) (h : isSpace b = false) (r : Bytes) :
    skipSpace (w ++ b :: r) = b :: r := by
  rw [skipSpace_append hw, skipSpace_cons h]

lemma delimited_cons (h : isDigit b = false ∧ b ≠ point ∧ b ≠ lowerE ∧ b ≠ upperE) (r : Bytes) :
    Delimited (b :: r) := by
  rintro _ _ ⟨⟩
  exact h

/-- White space ends a number. -/
lemma delimited_blank (hw : Blank w) (h : Delimited rest) : Delimited (w ++ rest) := by
  cases w with
  | nil => exact h
  | cons b w =>
    have hb := hw b List.mem_cons_self
    refine delimited_cons ?_ _
    simp only [isSpace, Bool.or_eq_true, beq_iff_eq] at hb
    rcases hb with ((rfl | rfl) | rfl) | rfl <;> decide

/-! ### What stands between brackets -/

section Parts

variable {α : Type} {P : α → Bytes → Prop} {closer : UInt8} {first : Bool} {parts : List α}

/-- The parts that are left between brackets, and the closing bracket: all of them, or those behind
a part that is done. `P` says which texts a part has. -/
inductive Parts (closer : UInt8) (P : α → Bytes → Prop) : (first : Bool) → List α → Bytes → Prop
  where
  | close {first : Bool} {w : Bytes} (hw : Blank w) : Parts closer P first [] (w ++ [closer])
  | first {w t u : Bytes} {a : α} {more : List α} (hw : Blank w) (ht : P a t)
      (h : Parts closer P false more u) : Parts closer P true (a :: more) (w ++ (t ++ u))
  | next {w w' t u : Bytes} {a : α} {more : List α} (hw : Blank w) (hw' : Blank w') (ht : P a t)
      (h : Parts closer P false more u) :
      Parts closer P false (a :: more) (w ++ comma :: (w' ++ (t ++ u)))

/-- What may close brackets. -/
def IsCloser (closer : UInt8) : Prop :=
  closer = closeList ∨ closer = closeObject

lemma Parts.length_lt (h : Parts closer P false parts t) : parts.length < t.length := by
  induction parts generalizing t with
  | nil =>
    cases h with
    | close hw => simp
  | cons a more ih =>
    cases h with
    | next hw hw' ht h =>
      have hmore := ih h
      simp only [List.length_append, List.length_cons]
      omega

/-- Parts and the closing bracket take more bytes than there are parts. -/
lemma Parts.length_le (h : Parts closer P first parts t) : parts.length ≤ t.length := by
  cases h with
  | close hw => exact Nat.zero_le _
  | first hw ht h =>
    have hmore := h.length_lt
    simp only [List.length_append, List.length_cons]
    omega
  | next hw hw' ht h =>
    have hmore := h.length_lt
    simp only [List.length_append, List.length_cons]
    omega

/-- What is behind a part does not continue a number. -/
lemma Parts.delimited (h : Parts closer P false parts t) (hcloser : IsCloser closer)
    (rest : Bytes) : Delimited (t ++ rest) := by
  cases h with
  | close hw =>
    rw [List.append_assoc]
    refine delimited_blank hw (delimited_cons ?_ rest)
    rcases hcloser with rfl | rfl <;> decide
  | next hw hw' ht h =>
    rw [List.append_assoc]
    exact delimited_blank hw (delimited_cons (by decide) _)

lemma Parts.map {β : Type} {P : β → Bytes → Prop} {f : α → β}
    (h : Parts closer (fun a => P (f a)) first parts t) :
    Parts closer P first (parts.map f) t := by
  induction h with
  | close hw => exact .close hw
  | first hw ht h ih => exact .first hw ht ih
  | next hw hw' ht h ih => exact .next hw hw' ht ih

/-- The items behind the first one, each behind a comma. -/
lemma separated_cons (t : Bytes) (ts : List Bytes) :
    separated (t :: ts) = t ++ ts.flatMap (comma :: ·) := by
  induction ts generalizing t with
  | nil => simp [separated]
  | cons u ts ih => rw [separated, ih, List.flatMap_cons, List.cons_append]

lemma parts_flatMap {text : α → Bytes} (h : ∀ a ∈ parts, P a (text a)) :
    Parts closer P false parts ((parts.map text).flatMap (comma :: ·) ++ [closer]) := by
  induction parts with
  | nil => exact .close blank_nil
  | cons a more ih =>
    have hrest := ih fun b hb => h b (List.mem_cons_of_mem _ hb)
    have hall := Parts.next blank_nil blank_nil (h a List.mem_cons_self) hrest
    simpa using hall

/-- Written parts with a comma between any two stand between brackets. -/
lemma parts_separated {text : α → Bytes} (h : ∀ a ∈ parts, P a (text a)) :
    Parts closer P true parts (separated (parts.map text) ++ [closer]) := by
  cases parts with
  | nil => exact .close blank_nil
  | cons a more =>
    have hmore : Parts closer P false more _ :=
      parts_flatMap fun b hb => h b (List.mem_cons_of_mem _ hb)
    have hall := Parts.first blank_nil (h a List.mem_cons_self) hmore
    rw [List.map_cons, separated_cons, List.append_assoc]
    exact hall

/-- A member: a key between quotes, a colon and what is under the key. -/
inductive Keyed (P : α → Bytes → Prop) : String × α → Bytes → Prop where
  | mk {key : String} {a : α} {raw w w' t : Bytes} (hkey : Spelled (Utf8.encode key) raw)
      (hw : Blank w) (hw' : Blank w') (ht : P a t) :
      Keyed P (key, a) (quote :: (raw ++ quote :: (w ++ colon :: (w' ++ t))))

lemma keyed_memberOf (key : String) {a : α} (h : P a t) : Keyed P (key, a) (memberOf key t) := by
  have hkeyed := Keyed.mk (spelled_flatMap (Utf8.encode key)) blank_nil blank_nil h
  simpa [memberOf, writeText] using hkeyed

end Parts

/-! ### What comes next -/

lemma nextItem_close (hw : Blank w) (first : Bool) (rest : Bytes) :
    nextItem first (w ++ closeList :: rest) = .ok (.finished rest) := by
  rw [nextItem, skipSpace_blank hw (by decide)]
  rfl

lemma nextItem_first (hw : Blank w) (h : Starts t) (rest : Bytes) :
    nextItem true (w ++ (t ++ rest)) = .ok (.more (t ++ rest)) := by
  obtain ⟨b, r, rfl, hb, hne⟩ := h
  rw [nextItem, List.cons_append, skipSpace_blank hw hb]
  simp [hne]

lemma nextItem_comma {w' : Bytes} (hw : Blank w) (hw' : Blank w') (h : Starts t) (rest : Bytes) :
    nextItem false (w ++ comma :: (w' ++ (t ++ rest))) = .ok (.more (t ++ rest)) := by
  obtain ⟨b, r, rfl, hb, hne⟩ := h
  rw [nextItem, skipSpace_blank hw (by decide), List.cons_append]
  simp +decide [skipSpace_blank hw' hb, hne]

lemma nextKey_close (hw : Blank w) (first : Bool) (rest : Bytes) :
    nextKey first (w ++ closeObject :: rest) = .ok (.finished rest) := by
  rw [nextKey, skipSpace_blank hw (by decide)]
  rfl

lemma nextKey_first (hw : Blank w) (rest : Bytes) :
    nextKey true (w ++ quote :: rest) = .ok (.more rest) := by
  rw [nextKey, skipSpace_blank hw (by decide)]
  rfl

lemma nextKey_comma {w' : Bytes} (hw : Blank w) (hw' : Blank w') (rest : Bytes) :
    nextKey false (w ++ comma :: (w' ++ quote :: rest)) = .ok (.more rest) := by
  rw [nextKey, skipSpace_blank hw (by decide)]
  simp +decide [skipSpace_blank hw']

section NextPart

variable {α : Type} {P : α → Bytes → Prop} {first : Bool} {a : α} {more : List α}

lemma nextItem_finished (h : Parts closeList P first [] t) (rest : Bytes) :
    nextItem first (t ++ rest) = .ok (.finished rest) := by
  cases h with
  | close hw =>
    rw [List.append_assoc]
    exact nextItem_close hw first rest

/-- The next item is found behind white space, and behind a comma if it is not the first one. -/
lemma exists_nextItem (h : Parts closeList P first (a :: more) t)
    (hstart : ∀ t, P a t → Starts t) :
    ∃ t' u, P a t' ∧ Parts closeList P false more u ∧
      ∀ rest, nextItem first (t ++ rest) = .ok (.more (t' ++ (u ++ rest))) := by
  cases h with
  | first hw ht hu =>
    refine ⟨_, _, ht, hu, fun rest => ?_⟩
    rw [List.append_assoc, List.append_assoc]
    exact nextItem_first hw (hstart _ ht) _
  | next hw hw' ht hu =>
    refine ⟨_, _, ht, hu, fun rest => ?_⟩
    rw [List.append_assoc, List.cons_append, List.append_assoc, List.append_assoc]
    exact nextItem_comma hw hw' (hstart _ ht) _

lemma nextKey_finished (h : Parts closeObject P first [] t) (rest : Bytes) :
    nextKey first (t ++ rest) = .ok (.finished rest) := by
  cases h with
  | close hw =>
    rw [List.append_assoc]
    exact nextKey_close hw first rest

/-- The next key is found in the same way, and the quote that opens it is taken. -/
lemma exists_nextKey (h : Parts closeObject P first (a :: more) t)
    (hquote : ∀ t, P a t → ∃ r, t = quote :: r) :
    ∃ r u, P a (quote :: r) ∧ Parts closeObject P false more u ∧
      ∀ rest, nextKey first (t ++ rest) = .ok (.more (r ++ (u ++ rest))) := by
  cases h with
  | first hw ht hu =>
    obtain ⟨r, rfl⟩ := hquote _ ht
    refine ⟨r, _, ht, hu, fun rest => ?_⟩
    rw [List.append_assoc, List.append_assoc, List.cons_append]
    exact nextKey_first hw _
  | next hw hw' ht hu =>
    obtain ⟨r, rfl⟩ := hquote _ ht
    refine ⟨r, _, ht, hu, fun rest => ?_⟩
    rw [List.append_assoc, List.cons_append, List.append_assoc, List.append_assoc,
      List.cons_append]
    exact nextKey_comma hw hw' _

end NextPart

lemma readColon_blank (hw : Blank w) (rest : Bytes) :
    readColon (w ++ colon :: rest) = .ok rest := by
  rw [readColon, skipSpace_blank hw (by decide)]
  rfl

/-- An object ends behind a member just if no other member is left. -/
lemma yields_readObjectEnd {α β : Type} {P : α → Bytes → Prop} {others : List α}
    (h : Parts closeObject P false others t) (value : β) (rest : Bytes) :
    Yields ((readObjectEnd (t ++ rest)).map fun r => (value, r))
      (if others.isEmpty then some value else none) rest := by
  cases h with
  | close hw =>
    rw [List.append_assoc, readObjectEnd, List.singleton_append, skipSpace_blank hw (by decide)]
    rfl
  | next hw hw' ht h =>
    rw [List.append_assoc, readObjectEnd, List.cons_append, skipSpace_blank hw (by decide)]
    rfl

/-! ### Lists -/

section Items

variable {α β : Type} {P : α → Bytes → Prop} {item : Bytes → Read β} {value : α → Option β}
  {items : List α}

lemma readItems_finished {first : Bool} {bytes rest : Bytes}
    (h : nextItem first bytes = .ok (.finished rest)) (seen : List β) (rounds : Bytes) :
    readItems item first seen rounds bytes = .ok (seen.reverse, rest) := by
  rw [readItems.eq_def]
  simp only [h]

/-- An item is read and then those behind it. -/
lemma readItems_more {first : Bool} {bytes text more rest rounds : Bytes} {seen : List β} {a : α}
    {b : UInt8} (hnext : nextItem first bytes = .ok (.more (text ++ more)))
    (hitem : Yields (item (text ++ more)) (value a) more)
    (hrest : ∀ v, Yields (readItems item false (v :: seen) rounds more)
      ((items.mapM value).map ((v :: seen).reverse ++ ·)) rest) :
    Yields (readItems item first seen (b :: rounds) bytes)
      (((a :: items).mapM value).map (seen.reverse ++ ·)) rest := by
  rw [readItems.eq_def, List.mapM_cons]
  simp only [hnext]
  obtain ⟨fault, hread, hvalue⟩ | ⟨v, hread, hvalue⟩ := hitem.cases
  · simp only [hread, hvalue]
    exact yields_error fault rest
  · simp only [hread, hvalue]
    cases hvs : items.mapM value with
    | none => simpa [hvs] using hrest v
    | some vs => simpa [hvs] using hrest v

/-- What is left of a list is read item by item. -/
lemma readItems_parts {first : Bool} (h : Parts closeList P first items t)
    (hstart : ∀ a ∈ items, ∀ t, P a t → Starts t)
    (hitem : ∀ a ∈ items, ∀ t, P a t → ∀ rest, Delimited rest →
      Yields (item (t ++ rest)) (value a) rest)
    (seen : List β) {rounds : Bytes} (hrounds : items.length ≤ rounds.length) (rest : Bytes) :
    Yields (readItems item first seen rounds (t ++ rest))
      ((items.mapM value).map (seen.reverse ++ ·)) rest := by
  induction items generalizing first t seen rounds with
  | nil =>
    rw [readItems_finished (nextItem_finished h rest)]
    simp [Yields, Except.toOption]
  | cons a items ih =>
    cases rounds with
    | nil => cases hrounds
    | cons b rounds =>
      obtain ⟨t', u, ht, hu, hnext⟩ := exists_nextItem h (hstart a List.mem_cons_self)
      refine readItems_more (hnext rest)
        (hitem a List.mem_cons_self t' ht _ (hu.delimited (.inl rfl) rest)) fun v => ?_
      exact ih hu (fun b hb => hstart b (List.mem_cons_of_mem _ hb))
        (fun b hb => hitem b (List.mem_cons_of_mem _ hb)) (v :: seen)
        (Nat.le_of_succ_le_succ hrounds)

/-- A list is read item by item, the opening bracket being taken. -/
lemma yields_readItems (h : Parts closeList P true items t)
    (hstart : ∀ a ∈ items, ∀ t, P a t → Starts t)
    (hitem : ∀ a ∈ items, ∀ t, P a t → ∀ rest, Delimited rest →
      Yields (item (t ++ rest)) (value a) rest) (rest : Bytes) :
    Yields (readItems item true [] (t ++ rest) (t ++ rest)) (items.mapM value) rest := by
  have hrounds : items.length ≤ (t ++ rest).length := by
    have hlength := h.length_le
    rw [List.length_append]
    omega
  simpa using readItems_parts h hstart hitem [] hrounds rest

/-- A list that was read: its end comes next, or an item that was read and what is read of the list
behind it. -/
inductive ItemsRead (item : Bytes → Read β) :
    (first : Bool) → (seen : List β) → Bytes → List β → Bytes → Prop where
  | finished {first : Bool} {seen : List β} {bytes rest : Bytes}
      (h : nextItem first bytes = .ok (.finished rest)) :
      ItemsRead item first seen bytes seen.reverse rest
  | more {first : Bool} {seen xs : List β} {x : β} {bytes start behind rest : Bytes}
      (hnext : nextItem first bytes = .ok (.more start)) (hitem : item start = .ok (x, behind))
      (h : ItemsRead item false (x :: seen) behind xs rest) :
      ItemsRead item first seen bytes xs rest

lemma itemsRead_of_ok {first : Bool} {seen xs : List β} {rounds bytes rest : Bytes}
    (h : readItems item first seen rounds bytes = .ok (xs, rest)) :
    ItemsRead item first seen bytes xs rest := by
  induction rounds generalizing first seen bytes with
  | nil =>
    rw [readItems.eq_def] at h
    simp only at h
    split at h
    · cases h
    · rename_i behind hnext
      cases h
      exact .finished hnext
    · cases h
  | cons b rounds ih =>
    rw [readItems.eq_def] at h
    simp only at h
    split at h
    · cases h
    · rename_i behind hnext
      cases h
      exact .finished hnext
    · rename_i start hnext
      split at h
      · cases h
      · rename_i x behind hx
        exact .more hnext hx (ih h)

end Items

/-! ### Objects -/

section Loop

variable {α σ : Type} {P : α → Bytes → Prop} {member : σ → String → Bytes → Read σ}
  {step : σ → α → Option σ} {members : List α}

/-- Reads a member behind the quote that opens its key. -/
def readKeyed (member : σ → String → Bytes → Read σ) (state : σ) (bytes : Bytes) : Read σ :=
  match readText bytes with
  | .error fault => .error fault
  | .ok (key, rest) => member state key rest

/-- The reader of members makes of a member, whatever text it has, what is given. -/
def KeyedAgrees (P : α → Bytes → Prop) (member : σ → String → Bytes → Read σ)
    (step : σ → α → Option σ) (m : α) : Prop :=
  ∀ t, P m t → ∃ r, t = quote :: r ∧ ∀ state rest, Delimited rest →
    Yields (readKeyed member state (r ++ rest)) (step state m) rest

lemma readMembers_finished {first : Bool} {bytes rest : Bytes}
    (h : nextKey first bytes = .ok (.finished rest)) (state : σ) (rounds : Bytes) :
    readMembers member first state rounds bytes = .ok (state, rest) := by
  rw [readMembers.eq_def]
  simp only [h]

/-- A member is read and then those behind it. -/
lemma readMembers_more {first : Bool} {bytes start more rest rounds : Bytes} {state : σ} {m : α}
    {b : UInt8} (hnext : nextKey first bytes = .ok (.more start))
    (hmember : Yields (readKeyed member state start) (step state m) more)
    (hrest : ∀ state', Yields (readMembers member false state' rounds more)
      (members.foldlM step state') rest) :
    Yields (readMembers member first state (b :: rounds) bytes)
      ((m :: members).foldlM step state) rest := by
  have hread : readMembers member first state (b :: rounds) bytes =
      (readKeyed member state start).bind fun p => readMembers member false p.1 rounds p.2 := by
    rw [readMembers.eq_def, readKeyed]
    simp only [hnext]
    cases readText start with
    | error fault => rfl
    | ok keyed =>
      simp only
      cases member state keyed.1 keyed.2 <;> rfl
  rw [hread, List.foldlM_cons]
  obtain ⟨fault, hread, hvalue⟩ | ⟨state', hread, hvalue⟩ := hmember.cases
  · rw [hread, hvalue]
    exact yields_error fault rest
  · rw [hread, hvalue]
    exact hrest state'

/-- What is left of an object is read member by member. -/
lemma readMembers_loop {first : Bool} (h : Parts closeObject P first members t)
    (hmember : ∀ m ∈ members, KeyedAgrees P member step m) (state : σ) {rounds : Bytes}
    (hrounds : members.length ≤ rounds.length) (rest : Bytes) :
    Yields (readMembers member first state rounds (t ++ rest)) (members.foldlM step state)
      rest := by
  induction members generalizing first t state rounds with
  | nil =>
    rw [readMembers_finished (nextKey_finished h rest)]
    exact yields_ok state rest
  | cons m members ih =>
    cases rounds with
    | nil => cases hrounds
    | cons b rounds =>
      have hm := hmember m List.mem_cons_self
      obtain ⟨r, u, ht, hu, hnext⟩ := exists_nextKey h fun t ht => (hm t ht).imp fun _ => And.left
      obtain ⟨_, ⟨⟩, hread⟩ := hm _ ht
      exact readMembers_more (hnext rest) (hread state _ (hu.delimited (.inr rfl) rest))
        fun state' => ih hu (fun n hn => hmember n (List.mem_cons_of_mem _ hn)) state'
          (Nat.le_of_succ_le_succ hrounds)

/-- An object is read member by member, the opening bracket being taken. -/
lemma yields_readMembers_loop (h : Parts closeObject P true members t)
    (hmember : ∀ m ∈ members, KeyedAgrees P member step m) (state : σ) (rest : Bytes) :
    Yields (readMembers member true state (t ++ rest) (t ++ rest)) (members.foldlM step state)
      rest := by
  refine readMembers_loop h hmember state ?_ rest
  have hlength := h.length_le
  rw [List.length_append]
  omega

/-- An object that was read: its end comes next, or a key and what the member under it does to the
state, and what is read of the object behind it. -/
inductive MembersRead (member : σ → String → Bytes → Read σ) :
    (first : Bool) → (state : σ) → Bytes → σ → Bytes → Prop where
  | finished {first : Bool} {state : σ} {bytes rest : Bytes}
      (h : nextKey first bytes = .ok (.finished rest)) :
      MembersRead member first state bytes state rest
  | more {first : Bool} {state state' made : σ} {key : String}
      {bytes start behind after rest : Bytes} (hnext : nextKey first bytes = .ok (.more start))
      (hkey : readText start = .ok (key, behind))
      (hmember : member state key behind = .ok (state', after))
      (h : MembersRead member false state' after made rest) :
      MembersRead member first state bytes made rest

lemma membersRead_of_ok {first : Bool} {state made : σ} {rounds bytes rest : Bytes}
    (h : readMembers member first state rounds bytes = .ok (made, rest)) :
    MembersRead member first state bytes made rest := by
  induction rounds generalizing first state bytes with
  | nil =>
    rw [readMembers.eq_def] at h
    simp only at h
    split at h
    · cases h
    · rename_i behind hnext
      cases h
      exact .finished hnext
    · cases h
  | cons b rounds ih =>
    rw [readMembers.eq_def] at h
    simp only at h
    split at h
    · cases h
    · rename_i behind hnext
      cases h
      exact .finished hnext
    · rename_i start hnext
      split at h
      · cases h
      · rename_i key behind hkey
        split at h
        · cases h
        · rename_i state' after hmember
          exact .more hnext hkey hmember (ih h)

end Loop

section Members

variable {α σ : Type} {P : α → Bytes → Prop} {member : σ → String → Bytes → Read σ}
  {step : σ → String × α → Option σ} {members : List (String × α)}

/-- The reader of members makes of a member behind its key what is given. -/
def MemberAgrees (P : α → Bytes → Prop) (member : σ → String → Bytes → Read σ)
    (step : σ → String × α → Option σ) (m : String × α) : Prop :=
  ∀ t, P m.2 t → ∀ state w w' rest, Blank w → Blank w' → Delimited rest →
    Yields (member state m.1 (w ++ colon :: (w' ++ (t ++ rest)))) (step state m) rest

/-- A key is read as the text that it spells. -/
lemma MemberAgrees.keyed {m : String × α} (h : MemberAgrees P member step m) :
    KeyedAgrees (Keyed P) member step m := by
  intro t ht
  cases ht with
  | @mk key a raw w w' t hkey hw hw' ht =>
    refine ⟨_, rfl, fun state rest hrest => ?_⟩
    rw [readKeyed, List.append_assoc, List.cons_append, readText_spelled hkey]
    simpa using h t ht state w w' rest hw hw' hrest

/-- An object is read member by member, the opening bracket being taken. -/
lemma yields_readMembers (h : Parts closeObject (Keyed P) true members t)
    (hmember : ∀ m ∈ members, MemberAgrees P member step m) (state : σ) (rest : Bytes) :
    Yields (readMembers member true state (t ++ rest) (t ++ rest)) (members.foldlM step state)
      rest :=
  yields_readMembers_loop h (fun m hm => (hmember m hm).keyed) state rest

end Members

end Reader

end PodAdmission

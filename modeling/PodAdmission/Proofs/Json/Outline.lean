import PodAdmission.Proofs.Json.Leaf

/-!
# Lexical values

A text is lexically a value if its brackets, quotes, commas and colons are in place and it is made
of words, numbers and contents of texts, whatever these stand for: numbers may be of any size,
brackets may nest to any depth, a text may escape half a character, and its bytes need not be UTF-8.
An `Outline` is the tree of brackets of such a text. The texts of a document are lexical.
-/

namespace PodAdmission

open Ascii Json

namespace Reader

/-! ### Values without parts -/

/-- The text of a value without parts. -/
inductive Token : Bytes → Prop where
  | null : Token nullWord
  | yes : Token trueWord
  | no : Token falseWord
  | number {t : Bytes} (h : Numeral t) : Token t
  | negative {t : Bytes} (h : Numeral t) : Token (minus :: t)
  | text {raw : Bytes} (h : Content raw) : Token (quote :: (raw ++ [quote]))

variable {t r rest : Bytes} {b : UInt8}

/-- A value without parts leads to what reads such values. -/
lemma Token.leads (h : Token t) : ∃ b r, t = b :: r ∧ Leads b := by
  cases h with
  | number h =>
    obtain ⟨b, r, rfl, hb⟩ := numeral_eq_cons h
    exact ⟨b, r, rfl, leads_of_isDigit hb⟩
  | _ => exact ⟨_, _, rfl, by decide, by decide, by decide, by decide⟩

/-- No other value without parts starts like the word `null`. -/
lemma Token.eq_nullWord (h : Token (lowerN :: r)) : lowerN :: r = nullWord := by
  generalize ht : lowerN :: r = t at h
  cases h with
  | null => rfl
  | number h =>
    obtain ⟨_, _, rfl, hb⟩ := numeral_eq_cons h
    obtain ⟨rfl, -⟩ := List.cons.inj ht
    cases hb
  | _ => exact absurd (List.cons.inj ht).1 (by decide)

/-! ### Members -/

/-- A member under a key that may spell nothing: the key between quotes, a colon and what is under
the key. -/
inductive Member {α : Type} (P : α → Bytes → Prop) : Bytes × α → Bytes → Prop where
  | mk {raw : Bytes} {a : α} {w w' t : Bytes} (hkey : Content raw) (hw : Blank w)
      (hw' : Blank w') (ht : P a t) :
      Member P (raw, a) (quote :: (raw ++ quote :: (w ++ colon :: (w' ++ t))))

lemma Member.imp {α β : Type} {P : α → Bytes → Prop} {Q : β → Bytes → Prop}
    (hPQ : ∀ a t, P a t → ∃ b, Q b t) {m : Bytes × α} (h : Member P m t) :
    ∃ n : Bytes × β, Member Q n t := by
  cases h with
  | mk hkey hw hw' ht =>
    obtain ⟨b, hb⟩ := hPQ _ _ ht
    exact ⟨_, .mk hkey hw hw' hb⟩

lemma Keyed.member {α β : Type} {P : α → Bytes → Prop} {Q : β → Bytes → Prop} {m : String × α}
    (hPQ : ∀ t, P m.2 t → ∃ b, Q b t) (h : Keyed P m t) : ∃ n : Bytes × β, Member Q n t := by
  cases h with
  | mk hkey hw hw' ht =>
    obtain ⟨b, hb⟩ := hPQ _ ht
    exact ⟨_, .mk hkey.content hw hw' hb⟩

/-- What every part can be seen as one by one, all parts can. -/
lemma Parts.exists_forall₂ {α β : Type} {P : α → Bytes → Prop} {Q : β → Bytes → Prop}
    {R : α → β → Prop} {closer : UInt8} {first : Bool} {parts : List α}
    (h : Parts closer P first parts t)
    (hPQ : ∀ a ∈ parts, ∀ t, P a t → ∃ b, Q b t ∧ R a b) :
    ∃ parts', Parts closer Q first parts' t ∧ List.Forall₂ R parts parts' := by
  induction h with
  | close hw => exact ⟨[], .close hw, .nil⟩
  | first hw ht h ih =>
    obtain ⟨b, hb, hr⟩ := hPQ _ List.mem_cons_self _ ht
    obtain ⟨more, hmore, hrest⟩ := ih fun a ha => hPQ a (List.mem_cons_of_mem _ ha)
    exact ⟨b :: more, .first hw hb hmore, .cons hr hrest⟩
  | next hw hw' ht h ih =>
    obtain ⟨b, hb, hr⟩ := hPQ _ List.mem_cons_self _ ht
    obtain ⟨more, hmore, hrest⟩ := ih fun a ha => hPQ a (List.mem_cons_of_mem _ ha)
    exact ⟨b :: more, .next hw hw' hb hmore, .cons hr hrest⟩

lemma Parts.imp {α β : Type} {P : α → Bytes → Prop} {Q : β → Bytes → Prop} {closer : UInt8}
    {first : Bool} {parts : List α} (h : Parts closer P first parts t)
    (hPQ : ∀ a ∈ parts, ∀ t, P a t → ∃ b, Q b t) : ∃ parts', Parts closer Q first parts' t := by
  obtain ⟨parts', hparts, -⟩ := h.exists_forall₂ (R := fun _ _ => True) fun a ha t ht =>
    (hPQ a ha t ht).imp fun b hb => ⟨hb, trivial⟩
  exact ⟨parts', hparts⟩

end Reader

open Reader

/-! ### Trees of brackets -/

/-- The tree of brackets of a text. Keys are kept as they are spelled. -/
inductive Outline where
  | token (t : Bytes)
  | list (items : List Outline)
  | object (members : List (Bytes × Outline))

namespace Outline

/-- What holds of a list if it holds of its items and of an object if it holds of its members
holds of every outline. -/
@[elab_as_elim, induction_eliminator]
theorem induction {motive : Outline → Prop} (token : ∀ t, motive (.token t))
    (list : ∀ items, (∀ x ∈ items, motive x) → motive (.list items))
    (object : ∀ members, (∀ m ∈ members, motive m.2) → motive (.object members)) (o : Outline) :
    motive o := by
  refine @Outline.rec motive (fun items => ∀ x ∈ items, motive x)
    (fun members => ∀ m ∈ members, motive m.2) (fun m => motive m.2) token list object
    ?_ ?_ ?_ ?_ ?_ o
  · intro x hx
    cases hx
  · intro y items hy hitems x hx
    rcases List.mem_cons.1 hx with rfl | hx
    · exact hy
    · exact hitems x hx
  · intro m hm
    cases hm
  · intro e members he hmembers m hm
    rcases List.mem_cons.1 hm with rfl | hm
    · exact he
    · exact hmembers m hm
  · intro k y hy
    exact hy

/-- The text has the tree of brackets. -/
inductive Shows : Outline → Bytes → Prop where
  | token {t : Bytes} (h : Token t) : Shows (.token t) t
  | list {items : List Outline} {t : Bytes} (h : Parts closeList Shows true items t) :
      Shows (.list items) (openList :: t)
  | object {members : List (Bytes × Outline)} {t : Bytes}
      (h : Parts closeObject (Member Shows) true members t) :
      Shows (.object members) (openObject :: t)

variable {o : Outline} {t : Bytes}

/-- A lexical value starts like a value. -/
lemma Shows.starts (h : o.Shows t) : Starts t := by
  cases h with
  | token h =>
    obtain ⟨b, r, rfl, hb⟩ := h.leads
    exact ⟨b, r, rfl, hb.isSpace, hb.ne_closeList⟩
  | _ => exact ⟨_, _, rfl, by decide, by decide⟩

end Outline

/-- The text is lexically a value, from its first to its last byte. -/
def Lexical (t : Bytes) : Prop :=
  ∃ o : Outline, o.Shows t

namespace Lexical

/-- The text is its own and lexical. -/
def Item (a t : Bytes) : Prop :=
  t = a ∧ Lexical a

variable {t : Bytes}

lemma token (h : Token t) : Lexical t :=
  ⟨.token t, .token h⟩

lemma list {parts : List Bytes} (h : Parts closeList Item true parts t) :
    Lexical (openList :: t) := by
  have hshows : ∀ a ∈ parts, ∀ t, Item a t → ∃ o : Outline, o.Shows t := by
    rintro a - t ⟨rfl, ho⟩
    exact ho
  obtain ⟨items, hitems⟩ := h.imp hshows
  exact ⟨.list items, .list hitems⟩

lemma object {members : List (Bytes × Bytes)}
    (h : Parts closeObject (Member Item) true members t) : Lexical (openObject :: t) := by
  have hshows : ∀ a t, Item a t → ∃ o : Outline, o.Shows t := by
    rintro a t ⟨rfl, ho⟩
    exact ho
  obtain ⟨members, hmembers⟩ := h.imp fun m _ t ht => ht.imp hshows
  exact ⟨.object members, .object hmembers⟩

/-- A lexical value is one without parts, a list of lexical values or an object of such. -/
lemma cases (h : Lexical t) : Token t ∨
    (∃ items u, t = openList :: u ∧ Parts closeList Item true items u) ∨
    ∃ members u, t = openObject :: u ∧ Parts closeObject (Member Item) true members u := by
  have hitem (o : Outline) (t : Bytes) (h : o.Shows t) : ∃ a, Item a t := ⟨t, rfl, o, h⟩
  obtain ⟨o, ho⟩ := h
  cases ho with
  | token h => exact .inl h
  | list h =>
    obtain ⟨items, hitems⟩ := h.imp fun o _ t ht => hitem o t ht
    exact .inr (.inl ⟨items, _, rfl, hitems⟩)
  | object h =>
    obtain ⟨members, hmembers⟩ := h.imp fun m _ t ht => ht.imp hitem
    exact .inr (.inr ⟨members, _, rfl, hmembers⟩)

lemma starts (h : Lexical t) : Starts t :=
  h.elim fun _ ho => ho.starts

/-- No other lexical value starts like the word `null`. -/
lemma eq_nullWord (h : Lexical t) (r : Bytes) (ht : t = lowerN :: r) : t = nullWord := by
  subst ht
  obtain h | ⟨items, u, heq, -⟩ | ⟨members, u, heq, -⟩ := h.cases
  · exact h.eq_nullWord
  · exact absurd (List.cons.inj heq).1 (by decide)
  · exact absurd (List.cons.inj heq).1 (by decide)

lemma items (h : Lexical (openList :: t)) : ∃ items, Parts closeList Item true items t := by
  obtain h | ⟨items, u, heq, hu⟩ | ⟨members, u, heq, -⟩ := h.cases
  · obtain ⟨b, r, heq, hb⟩ := h.leads
    exact absurd (List.cons.inj heq).1.symm hb.ne_openList
  · obtain ⟨-, rfl⟩ := List.cons.inj heq
    exact ⟨items, hu⟩
  · exact absurd (List.cons.inj heq).1 (by decide)

lemma members (h : Lexical (openObject :: t)) :
    ∃ members, Parts closeObject (Member Item) true members t := by
  obtain h | ⟨items, u, heq, -⟩ | ⟨members, u, heq, hu⟩ := h.cases
  · obtain ⟨b, r, heq, hb⟩ := h.leads
    exact absurd (List.cons.inj heq).1.symm hb.ne_openObject
  · exact absurd (List.cons.inj heq).1 (by decide)
  · obtain ⟨-, rfl⟩ := List.cons.inj heq
    exact ⟨members, hu⟩

end Lexical

namespace Document

variable {D : Document} {t : Bytes}

lemma Spells.token (h : D.Spells t) (hleaf : D.IsLeaf) : Token t := by
  cases h with
  | null => exact .null
  | yes => exact .yes
  | no => exact .no
  | number h => exact .number h
  | negative h => exact .negative h
  | text h => exact .text h.content
  | list h => exact hleaf.elim
  | object h => exact hleaf.elim

/-- The text of a document is lexical. -/
lemma Spells.lexical (h : D.Spells t) : Lexical t := by
  induction D generalizing t with
  | list items ih =>
    cases h with
    | list h =>
      obtain ⟨items', hitems⟩ := h.imp fun x hx t ht => ih x hx ht
      exact ⟨.list items', .list hitems⟩
  | object members ih =>
    cases h with
    | object h =>
      obtain ⟨members', hmembers⟩ := h.imp fun m hm t ht => ht.member fun u hu => ih m hm hu
      exact ⟨.object members', .object hmembers⟩
  | _ => exact .token (h.token trivial)

end Document

end PodAdmission

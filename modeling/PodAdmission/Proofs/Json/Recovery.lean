import PodAdmission.Proofs.Json.Answers
import PodAdmission.Proofs.Json.Reading

/-!
# Values that come back

`Json.back?` is what `Json.read` makes of a written value, and `Json.Recovers` says for which values
it makes anything: the brackets are not nested too deep, the numbers are not taken for ones out of
range, and an object whose first key is the reserved one has no other member and holds the text of
a document.
-/

namespace PodAdmission

open Json Reader

namespace Json

/-- What comes back of a value that is written and read as a document, or in one. -/
def back? (depth : Nat) (j : Json) : Option Json :=
  j.reread? (some Json.read) depth

/-- What comes back of members. -/
def backMembers? (depth : Nat) (members : Entries Json) : Option (Entries Json) :=
  members.foldlM (addMember? (back? depth)) []

/-- The first key is not the one that marks a document in a text. -/
def Unreserved (members : Entries Json) : Prop :=
  ∀ m ∈ members.head?, m.1 ≠ embeddingKey

variable {depth : Nat} {j v x : Json} {key : String} {members xs : Entries Json}

/-- A value is recovered from its text with the bound given on nested brackets. -/
inductive Recovers : Nat → Json → Prop where
  | null (depth : Nat) : Recovers depth .null
  | bool (depth : Nat) (b : Bool) : Recovers depth (.bool b)
  | number (depth : Nat) {n : Number} (h : n.reread?.isSome = true) : Recovers depth (.number n)
  | text (depth : Nat) (s : String) : Recovers depth (.text s)
  | list {depth : Nat} {items : List Json} (h : ∀ x ∈ items, Recovers depth x) :
      Recovers (depth + 1) (.list items)
  | object {depth : Nat} {members : Entries Json} (hfirst : Unreserved members)
      (h : ∀ m ∈ members, Recovers depth m.2) : Recovers (depth + 1) (.object members)
  | document {depth : Nat} {s : String} {j : Json} (h : Json.read (Utf8.encode s) = .ok j) :
      Recovers (depth + 1) (.object [(embeddingKey, .text s)])

/-! ### Kinds of values -/

lemma back?_leaf (depth : Nat) (h : j.IsLeaf) : j.back? depth = j.rereadLeaf? :=
  reread?_leaf _ depth h

@[simp] lemma back?_null (depth : Nat) : null.back? depth = some .null :=
  back?_leaf depth trivial

@[simp] lemma back?_bool (depth : Nat) (b : Bool) : (bool b).back? depth = some (.bool b) :=
  back?_leaf depth trivial

@[simp] lemma back?_number (depth : Nat) (n : Number) :
    (number n).back? depth = n.reread?.map .number :=
  back?_leaf depth trivial

@[simp] lemma back?_text (depth : Nat) (s : String) : (text s).back? depth = some (.text s) :=
  back?_leaf depth trivial

lemma back?_list (depth : Nat) (items : List Json) :
    (list items).back? (depth + 1) = (items.mapM (back? depth)).map .list := by
  rw [back?, reread?]
  rfl

lemma back?_object (depth : Nat) (h : Unreserved members) :
    (object members).back? (depth + 1) = (backMembers? depth members).map .object := by
  rw [back?, reread?]
  cases members with
  | nil => rfl
  | cons m others =>
    obtain ⟨first, value⟩ := m
    rw [rereadObject?, if_neg (h (first, value) rfl)]
    rfl

/-- An object that starts with the reserved key and has other members does not come back. -/
lemma back?_reserved (depth : Nat) (v : Json) {others : Entries Json} (h : others ≠ []) :
    (object ((embeddingKey, v) :: others)).back? depth = none := by
  cases depth with
  | zero => rfl
  | succ depth =>
    rw [back?, reread?, rereadObject?, if_pos rfl]
    cases others with
    | nil => exact absurd rfl h
    | cons m others => cases v <;> rfl

/-- Lists of texts come back as they are. -/
lemma back?_texts (depth : Nat) (ss : List String) :
    (list (ss.map text)).back? (depth + 1) = some (.list (ss.map text)) := by
  rw [back?_list]
  induction ss with
  | nil => rfl
  | cons s ss ih =>
    rw [List.map_cons, List.mapM_cons, back?_text]
    cases hss : (ss.map text).mapM (back? depth) with
    | none =>
      rw [hss] at ih
      cases ih
    | some items =>
      rw [hss] at ih
      obtain rfl := Json.list.inj (Option.some.inj ih)
      rfl

/-! ### Members -/

/-- Members come back just if every one does, each under its key. -/
lemma backMembers?_eq_some_iff (ha : members.Ascending) :
    backMembers? depth members = some xs ↔
      Entries.Ascending xs ∧ (∀ m ∈ members, (m.2.back? depth).isSome = true) ∧
        ∀ k, Entries.get? k xs = (Entries.get? k members).bind (back? depth) :=
  foldlM_addMember?_eq_some_iff ha.distinct

/-- If the members come back once one of them is set, they come back without it too, provided that
the one that it takes the place of does. -/
lemma backMembers?_of_insert (ha : members.Ascending) {ys : Entries Json}
    (h : backMembers? depth (Entries.insert key v members) = some ys) {o : Option Json}
    (ho : ∀ w, Entries.get? key members = some w → w.back? depth = o ∧ o.isSome = true)
    (hnone : Entries.get? key members = none → o = none) :
    ∃ xs y, backMembers? depth members = some xs ∧ v.back? depth = some y ∧
      Entries.get? key xs = o ∧ ys = Entries.insert key y xs := by
  have hins := Entries.ascending_insert key v ha
  obtain ⟨hasc, hall, hget⟩ := (backMembers?_eq_some_iff hins).1 h
  have hmem : (key, v) ∈ Entries.insert key v members :=
    Entries.mem_of_get? (Entries.get?_insert_self key v members)
  obtain ⟨y, hy⟩ := Option.isSome_iff_exists.1 (hall _ hmem)
  have hback : ∀ m ∈ members, (m.2.back? depth).isSome = true := by
    intro m hm
    by_cases hk : m.1 = key
    · obtain ⟨heq, hsome⟩ := ho m.2 (hk ▸ Entries.get?_of_mem ha hm)
      rw [heq, hsome]
    · have hget : Entries.get? m.1 (Entries.insert key v members) = some m.2 := by
        rw [Entries.get?_insert_of_ne hk]
        exact Entries.get?_of_mem ha hm
      exact hall m (Entries.mem_of_get? hget)
  obtain ⟨xs, hxs⟩ := Option.isSome_iff_exists.1 ((foldlM_addMember?_isSome_iff []).2 hback)
  obtain ⟨hxsAsc, -, hxsGet⟩ := (backMembers?_eq_some_iff ha).1 hxs
  refine ⟨xs, y, hxs, hy, ?_, ?_⟩
  · rw [hxsGet]
    cases hkey : Entries.get? key members with
    | none => exact (hnone hkey).symm
    | some w => exact (ho w hkey).1
  · apply Entries.ext hasc (Entries.ascending_insert key y hxsAsc)
    intro k
    rw [hget, Entries.get?_insert, Entries.get?_insert, hxsGet]
    split_ifs
    · exact hy
    · rfl

/-! ### When values come back -/

lemma backMembers?_isSome_iff (depth : Nat) (members : Entries Json) :
    (backMembers? depth members).isSome = true ↔
      ∀ m ∈ members, (m.2.back? depth).isSome = true :=
  foldlM_addMember?_isSome_iff []

/-- An object with the reserved key first comes back only if it holds the text of a document. -/
lemma recovers_of_back?_reserved (hfirst : ¬ Unreserved members)
    (h : ((object members).back? (depth + 1)).isSome = true) :
    (object members).Recovers (depth + 1) := by
  cases members with
  | nil => exact absurd (by simp [Unreserved]) hfirst
  | cons m others =>
    obtain ⟨first, value⟩ := m
    have hkey : first = embeddingKey := by
      by_contra hne
      apply hfirst
      intro m hm
      obtain rfl := Option.some.inj hm
      exact hne
    subst hkey
    rw [back?, reread?, rereadObject?, if_pos rfl] at h
    cases value with
    | text s =>
      cases others with
      | nil =>
        rw [rereadEmbedded?] at h
        cases hread : Json.read (Utf8.encode s) with
        | error fault =>
          rw [hread] at h
          cases h
        | ok inner => exact .document hread
      | cons m others => cases h
    | _ => cases h

lemma Recovers.isSome_back? (h : j.Recovers depth) : (j.back? depth).isSome = true := by
  induction h with
  | null depth => simp
  | bool depth b => simp
  | number depth h => simpa using h
  | text depth s => simp
  | list h ih =>
    rw [back?_list, Option.isSome_map, mapM_isSome_iff]
    exact ih
  | object hfirst h ih =>
    rw [back?_object _ hfirst, Option.isSome_map, backMembers?_isSome_iff]
    exact ih
  | document h =>
    rw [back?, reread?, rereadObject?, if_pos rfl, rereadEmbedded?, h]
    rfl

lemma recovers_of_isSome_back? (h : (j.back? depth).isSome = true) : j.Recovers depth := by
  induction j generalizing depth with
  | null => exact .null depth
  | bool b => exact .bool depth b
  | number n => exact .number depth (by simpa using h)
  | text s => exact .text depth s
  | list items ih =>
    cases depth with
    | zero => cases h
    | succ depth =>
      rw [back?_list, Option.isSome_map, mapM_isSome_iff] at h
      exact .list fun x hx => ih x hx (h x hx)
  | object members ih =>
    cases depth with
    | zero => cases h
    | succ depth =>
      by_cases hfirst : Unreserved members
      · rw [back?_object _ hfirst, Option.isSome_map, backMembers?_isSome_iff] at h
        exact .object hfirst fun m hm => ih m hm (h m hm)
      · exact recovers_of_back?_reserved hfirst h

/-- A value comes back just if it recovers. -/
theorem recovers_iff : j.Recovers depth ↔ (j.back? depth).isSome = true :=
  ⟨Recovers.isSome_back?, recovers_of_isSome_back?⟩

/-! ### Whole documents -/

lemma regular_back? (hj : j.WellFormed) (h : j.back? depth = some x) : x.Regular := by
  have hread := yields_readValueWith (some Json.read) depth hj delimited_nil
  rw [List.append_nil] at hread
  obtain ⟨fault, -, hnone⟩ | ⟨y, hok, hy⟩ := hread.cases
  · exact absurd (h.symm.trans hnone) (by simp)
  · obtain rfl := Option.some.inj (h.symm.trans hy)
    exact gives_readValueWith (fun t k hk => regular_of_read hk) depth _ _ _ hok

lemma wellFormed_back? (hj : j.WellFormed) (h : j.back? depth = some x) : x.WellFormed :=
  (regular_back? hj h).wellFormed

/-- Members that come back as they are make the same object again. -/
lemma backMembers?_eq_self (ha : members.Ascending)
    (h : ∀ m ∈ members, m.2.back? depth = some m.2) :
    backMembers? depth members = some members := by
  refine (backMembers?_eq_some_iff ha).2 ⟨ha, fun m hm => ?_, fun k => ?_⟩
  · rw [h m hm]
    rfl
  · cases hk : Entries.get? k members with
    | none => rfl
    | some v => exact (h (k, v) (Entries.mem_of_get? hk)).symm

/-- A value that was read from a document, and in which every number is whole, comes back as it is
if it comes back. -/
theorem back?_eq_self (hj : j.Regular) (hwhole : j.Whole) (h : j.Recovers depth) :
    j.back? depth = some j := by
  obtain ⟨hwf, hunfolded⟩ := hj
  induction h with
  | null depth => exact back?_null depth
  | bool depth b => exact back?_bool depth b
  | text depth s => exact back?_text depth s
  | number depth h =>
    rename_i n
    cases n with
    | whole n =>
      have hn : (Number.whole n).Valid := by
        cases hwf with
        | number h => exact h
      rw [back?_number, Number.reread?_whole hn]
      rfl
    | real x => exact absurd (.self _) (hwhole x)
  | list h ih =>
    rename_i depth items
    have hitems : items.mapM (back? depth) = some items := by
      rw [mapM_eq_some_iff]
      exact List.forall₂_same.2 fun x hx =>
        ih x hx (hwhole.items x hx) (hwf.items x hx) (hunfolded.items x hx)
    rw [back?_list, hitems]
    rfl
  | object hfirst h ih =>
    rename_i depth members
    have hback : ∀ m ∈ members, m.2.back? depth = some m.2 := fun m hm =>
      ih m hm (hwhole.members m hm) (hwf.members m hm) (hunfolded.members m hm)
    rw [back?_object depth hfirst, backMembers?_eq_self hwf.ascending hback]
    rfl
  | document h => exact absurd rfl (hunfolded.ne_lone _)

/-- A written value is read as a document just if it comes back. -/
theorem read_write_eq_ok_iff (hj : j.WellFormed) :
    Json.read j.write = .ok x ↔ j.back? maxDepth = some x := by
  rw [back?, ← read_write hj]
  cases Json.read j.write <;> simp [Except.toOption]

end Json

end PodAdmission

import PodAdmission.Proofs.Entries
import PodAdmission.Proofs.Json.Leaf

/-!
# Values read back

`Document.value?` says what a reader makes of a document: numbers are read as `Reader.numberOf?`
says, objects that stand for a document in a text come back as that document, and brackets that are
nested too deep come back as nothing. `Json.reread?` is the same for a value that is written.
-/

namespace PodAdmission

open Ascii Json Reader

namespace Json

/-- What comes back of an object that may stand for a document in a text. -/
def rereadEmbedded? (embedded : Bytes → Except JsonError Json) (value : Json)
    (others : Entries Json) : Option Json :=
  match value, others with
  | .text s, [] => (embedded (Utf8.encode s)).toOption
  | _, _ => none

/-- Adds a member as it is read, a later one taking the place of an earlier one. -/
def addMember? {α β : Type} (value? : α → Option β) (made : Entries β) (m : String × α) :
    Option (Entries β) :=
  (value? m.2).map fun v => Entries.insert m.1 v made

section Members

variable {α β : Type} {value? : α → Option β} {members : Entries α}

lemma collects_addMember? (m : String × α) :
    Entries.Collects (addMember? value?) (fun _ v => (value? v).map some) m := by
  intro made _ _
  simp only [addMember?]
  cases value? m.2 <;> rfl

/-- Members are read just if every one is, each under its key. -/
lemma foldlM_addMember?_eq_some_iff (hd : Entries.Distinct members) {made : Entries β} :
    members.foldlM (addMember? value?) [] = some made ↔
      Entries.Ascending made ∧ (∀ m ∈ members, (value? m.2).isSome = true) ∧
        ∀ k, Entries.get? k made = (Entries.get? k members).bind value? := by
  have h : members.foldlM (addMember? value?) [] = some made ↔ _ :=
    Entries.collect_eq_some_iff (fun m _ => collects_addMember? m) hd
  have hjoin (o : Option β) : (o.map some).join = o := by cases o <;> rfl
  simp only [Option.isSome_map, hjoin] at h
  exact h

lemma foldlM_addMember?_isSome_iff (made : Entries β) :
    (members.foldlM (addMember? value?) made).isSome = true ↔
      ∀ m ∈ members, (value? m.2).isSome = true := by
  induction members generalizing made with
  | nil => simp
  | cons m members ih =>
    rw [List.foldlM_cons, List.forall_mem_cons, addMember?]
    cases value? m.2 with
    | none => simp
    | some v => simpa using ih (Entries.insert m.1 v made)

end Members

/-- What comes back of an object whose members come back as given. -/
def rereadObject? (embedding : Embedding) (reread? : Json → Option Json) (members : Entries Json) :
    Option Json :=
  match embedding, members with
  | some embedded, (key, value) :: others =>
    if key = embeddingKey then rereadEmbedded? embedded value others
    else (members.foldlM (addMember? reread?) []).map .object
  | _, _ => (members.foldlM (addMember? reread?) []).map .object

/-- What comes back of a value that is written and read with the bound given on nested brackets. -/
def reread? (embedding : Embedding) : (depth : Nat) → Json → Option Json
  | depth + 1, .list items => (items.mapM (reread? embedding depth)).map .list
  | depth + 1, .object members => rereadObject? embedding (reread? embedding depth) members
  | _, j => j.rereadLeaf?

end Json

namespace Document

/-- What a reader makes of an object that may stand for a document in a text. -/
def embedded? (embedded : Bytes → Except JsonError Json) (value : Document)
    (others : List (String × Document)) : Option Json :=
  match value, others with
  | .text s, [] => (embedded (Utf8.encode s)).toOption
  | _, _ => none

/-- What a reader makes of an object whose members are read as given. -/
def object? (embedding : Embedding) (value? : Document → Option Json)
    (members : List (String × Document)) : Option Json :=
  match embedding, members with
  | some embedded, (key, value) :: others =>
    if key = embeddingKey then embedded? embedded value others
    else (members.foldlM (addMember? value?) []).map .object
  | _, _ => (members.foldlM (addMember? value?) []).map .object

/-- What a reader makes of a document with the bound given on nested brackets. -/
def value? (embedding : Embedding) : (depth : Nat) → Document → Option Json
  | depth + 1, .list items => (items.mapM (value? embedding depth)).map .list
  | depth + 1, .object members => object? embedding (value? embedding depth) members
  | _, D => D.leaf?

lemma value?_leaf (embedding : Embedding) (depth : Nat) {D : Document} (h : D.IsLeaf) :
    D.value? embedding depth = D.leaf? := by
  cases D with
  | list items => exact h.elim
  | object members => exact h.elim
  | _ => cases depth <;> rfl

/-- What comes back of a value is what a reader makes of the document that it is written as. -/
lemma value?_document (embedding : Embedding) (depth : Nat) (j : Json) :
    j.document.value? embedding depth = j.reread? embedding depth := by
  induction depth generalizing j with
  | zero => cases j <;> rfl
  | succ depth ih =>
    cases j with
    | list items =>
      rw [document_list, value?, Json.reread?, List.mapM_map]
      exact congrArg (Option.map Json.list) (mapM_congr fun x _ => ih x)
    | object members =>
      have hfold : (members.map fun m => (m.1, m.2.document)).foldlM
          (addMember? (value? embedding depth)) [] =
          members.foldlM (addMember? (Json.reread? embedding depth)) [] := by
        rw [List.foldlM_map]
        exact foldlM_congr (fun m _ state => by rw [addMember?, addMember?, ih]) []
      rw [document_object, value?, Json.reread?]
      cases embedding with
      | none => exact congrArg (Option.map Json.object) hfold
      | some embedded =>
        cases members with
        | nil => rfl
        | cons m others =>
          obtain ⟨key, value⟩ := m
          rw [List.map_cons] at hfold
          rw [List.map_cons, object?, rereadObject?, hfold]
          congr 1
          cases value <;> cases others <;> rfl
    | _ => rfl

end Document

namespace Reader

/-! ### Values of a certain kind -/

variable {D : Document} {t w rest : Bytes}

/-- The reader makes of every document what is given, wherever white space is in it and in front of
it and whatever follows that cannot continue a number. -/
def Agrees {α : Type} (read : Bytes → Read α) (value : Document → Option α) : Prop :=
  ∀ D t, Document.Spells D t → ∀ w rest, Blank w → Delimited rest →
    Yields (read (w ++ (t ++ rest))) (value D) rest

lemma Agrees.map {α β : Type} {read : Bytes → Read α} {value : Document → Option α}
    (h : Agrees read value) (f : α → β) :
    Agrees (fun bytes => (read bytes).map fun (a, r) => (f a, r)) fun D => (value D).map f :=
  fun D t ht w rest hw hrest => (h D t ht w rest hw hrest).map f

/-- A value that has to be of a certain kind is read and then asked whether it will do. -/
lemma agrees_readAs {α : Type} (wanted : String) (accept : Json → Except Cause α) :
    Agrees (readAs wanted accept) fun D => D.leaf?.bind fun v => (accept v).toOption := by
  intro D t ht w rest hw hrest
  by_cases hleaf : D.IsLeaf
  · obtain ⟨b, r, heq, hb⟩ := ht.leads hleaf
    have hread := yields_readLeaf ht hleaf heq hrest
    rw [heq, List.cons_append, readAs, skipSpace_blank hw hb.isSpace]
    simp only [if_neg hb.ne_openList, if_neg hb.ne_openObject]
    obtain ⟨fault, hread, hvalue⟩ | ⟨v, hread, hvalue⟩ := hread.cases
    · simp only [hread, hvalue]
      exact yields_error fault rest
    · simp only [hread, hvalue, Option.bind_some]
      cases accept v <;> rfl
  · cases ht with
    | list h =>
      rw [List.cons_append, readAs, skipSpace_blank hw (by decide)]
      rfl
    | object h =>
      rw [List.cons_append, readAs, skipSpace_blank hw (by decide)]
      rfl
    | _ => exact absurd trivial hleaf

/-! ### Values of any kind -/

lemma yields_leaf (embedding : Embedding) (depth : Nat) (hw : Blank w) (ht : D.Spells t)
    (hleaf : D.IsLeaf) (hrest : Delimited rest) :
    Yields (readValueWith embedding depth (w ++ (t ++ rest))) (D.value? embedding depth) rest := by
  obtain ⟨b, r, heq, hb⟩ := ht.leads hleaf
  have hread := yields_readLeaf ht hleaf heq hrest
  rw [heq, List.cons_append, readValueWith.eq_def, skipSpace_blank hw hb.isSpace,
    Document.value?_leaf _ _ hleaf]
  simp only [if_neg hb.ne_openList, if_neg hb.ne_openObject]
  exact hread

lemma readValueWith_openList (embedding : Embedding) (depth : Nat) (hw : Blank w) (rest : Bytes) :
    readValueWith embedding (depth + 1) (w ++ openList :: rest) =
      (readItems (readValueWith embedding depth) true [] rest rest).map
        fun (items, r) => (.list items, r) := by
  rw [readValueWith.eq_def, skipSpace_blank hw (by decide)]
  rfl

lemma readValueWith_openObject (embedding : Embedding) (depth : Nat) (hw : Blank w)
    (rest : Bytes) :
    readValueWith embedding (depth + 1) (w ++ openObject :: rest) =
      match embedding, behindKey? embeddingKey rest with
      | some embedded, some behind => readEmbedded embedded behind
      | _, _ =>
        (readMembers (addMember (readValueWith embedding depth)) true [] rest rest).map
          fun (members, r) => (.object members, r) := by
  rw [readValueWith.eq_def, skipSpace_blank hw (by decide)]
  rfl

/-- An object that may stand for a document in a text is read, the key being taken. -/
lemma yields_readEmbedded (embedded : Bytes → Except JsonError Json) {w' u : Bytes}
    {others : List (String × Document)} (hw : Blank w) (hw' : Blank w') (ht : D.Spells t)
    (hu : Parts closeObject (Keyed Document.Spells) false others u) (rest : Bytes) :
    Yields (readEmbedded embedded (w ++ colon :: (w' ++ (t ++ (u ++ rest)))))
      (D.embedded? embedded others) rest := by
  have hread := agrees_readAs "raw value" acceptEmbedded D t ht w' (u ++ rest) hw'
    (hu.delimited (.inr rfl) rest)
  rw [readEmbedded, readColon_blank hw]
  simp only
  cases D with
  | text s =>
    obtain ⟨fault, hread, hvalue⟩ | ⟨text, hread, hvalue⟩ := hread.cases
    · cases hvalue
    · obtain rfl := Option.some.inj hvalue
      simp only [hread]
      cases hinner : embedded (Utf8.encode s) with
      | error fault =>
        cases others <;> simp [Yields, Document.embedded?, hinner, Except.toOption]
      | ok inner =>
        have hend := yields_readObjectEnd hu inner rest
        cases others with
        | nil =>
          rw [Document.embedded?, hinner]
          exact hend
        | cons m others => exact hend
  | number n =>
    obtain ⟨fault, hread, hvalue⟩ | ⟨text, hread, hvalue⟩ := hread.cases
    · simp only [hread]
      exact yields_error fault rest
    · cases hn : numberOf? n <;>
        simp [Document.leaf?, hn, acceptEmbedded, Except.toOption] at hvalue
  | _ =>
    obtain ⟨fault, hread, hvalue⟩ | ⟨text, hread, hvalue⟩ := hread.cases
    · simp only [hread]
      exact yields_error fault rest
    · cases hvalue

lemma memberAgrees_addMember {α : Type} {read : Bytes → Read α} {value : Document → Option α}
    (h : Agrees read value) (m : String × Document) :
    MemberAgrees Document.Spells (addMember read) (addMember? value) m := by
  intro t ht state w w' rest hw hw' hrest
  rw [addMember, readColon_blank hw]
  obtain ⟨fault, hread, hvalue⟩ | ⟨v, hread, hvalue⟩ := (h m.2 t ht w' rest hw' hrest).cases
  · simp only [hread, addMember?, hvalue]
    exact yields_error fault rest
  · simp only [hread, addMember?, hvalue]
    exact yields_ok _ rest

/-- The first key of an object that has one is looked for behind the bracket. -/
lemma behindKey?_first {raw u : Bytes} {first : String} (hw : Blank w)
    (hkey : Spelled (Utf8.encode first) raw) (key : String) :
    behindKey? key (w ++ quote :: (raw ++ quote :: u)) = if first = key then some u else none := by
  rw [behindKey?, nextKey_first hw]
  simp only [readText_spelled hkey]

/-- An object is read as `Document.object?` says, the opening bracket being taken. -/
lemma yields_readObject (embedding : Embedding) {read : Bytes → Read Json}
    {value : Document → Option Json} (h : Agrees read value) {members : List (String × Document)}
    (ht : Parts closeObject (Keyed Document.Spells) true members t) (rest : Bytes) :
    Yields (match embedding, behindKey? embeddingKey (t ++ rest) with
      | some embedded, some behind => readEmbedded embedded behind
      | _, _ =>
        (readMembers (addMember read) true [] (t ++ rest) (t ++ rest)).map
          fun (members, r) => (.object members, r))
      (Document.object? embedding value members) rest := by
  have hmembers := (yields_readMembers ht (fun m _ => memberAgrees_addMember h m) [] rest).map
    Json.object
  cases embedding with
  | none => exact hmembers
  | some embedded =>
    cases ht with
    | close hw =>
      rw [List.append_assoc, List.singleton_append] at hmembers ⊢
      rw [behindKey?, nextKey_close hw]
      exact hmembers
    | first hw hkeyed hu =>
      cases hkeyed with
      | @mk key D raw w₁ w₂ v hkey hw₁ hw₂ hv =>
        rw [List.append_assoc, List.append_assoc, List.cons_append, List.append_assoc,
          List.cons_append] at hmembers ⊢
        rw [behindKey?_first hw hkey, Document.object?]
        by_cases heq : key = embeddingKey
        · simp only [if_pos heq]
          have hembedded := yields_readEmbedded embedded hw₁ hw₂ hv hu rest
          simpa using hembedded
        · simp only [if_neg heq]
          exact hmembers

/-- Every document is read as `Document.value?` says. -/
theorem agrees_readValueWith (embedding : Embedding) (depth : Nat) :
    Agrees (readValueWith embedding depth) (Document.value? embedding depth) := by
  induction depth with
  | zero =>
    intro D t ht w rest hw hrest
    by_cases hleaf : D.IsLeaf
    · exact yields_leaf embedding 0 hw ht hleaf hrest
    · cases ht with
      | list h =>
        rw [List.cons_append, readValueWith.eq_def, skipSpace_blank hw (by decide)]
        rfl
      | object h =>
        rw [List.cons_append, readValueWith.eq_def, skipSpace_blank hw (by decide)]
        rfl
      | _ => exact absurd trivial hleaf
  | succ depth ih =>
    intro D t ht w rest hw hrest
    by_cases hleaf : D.IsLeaf
    · exact yields_leaf embedding (depth + 1) hw ht hleaf hrest
    · cases ht with
      | list h =>
        rw [List.cons_append, readValueWith_openList _ _ hw]
        exact (yields_readItems h (fun x _ t ht => ht.starts)
          (fun x _ t ht rest hrest => ih x t ht [] rest blank_nil hrest) rest).map Json.list
      | object h =>
        rw [List.cons_append, readValueWith_openObject _ _ hw]
        exact yields_readObject embedding ih h rest
      | _ => exact absurd trivial hleaf

/-- A value is read back as `Json.reread?` says, whatever follows that cannot continue a number. -/
theorem yields_readValueWith (embedding : Embedding) (depth : Nat) {j : Json} (hj : j.WellFormed)
    {rest : Bytes} (hrest : Delimited rest) :
    Yields (readValueWith embedding depth (j.write ++ rest)) (j.reread? embedding depth) rest := by
  have h := agrees_readValueWith embedding depth _ _ (spells_write hj.numeric) [] rest blank_nil
    hrest
  rwa [Document.value?_document] at h

/-! ### Whole documents -/

lemma within_congr {document : Bytes} {read read' : Bytes → Except JsonError Json}
    (h : ∀ t, t.length < document.length → read t = read' t) :
    within document read = within document read' := by
  funext t
  simp only [within]
  split_ifs with ht
  · exact h t ht
  · rfl

lemma readNested_of_le {n m : Nat} {s : Bytes} (hn : s.length ≤ n) (hm : s.length ≤ m) :
    readNested n s = readNested m s := by
  induction n generalizing m s with
  | zero =>
    obtain rfl := List.length_eq_zero_iff.1 (Nat.le_zero.1 hn)
    cases m <;> rfl
  | succ n ih =>
    cases m with
    | zero =>
      obtain rfl := List.length_eq_zero_iff.1 (Nat.le_zero.1 hm)
      rfl
    | succ m =>
      have hread : within s (readNested n) = within s (readNested m) := within_congr fun t ht =>
        ih (Nat.le_of_lt_succ (Nat.lt_of_lt_of_le ht hn))
          (Nat.le_of_lt_succ (Nat.lt_of_lt_of_le ht hm))
      rw [readNested, readNested, hread]

/-- A text of a document is read just as any other document. -/
lemma read_eq (s : Bytes) :
    Json.read s = readWhole (readValueWith (some (within s Json.read)) maxDepth) s := by
  cases s with
  | nil => rfl
  | cons b r =>
    have hread : within (b :: r) (readNested r.length) = within (b :: r) Json.read :=
      within_congr fun t ht => readNested_of_le (Nat.le_of_lt_succ ht) (Nat.le_refl _)
    rw [← hread]
    rfl

lemma yields_readWhole {α : Type} {read : Bytes → Read α} {o : Option α} {s w : Bytes}
    (hw : Blank w) (h : Yields (read s) o w) : (readWhole read s).toOption = o := by
  have hend := skipSpace_append hw []
  rw [List.append_nil] at hend
  rw [readWhole]
  obtain ⟨fault, hread, rfl⟩ | ⟨a, hread, rfl⟩ := h.cases
  · simp only [hread]
    rfl
  · simp only [hread, hend]
    rfl

/-- A whole text is read as its document. -/
lemma Agrees.readWhole {α : Type} {read : Bytes → Read α} {value : Document → Option α}
    (h : Agrees read value) {text : Bytes} (hD : D.HasText text) :
    (readWhole read text).toOption = value D := by
  cases hD with
  | @mk w t w' hw ht hw' =>
    refine yields_readWhole hw' (h D t ht w w' hw ?_)
    have hrest := delimited_blank hw' delimited_nil
    rwa [List.append_nil] at hrest

lemma reread?_leaf (embedding : Embedding) (depth : Nat) {j : Json} (h : j.IsLeaf) :
    j.reread? embedding depth = j.rereadLeaf? := by
  cases j with
  | list items => exact h.elim
  | object members => exact h.elim
  | _ => cases depth <;> rfl

lemma length_lt_write_text (s : String) :
    (Utf8.encode s).length < (Json.text s).write.length := by
  have h := length_le_length_flatMap (Utf8.encode s)
  rw [write, writeText]
  simp only [List.cons_append, List.length_cons, List.length_append, List.length_nil]
  omega

lemma length_le_of_mem {t : Bytes} {ts : List Bytes} (h : t ∈ ts) :
    t.length ≤ (separated ts).length := by
  cases ts with
  | nil => cases h
  | cons u ts =>
    rw [separated_cons, List.length_append]
    rcases List.mem_cons.1 h with rfl | h
    · omega
    · have hmem : comma :: t ∈ ts.map (comma :: ·) := List.mem_map_of_mem h
      have hcomma := (List.sublist_flatten_of_mem hmem).length_le
      rw [← List.flatMap_def, List.length_cons] at hcomma
      omega

lemma length_item_le {x : Json} {items : List Json} (h : x ∈ items) :
    x.write.length ≤ (Json.list items).write.length := by
  have hmem := length_le_of_mem (List.mem_map_of_mem h : x.write ∈ items.map write)
  rw [write_list, listOf]
  simp only [List.length_append, List.length_cons]
  omega

lemma length_member_le {m : String × Json} {members : Entries Json} (h : m ∈ members) :
    m.2.write.length ≤ (Json.object members).write.length := by
  have hmem := length_le_of_mem (List.mem_map_of_mem h :
    memberOf m.1 m.2.write ∈ members.map fun m => memberOf m.1 m.2.write)
  have hvalue : m.2.write.length ≤ (memberOf m.1 m.2.write).length := by
    rw [memberOf]
    simp only [List.length_append, List.length_cons]
    omega
  rw [write_object, objectOf, List.map_map]
  simp only [List.length_append, List.length_cons, Function.comp_def]
  omega

/-- The bound on the length of texts of a document does not show in what comes back of it. -/
lemma reread?_within {document : Bytes} {read : Bytes → Except JsonError Json} {depth : Nat}
    {j : Json} (h : j.write.length ≤ document.length) :
    j.reread? (some (within document read)) depth = j.reread? (some read) depth := by
  induction depth generalizing j with
  | zero => cases j <;> rfl
  | succ depth ih =>
    cases j with
    | list items =>
      rw [reread?, reread?, mapM_congr fun x hx => ih (Nat.le_trans (length_item_le hx) h)]
    | object members =>
      have hmembers : members.foldlM (addMember? (reread? (some (within document read)) depth))
          [] = members.foldlM (addMember? (reread? (some read) depth)) [] :=
        foldlM_congr (fun m hm state => by
          rw [addMember?, addMember?, ih (Nat.le_trans (length_member_le hm) h)]) []
      rw [reread?, reread?]
      cases members with
      | nil => rfl
      | cons m others =>
        obtain ⟨key, value⟩ := m
        rw [rereadObject?, rereadObject?, hmembers]
        split_ifs
        · cases value with
          | text s =>
            have hvalue := length_member_le
              (List.mem_cons_self : (key, Json.text s) ∈ (key, Json.text s) :: others)
            have hshort : (Utf8.encode s).length < document.length :=
              Nat.lt_of_lt_of_le (length_lt_write_text s) (Nat.le_trans hvalue h)
            cases others with
            | nil => rw [rereadEmbedded?, rereadEmbedded?, within, if_pos hshort]
            | cons m others => rfl
          | _ => rfl
        · rfl
    | _ => rfl

/-- What `Json.read` makes of the text of a value. -/
theorem read_write {j : Json} (hj : j.WellFormed) :
    (Json.read j.write).toOption = j.reread? (some Json.read) maxDepth := by
  have h := (agrees_readValueWith (some (within j.write Json.read)) maxDepth).readWhole
    (spells_write hj.numeric).hasText
  rw [read_eq, h, Document.value?_document, reread?_within (Nat.le_refl _)]

end Reader

end PodAdmission

import PodAdmission.Patch.Basic
import PodAdmission.Proofs.Json.Reading

/-!
# Patches read back

The text of a pointer leads to the same place, whatever characters are in its tokens, and a patch
whose values are texts, lists of texts or objects with one text is read back as it was written.
-/

namespace PodAdmission

open Ascii Json Reader

/-! ### Pointers -/

namespace Pointer

lemma unescape_cons {c : Char} (h : c ≠ '~') (cs : List Char) :
    unescape (c :: cs) = c :: unescape cs := by
  cases cs with
  | nil => rfl
  | cons d cs => simp [unescape, h]

/-- Escapes are undone. -/
lemma unescape_escape (cs : List Char) : unescape (cs.flatMap escapeChar) = cs := by
  induction cs with
  | nil => rfl
  | cons c cs ih =>
    rw [List.flatMap_cons, escapeChar]
    split_ifs with htilde hslash
    · rw [htilde]
      simp [unescape, ih]
    · rw [hslash]
      simp [unescape, ih]
    · rw [List.singleton_append, unescape_cons htilde, ih]

/-- No slash is left in a token that is written. -/
lemma slash_notMem_escape (token : String) : '/' ∉ escape token := by
  intro h
  obtain ⟨c, -, hc⟩ := List.mem_flatMap.1 h
  rw [escapeChar] at hc
  split_ifs at hc with htilde hslash
  · simp at hc
  · simp at hc
  · exact hslash (List.mem_singleton.1 hc).symm

lemma splitSlashes_append {cs : List Char} (h : '/' ∉ cs) (seen rest : List Char) :
    splitSlashes seen (cs ++ rest) = splitSlashes (cs.reverse ++ seen) rest := by
  induction cs generalizing seen with
  | nil => rfl
  | cons c cs ih =>
    have hc : c ≠ '/' := fun heq => h (heq ▸ List.mem_cons_self)
    rw [List.cons_append, splitSlashes, if_neg hc, ih fun hmem => h (List.mem_cons_of_mem _ hmem)]
    simp

lemma splitSlashes_render (token : String) (p : Pointer) :
    splitSlashes [] (escape token ++ p.flatMap fun token => '/' :: escape token) =
      escape token :: p.map escape := by
  induction p generalizing token with
  | nil =>
    have h := splitSlashes_append (slash_notMem_escape token) [] []
    simpa [splitSlashes] using h
  | cons next p ih =>
    rw [splitSlashes_append (slash_notMem_escape token), List.flatMap_cons, List.cons_append,
      splitSlashes, if_pos rfl, ih]
    simp

/-- The text of a pointer leads to the same place. -/
theorem parse?_render (p : Pointer) : parse? p.render = some p := by
  have htoken (token : String) : String.ofList (unescape (escape token)) = token := by
    rw [escape, unescape_escape, String.ofList_toList]
  rw [parse?, render, String.toList_ofList]
  cases p with
  | nil => rfl
  | cons token p =>
    rw [List.flatMap_cons, List.cons_append]
    simp only [if_true]
    rw [splitSlashes_render, List.map_cons, htoken, List.map_map]
    congr 2
    exact (List.map_congr_left fun t _ => htoken t).trans (List.map_id p)

end Pointer

/-! ### Values -/

namespace Json

/-- A text, a list of texts, or an object with one text. -/
inductive Plain : Json → Prop where
  | text (s : String) : Plain (.text s)
  | texts (ss : List String) : Plain (.list (ss.map .text))
  | entry {key : String} (h : key ≠ embeddingKey) (s : String) : Plain (.object [(key, .text s)])

lemma mapM_text {f : Json → Option Json} (hf : ∀ s, f (.text s) = some (.text s))
    (ss : List String) : (ss.map Json.text).mapM f = some (ss.map .text) := by
  induction ss with
  | nil => rfl
  | cons s ss ih =>
    rw [List.map_cons, List.mapM_cons, hf, ih]
    rfl

variable {j : Json}

lemma Plain.wellFormed (h : Plain j) : j.WellFormed := by
  cases h with
  | text s => exact WellFormed.text s
  | texts ss =>
    apply WellFormed.list
    intro x hx
    obtain ⟨s, -, rfl⟩ := List.mem_map.1 hx
    exact WellFormed.text s
  | entry hkey s =>
    apply WellFormed.object (List.pairwise_singleton _ _)
    intro m hm
    obtain rfl := List.mem_singleton.1 hm
    exact WellFormed.text s

/-- A plain value comes back as it is. -/
lemma Plain.reread? (h : Plain j) (depth : Nat) : j.reread? none (depth + 1) = some j := by
  have htext (s : String) : (Json.text s).reread? none depth = some (.text s) :=
    reread?_leaf none depth trivial
  cases h with
  | text s => rfl
  | texts ss =>
    rw [Json.reread?, mapM_text htext]
    rfl
  | entry hkey s => simp [Json.reread?, rereadObject?, addMember?, htext, Entries.insert]

lemma unembedItems_texts (rest : Bytes) (seen : List Json) (ss : List String) :
    unembedItems rest seen (ss.map .text) = .ok (seen.reverse ++ ss.map .text) := by
  induction ss generalizing seen with
  | nil => rw [List.map_nil, unembedItems, List.append_nil]
  | cons s ss ih =>
    rw [List.map_cons, unembedItems, unembed]
    · simp only
      rw [ih]
      simp
    all_goals simp

/-- No document is looked for in a plain value. -/
lemma Plain.unembed (h : Plain j) (rest : Bytes) : j.unembed rest = .ok j := by
  cases h with
  | text s => simp [Json.unembed]
  | texts ss =>
    rw [Json.unembed, unembedItems_texts]
    rfl
  | entry hkey s => simp [Json.unembed, hkey, unembedMembers, Except.map]

end Json

/-! ### Operations -/

namespace Operation

/-- The value that an operation is written as. -/
def toJson : Operation → Json
  | .add path value =>
    .object [("op", .text "add"), ("path", .text path.render), ("value", value)]
  | .remove path => .object [("op", .text "remove"), ("path", .text path.render)]
  | .replace path value =>
    .object [("op", .text "replace"), ("path", .text path.render), ("value", value)]

/-- The value of the operation, if it has one, is plain. -/
def Plain : Operation → Prop
  | .add _ value => value.Plain
  | .remove _ => True
  | .replace _ value => value.Plain

lemma write_eq (op : Operation) : op.write = op.toJson.write := by
  cases op <;> simp [write, toJson, write_object, Json.write]

variable {op : Operation}

lemma ascending_withValue (s t u : Json) :
    Entries.Ascending [("op", s), ("path", t), ("value", u)] :=
  (Entries.ascending_iff_map_fst _).2 (by decide : ["op", "path", "value"].Pairwise (· < ·))

lemma ascending_withoutValue (s t : Json) : Entries.Ascending [("op", s), ("path", t)] :=
  (Entries.ascending_iff_map_fst _).2 (by decide : ["op", "path"].Pairwise (· < ·))

lemma wellFormed_toJson (h : op.Plain) : op.toJson.WellFormed := by
  cases op with
  | add path value =>
    refine WellFormed.object (ascending_withValue _ _ _) ?_
    simpa using Json.Plain.wellFormed h
  | remove path =>
    refine WellFormed.object (ascending_withoutValue _ _) ?_
    simp
  | replace path value =>
    refine WellFormed.object (ascending_withValue _ _ _) ?_
    simpa using Json.Plain.wellFormed h

/-- A written operation comes back as it is. -/
lemma reread?_toJson (h : op.Plain) (depth : Nat) :
    op.toJson.reread? none (depth + 2) = some op.toJson := by
  cases op with
  | add path value =>
    simp +decide [toJson, Json.reread?, rereadObject?, addMember?, rereadLeaf?,
      Json.Plain.reread? h depth, Entries.insert]
  | remove path =>
    simp +decide [toJson, Json.reread?, rereadObject?, addMember?, rereadLeaf?, Entries.insert]
  | replace path value =>
    simp +decide [toJson, Json.reread?, rereadObject?, addMember?, rereadLeaf?,
      Json.Plain.reread? h depth, Entries.insert]

lemma ofJson?_toJson (op : Operation) : ofJson? op.toJson = some op := by
  cases op <;>
    simp +decide [ofJson?, toJson, member?, Entries.get?, Pointer.parse?_render]

lemma unembed_eq (h : op.Plain) (rest : Bytes) : op.unembed rest = .ok op := by
  cases op with
  | add path value =>
    rw [unembed, Json.Plain.unembed h]
    rfl
  | remove path => rfl
  | replace path value =>
    rw [unembed, Json.Plain.unembed h]
    rfl

/-- An operation is read back. -/
lemma yields_read (h : op.Plain) (depth : Nat) {rest : Bytes} (hrest : Delimited rest) :
    Yields (Operation.read (depth + 2) (op.write ++ rest)) (some op) rest := by
  have hread := yields_readValueWith none (depth + 2) (wellFormed_toJson h) hrest
  rw [reread?_toJson h] at hread
  obtain ⟨fault, -, hnone⟩ | ⟨j, hj, hsome⟩ := hread.cases
  · cases hnone
  · obtain rfl := Option.some.inj hsome
    rw [write_eq, Operation.read, readPlain, hj]
    simp only [ofJson?_toJson, unembed_eq h]
    exact yields_ok op rest

end Operation

/-! ### Patches -/

namespace Patch

/-- The values of all operations are plain. -/
def Plain (patch : Patch) : Prop :=
  ∀ op ∈ patch, op.Plain

lemma starts_write {op : Operation} (h : op.Plain) : Starts op.write := by
  rw [Operation.write_eq]
  exact (spells_write (Operation.wellFormed_toJson h).numeric).starts

lemma parts_write (patch : Patch) :
    ∃ t, patch.write = openList :: t ∧
      Parts closeList (fun op t => t = op.write) true patch t :=
  ⟨_, rfl, parts_separated fun _ _ => rfl⟩

lemma mapM_some (patch : Patch) : patch.mapM some = some patch := by
  induction patch with
  | nil => rfl
  | cons op patch ih =>
    rw [List.mapM_cons, ih]
    rfl

/-- A patch is read back. -/
theorem read_write {patch : Patch} (h : patch.Plain) : Patch.read patch.write = .ok patch := by
  obtain ⟨t, hwrite, hparts⟩ := parts_write patch
  have hitems := yields_readItems hparts (fun op hop t ht => ht ▸ starts_write (h op hop))
    (fun op hop t ht rest hrest => ht ▸ Operation.yields_read (h op hop) 124 hrest) []
  have hlist : Yields (readList Operation.read maxDepth patch.write) (some patch) [] := by
    rw [mapM_some, List.append_nil] at hitems
    rw [hwrite, readList, skipSpace_cons (by decide)]
    exact hitems
  have hread := yields_readWhole blank_nil hlist
  rw [Patch.read]
  cases hwhole : readWhole (readList Operation.read maxDepth) patch.write with
  | error fault =>
    rw [hwhole] at hread
    cases hread
  | ok p =>
    rw [hwhole] at hread
    rw [Option.some.inj hread]

end Patch

end PodAdmission

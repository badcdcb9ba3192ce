import PodAdmission.Proofs.Json.Settling
import PodAdmission.Proofs.Json.Taking

/-!
# What readers take

A reader that succeeds has passed over white space and a lexical value, and stops behind it. So a
text that is read as anything is lexically a value, with white space around it, and what is passed
over without being understood is one too.
-/

namespace PodAdmission.Reader

open Ascii Json

variable {α β σ : Type} {bytes start rest : Bytes}

/-- White space and a lexical value come first, and then what is given. -/
def Passed (bytes rest : Bytes) : Prop :=
  ∃ w t, Blank w ∧ Lexical t ∧ bytes = w ++ (t ++ rest)

/-- The reader takes white space and a lexical value, if it succeeds. -/
def Consumes (read : Bytes → Read α) : Prop :=
  ∀ bytes a rest, read bytes = .ok (a, rest) → Passed bytes rest

/-! ### White space -/

lemma exists_blank_skipSpace (bytes : Bytes) : ∃ w, Blank w ∧ bytes = w ++ skipSpace bytes :=
  ⟨_, fun _ hb => List.mem_takeWhile_imp hb, (List.takeWhile_append_dropWhile).symm⟩

/-- What is behind white space does not start with white space. -/
lemma isSpace_of_skipSpace {b : UInt8} {behind : Bytes} (h : skipSpace bytes = b :: behind) :
    isSpace b = false := by
  have hnot := List.head?_dropWhile_not isSpace bytes
  rw [skipSpace] at h
  simpa [h] using hnot

lemma skipSpace_skipSpace (bytes : Bytes) : skipSpace (skipSpace bytes) = skipSpace bytes := by
  cases hskip : skipSpace bytes with
  | nil => rfl
  | cons b behind => exact skipSpace_cons (isSpace_of_skipSpace hskip) behind

lemma blank_append {w w' : Bytes} (hw : Blank w) (hw' : Blank w') : Blank (w ++ w') :=
  fun b hb => (List.mem_append.1 hb).elim (hw b) (hw' b)

/-- Where a reader passes over white space in front, what is taken behind it decides. -/
lemma passed_of_skipSpace (h : Passed (skipSpace bytes) rest) : Passed bytes rest := by
  obtain ⟨w, hw, heq⟩ := exists_blank_skipSpace bytes
  obtain ⟨w', t, hw', ht, hskip⟩ := h
  refine ⟨w ++ w', t, blank_append hw hw', ht, ?_⟩
  rw [heq, hskip, List.append_assoc]

lemma passed_of_lexical {t : Bytes} (h : Lexical t) (rest : Bytes) : Passed (t ++ rest) rest :=
  ⟨[], t, blank_nil, h, rfl⟩

/-! ### What comes next -/

/-- What comes next between brackets, and the bytes that it is seen from: the closing bracket, or a
part and what opens it. -/
inductive Ahead (closer : UInt8) (opener : Bytes) : (first : Bool) → Step → Bytes → Prop where
  | finished {first : Bool} {w rest : Bytes} (hw : Blank w) :
      Ahead closer opener first (.finished rest) (w ++ closer :: rest)
  | first {w start : Bytes} (hw : Blank w) :
      Ahead closer opener true (.more start) (w ++ (opener ++ start))
  | next {w w' start : Bytes} (hw : Blank w) (hw' : Blank w') :
      Ahead closer opener false (.more start) (w ++ comma :: (w' ++ (opener ++ start)))

lemma nextItem_ahead {first : Bool} {step : Step} (h : nextItem first bytes = .ok step) :
    Ahead closeList [] first step bytes := by
  obtain ⟨w, hw, heq⟩ := exists_blank_skipSpace bytes
  rw [nextItem] at h
  generalize skipSpace bytes = skipped at h heq
  subst heq
  cases skipped with
  | nil => cases h
  | cons b behind =>
    simp only at h
    split_ifs at h with hclose hfirst hcomma
    · cases h
      exact hclose ▸ .finished hw
    · cases h
      exact hfirst ▸ .first hw
    · obtain ⟨w', hw', heq⟩ := exists_blank_skipSpace behind
      generalize skipSpace behind = skipped at h heq
      subst heq
      cases skipped with
      | nil => cases h
      | cons c behind =>
        simp only at h
        split_ifs at h
        cases h
        rw [Bool.eq_false_iff.2 hfirst, hcomma]
        exact .next hw hw'

lemma nextKey_ahead {first : Bool} {step : Step} (h : nextKey first bytes = .ok step) :
    Ahead closeObject [quote] first step bytes := by
  obtain ⟨w, hw, heq⟩ := exists_blank_skipSpace bytes
  rw [nextKey] at h
  generalize skipSpace bytes = skipped at h heq
  subst heq
  cases skipped with
  | nil => cases h
  | cons b behind =>
    simp only at h
    split_ifs at h with hclose hfirst hquote hcomma
    · cases h
      exact hclose ▸ .finished hw
    · cases h
      rw [hfirst, hquote]
      exact .first hw
    · obtain ⟨w', hw', heq⟩ := exists_blank_skipSpace behind
      generalize skipSpace behind = skipped at h heq
      subst heq
      cases skipped with
      | nil => cases h
      | cons c behind =>
        simp only at h
        split_ifs at h with hquote
        cases h
        rw [Bool.eq_false_iff.2 hfirst, hcomma, hquote]
        exact .next hw hw'

lemma readColon_ok (h : readColon bytes = .ok rest) :
    ∃ w, Blank w ∧ bytes = w ++ colon :: rest := by
  obtain ⟨w, hw, heq⟩ := exists_blank_skipSpace bytes
  rw [readColon] at h
  generalize skipSpace bytes = skipped at h heq
  subst heq
  cases skipped with
  | nil => cases h
  | cons b behind =>
    simp only at h
    split_ifs at h with hcolon
    cases h
    exact ⟨w, hw, hcolon ▸ rfl⟩

lemma readObjectEnd_ok (h : readObjectEnd bytes = .ok rest) :
    ∃ w, Blank w ∧ bytes = w ++ closeObject :: rest := by
  obtain ⟨w, hw, heq⟩ := exists_blank_skipSpace bytes
  rw [readObjectEnd] at h
  generalize skipSpace bytes = skipped at h heq
  subst heq
  cases skipped with
  | nil => cases h
  | cons b behind =>
    simp only at h
    split_ifs at h with hclose
    cases h
    exact ⟨w, hw, hclose ▸ rfl⟩

section Parts

variable {P : α → Bytes → Prop} {closer : UInt8} {opener more : Bytes} {first : Bool} {a : α}
  {parts : List α}

/-- The closing bracket alone. -/
lemma Ahead.close (h : Ahead closer opener first (.finished rest) bytes) :
    ∃ u, Parts closer P first [] u ∧ bytes = u ++ rest := by
  cases h with
  | @finished _ w _ hw => exact ⟨w ++ [closer], .close hw, by simp⟩

/-- A part and those behind it. -/
lemma Ahead.part (h : Ahead closer opener first (.more start) bytes)
    (hpart : ∃ w t, Blank w ∧ P a t ∧ opener ++ start = w ++ (t ++ more))
    (hmore : ∃ u, Parts closer P false parts u ∧ more = u ++ rest) :
    ∃ u, Parts closer P first (a :: parts) u ∧ bytes = u ++ rest := by
  obtain ⟨w, t, hw, ht, heq⟩ := hpart
  obtain ⟨u, hu, rfl⟩ := hmore
  cases h with
  | @first w' _ hw' =>
    exact ⟨_, .first (blank_append hw' hw) ht hu, by simp [heq]⟩
  | @next w₁ w₂ _ hw₁ hw₂ =>
    exact ⟨_, .next hw₁ (blank_append hw₂ hw) ht hu, by simp [heq]⟩

end Parts

/-! ### Between brackets -/

/-- What is read of a list behind its opening bracket are lexical values. -/
lemma readItems_ok {item : Bytes → Read α} (hitem : Consumes item) {first : Bool}
    {seen xs : List α} {rounds : Bytes}
    (h : readItems item first seen rounds bytes = .ok (xs, rest)) :
    ∃ parts u, Parts closeList Lexical.Item first parts u ∧ bytes = u ++ rest := by
  have hread := itemsRead_of_ok h
  clear h
  induction hread with
  | finished hnext => exact ⟨[], (nextItem_ahead hnext).close⟩
  | more hnext hx h ih =>
    obtain ⟨w, t, hw, ht, heq⟩ := hitem _ _ _ hx
    obtain ⟨parts, hparts⟩ := ih
    exact ⟨t :: parts, (nextItem_ahead hnext).part ⟨w, t, hw, ⟨rfl, ht⟩, heq⟩ hparts⟩

/-- The reader of members takes a colon, white space and a lexical value, if it succeeds. -/
def MemberConsumes (member : σ → String → Bytes → Read σ) : Prop :=
  ∀ state key bytes state' rest, member state key bytes = .ok (state', rest) →
    ∃ w behind, Blank w ∧ bytes = w ++ colon :: behind ∧ Passed behind rest

/-- What is read of an object behind its opening bracket are lexical values under keys. -/
lemma readMembers_ok {member : σ → String → Bytes → Read σ} (hmember : MemberConsumes member)
    {first : Bool} {state made : σ} {rounds : Bytes}
    (h : readMembers member first state rounds bytes = .ok (made, rest)) :
    ∃ parts u, Parts closeObject (Member Lexical.Item) first parts u ∧ bytes = u ++ rest := by
  have hread := membersRead_of_ok h
  clear h
  induction hread with
  | finished hnext => exact ⟨[], (nextKey_ahead hnext).close⟩
  | more hnext hkey hstate h ih =>
    obtain ⟨raw, hraw, rfl⟩ := readText_ok hkey
    obtain ⟨w, _, hw, rfl, w', t, hw', ht, rfl⟩ := hmember _ _ _ _ _ hstate
    obtain ⟨parts, hparts⟩ := ih
    have hpart : Member Lexical.Item (raw, t)
        (quote :: (raw ++ quote :: (w ++ colon :: (w' ++ t)))) :=
      .mk hraw hw hw' ⟨rfl, ht⟩
    exact ⟨(raw, t) :: parts, (nextKey_ahead hnext).part
      ⟨[], _, blank_nil, hpart, by simp⟩ hparts⟩

/-! ### Values -/

/-- Where a reader passes over white space in front, what it takes where there is none decides. -/
lemma consumes_of_skips {read : Bytes → Read α}
    (hskips : ∀ w bytes, Blank w → read (w ++ bytes) = read bytes)
    (hnil : ∀ p, read [] ≠ .ok p)
    (h : ∀ b behind a rest, isSpace b = false → read (b :: behind) = .ok (a, rest) →
      Passed (b :: behind) rest) : Consumes read := by
  intro bytes a rest hread
  apply passed_of_skipSpace
  obtain ⟨w, hw, heq⟩ := exists_blank_skipSpace bytes
  rw [heq, hskips w _ hw] at hread
  cases hskip : skipSpace bytes with
  | nil =>
    rw [hskip] at hread
    exact absurd hread (hnil _)
  | cons b behind =>
    rw [hskip] at hread
    exact h b behind a rest (isSpace_of_skipSpace hskip) hread

lemma Consumes.map {read : Bytes → Read α} (h : Consumes read) (f : α → β) :
    Consumes fun bytes => (read bytes).map fun (a, r) => (f a, r) := by
  intro bytes b rest hread
  obtain ⟨a, ha, -⟩ := map_ok hread
  exact h bytes a rest ha

lemma passed_token {b : UInt8} {r : Bytes} (h : Token (b :: r)) (rest : Bytes) :
    Passed (b :: (r ++ rest)) rest :=
  passed_of_lexical (.token h) rest

/-- A value of a certain kind is lexical. -/
lemma consumes_readAs (wanted : String) (accept : Json → Except Cause α) :
    Consumes (readAs wanted accept) := by
  refine consumes_of_skips (fun w bytes hw => ?_) nofun fun b behind a rest hspace h => ?_
  · simp only [readAs, skipSpace_append hw]
  · simp only [readAs, skipSpace_cons hspace] at h
    split_ifs at h
    split at h
    · cases h
    · rename_i v after hleaf
      obtain ⟨r, hr, rfl⟩ := readLeaf_ok hleaf
      split at h
      · cases h
        exact passed_token hr _
      · cases h

lemma consumes_readList {item : Nat → Bytes → Read α} (hitem : ∀ depth, Consumes (item depth))
    (depth : Nat) : Consumes (readList item depth) := by
  refine consumes_of_skips (fun w bytes hw => ?_) nofun fun b behind a rest hspace h => ?_
  · simp only [readList, skipSpace_append hw]
  · simp only [readList, skipSpace_cons hspace] at h
    split_ifs at h with hb
    · cases depth with
      | zero => cases h
      | succ depth =>
        obtain ⟨parts, u, hu, rfl⟩ := readItems_ok (hitem depth) h
        exact hb ▸ passed_of_lexical (.list hu) rest
    · exact consumes_readAs _ _ _ _ _ h

lemma consumes_readOptional {read : Bytes → Read α} (hread : Consumes read) :
    Consumes (readOptional read) := by
  intro bytes a rest h
  apply passed_of_skipSpace
  rw [readOptional] at h
  generalize skipSpace bytes = skipped at h ⊢
  cases skipped with
  | nil =>
    obtain ⟨a, h, -⟩ := map_ok h
    exact hread _ _ _ h
  | cons b behind =>
    simp only at h
    split_ifs at h with hb
    · cases hword : readWord nullWord.tail behind with
      | error fault =>
        rw [hword] at h
        cases h
      | ok after =>
        rw [hword] at h
        cases h
        rw [readWord_ok hword, hb]
        exact passed_token .null _
    · obtain ⟨a, h, -⟩ := map_ok h
      exact hread _ _ _ h

lemma memberConsumes_addMember {read : Bytes → Read α} (hread : Consumes read) :
    MemberConsumes (addMember read) := by
  intro members key bytes made rest h
  rw [addMember] at h
  split at h
  · cases h
  · rename_i behind hcolon
    obtain ⟨w, hw, rfl⟩ := readColon_ok hcolon
    split at h
    · cases h
    · rename_i v after hv
      cases h
      exact ⟨w, behind, hw, rfl, hread _ _ _ hv⟩

lemma behindKey?_eq_some {key : String} {behind : Bytes} (h : behindKey? key bytes = some behind) :
    ∃ w raw, Blank w ∧ Content raw ∧ bytes = w ++ quote :: (raw ++ quote :: behind) := by
  rw [behindKey?] at h
  split at h
  · rename_i start hnext
    split at h
    · rename_i first after hfirst
      split_ifs at h
      cases h
      obtain ⟨raw, hraw, rfl⟩ := readText_ok hfirst
      cases nextKey_ahead hnext with
      | @first w _ hw => exact ⟨w, raw, hw, hraw, rfl⟩
    · cases h
  · cases h

/-- An object that stands for a document in a text is lexical. -/
lemma passed_readEmbedded {embedded : Bytes → Except JsonError Json} {key : String}
    {behind : Bytes} {v : Json} (hkey : behindKey? key bytes = some behind)
    (h : readEmbedded embedded behind = .ok (v, rest)) : Passed (openObject :: bytes) rest := by
  obtain ⟨w, raw, hw, hraw, rfl⟩ := behindKey?_eq_some hkey
  rw [readEmbedded] at h
  split at h
  · cases h
  · rename_i after hcolon
    obtain ⟨w₁, hw₁, rfl⟩ := readColon_ok hcolon
    split at h
    · cases h
    · rename_i text tail htext
      obtain ⟨w₂, t, hw₂, ht, rfl⟩ := consumes_readAs _ _ _ _ _ htext
      split at h
      · cases h
      · cases hend : readObjectEnd tail with
        | error fault =>
          rw [hend] at h
          cases h
        | ok r =>
          rw [hend] at h
          cases h
          obtain ⟨w₃, hw₃, rfl⟩ := readObjectEnd_ok hend
          have hmember : Member Lexical.Item (raw, t) _ := .mk hraw hw₁ hw₂ ⟨rfl, ht⟩
          have hobject := Lexical.object (.first hw hmember (.close hw₃))
          have hpassed := passed_of_lexical hobject rest
          simpa using hpassed

/-- A value of any kind is lexical. -/
lemma consumes_readValueWith (embedding : Embedding) (depth : Nat) :
    Consumes (readValueWith embedding depth) := by
  induction depth with
  | zero =>
    refine consumes_of_skips (fun w bytes hw => ?_) (by simp [readValueWith.eq_def, skipSpace])
      fun b behind a rest hspace h => ?_
    · rw [readValueWith.eq_def, readValueWith.eq_def, skipSpace_append hw]
    · rw [readValueWith.eq_def] at h
      simp only [skipSpace_cons hspace] at h
      split_ifs at h
      obtain ⟨r, hr, rfl⟩ := readLeaf_ok h
      exact passed_token hr rest
  | succ depth ih =>
    refine consumes_of_skips (fun w bytes hw => ?_) (by simp [readValueWith.eq_def, skipSpace])
      fun b behind a rest hspace h => ?_
    · rw [readValueWith.eq_def, readValueWith.eq_def, skipSpace_append hw]
    · rw [readValueWith.eq_def] at h
      simp only [skipSpace_cons hspace] at h
      split_ifs at h with hlist hobject
      · obtain ⟨xs, h, -⟩ := map_ok h
        obtain ⟨parts, u, hu, rfl⟩ := readItems_ok ih h
        exact hlist ▸ passed_of_lexical (.list hu) rest
      · split at h
        · rename_i embedded after hkey
          exact hobject ▸ passed_readEmbedded hkey h
        · obtain ⟨ms, h, -⟩ := map_ok h
          obtain ⟨parts, u, hu, rfl⟩ := readMembers_ok (memberConsumes_addMember ih) h
          exact hobject ▸ passed_of_lexical (.object hu) rest
      · obtain ⟨r, hr, rfl⟩ := readLeaf_ok h
        exact passed_token hr rest

/-- A whole text that is read is a lexical value with white space around it. -/
lemma exists_lexical_of_readWhole {read : Bytes → Read α} (hread : Consumes read) {text : Bytes}
    {a : α} (h : readWhole read text = .ok a) :
    ∃ w t w', Blank w ∧ Lexical t ∧ Blank w' ∧ text = w ++ (t ++ w') := by
  rw [readWhole] at h
  split at h
  · cases h
  · rename_i a' rest hok
    obtain ⟨w, t, hw, ht, rfl⟩ := hread _ _ _ hok
    split at h
    · rename_i hskip
      obtain ⟨w', hw', heq⟩ := exists_blank_skipSpace rest
      rw [hskip, List.append_nil] at heq
      exact ⟨w, t, rest, hw, ht, heq ▸ hw', rfl⟩
    · cases h

end PodAdmission.Reader

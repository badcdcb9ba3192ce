import PodAdmission.Json.Reader.Skip
import PodAdmission.Proofs.Json.Outline

/-!
# Values passed over

A reader that passes over a lexical value stops behind it, wherever white space is in it and
whatever brackets are open around it. The text of a document is one.
-/

namespace PodAdmission.Reader

open Ascii Json

variable {o : Outline} {w t r rest result : Bytes} {b : UInt8} {frames : List Frame}

/-! ### Values without parts -/

/-- A value without parts is passed over. -/
lemma skipLeaf_token (h : Token t) (ht : t = b :: r) (hrest : Delimited rest) :
    skipLeaf b (r ++ rest) = .ok rest := by
  cases h with
  | number h =>
    obtain ⟨_, _, rfl, hb⟩ := numeral_eq_cons h
    obtain ⟨rfl, rfl⟩ := List.cons.inj ht
    rw [skipLeaf, if_neg (ne_of_isDigit hb (by decide)), if_neg (ne_of_isDigit hb (by decide)),
      if_neg (ne_of_isDigit hb (by decide)), if_neg (ne_of_isDigit hb (by decide)), if_pos hb]
    exact skipNumber_append h hrest
  | negative h =>
    obtain ⟨rfl, rfl⟩ := List.cons.inj ht
    exact skipNumber_append h hrest
  | text h =>
    obtain ⟨rfl, rfl⟩ := List.cons.inj ht
    have hskip := skipContent_content h rest
    rw [List.append_assoc]
    exact hskip
  | _ =>
    obtain ⟨rfl, rfl⟩ := List.cons.inj ht
    rfl

/-! ### Open brackets -/

/-- Enough rounds pass over the value that starts here and all that the open brackets still
hold. -/
def Passes (frames : List Frame) (bytes result : Bytes) : Prop :=
  ∀ rounds : Bytes, bytes.length ≤ rounds.length → skipParts frames rounds bytes = .ok result

/-- What is left when a bracket has been opened or a value been passed is passed over, being no
longer than the bound. -/
def Proceeds (next : Except Fault (List Frame × Bytes)) (bound : Nat) (result : Bytes) : Prop :=
  ∃ frames rest, next = .ok (frames, rest) ∧ rest.length ≤ bound ∧
    (frames = [] ∧ rest = result ∨ frames ≠ [] ∧ Passes frames rest result)

/-- From behind a value, closes what closes and goes to the next value. -/
def behind (frames : List Frame) (rest : Bytes) : Except Fault (List Frame × Bytes) :=
  match frames with
  | [] => .ok ([], rest)
  | top :: below => nextPart top below true rest

/-- Passes over what is left in the rounds that are left. -/
def carryOn (rounds : Bytes) : Except Fault (List Frame × Bytes) → Except Fault Bytes
  | .error fault => .error fault
  | .ok ([], rest) => .ok rest
  | .ok (frames, rest) =>
    match rounds with
    | [] => .error (.ahead .endInValue rest)
    | _ :: rounds => skipParts frames rounds rest

lemma Proceeds.mono {next : Except Fault (List Frame × Bytes)} {m n : Nat}
    (h : Proceeds next m result) (hle : m ≤ n) : Proceeds next n result := by
  obtain ⟨frames, rest, hnext, hlength, hrest⟩ := h
  exact ⟨frames, rest, hnext, hlength.trans hle, hrest⟩

/-- The rounds that are left pass over what is left. -/
lemma passes_of_proceeds {next : Except Fault (List Frame × Bytes)} {bytes : Bytes} {n : Nat}
    (h : Proceeds next n result) (hn : n < bytes.length)
    (hnext : ∀ rounds, skipParts frames rounds bytes = carryOn rounds next) :
    Passes frames bytes result := by
  obtain ⟨frames', rest, rfl, hlength, hrest⟩ := h
  intro rounds hrounds
  rw [hnext]
  obtain ⟨rfl, rfl⟩ | ⟨hne, hpasses⟩ := hrest
  · rfl
  · cases frames' with
    | nil => exact absurd rfl hne
    | cons top below =>
      cases rounds with
      | nil => exact absurd (Nat.lt_of_lt_of_le hn hrounds) (Nat.not_lt_zero n)
      | cons c rounds =>
        exact hpasses rounds (hlength.trans (Nat.le_of_lt_succ (Nat.lt_of_lt_of_le hn hrounds)))

lemma passes_token (h : Token t) (hw : Blank w) (hrest : Delimited rest)
    (hbehind : Proceeds (behind frames rest) rest.length result) :
    Passes frames (w ++ (t ++ rest)) result := by
  obtain ⟨b, r, heq, hb⟩ := h.leads
  have hskip := skipLeaf_token h heq hrest
  refine passes_of_proceeds hbehind ?_ fun rounds => ?_
  · rw [heq]
    simp only [List.length_append, List.length_cons]
    omega
  · rw [skipParts.eq_def, heq, List.cons_append]
    simp only [skipSpace_blank hw hb.isSpace, if_neg hb.ne_openList, if_neg hb.ne_openObject, hskip]
    cases frames <;> rfl

lemma passes_openList {body : Bytes} (hw : Blank w)
    (h : Proceeds (nextPart .list frames false body) body.length result) :
    Passes frames (w ++ openList :: body) result := by
  refine passes_of_proceeds h ?_ fun rounds => ?_
  · simp only [List.length_append, List.length_cons]
    omega
  · rw [skipParts.eq_def]
    simp only [skipSpace_blank hw (by decide : isSpace openList = false)]
    cases rounds <;> rfl

lemma passes_openObject {body : Bytes} (hw : Blank w)
    (h : Proceeds (nextPart .object frames false body) body.length result) :
    Passes frames (w ++ openObject :: body) result := by
  refine passes_of_proceeds h ?_ fun rounds => ?_
  · simp only [List.length_append, List.length_cons]
    omega
  · rw [skipParts.eq_def]
    simp only [skipSpace_blank hw (by decide : isSpace openObject = false)]
    cases rounds <;> rfl

/-! ### The next part -/

variable {top : Frame} {below : List Frame} {behindValue : Bool}

lemma nextPart_blank (hw : Blank w) (rest : Bytes) :
    nextPart top below behindValue (w ++ rest) = nextPart top below behindValue rest := by
  induction w with
  | nil => rfl
  | cons b w ih =>
    rw [List.cons_append, nextPart.eq_def]
    simp only [if_pos (hw b List.mem_cons_self)]
    exact ih fun c hc => hw c (List.mem_cons_of_mem _ hc)

lemma isCloser_closer (frame : Frame) : IsCloser frame.closer := by
  cases frame
  · exact .inl rfl
  · exact .inr rfl

lemma nextPart_close (hw : Blank w) (rest : Bytes) :
    nextPart top below behindValue (w ++ top.closer :: rest) = behind below rest := by
  rw [nextPart_blank hw, nextPart.eq_def]
  cases top <;> cases below <;> rfl

lemma nextPart_comma (hw : Blank w) (rest : Bytes) :
    nextPart top below true (w ++ comma :: rest) =
      (enterPart top rest).map fun rest => (top :: below, rest) := by
  rw [nextPart_blank hw, nextPart.eq_def]
  rfl

lemma nextPart_first (hw : Blank w) (hspace : isSpace b = false) (hclose : b ≠ top.closer)
    (r : Bytes) :
    nextPart top below false (w ++ b :: r) =
      (enterPart top (b :: r)).map fun rest => (top :: below, rest) := by
  rw [nextPart_blank hw, nextPart.eq_def]
  simp [hspace, hclose]

lemma skipKey_member {raw w' : Bytes} (hkey : Content raw) (hw : Blank w) (hw' : Blank w')
    (rest : Bytes) :
    skipKey (w ++ quote :: (raw ++ quote :: (w' ++ colon :: rest))) = .ok rest := by
  rw [skipKey, skipSpace_blank hw (by decide)]
  simp only [if_true, skipContent_content hkey, readColon_blank hw']

/-! ### Values with parts -/

section Parts

variable {α : Type} {P : α → Bytes → Prop} {parts : List α}

/-- A part is entered, and then what is behind it is passed over. -/
def Enters (frames : List Frame) (frame : Frame) (P : α → Bytes → Prop) (result : Bytes) (a : α) :
    Prop :=
  ∀ t, P a t → ∀ w rest, Blank w → Delimited rest →
    Proceeds (behind (frame :: frames) rest) rest.length result →
    Proceeds ((enterPart frame (w ++ (t ++ rest))).map fun rest => (frame :: frames, rest))
      (w ++ (t ++ rest)).length result

/-- What passes over every part passes over all that stands between the brackets. -/
lemma proceeds_parts (frame : Frame) {first : Bool} (h : Parts frame.closer P first parts t)
    (hstart : ∀ a ∈ parts, ∀ t, P a t → ∃ b r, t = b :: r ∧ isSpace b = false ∧ b ≠ frame.closer)
    (hparts : ∀ a ∈ parts, Enters frames frame P result a)
    (hbehind : Proceeds (behind frames rest) rest.length result) :
    Proceeds (nextPart frame frames (!first) (t ++ rest)) (t ++ rest).length result := by
  induction h with
  | close hw =>
    rw [List.append_assoc, List.singleton_append, nextPart_close hw]
    refine hbehind.mono ?_
    simp only [List.length_append, List.length_cons]
    omega
  | @first w t u a more hw ht h ih =>
    have hmore := ih (fun b hb => hstart b (List.mem_cons_of_mem _ hb))
      fun b hb => hparts b (List.mem_cons_of_mem _ hb)
    have hfirst := hparts a List.mem_cons_self t ht [] (u ++ rest) blank_nil
      (h.delimited (isCloser_closer frame) rest) hmore
    obtain ⟨b, r, rfl, hspace, hclose⟩ := hstart a List.mem_cons_self t ht
    rw [List.append_assoc, List.append_assoc, List.cons_append, Bool.not_true,
      nextPart_first hw hspace hclose]
    refine hfirst.mono ?_
    simp only [List.nil_append, List.cons_append, List.length_append, List.length_cons]
    omega
  | @next w w' t u a more hw hw' ht h ih =>
    have hmore := ih (fun b hb => hstart b (List.mem_cons_of_mem _ hb))
      fun b hb => hparts b (List.mem_cons_of_mem _ hb)
    have hfirst := hparts a List.mem_cons_self t ht w' (u ++ rest) hw'
      (h.delimited (isCloser_closer frame) rest) hmore
    rw [List.append_assoc, List.cons_append, List.append_assoc, List.append_assoc, Bool.not_false,
      nextPart_comma hw]
    refine hfirst.mono ?_
    simp only [List.length_append, List.length_cons]
    omega

end Parts

/-- What passes over a value enters it as an item. -/
lemma enters_item (h : ∀ t, o.Shows t → ∀ w rest, Blank w → Delimited rest →
      Proceeds (behind (.list :: frames) rest) rest.length result →
      Passes (.list :: frames) (w ++ (t ++ rest)) result) :
    Enters frames .list Outline.Shows result o := by
  intro t ht w rest hw hrest hbehind
  exact ⟨_, _, rfl, Nat.le_refl _, .inr ⟨List.cons_ne_nil _ _, h t ht w rest hw hrest hbehind⟩⟩

/-- What passes over a value enters it as a member. -/
lemma enters_member {m : Bytes × Outline} (h : ∀ t, m.2.Shows t → ∀ w rest, Blank w →
      Delimited rest → Proceeds (behind (.object :: frames) rest) rest.length result →
      Passes (.object :: frames) (w ++ (t ++ rest)) result) :
    Enters frames .object (Member Outline.Shows) result m := by
  intro t ht w rest hw hrest hbehind
  cases ht with
  | @mk raw o w₁ w₂ t hkey hw₁ hw₂ ht =>
    simp only [List.cons_append, List.append_assoc]
    rw [enterPart, skipKey_member hkey hw hw₁]
    refine ⟨_, _, rfl, ?_, .inr ⟨List.cons_ne_nil _ _, h t ht w₂ rest hw₂ hrest hbehind⟩⟩
    simp only [List.length_append, List.length_cons]
    omega

/-- A lexical value is passed over, whatever brackets are open around it. -/
lemma passes_shows (h : o.Shows t) (hw : Blank w) (hrest : Delimited rest)
    (hbehind : Proceeds (behind frames rest) rest.length result) :
    Passes frames (w ++ (t ++ rest)) result := by
  induction o generalizing t w frames rest with
  | token t =>
    cases h with
    | token h => exact passes_token h hw hrest hbehind
  | list items ih =>
    cases h with
    | list h =>
      rw [List.cons_append]
      refine passes_openList hw (proceeds_parts .list h (fun x _ t ht => ht.starts)
        (fun x hx => ?_) hbehind)
      exact enters_item fun t ht w rest hw hrest hbehind => ih x hx ht hw hrest hbehind
  | object members ih =>
    cases h with
    | object h =>
      rw [List.cons_append]
      refine passes_openObject hw (proceeds_parts .object h (fun m _ t ht => ?_)
        (fun m hm => ?_) hbehind)
      · cases ht with
        | mk => exact ⟨_, _, rfl, by decide, by decide⟩
      · exact enters_member fun t ht w rest hw hrest hbehind => ih m hm ht hw hrest hbehind

/-- A lexical value is passed over. -/
theorem skipValue_lexical (h : Lexical t) (hw : Blank w) (hrest : Delimited rest) :
    skipValue (w ++ (t ++ rest)) = .ok rest := by
  obtain ⟨o, ho⟩ := h
  have hend : Proceeds (behind [] rest) rest.length rest :=
    ⟨[], rest, rfl, Nat.le_refl _, .inl ⟨rfl, rfl⟩⟩
  exact passes_shows ho hw hrest hend _ (Nat.le_refl _)

end PodAdmission.Reader

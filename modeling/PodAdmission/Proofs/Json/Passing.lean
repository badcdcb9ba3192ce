import PodAdmission.Proofs.Json.Consuming

/-!
# What is passed over

A value that is passed over without being understood is lexical, and so is a value whose own text
is read. What is open at some point is a list of brackets; each of them has its parts and its
closing bracket still to come, the innermost one first.
-/

namespace PodAdmission.Reader

open Ascii Json

variable {bytes rest result : Bytes} {b : UInt8} {frames below : List Frame} {top : Frame}

/-- The parts that are left inside a bracket, and its end. -/
def Frame.Rest (first : Bool) (u : Bytes) : Frame → Prop
  | .list => ∃ items, Parts closeList Lexical.Item first items u
  | .object => ∃ members, Parts closeObject (Member Lexical.Item) first members u

/-- Behind a value comes all that the open brackets still hold. -/
def Closes : List Frame → (bytes result : Bytes) → Prop
  | [], bytes, result => bytes = result
  | frame :: below, bytes, result =>
    ∃ u behind, frame.Rest false u ∧ bytes = u ++ behind ∧ Closes below behind result

/-- A value comes next and then all that the open brackets still hold; if none is open, nothing
comes. -/
def Completes (frames : List Frame) (bytes result : Bytes) : Prop :=
  match frames with
  | [] => bytes = result
  | _ => ∃ behind, Passed bytes behind ∧ Closes frames behind result

/-! ### Parts -/

lemma Parts.space {α : Type} {P : α → Bytes → Prop} {closer : UInt8} {first : Bool}
    {parts : List α} {u : Bytes} (h : Parts closer P first parts u) (hb : isSpace b = true) :
    Parts closer P first parts (b :: u) := by
  have hblank {w : Bytes} (hw : Blank w) : Blank (b :: w) := by
    intro c hc
    rcases List.mem_cons.1 hc with rfl | hc
    · exact hb
    · exact hw c hc
  cases h with
  | close hw => exact .close (hblank hw)
  | first hw ht h => exact .first (hblank hw) ht h
  | next hw hw' ht h => exact .next (hblank hw) hw' ht h

lemma Frame.Rest.space {frame : Frame} {first : Bool} {u : Bytes} (h : frame.Rest first u)
    (hb : isSpace b = true) : frame.Rest first (b :: u) := by
  cases frame with
  | list => exact h.imp fun _ hparts => hparts.space hb
  | object => exact h.imp fun _ hparts => hparts.space hb

lemma Frame.rest_close (frame : Frame) (first : Bool) : frame.Rest first [frame.closer] := by
  cases frame with
  | list => exact ⟨[], .close blank_nil⟩
  | object => exact ⟨[], .close blank_nil⟩

/-- The byte that opens the bracket. -/
def Frame.opener : Frame → UInt8
  | .list => openList
  | .object => openObject

lemma Frame.Rest.lexical {frame : Frame} {u : Bytes} (h : frame.Rest true u) :
    Lexical (frame.opener :: u) := by
  cases frame with
  | list => exact h.elim fun _ hparts => .list hparts
  | object => exact h.elim fun _ hparts => .object hparts

lemma skipKey_ok (h : skipKey bytes = .ok rest) : ∃ w raw w', Blank w ∧ Content raw ∧ Blank w' ∧
    bytes = w ++ quote :: (raw ++ quote :: (w' ++ colon :: rest)) := by
  obtain ⟨w, hw, heq⟩ := exists_blank_skipSpace bytes
  rw [skipKey] at h
  generalize skipSpace bytes = skipped at h heq
  subst heq
  cases skipped with
  | nil => cases h
  | cons b behind =>
    simp only at h
    split_ifs at h with hquote
    split at h
    · cases h
    · rename_i after hskip
      obtain ⟨raw, hraw, rfl⟩ := skipContent_ok hskip
      obtain ⟨w', hw', rfl⟩ := readColon_ok h
      exact ⟨w, raw, w', hw, hraw, hw', hquote ▸ rfl⟩

/-- The next part, what is behind it and the end of the bracket, with a comma in front or not. -/
lemma enterPart_ok
    (h : ((enterPart top bytes).map fun rest => (top :: below, rest)) = .ok (frames, rest))
    (hcompletes : Completes frames rest result) :
    ∃ u behind, bytes = u ++ behind ∧ Closes below behind result ∧ top.Rest true u ∧
      top.Rest false (comma :: u) := by
  cases henter : enterPart top bytes with
  | error fault =>
    rw [henter] at h
    cases h
  | ok start =>
    rw [henter] at h
    cases h
    obtain ⟨_, ⟨w, t, hw, ht, rfl⟩, u, behind, hrest, rfl, hbelow⟩ := hcompletes
    cases top with
    | list =>
      cases henter
      obtain ⟨items, hitems⟩ := hrest
      exact ⟨w ++ (t ++ u), behind, by simp, hbelow, ⟨_, .first hw ⟨rfl, ht⟩ hitems⟩,
        ⟨_, .next blank_nil hw ⟨rfl, ht⟩ hitems⟩⟩
    | object =>
      obtain ⟨w₀, raw, w', hw₀, hraw, hw', rfl⟩ := skipKey_ok henter
      obtain ⟨members, hmembers⟩ := hrest
      have hmember : Member Lexical.Item (raw, t)
          (quote :: (raw ++ quote :: (w' ++ colon :: (w ++ t)))) := .mk hraw hw' hw ⟨rfl, ht⟩
      exact ⟨w₀ ++ (_ ++ u), behind, by simp, hbelow, ⟨_, .first hw₀ hmember hmembers⟩,
        ⟨_, .next blank_nil hw₀ hmember hmembers⟩⟩

/-! ### Open brackets -/

/-- What is left inside a bracket and all brackets around it, seen from behind the opening bracket
or a value. -/
lemma nextPart_ok {behindValue : Bool}
    (h : nextPart top below behindValue bytes = .ok (frames, rest))
    (hcompletes : Completes frames rest result) :
    ∃ u behind, top.Rest (!behindValue) u ∧ bytes = u ++ behind ∧ Closes below behind result := by
  induction bytes generalizing top below behindValue with
  | nil => cases h
  | cons b bytes ih =>
    rw [nextPart.eq_def] at h
    simp only at h
    split_ifs at h with hspace hcomma hclose hvalue
    · obtain ⟨u, behind, hu, rfl, hbelow⟩ := ih h
      exact ⟨b :: u, behind, hu.space hspace, rfl, hbelow⟩
    · obtain ⟨rfl, rfl⟩ := hcomma
      obtain ⟨u, behind, rfl, hbelow, -, hnext⟩ := enterPart_ok h hcompletes
      exact ⟨comma :: u, behind, hnext, rfl, hbelow⟩
    · cases below with
      | nil =>
        cases h
        exact ⟨[b], _, hclose ▸ top.rest_close _, rfl, hcompletes⟩
      | cons frame below => exact ⟨[b], bytes, hclose ▸ top.rest_close _, rfl, ih h⟩
    · obtain ⟨u, behind, heq, hbelow, hfirst, -⟩ := enterPart_ok h hcompletes
      rw [Bool.not_eq_true] at hvalue
      exact ⟨u, behind, hvalue ▸ hfirst, heq, hbelow⟩

/-- Behind an opening bracket comes the rest of a value. -/
lemma passed_of_open (h : nextPart top below false bytes = .ok (frames, rest))
    (hcompletes : Completes frames rest result) :
    ∃ behind, Passed (top.opener :: bytes) behind ∧ Closes below behind result := by
  obtain ⟨u, behind, hu, rfl, hbelow⟩ := nextPart_ok h hcompletes
  exact ⟨behind, passed_of_lexical hu.lexical behind, hbelow⟩

lemma closes_of_behind (h : behind below bytes = .ok (frames, rest))
    (hcompletes : Completes frames rest result) : Closes below bytes result := by
  cases below with
  | nil =>
    cases h
    exact hcompletes
  | cons frame below => exact nextPart_ok h hcompletes

/-! ### Rounds -/

/-- From the first byte of a value, opens a bracket or passes over a value without parts and what
closes behind it. -/
def enter (frames : List Frame) (b : UInt8) (bytes : Bytes) :
    Except Fault (List Frame × Bytes) :=
  if b = openList then nextPart .list frames false bytes
  else if b = openObject then nextPart .object frames false bytes
  else
    match skipLeaf b bytes with
    | .error fault => .error fault
    | .ok rest => behind frames rest

lemma skipParts_cons {behind : Bytes} (rounds : Bytes) (h : skipSpace bytes = b :: behind) :
    skipParts frames rounds bytes = carryOn rounds (enter frames b behind) := by
  rw [skipParts.eq_def, enter]
  simp only [h]
  split_ifs
  · rfl
  · rfl
  · cases skipLeaf b behind with
    | error fault => rfl
    | ok rest => cases frames <;> rfl

/-- What is entered is a value. -/
lemma enter_ok {frames' : List Frame} (h : enter frames b bytes = .ok (frames', rest))
    (hcompletes : Completes frames' rest result) :
    ∃ behind, Passed (b :: bytes) behind ∧ Closes frames behind result := by
  rw [enter] at h
  split_ifs at h with hlist hobject
  · exact hlist ▸ passed_of_open h hcompletes
  · exact hobject ▸ passed_of_open h hcompletes
  · split at h
    · cases h
    · rename_i after hskip
      obtain ⟨r, hr, rfl⟩ := skipLeaf_ok hskip
      exact ⟨after, passed_token hr after, closes_of_behind h hcompletes⟩

/-- Whatever is passed over, a value is entered, and what is left then is passed over in the rounds
that are left. -/
lemma skipParts_enters {rounds : Bytes} (h : skipParts frames rounds bytes = .ok result) :
    ∃ b behind frames' rest, skipSpace bytes = b :: behind ∧
      enter frames b behind = .ok (frames', rest) ∧
      (frames' = [] ∧ rest = result ∨
        ∃ frame below r rounds', frames' = frame :: below ∧ rounds = r :: rounds' ∧
          skipParts frames' rounds' rest = .ok result) := by
  cases hskip : skipSpace bytes with
  | nil =>
    rw [skipParts.eq_def] at h
    simp only [hskip] at h
    cases h
  | cons b behind =>
    rw [skipParts_cons rounds hskip] at h
    cases henter : enter frames b behind with
    | error fault =>
      rw [henter] at h
      cases h
    | ok p =>
      obtain ⟨frames', rest⟩ := p
      rw [henter] at h
      refine ⟨b, behind, frames', rest, rfl, henter, ?_⟩
      cases frames' with
      | nil =>
        cases h
        exact .inl ⟨rfl, rfl⟩
      | cons frame below =>
        cases rounds with
        | nil => cases h
        | cons r rounds => exact .inr ⟨frame, below, r, rounds, rfl, rfl, h⟩

/-- What is passed over is a value and all that the open brackets still hold. -/
lemma skipParts_ok {rounds : Bytes} (h : skipParts frames rounds bytes = .ok result) :
    ∃ behind, Passed bytes behind ∧ Closes frames behind result := by
  induction hn : rounds.length using Nat.strong_induction_on generalizing frames bytes rounds with
  | h n ih =>
    subst hn
    obtain ⟨b, after, frames', rest, hskip, henter, hcarry⟩ := skipParts_enters h
    have hcompletes : Completes frames' rest result := by
      obtain ⟨rfl, rfl⟩ | ⟨frame, below, r, rounds', rfl, rfl, hmore⟩ := hcarry
      · rfl
      · exact ih _ (Nat.lt_succ_self _) hmore rfl
    obtain ⟨behind, hpassed, hcloses⟩ := enter_ok henter hcompletes
    exact ⟨behind, passed_of_skipSpace (hskip ▸ hpassed), hcloses⟩

/-- What is passed over is a value. -/
theorem passed_of_skipValue (h : skipValue bytes = .ok rest) : Passed bytes rest := by
  obtain ⟨_, hpassed, rfl⟩ := skipParts_ok h
  exact hpassed

/-! ### Own texts -/

/-- Behind the white space in front there is the value. -/
lemma skipSpace_eq_of_passed (h : Passed (skipSpace bytes) rest) :
    ∃ t, Lexical t ∧ skipSpace bytes = t ++ rest := by
  obtain ⟨w, t, hw, ht, heq⟩ := h
  obtain ⟨b, r, rfl, hspace, -⟩ := ht.starts
  refine ⟨b :: r, ht, ?_⟩
  calc skipSpace bytes = skipSpace (skipSpace bytes) := (skipSpace_skipSpace bytes).symm
    _ = skipSpace (w ++ b :: (r ++ rest)) := by rw [heq, List.cons_append]
    _ = b :: r ++ rest := skipSpace_blank hw hspace _

/-- The own text of a value that is read is lexical and UTF-8, and it is what has been taken. -/
lemma readRaw_ok {raw : Bytes} (h : readRaw bytes = .ok (raw, rest)) :
    Lexical raw ∧ (Utf8.scan [] raw).2 = [] ∧ ∃ w, Blank w ∧ bytes = w ++ (raw ++ rest) := by
  obtain ⟨w, hw, hbytes⟩ := exists_blank_skipSpace bytes
  rw [readRaw] at h
  simp only at h
  split at h
  · cases h
  · rename_i behind hskip
    obtain ⟨t, ht, heq⟩ := skipSpace_eq_of_passed (passed_of_skipValue hskip)
    have htake : (t ++ behind).take ((t ++ behind).length - behind.length) = t := by
      rw [List.length_append, Nat.add_sub_cancel, List.take_left']
      rfl
    rw [heq, htake] at h
    split at h
    · rename_i seen hscan
      cases h
      exact ⟨ht, by rw [hscan], w, hw, heq ▸ hbytes⟩
    · cases h

end PodAdmission.Reader

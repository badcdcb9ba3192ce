import Mathlib.Data.List.TakeWhile
import PodAdmission.Proofs.Json.Outline

/-!
# What readers of values without parts take

A reader that succeeds has taken a word, a numeral or the content of a text, and nothing behind it.
The readers that pass over values without looking into them take the same.
-/

namespace PodAdmission.Reader

open Ascii Json

variable {negative : Bool} {value significand : Nat} {exp : Int} {x : Number}
  {bytes behind rest : Bytes} {b : UInt8}

lemma map_ok {α β : Type} {r : Read α} {f : α → β} {made : β}
    (h : (r.map fun (a, rest) => (f a, rest)) = .ok (made, rest)) :
    ∃ a, r = .ok (a, rest) ∧ made = f a := by
  cases r with
  | error fault => cases h
  | ok p =>
    obtain ⟨rfl, rfl⟩ := Prod.mk.inj (Except.ok.inj h)
    exact ⟨_, rfl, rfl⟩

/-- What is read of a word is the word. -/
lemma readWord_ok {word : Bytes} (h : readWord word bytes = .ok rest) : bytes = word ++ rest := by
  induction word generalizing bytes with
  | nil =>
    cases h
    rfl
  | cons w word ih =>
    cases bytes with
    | nil => cases h
    | cons b bytes =>
      rw [readWord] at h
      split_ifs at h with hb
      rw [hb, ih h, List.cons_append]

/-! ### Runs of digits -/

lemma exists_run_dropWhile (bytes : Bytes) :
    ∃ ds, IsRun ds ∧ bytes = ds ++ bytes.dropWhile isDigit :=
  ⟨_, fun _ => List.mem_takeWhile_imp, (List.takeWhile_append_dropWhile).symm⟩

lemma exists_run_takeDigits (value count : Nat) (bytes : Bytes) :
    ∃ ds, IsRun ds ∧ bytes = ds ++ (takeDigits value count bytes).2.2 := by
  induction bytes generalizing value count with
  | nil => exact ⟨[], by simp [IsRun], rfl⟩
  | cons b bytes ih =>
    rw [takeDigits]
    split_ifs with hb
    · obtain ⟨ds, hds, heq⟩ := ih (value * 10 + digitValue b) (count + 1)
      rw [Bool.and_eq_true] at hb
      exact ⟨b :: ds, isRun_cons.2 ⟨hb.1, hds⟩, congrArg (b :: ·) heq⟩
    · exact ⟨[], by simp [IsRun], rfl⟩

/-- Digits that are taken are digits. -/
lemma dropWhile_takeDigits (value count : Nat) (bytes : Bytes) :
    (takeDigits value count bytes).2.2.dropWhile isDigit = bytes.dropWhile isDigit := by
  obtain ⟨ds, hds, heq⟩ := exists_run_takeDigits value count bytes
  conv_rhs => rw [heq, List.dropWhile_append_of_pos hds]

lemma exists_run_countDigits (count : Nat) (bytes : Bytes) :
    ∃ ds, IsRun ds ∧ bytes = ds ++ (countDigits count bytes).2 := by
  induction bytes generalizing count with
  | nil => exact ⟨[], by simp [IsRun], rfl⟩
  | cons b bytes ih =>
    rw [countDigits]
    split_ifs with hb
    · obtain ⟨ds, hds, heq⟩ := ih (count + 1)
      exact ⟨b :: ds, isRun_cons.2 ⟨hb, hds⟩, congrArg (b :: ·) heq⟩
    · exact ⟨[], by simp [IsRun], rfl⟩

lemma exists_run_takeExponent (value : Nat) (bytes : Bytes) :
    ∃ ds, IsRun ds ∧ bytes = ds ++ (takeExponent value bytes).2 := by
  induction bytes generalizing value with
  | nil => exact ⟨[], by simp [IsRun], rfl⟩
  | cons b bytes ih =>
    rw [takeExponent]
    split_ifs with hb hfit
    · obtain ⟨ds, hds, heq⟩ := ih (value * 10 + digitValue b)
      exact ⟨b :: ds, isRun_cons.2 ⟨hb, hds⟩, congrArg (b :: ·) heq⟩
    · exact ⟨[b], isRun_cons.2 ⟨hb, by simp [IsRun]⟩, rfl⟩
    · exact ⟨[], by simp [IsRun], rfl⟩

lemma isRun_append {ds es : Bytes} (hd : IsRun ds) (he : IsRun es) : IsRun (ds ++ es) :=
  fun b hb => (List.mem_append.1 hb).elim (hd b) (he b)

/-! ### Numbers -/

/-- An exponent behind its letter. -/
def Scale (t : Bytes) : Prop :=
  ∃ s d ds, Sign s ∧ IsRun (d :: ds) ∧ t = s ++ d :: ds

/-- What may follow the whole digits that have been taken: more of them, a fraction and an
exponent. -/
def Tail (t : Bytes) : Prop :=
  ∃ ds f e, IsRun ds ∧ Fraction f ∧ Exponent e ∧ t = ds ++ (f ++ e)

lemma Scale.exponent {l : UInt8} {t : Bytes} (hl : l = lowerE ∨ l = upperE) (h : Scale t) :
    Exponent (l :: t) := by
  obtain ⟨s, d, ds, hs, hd, rfl⟩ := h
  exact .some hl hs hd

lemma finishReal_ok (h : finishReal negative significand exp behind = .ok (x, rest)) :
    behind = rest := by
  rw [finishReal] at h
  split at h
  · cases h
    rfl
  · cases h

lemma finishWhole_ok (h : finishWhole negative value behind = .ok (x, rest)) :
    behind = rest := by
  rw [finishWhole] at h
  split_ifs at h
  · exact finishReal_ok h
  · cases h
    rfl
  · cases h
    rfl

/-- The digits of an exponent. -/
lemma readExponent_digits {d : UInt8} {down : Bool}
    (h : (match takeExponent (digitValue d) bytes with
      | (some e, rest) => finishReal negative significand (if down then exp - e else exp + e) rest
      | (none, rest) =>
        if significand ≠ 0 ∧ down = false then .error (.here .numberOutOfRange rest)
        else .ok (.real (.zero negative), rest.dropWhile isDigit)) = .ok (x, rest)) :
    ∃ ds, IsRun ds ∧ bytes = ds ++ rest := by
  obtain ⟨ds, hds, heq⟩ := exists_run_takeExponent (digitValue d) bytes
  split at h
  · rename_i e behind htake
    rw [htake] at heq
    exact ⟨ds, hds, finishReal_ok h ▸ heq⟩
  · rename_i behind htake
    rw [htake] at heq
    split_ifs at h
    obtain ⟨es, hes, hbehind⟩ := exists_run_dropWhile behind
    cases h
    refine ⟨ds ++ es, isRun_append hds hes, ?_⟩
    rw [List.append_assoc, ← hbehind]
    exact heq

lemma readExponent_ok (h : readExponent negative significand exp bytes = .ok (x, rest)) :
    ∃ t, Scale t ∧ bytes = t ++ rest := by
  unfold readExponent at h
  split at h
  rename_i down behind hbehind
  have hsign : ∃ s, Sign s ∧ bytes = s ++ behind := by
    cases bytes with
    | nil =>
      obtain ⟨-, rfl⟩ := Prod.mk.inj hbehind
      exact ⟨[], .none, rfl⟩
    | cons b bytes =>
      simp only at hbehind
      split_ifs at hbehind with hplus hminus
      · obtain ⟨-, rfl⟩ := Prod.mk.inj hbehind
        exact ⟨[b], hplus ▸ .plus, rfl⟩
      · obtain ⟨-, rfl⟩ := Prod.mk.inj hbehind
        exact ⟨[b], hminus ▸ .minus, rfl⟩
      · obtain ⟨-, rfl⟩ := Prod.mk.inj hbehind
        exact ⟨[], .none, rfl⟩
  obtain ⟨s, hs, rfl⟩ := hsign
  cases behind with
  | nil => cases h
  | cons d behind =>
    by_cases hd : isDigit d = true
    · simp only [if_pos hd] at h
      obtain ⟨ds, hds, rfl⟩ := readExponent_digits h
      exact ⟨s ++ d :: ds, ⟨s, d, ds, hs, isRun_cons.2 ⟨hd, hds⟩, rfl⟩, by simp⟩
    · simp only [if_neg hd] at h
      cases h

lemma readScale_ok (h : readScale negative significand exp bytes = .ok (x, rest)) :
    ∃ e, Exponent e ∧ bytes = e ++ rest := by
  cases bytes with
  | nil => exact ⟨[], .none, finishReal_ok h⟩
  | cons b bytes =>
    rw [readScale] at h
    split_ifs at h with hb
    · obtain ⟨t, ht, rfl⟩ := readExponent_ok h
      exact ⟨b :: t, ht.exponent hb, rfl⟩
    · exact ⟨[], .none, finishReal_ok h⟩

lemma readFraction_ok (h : readFraction negative significand exp bytes = .ok (x, rest)) :
    ∃ f e, Fraction (point :: f) ∧ Exponent e ∧ bytes = f ++ (e ++ rest) := by
  cases bytes with
  | nil => cases h
  | cons b bytes =>
    rw [readFraction] at h
    split_ifs at h with hb
    obtain ⟨ds, hds, hbytes⟩ := exists_run_dropWhile bytes
    have hdrop := dropWhile_takeDigits significand 0 (b :: bytes)
    rw [List.dropWhile_cons_of_pos hb] at hdrop
    generalize takeDigits significand 0 (b :: bytes) = taken at h hdrop
    obtain ⟨e, he, hrest⟩ := readScale_ok h
    refine ⟨b :: ds, e, .some (isRun_cons.2 ⟨hb, hds⟩), he, ?_⟩
    rw [List.cons_append, ← hrest, hdrop, ← hbytes]

/-- What may follow the whole digits that have been taken. -/
lemma readTail_ok (h : readTail negative value bytes = .ok (x, rest)) :
    ∃ t, Tail t ∧ bytes = t ++ rest := by
  have hnone : IsRun [] := by simp [IsRun]
  cases bytes with
  | nil => exact ⟨[], ⟨[], [], [], hnone, .none, .none, rfl⟩, finishWhole_ok h⟩
  | cons b bytes =>
    rw [readTail] at h
    split_ifs at h with hpoint hexp hdigit
    · obtain ⟨f, e, hf, he, rfl⟩ := readFraction_ok h
      exact ⟨point :: (f ++ e), ⟨[], point :: f, e, hnone, hf, he, rfl⟩, by simp [hpoint]⟩
    · obtain ⟨t, ht, rfl⟩ := readExponent_ok h
      exact ⟨b :: t, ⟨[], [], b :: t, hnone, .none, ht.exponent hexp, rfl⟩, rfl⟩
    · obtain ⟨ds, hds, hbytes⟩ := exists_run_countDigits 0 (b :: bytes)
      rw [hbytes]
      generalize countDigits 0 (b :: bytes) = counted at h
      obtain ⟨extra, after⟩ := counted
      cases after with
      | nil =>
        obtain ⟨e, he, hrest⟩ := readScale_ok h
        exact ⟨ds ++ e, ⟨ds, [], e, hds, .none, he, rfl⟩, by simp [hrest]⟩
      | cons c after =>
        simp only at h
        split_ifs at h with hpoint
        · obtain ⟨f, e, hf, he, rfl⟩ := readFraction_ok h
          exact ⟨ds ++ (point :: f ++ e), ⟨ds, point :: f, e, hds, hf, he, rfl⟩, by simp [hpoint]⟩
        · obtain ⟨e, he, hrest⟩ := readScale_ok h
          exact ⟨ds ++ e, ⟨ds, [], e, hds, .none, he, rfl⟩, by simp [hrest]⟩
    · exact ⟨[], ⟨[], [], [], hnone, .none, .none, rfl⟩, finishWhole_ok h⟩

/-- Whole digits and what may follow them make a numeral. -/
lemma Tail.numeral {ds t : Bytes} (hds : IsRun (b :: ds)) (hb : b ≠ zero) (h : Tail t) :
    Numeral (b :: (ds ++ t)) := by
  obtain ⟨es, f, e, hes, hf, he, rfl⟩ := h
  have hrun : IsRun (b :: (ds ++ es)) := isRun_append hds hes
  have hnumeral := Numeral.mk (.run hb hrun) hf he
  simpa using hnumeral

/-- A zero and what may follow it make a numeral, unless that is another digit. -/
lemma Tail.numeral_zero {t : Bytes} (h : Tail t) (hdigit : Undigited (t ++ rest)) :
    Numeral (zero :: t) := by
  obtain ⟨es, f, e, hes, hf, he, rfl⟩ := h
  cases es with
  | nil =>
    have hnumeral := Numeral.mk .zero hf he
    simpa using hnumeral
  | cons d es =>
    have hd := hdigit d _ rfl
    rw [(isRun_cons.1 hes).1] at hd
    cases hd

/-- What is read of a number is a numeral. -/
lemma readNumber_ok (h : readNumber negative bytes = .ok (x, rest)) :
    ∃ t, Numeral t ∧ bytes = t ++ rest := by
  cases bytes with
  | nil => cases h
  | cons b bytes =>
    rw [readNumber.eq_def] at h
    simp only at h
    split_ifs at h with hzero hdigit
    · have hundigited : Undigited bytes := by
        rintro c r rfl
        simp only at h
        split_ifs at h with hc
        exact Bool.eq_false_iff.2 hc
      obtain ⟨t, ht, rfl⟩ : ∃ t, Tail t ∧ bytes = t ++ rest := by
        cases bytes with
        | nil => exact readTail_ok h
        | cons c bytes =>
          simp only at h
          split_ifs at h
          exact readTail_ok h
      exact ⟨b :: t, hzero ▸ ht.numeral_zero hundigited, rfl⟩
    · obtain ⟨ds, hds, hbytes⟩ := exists_run_takeDigits (digitValue b) 1 bytes
      obtain ⟨t, ht, hrest⟩ := readTail_ok h
      refine ⟨b :: (ds ++ t), ht.numeral (isRun_cons.2 ⟨hdigit, hds⟩) hzero, ?_⟩
      rw [hbytes, hrest]
      simp

/-! ### Numbers passed over -/

lemma skipExponent_digits
    (h : (match behind with
      | b :: rest =>
        if isDigit b then .ok (rest.dropWhile isDigit) else .error (.here .malformedNumber rest)
      | [] => .error (.here .malformedNumber [])) = (.ok rest : Except Fault Bytes)) :
    ∃ d ds, IsRun (d :: ds) ∧ behind = d :: ds ++ rest := by
  cases behind with
  | nil => cases h
  | cons d behind =>
    simp only at h
    split_ifs at h with hd
    obtain ⟨ds, hds, hbehind⟩ := exists_run_dropWhile behind
    cases h
    exact ⟨d, ds, isRun_cons.2 ⟨hd, hds⟩, congrArg (d :: ·) hbehind⟩

lemma skipExponent_ok (h : skipExponent bytes = .ok rest) : ∃ t, Scale t ∧ bytes = t ++ rest := by
  have hsign : ∃ s behind, Sign s ∧ bytes = s ++ behind ∧ ∃ d ds, IsRun (d :: ds) ∧
      behind = d :: ds ++ rest := by
    cases bytes with
    | nil => exact ⟨[], [], .none, rfl, skipExponent_digits h⟩
    | cons b bytes =>
      by_cases hsign : b = plus ∨ b = minus
      · simp only [skipExponent, if_pos hsign] at h
        refine ⟨[b], bytes, ?_, rfl, skipExponent_digits h⟩
        rcases hsign with rfl | rfl
        · exact .plus
        · exact .minus
      · simp only [skipExponent, if_neg hsign] at h
        exact ⟨[], b :: bytes, .none, rfl, skipExponent_digits h⟩
  obtain ⟨s, _, hs, rfl, d, ds, hd, rfl⟩ := hsign
  exact ⟨s ++ d :: ds, ⟨s, d, ds, hs, hd, rfl⟩, by simp⟩

lemma skipScale_ok (h : skipScale bytes = .ok rest) : ∃ e, Exponent e ∧ bytes = e ++ rest := by
  cases bytes with
  | nil =>
    cases h
    exact ⟨[], .none, rfl⟩
  | cons b bytes =>
    rw [skipScale] at h
    split_ifs at h with hb
    · obtain ⟨t, ht, rfl⟩ := skipExponent_ok h
      exact ⟨b :: t, ht.exponent hb, rfl⟩
    · cases h
      exact ⟨[], .none, rfl⟩

lemma skipFraction_ok (h : skipFraction bytes = .ok rest) :
    ∃ f e, Fraction (point :: f) ∧ Exponent e ∧ bytes = f ++ (e ++ rest) := by
  cases bytes with
  | nil => cases h
  | cons b bytes =>
    rw [skipFraction] at h
    split_ifs at h with hb
    obtain ⟨ds, hds, hbytes⟩ := exists_run_dropWhile bytes
    obtain ⟨e, he, hrest⟩ := skipScale_ok h
    refine ⟨b :: ds, e, .some (isRun_cons.2 ⟨hb, hds⟩), he, ?_⟩
    rw [List.cons_append, ← hrest, ← hbytes]

lemma skipTail_ok (h : skipTail bytes = .ok rest) : ∃ t, Tail t ∧ bytes = t ++ rest := by
  have hnone : IsRun [] := by simp [IsRun]
  cases bytes with
  | nil =>
    cases h
    exact ⟨[], ⟨[], [], [], hnone, .none, .none, rfl⟩, rfl⟩
  | cons b bytes =>
    rw [skipTail] at h
    split_ifs at h with hpoint
    · obtain ⟨f, e, hf, he, rfl⟩ := skipFraction_ok h
      exact ⟨point :: (f ++ e), ⟨[], point :: f, e, hnone, hf, he, rfl⟩, by simp [hpoint]⟩
    · obtain ⟨e, he, hrest⟩ := skipScale_ok h
      exact ⟨e, ⟨[], [], e, hnone, .none, he, rfl⟩, hrest⟩

/-- What is passed over of a number is a numeral. -/
lemma skipNumber_ok (h : skipNumber bytes = .ok rest) : ∃ t, Numeral t ∧ bytes = t ++ rest := by
  cases bytes with
  | nil => cases h
  | cons b bytes =>
    rw [skipNumber.eq_def] at h
    simp only at h
    split_ifs at h with hzero hdigit
    · have hundigited : Undigited bytes := by
        rintro c r rfl
        simp only at h
        split_ifs at h with hc
        exact Bool.eq_false_iff.2 hc
      obtain ⟨t, ht, rfl⟩ : ∃ t, Tail t ∧ bytes = t ++ rest := by
        cases bytes with
        | nil => exact skipTail_ok h
        | cons c bytes =>
          simp only at h
          split_ifs at h
          exact skipTail_ok h
      exact ⟨b :: t, hzero ▸ ht.numeral_zero hundigited, rfl⟩
    · obtain ⟨ds, hds, hbytes⟩ := exists_run_dropWhile bytes
      obtain ⟨t, ht, hrest⟩ := skipTail_ok h
      refine ⟨b :: (ds ++ t), ht.numeral (isRun_cons.2 ⟨hdigit, hds⟩) hzero, ?_⟩
      rw [hbytes, hrest]
      simp

/-! ### Texts -/

/-- An escape behind its backslash may stand in front of any content. -/
def Escape (e : Bytes) : Prop :=
  ∀ raw, Content raw → Content (backslash :: (e ++ raw))

lemma readQuad_ok {n : Nat} (h : readQuad bytes = .ok (n, rest)) :
    ∃ i j k l, hexQuad? i j k l = some n ∧ bytes = i :: j :: k :: l :: rest := by
  rw [readQuad.eq_def] at h
  split at h
  · rename_i i j k l bytes
    split at h
    · rename_i m hm
      cases h
      exact ⟨i, j, k, l, hm, rfl⟩
    · cases h
  · cases h

lemma readJoint_ok {wanted : UInt8} (h : readJoint wanted bytes = .ok rest) :
    bytes = wanted :: rest := by
  cases bytes with
  | nil => cases h
  | cons b bytes =>
    rw [readJoint] at h
    split_ifs at h with hb
    cases h
    rw [hb]

lemma readLowSurrogate_ok {n : Nat} (h : readLowSurrogate bytes = .ok (n, rest)) :
    ∃ i j k l, (hexQuad? i j k l).isSome = true ∧
      bytes = backslash :: lowerU :: i :: j :: k :: l :: rest := by
  rw [readLowSurrogate] at h
  cases hescape : readJoint backslash bytes with
  | error fault =>
    rw [hescape] at h
    cases h
  | ok behind =>
    rw [hescape, Except.bind] at h
    split at h
    · cases h
    · rename_i after hletter
      split at h
      · cases h
      · rename_i low behind hquad
        split_ifs at h
        cases h
        obtain ⟨i, j, k, l, hvalue, rfl⟩ := readQuad_ok hquad
        refine ⟨i, j, k, l, by rw [hvalue]; rfl, ?_⟩
        rw [readJoint_ok hescape, readJoint_ok hletter]

lemma readCodePoint_ok {c : Char} (h : readCodePoint bytes = .ok (c, rest)) :
    ∃ e, Escape (lowerU :: e) ∧ bytes = e ++ rest := by
  rw [readCodePoint] at h
  split at h
  · cases h
  · rename_i n behind hquad
    obtain ⟨i, j, k, l, hvalue, rfl⟩ := readQuad_ok hquad
    have hsome : (hexQuad? i j k l).isSome = true := by
      rw [hvalue]
      rfl
    split_ifs at h
    · obtain ⟨low, hlow, -⟩ := map_ok h
      obtain ⟨i', j', k', l', hsome', rfl⟩ := readLowSurrogate_ok hlow
      exact ⟨[i, j, k, l, backslash, lowerU, i', j', k', l'],
        fun raw hraw => .code hsome (.code hsome' hraw), rfl⟩
    · obtain ⟨-, rfl⟩ := Prod.mk.inj (Except.ok.inj h)
      exact ⟨[i, j, k, l], fun raw hraw => .code hsome hraw, rfl⟩

lemma readEscape_ok {unescaped : Bytes} (h : readEscape bytes = .ok (unescaped, rest)) :
    ∃ e, Escape e ∧ bytes = e ++ rest := by
  cases bytes with
  | nil => cases h
  | cons b bytes =>
    rw [readEscape] at h
    split at h
    · rename_i c hc
      cases h
      exact ⟨[b], fun raw hraw => .letter (by rw [hc]; rfl) hraw, rfl⟩
    · split_ifs at h with hb
      obtain ⟨c, hcode, -⟩ := map_ok h
      obtain ⟨e, he, rfl⟩ := readCodePoint_ok hcode
      exact ⟨b :: e, hb ▸ he, rfl⟩

lemma readContent_ok {seen rounds content : Bytes}
    (h : readContent seen rounds bytes = .ok (content, rest)) :
    ∃ raw, Content raw ∧ bytes = raw ++ quote :: rest := by
  induction rounds generalizing seen bytes with
  | nil =>
    cases bytes with
    | nil => cases h
    | cons b bytes =>
      rw [readContent.eq_def] at h
      simp only at h
      split_ifs at h with hquote
      cases h
      exact ⟨[], .nil, by rw [hquote]; rfl⟩
  | cons r rounds ih =>
    cases bytes with
    | nil => cases h
    | cons b bytes =>
      rw [readContent.eq_def] at h
      simp only at h
      split_ifs at h with hquote hcontrol hescape
      · cases h
        exact ⟨[], .nil, by rw [hquote]; rfl⟩
      · split at h
        · cases h
        · rename_i unescaped behind hread
          obtain ⟨e, he, rfl⟩ := readEscape_ok hread
          obtain ⟨raw, hraw, rfl⟩ := ih h
          exact ⟨b :: (e ++ raw), hescape ▸ he raw hraw, by simp⟩
      · obtain ⟨raw, hraw, rfl⟩ := ih h
        exact ⟨b :: raw, .plain hquote hescape hcontrol hraw, rfl⟩

/-- What is read of a text is a content and its closing quote. -/
lemma readText_ok {s : String} (h : readText bytes = .ok (s, rest)) :
    ∃ raw, Content raw ∧ bytes = raw ++ quote :: rest := by
  rw [readText] at h
  split at h
  · cases h
  · rename_i content behind hcontent
    split at h
    · cases h
      exact readContent_ok hcontent
    · cases h

/-- What is passed over of a text is a content and its closing quote. -/
lemma skipContent_ok (h : skipContent bytes = .ok rest) :
    ∃ raw, Content raw ∧ bytes = raw ++ quote :: rest := by
  induction hn : bytes.length using Nat.strong_induction_on generalizing bytes with
  | h n ih =>
    subst hn
    cases bytes with
    | nil => cases h
    | cons b bytes =>
      rw [skipContent.eq_def] at h
      simp only at h
      split_ifs at h with hquote hescape hcontrol
      · cases h
        exact ⟨[], .nil, by rw [hquote]; rfl⟩
      · cases bytes with
        | nil => cases h
        | cons e bytes =>
          simp only at h
          split_ifs at h with he hcode
          · obtain ⟨raw, hraw, rfl⟩ := ih _ (by simp only [List.length_cons]; omega) h rfl
            exact ⟨b :: e :: raw, hescape ▸ .letter he hraw, rfl⟩
          · split at h
            · rename_i i j k l bytes
              split_ifs at h with hquad
              obtain ⟨raw, hraw, rfl⟩ := ih _ (by simp only [List.length_cons]; omega) h rfl
              exact ⟨b :: e :: i :: j :: k :: l :: raw, hescape ▸ hcode ▸ .code hquad hraw, rfl⟩
            · cases h
      · obtain ⟨raw, hraw, rfl⟩ := ih _ (Nat.lt_succ_self _) h rfl
        exact ⟨b :: raw, .plain hquote hescape hcontrol hraw, rfl⟩

/-! ### Values without parts -/

lemma token_of_readWord {word : Bytes} {v w : Json} (ht : Token (b :: word))
    (h : (readWord word bytes).map (fun r => (w, r)) = .ok (v, rest)) :
    ∃ r, Token (b :: r) ∧ bytes = r ++ rest := by
  cases hread : readWord word bytes with
  | error fault =>
    rw [hread] at h
    cases h
  | ok behind =>
    rw [hread] at h
    obtain ⟨-, rfl⟩ := Prod.mk.inj (Except.ok.inj h)
    exact ⟨word, ht, readWord_ok hread⟩

/-- What is read of a value without parts is one. -/
lemma readLeaf_ok {v : Json} (h : readLeaf b bytes = .ok (v, rest)) :
    ∃ r, Token (b :: r) ∧ bytes = r ++ rest := by
  rw [readLeaf] at h
  split_ifs at h with hn ht hf hminus hdigit hquote
  · exact token_of_readWord (hn ▸ .null) h
  · exact token_of_readWord (ht ▸ .yes) h
  · exact token_of_readWord (hf ▸ .no) h
  · obtain ⟨n, h, -⟩ := map_ok h
    obtain ⟨t, ht, rfl⟩ := readNumber_ok h
    exact ⟨t, hminus ▸ .negative ht, rfl⟩
  · obtain ⟨n, h, -⟩ := map_ok h
    obtain ⟨t, ht, heq⟩ := readNumber_ok h
    obtain ⟨_, r, rfl, -⟩ := numeral_eq_cons ht
    obtain ⟨rfl, rfl⟩ := List.cons.inj heq
    exact ⟨r, .number ht, rfl⟩
  · obtain ⟨s, h, -⟩ := map_ok h
    obtain ⟨raw, hraw, rfl⟩ := readText_ok h
    exact ⟨raw ++ [quote], hquote ▸ .text hraw, by simp⟩

/-- What is passed over of a value without parts is one. -/
lemma skipLeaf_ok (h : skipLeaf b bytes = .ok rest) : ∃ r, Token (b :: r) ∧ bytes = r ++ rest := by
  rw [skipLeaf] at h
  split_ifs at h with hn ht hf hminus hdigit hquote
  · exact ⟨_, hn ▸ .null, readWord_ok h⟩
  · exact ⟨_, ht ▸ .yes, readWord_ok h⟩
  · exact ⟨_, hf ▸ .no, readWord_ok h⟩
  · obtain ⟨t, ht, rfl⟩ := skipNumber_ok h
    exact ⟨t, hminus ▸ .negative ht, rfl⟩
  · obtain ⟨t, ht, heq⟩ := skipNumber_ok h
    obtain ⟨_, r, rfl, -⟩ := numeral_eq_cons ht
    obtain ⟨rfl, rfl⟩ := List.cons.inj heq
    exact ⟨r, .number ht, rfl⟩
  · obtain ⟨raw, hraw, rfl⟩ := skipContent_ok h
    exact ⟨raw ++ [quote], hquote ▸ .text hraw, by simp⟩

end PodAdmission.Reader

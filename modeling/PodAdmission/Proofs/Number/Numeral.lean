import PodAdmission.Json.Reader.Skip
import PodAdmission.Json.Writer
import Mathlib.Tactic.Ring

/-!
# Numerals

The text of a number has whole digits without a leading zero, and may have a fraction and a signed
exponent. What a reader makes of a numeral does not depend on what follows, as long as that does
not continue the numeral, and a reader that passes over it stops just behind it.
-/

namespace PodAdmission

open Ascii

/-- What may follow a number: not a byte that could belong to it. -/
def Delimited (rest : Bytes) : Prop :=
  ∀ b r, rest = b :: r → isDigit b = false ∧ b ≠ point ∧ b ≠ lowerE ∧ b ≠ upperE

/-- What does not continue a run of digits. -/
def Undigited (rest : Bytes) : Prop :=
  ∀ b r, rest = b :: r → isDigit b = false

/-- A run of digits. -/
def IsRun (ds : Bytes) : Prop :=
  ∀ b ∈ ds, isDigit b = true

lemma delimited_nil : Delimited [] := by
  intro b r h
  cases h

lemma Delimited.undigited {rest : Bytes} (h : Delimited rest) : Undigited rest :=
  fun b r hr => (h b r hr).1

lemma isRun_cons {d : UInt8} {ds : Bytes} : IsRun (d :: ds) ↔ isDigit d = true ∧ IsRun ds := by
  simp [IsRun]

/-! ### The parts of a numeral -/

/-- Whole digits: a zero alone, or digits of which the first is none. -/
inductive Whole : Bytes → Prop where
  | zero : Whole [zero]
  | run {d : UInt8} {ds : Bytes} (h : d ≠ Ascii.zero) (hd : IsRun (d :: ds)) : Whole (d :: ds)

/-- No fraction, or a point and digits. -/
inductive Fraction : Bytes → Prop where
  | none : Fraction []
  | some {d : UInt8} {ds : Bytes} (h : IsRun (d :: ds)) : Fraction (point :: d :: ds)

/-- No sign, or one of the two. -/
inductive Sign : Bytes → Prop where
  | none : Sign []
  | plus : Sign [plus]
  | minus : Sign [minus]

/-- No exponent, or the letter, a sign and digits. -/
inductive Exponent : Bytes → Prop where
  | none : Exponent []
  | some {l d : UInt8} {s ds : Bytes} (hl : l = lowerE ∨ l = upperE) (hs : Sign s)
      (h : IsRun (d :: ds)) : Exponent (l :: (s ++ d :: ds))

/-- The text of a number behind its sign. -/
inductive Numeral : Bytes → Prop where
  | mk {w f e : Bytes} (hw : Whole w) (hf : Fraction f) (he : Exponent e) : Numeral (w ++ f ++ e)

lemma Exponent.undigited_append {e rest : Bytes} (he : Exponent e) (h : Delimited rest) :
    Undigited (e ++ rest) := by
  cases he with
  | none => exact h.undigited
  | some hl hs hd =>
    rintro b r ⟨⟩
    rcases hl with rfl | rfl <;> decide

/-- What follows the digits of a number without a fraction does not start with a point. -/
lemma Exponent.ne_point {e rest : Bytes} (he : Exponent e) (h : Delimited rest) {b : UInt8}
    {r : Bytes} (hr : e ++ rest = b :: r) : b ≠ point := by
  cases he with
  | none => exact (h b r hr).2.1
  | some hl hs hd =>
    obtain ⟨rfl, -⟩ := List.cons.inj hr
    rcases hl with rfl | rfl <;> decide

lemma Fraction.undigited_append {f e rest : Bytes} (hf : Fraction f) (he : Exponent e)
    (h : Delimited rest) : Undigited (f ++ (e ++ rest)) := by
  cases hf with
  | none => exact he.undigited_append h
  | some hd =>
    rintro b r ⟨⟩
    decide

namespace Reader

/-! ### Runs of digits -/

lemma dropWhile_isDigit {ds rest : Bytes} (hd : IsRun ds) (h : Undigited rest) :
    (ds ++ rest).dropWhile isDigit = rest := by
  rw [List.dropWhile_append_of_pos hd]
  cases rest with
  | nil => rfl
  | cons b r => simp [h b r rfl]

lemma countDigits_append {ds rest : Bytes} (hd : IsRun ds) (h : Undigited rest) (n : Nat) :
    countDigits n (ds ++ rest) = (n + ds.length, rest) := by
  induction ds generalizing n with
  | nil =>
    cases rest with
    | nil => rfl
    | cons b r => simp [countDigits, h b r rfl]
  | cons d ds ih =>
    obtain ⟨hd, hds⟩ := isRun_cons.1 hd
    rw [List.cons_append, countDigits, if_pos hd, ih hds]
    simp only [List.length_cons, Prod.mk.injEq, and_true]
    omega

/-- Digits are taken from a run as if nothing followed it; what is left of it are digits. -/
lemma takeDigits_append {ds : Bytes} (hd : IsRun ds) (v c : Nat) :
    ∃ v' c' ds', IsRun ds' ∧
      ∀ rest, Undigited rest → takeDigits v c (ds ++ rest) = (v', c', ds' ++ rest) := by
  induction ds generalizing v c with
  | nil =>
    refine ⟨v, c, [], hd, ?_⟩
    intro rest h
    cases rest with
    | nil => rfl
    | cons b r => simp [takeDigits, h b r rfl]
  | cons d ds ih =>
    obtain ⟨hdigit, hds⟩ := isRun_cons.1 hd
    by_cases hfit : v * 10 + digitValue d < 0x10000000000000000
    · obtain ⟨v', c', ds', hrun, htake⟩ := ih hds (v * 10 + digitValue d) (c + 1)
      refine ⟨v', c', ds', hrun, ?_⟩
      intro rest h
      rw [List.cons_append, takeDigits, if_pos (by simp [hdigit, hfit]), htake rest h]
    · refine ⟨v, c, d :: ds, hd, ?_⟩
      intro rest h
      rw [List.cons_append, takeDigits, if_neg (by simp [hdigit, hfit])]

lemma takeExponent_append {ds : Bytes} (hd : IsRun ds) (v : Nat) :
    ∃ v' ds', IsRun ds' ∧ (∀ n, v' = some n → ds' = []) ∧
      ∀ rest, Undigited rest → takeExponent v (ds ++ rest) = (v', ds' ++ rest) := by
  induction ds generalizing v with
  | nil =>
    refine ⟨some v, [], hd, fun _ _ => rfl, ?_⟩
    intro rest h
    cases rest with
    | nil => rfl
    | cons b r => simp [takeExponent, h b r rfl]
  | cons d ds ih =>
    obtain ⟨hdigit, hds⟩ := isRun_cons.1 hd
    by_cases hfit : v * 10 + digitValue d < 0x80000000
    · obtain ⟨v', ds', hrun, hnone, htake⟩ := ih hds (v * 10 + digitValue d)
      refine ⟨v', ds', hrun, hnone, ?_⟩
      intro rest h
      rw [List.cons_append, takeExponent, if_pos hdigit, if_pos hfit, htake rest h]
    · refine ⟨none, ds, hds, by simp, ?_⟩
      intro rest h
      rw [List.cons_append, takeExponent, if_pos hdigit, if_neg hfit]

/-! ### Reading -/

/-- The reader takes just this text, and what it makes of it does not depend on what follows. -/
def Takes (read : Bytes → Read Number) (t : Bytes) : Prop :=
  ∃ o : Option Number, ∀ rest, Delimited rest →
    (read (t ++ rest)).toOption = o.map fun n => (n, rest)

lemma takes_finishReal (negative : Bool) (significand : Nat) (exponent : Int) :
    Takes (finishReal negative significand exponent) [] := by
  refine ⟨(Binary64.ofDecimal? negative significand exponent).map .real, ?_⟩
  intro rest _
  rw [List.nil_append, finishReal]
  cases Binary64.ofDecimal? negative significand exponent <;> rfl

lemma takes_finishWhole (negative : Bool) (value : Nat) :
    Takes (finishWhole negative value) [] := by
  simp only [Takes, finishWhole]
  cases negative with
  | false => exact ⟨some (.whole value), fun rest _ => rfl⟩
  | true =>
    by_cases h : value = 0 ∨ 0x8000000000000000 < value
    · simp only [if_pos h, if_true]
      exact takes_finishReal true value 0
    · simp only [if_neg h, if_true]
      exact ⟨some (.whole (-value)), fun rest _ => rfl⟩

lemma not_digit {d b : UInt8} (hdigit : isDigit d = true) (hb : isDigit b = false) : d ≠ b := by
  rintro rfl
  rw [hdigit] at hb
  cases hb

lemma readExponent_some {d : UInt8} {s bytes rest : Bytes} {e : Nat} (hs : Sign s)
    (hdigit : isDigit d = true) (h : takeExponent (digitValue d) bytes = (some e, rest))
    (negative : Bool) (significand : Nat) (exponent : Int) :
    readExponent negative significand exponent (s ++ d :: bytes) =
      finishReal negative significand (if s = [minus] then exponent - e else exponent + e)
        rest := by
  have hplus := not_digit hdigit (by decide : isDigit plus = false)
  have hminus := not_digit hdigit (by decide : isDigit minus = false)
  cases hs <;> simp +decide [readExponent, hplus, hminus, hdigit, h]

lemma readExponent_none {d : UInt8} {s bytes rest : Bytes} (hs : Sign s)
    (hdigit : isDigit d = true) (h : takeExponent (digitValue d) bytes = (none, rest))
    (negative : Bool) (significand : Nat) (exponent : Int) :
    readExponent negative significand exponent (s ++ d :: bytes) =
      if significand ≠ 0 ∧ s ≠ [minus] then .error (.here .numberOutOfRange rest)
      else .ok (.real (.zero negative), rest.dropWhile isDigit) := by
  have hplus := not_digit hdigit (by decide : isDigit plus = false)
  have hminus := not_digit hdigit (by decide : isDigit minus = false)
  cases hs <;> simp +decide [readExponent, hplus, hminus, hdigit, h]

lemma takes_readExponent {d : UInt8} {s ds : Bytes} (hs : Sign s) (hd : IsRun (d :: ds))
    (negative : Bool) (significand : Nat) (exponent : Int) :
    Takes (readExponent negative significand exponent) (s ++ d :: ds) := by
  obtain ⟨hdigit, hds⟩ := isRun_cons.1 hd
  obtain ⟨v', ds', hrun, hnone, htake⟩ := takeExponent_append hds (digitValue d)
  cases v' with
  | some e =>
    obtain ⟨o, ho⟩ := takes_finishReal negative significand
      (if s = [minus] then exponent - e else exponent + e)
    refine ⟨o, ?_⟩
    intro rest h
    rw [List.append_assoc, List.cons_append,
      readExponent_some hs hdigit (htake rest h.undigited), hnone e rfl]
    exact ho rest h
  | none =>
    by_cases hover : significand ≠ 0 ∧ s ≠ [minus]
    · refine ⟨none, ?_⟩
      intro rest h
      rw [List.append_assoc, List.cons_append,
        readExponent_none hs hdigit (htake rest h.undigited), if_pos hover]
      rfl
    · refine ⟨some (.real (.zero negative)), ?_⟩
      intro rest h
      rw [List.append_assoc, List.cons_append,
        readExponent_none hs hdigit (htake rest h.undigited), if_neg hover,
        dropWhile_isDigit hrun h.undigited]
      rfl

lemma takes_readScale {e : Bytes} (he : Exponent e) (negative : Bool) (significand : Nat)
    (exponent : Int) : Takes (readScale negative significand exponent) e := by
  cases he with
  | none =>
    obtain ⟨o, ho⟩ := takes_finishReal negative significand exponent
    refine ⟨o, ?_⟩
    intro rest h
    rw [← ho rest h]
    cases rest with
    | nil => rfl
    | cons b r =>
      obtain ⟨-, -, hlower, hupper⟩ := h b r rfl
      simp [readScale, hlower, hupper]
  | some hl hs hd =>
    obtain ⟨o, ho⟩ := takes_readExponent hs hd negative significand exponent
    refine ⟨o, ?_⟩
    intro rest h
    rw [← ho rest h, List.cons_append, readScale]
    simp only [if_pos hl]

lemma takes_readFraction {d : UInt8} {ds e : Bytes} (hd : IsRun (d :: ds)) (he : Exponent e)
    (negative : Bool) (significand : Nat) (exponent : Int) :
    Takes (readFraction negative significand exponent) (d :: ds ++ e) := by
  obtain ⟨v', c', ds', hrun, htake⟩ := takeDigits_append hd significand 0
  obtain ⟨o, ho⟩ := takes_readScale he negative v' (exponent - c')
  refine ⟨o, ?_⟩
  intro rest h
  have hund := he.undigited_append h
  have hdigit := (isRun_cons.1 hd).1
  rw [← ho rest h, List.append_assoc, List.cons_append, readFraction, if_pos hdigit,
    ← List.cons_append, htake _ hund]
  simp only [dropWhile_isDigit hrun hund]

lemma readTail_point {d : UInt8} {bytes rest : Bytes} {n : Nat} (hdigit : isDigit d = true)
    (h : countDigits 0 (d :: bytes) = (n, point :: rest)) (negative : Bool) (value : Nat) :
    readTail negative value (d :: bytes) = readFraction negative value n rest := by
  have hpoint := not_digit hdigit (by decide : isDigit point = false)
  have hlower := not_digit hdigit (by decide : isDigit lowerE = false)
  have hupper := not_digit hdigit (by decide : isDigit upperE = false)
  simp [readTail, hpoint, hlower, hupper, hdigit, h]

lemma readTail_scale {d : UInt8} {bytes rest : Bytes} {n : Nat} (hdigit : isDigit d = true)
    (h : countDigits 0 (d :: bytes) = (n, rest)) (hrest : ∀ b r, rest = b :: r → b ≠ point)
    (negative : Bool) (value : Nat) :
    readTail negative value (d :: bytes) = readScale negative value n rest := by
  have hpoint := not_digit hdigit (by decide : isDigit point = false)
  have hlower := not_digit hdigit (by decide : isDigit lowerE = false)
  have hupper := not_digit hdigit (by decide : isDigit upperE = false)
  cases rest with
  | nil => simp [readTail, hpoint, hlower, hupper, hdigit, h]
  | cons b r => simp [readTail, hpoint, hlower, hupper, hdigit, h, hrest b r rfl]

/-- Digits that do not fit into the number are only counted. -/
lemma takes_readTail_run {d : UInt8} {ds f e : Bytes} (hd : IsRun (d :: ds)) (hf : Fraction f)
    (he : Exponent e) (negative : Bool) (value : Nat) :
    Takes (readTail negative value) (d :: ds ++ f ++ e) := by
  have hdigit := (isRun_cons.1 hd).1
  have hcount {rest : Bytes} (h : Delimited rest) :
      countDigits 0 (d :: (ds ++ (f ++ (e ++ rest)))) =
        (0 + (d :: ds).length, f ++ (e ++ rest)) :=
    countDigits_append hd (hf.undigited_append he h) 0
  have happ (rest : Bytes) : d :: ds ++ f ++ e ++ rest = d :: (ds ++ (f ++ (e ++ rest))) := by
    simp
  cases hf with
  | none =>
    obtain ⟨o, ho⟩ :=
      takes_readScale he negative value ((0 + (d :: ds).length : Nat) : Int)
    refine ⟨o, ?_⟩
    intro rest h
    have hpoint (b : UInt8) (r : Bytes) (hrest : [] ++ (e ++ rest) = b :: r) : b ≠ point :=
      he.ne_point h hrest
    rw [happ, readTail_scale hdigit (hcount h) hpoint]
    exact ho rest h
  | some hd' =>
    obtain ⟨o, ho⟩ :=
      takes_readFraction hd' he negative value ((0 + (d :: ds).length : Nat) : Int)
    refine ⟨o, ?_⟩
    intro rest h
    have hread := ho rest h
    rw [List.append_assoc] at hread
    rw [happ, readTail_point hdigit (hcount h)]
    exact hread

lemma takes_readTail {ds f e : Bytes} (hd : IsRun ds) (hf : Fraction f) (he : Exponent e)
    (negative : Bool) (value : Nat) : Takes (readTail negative value) (ds ++ f ++ e) := by
  cases ds with
  | nil =>
    cases hf with
    | none =>
      cases he with
      | none =>
        obtain ⟨o, ho⟩ := takes_finishWhole negative value
        refine ⟨o, ?_⟩
        intro rest h
        rw [← ho rest h]
        cases rest with
        | nil => rfl
        | cons b r =>
          obtain ⟨hdigit, hpoint, hlower, hupper⟩ := h b r rfl
          simp [readTail, hdigit, hpoint, hlower, hupper]
      | some hl hs hd =>
        obtain ⟨o, ho⟩ := takes_readExponent hs hd negative value 0
        refine ⟨o, ?_⟩
        intro rest h
        rw [← ho rest h]
        rcases hl with rfl | rfl <;> simp +decide [readTail]
    | some hd =>
      obtain ⟨o, ho⟩ := takes_readFraction hd he negative value 0
      refine ⟨o, ?_⟩
      intro rest h
      rw [← ho rest h]
      simp [readTail]
  | cons d ds => exact takes_readTail_run hd hf he negative value

/-- A reader of numbers takes just the numeral. -/
lemma takes_readNumber {t : Bytes} (ht : Numeral t) (negative : Bool) :
    Takes (readNumber negative) t := by
  obtain ⟨hw, hf, he⟩ := ht
  rename_i f e
  cases hw with
  | zero =>
    obtain ⟨o, ho⟩ := takes_readTail (by simp [IsRun] : IsRun []) hf he negative 0
    refine ⟨o, ?_⟩
    intro rest h
    rw [← ho rest h]
    have hund := hf.undigited_append he h
    have happ : [zero] ++ f ++ e ++ rest = zero :: (f ++ (e ++ rest)) := by simp
    rw [happ, readNumber.eq_def]
    simp only [if_true, List.nil_append, List.append_assoc]
    cases hrest : f ++ (e ++ rest) with
    | nil => rfl
    | cons b r => simp [hund b r hrest]
  | run hne hd =>
    rename_i d ds
    obtain ⟨hdigit, hds⟩ := isRun_cons.1 hd
    obtain ⟨v', c', ds', hrun, htake⟩ := takeDigits_append hds (digitValue d) 1
    obtain ⟨o, ho⟩ := takes_readTail hrun hf he negative v'
    refine ⟨o, ?_⟩
    intro rest h
    have happ : d :: ds ++ f ++ e ++ rest = d :: (ds ++ (f ++ (e ++ rest))) := by simp
    rw [← ho rest h, happ, readNumber.eq_def]
    simp only [if_neg hne, if_pos hdigit, htake _ (hf.undigited_append he h), List.append_assoc]

/-! ### Passing over -/

lemma skipScale_append {e rest : Bytes} (he : Exponent e) (h : Delimited rest) :
    skipScale (e ++ rest) = .ok rest := by
  cases he with
  | none =>
    cases rest with
    | nil => rfl
    | cons b r =>
      obtain ⟨-, -, hlower, hupper⟩ := h b r rfl
      simp [skipScale, hlower, hupper]
  | some hl hs hd =>
    rename_i l d s ds
    obtain ⟨hdigit, hds⟩ := isRun_cons.1 hd
    have hplus := not_digit hdigit (by decide : isDigit plus = false)
    have hminus := not_digit hdigit (by decide : isDigit minus = false)
    have hdrop := dropWhile_isDigit hds h.undigited
    have hskip : skipExponent (s ++ (d :: ds ++ rest)) = .ok rest := by
      cases hs <;> simp [skipExponent, hplus, hminus, hdigit, hdrop]
    rw [← hskip, List.cons_append, List.append_assoc, skipScale]
    simp only [if_pos hl]

lemma skipTail_append {f e rest : Bytes} (hf : Fraction f) (he : Exponent e) (h : Delimited rest) :
    skipTail (f ++ (e ++ rest)) = .ok rest := by
  rw [← skipScale_append he h]
  cases hf with
  | none =>
    rw [List.nil_append]
    cases hrest : e ++ rest with
    | nil => rfl
    | cons b r =>
      simp [skipTail, he.ne_point h hrest]
  | some hd =>
    obtain ⟨hdigit, hds⟩ := isRun_cons.1 hd
    have hdrop := dropWhile_isDigit hds (he.undigited_append h)
    simp [skipTail, skipFraction, hdigit, hdrop]

/-- A reader that passes over a number stops just behind its numeral. -/
lemma skipNumber_append {t rest : Bytes} (ht : Numeral t) (h : Delimited rest) :
    skipNumber (t ++ rest) = .ok rest := by
  obtain ⟨hw, hf, he⟩ := ht
  rename_i f e
  rw [← skipTail_append hf he h]
  have hund := hf.undigited_append he h
  cases hw with
  | zero =>
    simp only [List.append_assoc, List.cons_append, List.nil_append, skipNumber, if_true]
    cases hrest : f ++ (e ++ rest) with
    | nil => rfl
    | cons b r => simp [hund b r hrest]
  | run hne hd =>
    obtain ⟨hdigit, hds⟩ := isRun_cons.1 hd
    simp [skipNumber, hne, hdigit, dropWhile_isDigit hds hund]

end Reader

end PodAdmission

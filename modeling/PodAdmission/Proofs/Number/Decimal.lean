import Mathlib.Tactic.Ring
import PodAdmission.Proofs.Number.Numeral

/-!
# Whole numbers in decimal

The decimal text of a whole number is a numeral, and a reader of numbers makes the same number of
it if it fits in 64 bits.
-/

namespace PodAdmission

open Ascii

namespace Ascii

/-- The byte of an ASCII character. -/
def byteOf (c : Char) : UInt8 := UInt8.ofNat c.toNat

lemma decimal_eq (n : Nat) : decimal n = (Nat.toDigits 10 n).map byteOf := rfl

lemma toNat_byteOf {c : Char} (h : c.isDigit = true) : (byteOf c).toNat = c.toNat := by
  have hc := Char.isDigit_iff_toNat.1 h
  have hlt : c.toNat < 256 := by
    have : '9'.toNat = 57 := rfl
    omega
  simp [byteOf, Nat.mod_eq_of_lt hlt]

lemma isDigit_byteOf {c : Char} (h : c.isDigit = true) : isDigit (byteOf c) = true := by
  have hc := Char.isDigit_iff_toNat.1 h
  have h0 : '0'.toNat = 48 := rfl
  have h9 : '9'.toNat = 57 := rfl
  simp [isDigit, UInt8.le_iff_toNat_le, toNat_byteOf h]
  omega

lemma digitValue_byteOf {c : Char} (h : c.isDigit = true) :
    digitValue (byteOf c) = c.toNat - '0'.toNat := by
  rw [digitValue, toNat_byteOf h]
  rfl

lemma byteOf_ne_zero {c : Char} (h : c.isDigit = true) (hc : c ≠ '0') : byteOf c ≠ zero := by
  intro heq
  have hnat : c.toNat = '0'.toNat := by
    rw [← toNat_byteOf h, heq]
    rfl
  exact hc (Char.toNat_inj.1 hnat)

lemma isRun_map_byteOf {cs : List Char} (h : ∀ c ∈ cs, c.isDigit = true) :
    IsRun (cs.map byteOf) := by
  intro b hb
  obtain ⟨c, hc, rfl⟩ := List.mem_map.1 hb
  exact isDigit_byteOf (h c hc)

end Ascii

/-! ### Digits of a whole number -/

lemma isDigit_of_mem_toDigits {n : Nat} : ∀ c ∈ Nat.toDigits 10 n, c.isDigit = true :=
  fun _ hc => Nat.isDigit_of_mem_toDigits (by decide) (by decide) hc

/-- The first digit of a positive number is no zero. -/
lemma toDigits_eq_cons {n : Nat} (h : 0 < n) :
    ∃ c cs, Nat.toDigits 10 n = c :: cs ∧ c ≠ '0' := by
  induction n using Nat.strongRecOn with
  | ind n ih =>
    by_cases hlt : n < 10
    · refine ⟨n.digitChar, [], Nat.toDigits_of_lt_base hlt, ?_⟩
      intro heq
      have hnat := Nat.toNat_digitChar_of_lt_ten hlt
      rw [heq] at hnat
      have h0 : '0'.toNat = 48 := rfl
      omega
    · obtain ⟨c, cs, hcs, hc⟩ := ih (n / 10) (by omega) (by omega)
      refine ⟨c, cs ++ [(n % 10).digitChar], ?_, hc⟩
      rw [Nat.toDigits_of_base_le (by decide) (by omega), hcs, List.cons_append]

/-- The decimal text of a number is whole digits without a leading zero. -/
lemma whole_decimal (n : Nat) : Whole (decimal n) := by
  rcases Nat.eq_zero_or_pos n with rfl | h
  · exact Whole.zero
  · obtain ⟨c, cs, hcs, hc⟩ := toDigits_eq_cons h
    have hrun : IsRun (decimal n) := Ascii.isRun_map_byteOf isDigit_of_mem_toDigits
    have hdigit : c.isDigit = true := isDigit_of_mem_toDigits c (hcs ▸ List.mem_cons_self)
    rw [decimal_eq, hcs, List.map_cons] at hrun ⊢
    exact Whole.run (Ascii.byteOf_ne_zero hdigit hc) hrun

lemma numeral_decimal (n : Nat) : Numeral (decimal n) := by
  have h := Numeral.mk (whole_decimal n) Fraction.none Exponent.none
  rwa [List.append_nil, List.append_nil] at h

namespace Reader

lemma le_ofDigitChars (cs : List Char) (v : Nat) : v ≤ Nat.ofDigitChars 10 cs v := by
  rw [Nat.ofDigitChars_eq_ofDigitChars_zero]
  have hpos : 0 < 10 ^ cs.length := Nat.pow_pos (by decide)
  calc v ≤ 10 ^ cs.length * v := Nat.le_mul_of_pos_left v hpos
    _ ≤ _ := Nat.le_add_right _ _

/-- Digits that make a number of 64 bits are all taken. -/
lemma takeDigits_byteOf {cs : List Char} (hcs : ∀ c ∈ cs, c.isDigit = true) {v : Nat} (n : Nat)
    (hfit : Nat.ofDigitChars 10 cs v < 2 ^ 64) {rest : Bytes} (h : Undigited rest) :
    takeDigits v n (cs.map byteOf ++ rest) =
      (Nat.ofDigitChars 10 cs v, n + cs.length, rest) := by
  induction cs generalizing v n with
  | nil =>
    cases rest with
    | nil => simp [takeDigits]
    | cons b r => simp [takeDigits, h b r rfl]
  | cons c cs ih =>
    have hc := hcs c List.mem_cons_self
    rw [Nat.ofDigitChars_cons] at hfit ⊢
    have hstep : v * 10 + digitValue (byteOf c) = 10 * v + (c.toNat - '0'.toNat) := by
      rw [digitValue_byteOf hc]
      omega
    have hle := le_ofDigitChars cs (10 * v + (c.toNat - '0'.toNat))
    have hlt : v * 10 + digitValue (byteOf c) < 0x10000000000000000 := by omega
    rw [List.map_cons, List.cons_append, takeDigits, if_pos (by simp [isDigit_byteOf hc, hlt]),
      hstep, ih (fun d hd => hcs d (List.mem_cons_of_mem _ hd)) _ hfit]
    simp only [List.length_cons, Prod.mk.injEq, and_true, true_and]
    omega

lemma readTail_delimited (negative : Bool) (value : Nat) {rest : Bytes} (h : Delimited rest) :
    readTail negative value rest = finishWhole negative value rest := by
  cases rest with
  | nil => rfl
  | cons b r =>
    obtain ⟨hdigit, hpoint, hlower, hupper⟩ := h b r rfl
    simp [readTail, hdigit, hpoint, hlower, hupper]

/-- The digits of a number of 64 bits are read as the number. -/
lemma readNumber_decimal {n : Nat} (hfit : n < 2 ^ 64) (negative : Bool) {rest : Bytes}
    (h : Delimited rest) :
    readNumber negative (decimal n ++ rest) = finishWhole negative n rest := by
  rcases Nat.eq_zero_or_pos n with rfl | hpos
  · have hzero : decimal 0 = [zero] := rfl
    rw [hzero, ← readTail_delimited negative 0 h, readNumber.eq_def]
    cases rest with
    | nil => rfl
    | cons b r => simp [(h b r rfl).1]
  · obtain ⟨c, cs, hcs, hc⟩ := toDigits_eq_cons hpos
    have hdigits : ∀ d ∈ c :: cs, d.isDigit = true := hcs ▸ isDigit_of_mem_toDigits
    have hdigit : c.isDigit = true := hdigits c List.mem_cons_self
    have hvalue : Nat.ofDigitChars 10 cs (digitValue (byteOf c)) = n := by
      have hn : Nat.ofDigitChars 10 (Nat.toDigits 10 n) 0 = n := Nat.ofDigitChars_ten_toDigits
      rw [hcs, Nat.ofDigitChars_cons] at hn
      rw [digitValue_byteOf hdigit]
      simpa using hn
    have htake := takeDigits_byteOf (fun d hd => hdigits d (List.mem_cons_of_mem _ hd))
      (v := digitValue (byteOf c)) 1 (by rw [hvalue]; exact hfit) h.undigited
    rw [decimal_eq, hcs, List.map_cons, List.cons_append, readNumber.eq_def]
    simp only [if_neg (byteOf_ne_zero hdigit hc), if_pos (isDigit_byteOf hdigit), htake, hvalue]
    exact readTail_delimited negative n h

end Reader

end PodAdmission

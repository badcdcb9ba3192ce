import Mathlib.Data.Nat.Digits.Defs
import PodAdmission.Instant

/-!
# Instants read back

An instant that is read from any of its spellings is a day of the calendar and a time of day, in
UTC. Written and read again it is the same to the second.
-/

namespace PodAdmission.Instant

/-- A day of the calendar and a time of day. -/
structure Valid (t : Instant) : Prop where
  minYear_le : minYear ≤ t.year
  le_maxYear : t.year ≤ maxYear
  month_pos : 1 ≤ t.month
  month_le : t.month ≤ 12
  day_pos : 1 ≤ t.day
  day_le : t.day ≤ daysInMonth t.year t.month
  hour_le : t.hour ≤ 23
  minute_le : t.minute ≤ 59
  second_le : t.second ≤ 60

/-- The instant without what is beyond the second. -/
def toTheSecond (t : Instant) : Instant :=
  { t with nanosecond := 0 }

lemma toTheSecond_eq_self {t : Instant} (h : t.nanosecond = 0) : t.toTheSecond = t := by
  cases t
  obtain rfl : _ = 0 := h
  rfl

variable {t u : Instant} {cs rest : List Char}

lemma ok_of_bind {α β : Type} {x : Except InstantFault α} {f : α → Except InstantFault β} {b : β}
    (h : x >>= f = .ok b) : ∃ a, x = .ok a ∧ f a = .ok b := by
  cases x with
  | error fault => cases h
  | ok a => exact ⟨a, rfl, h⟩

lemma bind_ok {α β : Type} (a : α) (f : α → Except InstantFault β) :
    (Except.ok a : Except InstantFault α) >>= f = f a := rfl

/-! ### What is read -/

lemma readField_ok {low high n : Nat} (h : readField low high cs = .ok (n, rest)) :
    low ≤ n ∧ n ≤ high := by
  obtain ⟨⟨m, behind⟩, -, h⟩ := ok_of_bind h
  simp only at h
  split_ifs at h with hbounds
  obtain ⟨rfl, -⟩ := Prod.mk.inj (Except.ok.inj h)
  exact hbounds

/-- The bounds on what is read of a date and a time of day. -/
lemma readLocal_ok (h : readLocal cs = .ok (t, rest)) :
    (1 ≤ t.month ∧ t.month ≤ 12) ∧ (1 ≤ t.day ∧ t.day ≤ 31) ∧ t.hour ≤ 23 ∧ t.minute ≤ 59 ∧
      t.second ≤ 60 := by
  obtain ⟨⟨year, cs₁⟩, -, h⟩ := ok_of_bind h
  obtain ⟨cs₂, -, h⟩ := ok_of_bind h
  obtain ⟨⟨month, cs₃⟩, hmonth, h⟩ := ok_of_bind h
  obtain ⟨cs₄, -, h⟩ := ok_of_bind h
  obtain ⟨⟨day, cs₅⟩, hday, h⟩ := ok_of_bind h
  obtain ⟨cs₆, -, h⟩ := ok_of_bind h
  obtain ⟨⟨hour, cs₇⟩, hhour, h⟩ := ok_of_bind h
  obtain ⟨cs₈, -, h⟩ := ok_of_bind h
  obtain ⟨⟨minute, cs₉⟩, hminute, h⟩ := ok_of_bind h
  obtain ⟨cs₁₀, -, h⟩ := ok_of_bind h
  obtain ⟨⟨second, cs₁₁⟩, hsecond, h⟩ := ok_of_bind h
  obtain ⟨⟨nanosecond, cs₁₂⟩, -, h⟩ := ok_of_bind h
  obtain ⟨rfl, -⟩ := Prod.mk.inj (Except.ok.inj h)
  exact ⟨readField_ok hmonth, readField_ok hday, (readField_ok hhour).2, (readField_ok hminute).2,
    (readField_ok hsecond).2⟩

lemma daysInMonth_pos (year : Int) (month : Nat) : 1 ≤ daysInMonth year month := by
  rw [daysInMonth]
  split_ifs <;> decide

lemma Valid.previousDay (h : t.Valid) (hu : t.previousDay? = some u) : u.Valid := by
  rw [previousDay?] at hu
  split_ifs at hu with hday hmonth hyear
  · obtain rfl := Option.some.inj hu
    exact { h with day_pos := by simp; omega, day_le := Nat.le_trans (Nat.sub_le _ _) h.day_le }
  · obtain rfl := Option.some.inj hu
    exact { h with
      month_pos := by simp; omega
      month_le := Nat.le_trans (Nat.sub_le _ _) h.month_le
      day_pos := daysInMonth_pos _ _
      day_le := Nat.le_refl _ }
  · obtain rfl := Option.some.inj hu
    exact { h with
      minYear_le := by simp; omega
      le_maxYear := by have := h.le_maxYear; simp; omega
      month_pos := by simp
      month_le := by simp
      day_pos := by simp
      day_le := Nat.le_refl _ }

lemma Valid.nextDay (h : t.Valid) (hu : t.nextDay? = some u) : u.Valid := by
  rw [nextDay?] at hu
  split_ifs at hu with hday hmonth hyear
  · obtain rfl := Option.some.inj hu
    exact { h with day_pos := by simp, day_le := hday }
  · obtain rfl := Option.some.inj hu
    exact { h with
      month_pos := by simp
      month_le := hmonth
      day_pos := Nat.le_refl _
      day_le := daysInMonth_pos _ _ }
  · obtain rfl := Option.some.inj hu
    exact { h with
      minYear_le := by have := h.minYear_le; simp; omega
      le_maxYear := by simp; omega
      month_pos := by simp
      month_le := by simp
      day_pos := by simp
      day_le := daysInMonth_pos _ _ }

/-- Going to UTC leads from one day of the calendar to one. -/
lemma Valid.toUtc (h : t.Valid) {offset : Int} (hoffset : offset.natAbs < 1440)
    (hu : t.toUtc? offset = some u) : u.Valid := by
  have hminutes : ∀ m : Int, 0 ≤ m → m < 1440 →
      Valid { t with hour := m.toNat / 60, minute := m.toNat % 60 } := fun m hlow hhigh =>
    { h with hour_le := by simp; omega, minute_le := by simp; omega }
  have hhour := h.hour_le
  have hminute := h.minute_le
  rw [toUtc?] at hu
  simp only at hu
  split_ifs at hu with hbefore hsame
  · exact (hminutes _ (by omega) (by omega)).previousDay hu
  · obtain rfl := Option.some.inj hu
    exact hminutes _ (by omega) hsame
  · exact (hminutes _ (by omega) (by omega)).nextDay hu

/-- Every instant that is read is valid. -/
theorem valid_of_read {s : String} (h : read s = .ok t) : t.Valid := by
  obtain ⟨⟨u, cs₁⟩, hlocal, h⟩ := ok_of_bind h
  obtain ⟨⟨offset, cs₂⟩, -, h⟩ := ok_of_bind h
  obtain ⟨⟨hmonthLow, hmonthHigh⟩, ⟨hdayLow, -⟩, hhour, hminute, hsecond⟩ := readLocal_ok hlocal
  simp only at h
  split_ifs at h with hblank hrange hoffset
  have hu : u.Valid :=
    ⟨by omega, by omega, hmonthLow, hmonthHigh, hdayLow, by omega, hhour, hminute, hsecond⟩
  split at h
  · rename_i v hutc
    obtain rfl := Except.ok.inj h
    exact hu.toUtc (by omega) hutc
  · cases h

/-! ### What is written -/

lemma isBlank_of_isDigit {c : Char} (h : c.isDigit = true) : isBlank c = false := by
  obtain ⟨hlow, hhigh⟩ := Char.isDigit_iff_toNat.1 h
  have hzero : '0'.toNat = 48 := rfl
  have hnine : '9'.toNat = 57 := rfl
  simp [isBlank]
  omega

lemma isDigit_padded {width n : Nat} : ∀ c ∈ padded width n, c.isDigit = true := by
  intro c hc
  rcases List.mem_append.1 hc with hc | hc
  · rw [List.eq_of_mem_replicate hc]
    rfl
  · exact Nat.isDigit_of_mem_toDigits (by decide) (by decide) hc

lemma ofDigitChars_padded (width n : Nat) : Nat.ofDigitChars 10 (padded width n) 0 = n := by
  rw [padded, Nat.ofDigitChars_append, Nat.ofDigitChars_replicate_zero, Nat.mul_zero,
    Nat.ofDigitChars_ten_toDigits]

lemma length_padded {width n : Nat} (hwidth : 0 < width) (h : n < 10 ^ width) :
    (padded width n).length = width := by
  have hdigits := Nat.toDigits_length 10 n width hwidth h
  simp only [padded, List.length_append, List.length_replicate]
  omega

lemma padded_eq_cons (width n : Nat) : ∃ c cs, padded width n = c :: cs := by
  cases hpadded : padded width n with
  | nil => exact absurd (List.append_eq_nil_iff.1 hpadded).2 Nat.toDigits_ne_nil
  | cons c cs => exact ⟨c, cs, rfl⟩

/-- Digits are taken up to the limit or to what is no digit. -/
lemma takeDigits_append {ds : List Char} (hds : ∀ c ∈ ds, c.isDigit = true) {value limit : Nat}
    (hlimit : ds.length ≤ limit) (hfit : Nat.ofDigitChars 10 ds value < 0x8000000000000000)
    (hrest : ds.length = limit ∨ ∀ c ∈ rest.head?, c.isDigit = false) :
    takeDigits value limit (ds ++ rest) = .ok (Nat.ofDigitChars 10 ds value, rest) := by
  induction ds generalizing value limit with
  | nil =>
    cases rest with
    | nil => rfl
    | cons c rest =>
      have hstop : ¬ (0 < limit ∧ c.isDigit = true) := by
        rintro ⟨hpos, hdigit⟩
        rcases hrest with hrest | hrest
        · exact absurd hrest (Nat.ne_of_lt hpos)
        · rw [hrest c rfl] at hdigit
          cases hdigit
      rw [List.nil_append, takeDigits, if_neg hstop]
      rfl
  | cons d ds ih =>
    obtain ⟨hd, hds⟩ := List.forall_mem_cons.1 hds
    rw [List.length_cons] at hlimit hrest
    have hvalue : 10 * value + (d.toNat - '0'.toNat) = value * 10 + digitValue d := by
      rw [digitValue, Nat.mul_comm]
      rfl
    rw [Nat.ofDigitChars_cons, hvalue] at hfit ⊢
    have hle : value * 10 + digitValue d ≤ Nat.ofDigitChars 10 ds (value * 10 + digitValue d) := by
      rw [Nat.ofDigitChars_eq_ofDigitChars_zero]
      exact Nat.le_trans (Nat.le_mul_of_pos_left _ (by positivity)) (Nat.le_add_right _ _)
    rw [List.cons_append, takeDigits, if_pos ⟨by omega, hd⟩, if_pos (by omega)]
    exact ih hds (by omega) hfit (hrest.imp_left fun h => by omega)

lemma readNumber_padded {width n limit : Nat} (hn : n < 0x8000000000000000)
    (hlimit : (padded width n).length ≤ limit)
    (hrest : (padded width n).length = limit ∨ ∀ c ∈ rest.head?, c.isDigit = false) :
    readNumber limit (padded width n ++ rest) = .ok (n, rest) := by
  have htake : takeDigits 0 limit (padded width n ++ rest) =
      .ok (Nat.ofDigitChars 10 (padded width n) 0, rest) :=
    takeDigits_append isDigit_padded hlimit (by rwa [ofDigitChars_padded]) hrest
  rw [ofDigitChars_padded] at htake
  obtain ⟨c, cs, hcons⟩ := padded_eq_cons width n
  have hc : c.isDigit = true := isDigit_padded c (hcons ▸ List.mem_cons_self)
  rw [hcons] at htake ⊢
  rw [List.cons_append, readNumber, if_pos hc]
  exact htake

lemma dropBlanks_padded (width n : Nat) (rest : List Char) :
    Text.dropBlanks (padded width n ++ rest) = padded width n ++ rest := by
  obtain ⟨c, cs, hcons⟩ := padded_eq_cons width n
  have hc : c.isDigit = true := isDigit_padded c (hcons ▸ List.mem_cons_self)
  rw [hcons, List.cons_append, Text.dropBlanks, List.dropWhile_cons_of_neg]
  rw [isBlank_of_isDigit hc]
  exact Bool.false_ne_true

lemma readField_padded {low high n : Nat} (hlow : low ≤ n) (hhigh : n ≤ high) (h : n < 100)
    (rest : List Char) : readField low high (padded 2 n ++ rest) = .ok (n, rest) := by
  have hlength : (padded 2 n).length = 2 := length_padded (by decide) h
  rw [readField, dropBlanks_padded,
    readNumber_padded (by omega) (Nat.le_of_eq hlength) (.inl hlength)]
  exact if_pos ⟨hlow, hhigh⟩

lemma readYear_minus (cs : List Char) : readYear ('-' :: cs) =
    readNumber cs.length cs >>= fun p => checkYear (-(p.1 : Int)) p.2 := rfl

lemma readYear_plus (cs : List Char) : readYear ('+' :: cs) =
    readNumber cs.length cs >>= fun p => checkYear p.1 p.2 := rfl

lemma readYear_digit {c : Char} (hc : c.isDigit = true) (cs : List Char) : readYear (c :: cs) =
    readNumber 4 (c :: cs) >>= fun p => checkYear p.1 p.2 := by
  have hblank : Text.dropBlanks (c :: cs) = c :: cs :=
    List.dropWhile_cons_of_neg (Bool.eq_false_iff.1 (isBlank_of_isDigit hc))
  rw [readYear, hblank]
  split
  · rename_i heq
    obtain ⟨rfl, -⟩ := List.cons.inj heq
    cases hc
  · rename_i heq
    obtain ⟨rfl, -⟩ := List.cons.inj heq
    cases hc
  · rfl

/-- A year is read back if what follows is no digit. -/
lemma readYear_renderYear {year : Int} (hlow : minYear ≤ year) (hhigh : year ≤ maxYear)
    (hrest : ∀ c ∈ rest.head?, c.isDigit = false) :
    readYear (renderYear year ++ rest) = .ok (year, rest) := by
  rw [minYear] at hlow
  rw [maxYear] at hhigh
  have hcheck : checkYear year rest = .ok (year, rest) := if_pos ⟨by omega, by omega⟩
  have hsigned : readNumber (padded 4 year.natAbs ++ rest).length (padded 4 year.natAbs ++ rest) =
      .ok (year.natAbs, rest) := by
    refine readNumber_padded (by omega) ?_ (.inr hrest)
    rw [List.length_append]
    exact Nat.le_add_right _ _
  rw [renderYear]
  split_ifs with hplain hsign
  · have hlength : (padded 4 year.natAbs).length = 4 := length_padded (by decide) (by omega)
    have hnumber : readNumber 4 (padded 4 year.natAbs ++ rest) = .ok (year.natAbs, rest) :=
      readNumber_padded (by omega) (Nat.le_of_eq hlength) (.inr hrest)
    have habs : (year.natAbs : Int) = year := by omega
    obtain ⟨c, cs, hcons⟩ := padded_eq_cons 4 year.natAbs
    have hc : c.isDigit = true := isDigit_padded c (hcons ▸ List.mem_cons_self)
    rw [hcons, List.cons_append] at hnumber ⊢
    rw [readYear_digit hc, hnumber, bind_ok, habs, hcheck]
  · have habs : -(year.natAbs : Int) = year := by omega
    rw [List.cons_append, readYear_minus, hsigned, bind_ok, habs, hcheck]
  · have habs : (year.natAbs : Int) = year := by omega
    rw [List.cons_append, readYear_plus, hsigned, bind_ok, habs, hcheck]

lemma readSeparator_dash (cs : List Char) : readSeparator '-' ('-' :: cs) = .ok cs := rfl

lemma readSeparator_colon (cs : List Char) : readSeparator ':' (':' :: cs) = .ok cs := rfl

lemma readMark_upperT (cs : List Char) : readMark ('T' :: cs) = .ok cs := rfl

lemma day_le_thirtyOne (h : t.Valid) : t.day ≤ 31 := by
  refine Nat.le_trans h.day_le ?_
  rw [daysInMonth]
  split_ifs <;> decide

/-- A date and a time of day are read back. -/
lemma readLocal_render (h : t.Valid) :
    readLocal t.render.toList = .ok (t.toTheSecond, ['Z']) := by
  have hyear (cs : List Char) : readYear (renderYear t.year ++ '-' :: cs) =
      .ok (t.year, '-' :: cs) :=
    readYear_renderYear h.minYear_le h.le_maxYear fun c hc => by cases hc; rfl
  have hmonth := readField_padded h.month_pos h.month_le
    (Nat.lt_of_le_of_lt h.month_le (by decide))
  have hday := readField_padded h.day_pos (day_le_thirtyOne h)
    (Nat.lt_of_le_of_lt (day_le_thirtyOne h) (by decide))
  have hhour := readField_padded (Nat.zero_le _) h.hour_le
    (Nat.lt_of_le_of_lt h.hour_le (by decide))
  have hminute := readField_padded (Nat.zero_le _) h.minute_le
    (Nat.lt_of_le_of_lt h.minute_le (by decide))
  have hsecond := readField_padded (Nat.zero_le _) h.second_le
    (Nat.lt_of_le_of_lt h.second_le (by decide))
  rw [render, String.toList_ofList, readLocal]
  simp only [List.append_assoc, List.cons_append, hyear, bind_ok, readSeparator_dash, hmonth, hday,
    readMark_upperT, hhour, readSeparator_colon, hminute, hsecond]
  rfl

/-- A time that is in UTC already stays as it is. -/
lemma toUtc?_zero (hhour : t.hour ≤ 23) (hminute : t.minute ≤ 59) : t.toUtc? 0 = some t := by
  have hhours : ((t.hour : Int) * 60 + t.minute - 0).toNat / 60 = t.hour := by omega
  have hminutes : ((t.hour : Int) * 60 + t.minute - 0).toNat % 60 = t.minute := by omega
  rw [toUtc?]
  simp only [hhours, hminutes]
  rw [if_neg (by omega), if_pos (by omega)]

/-- A valid instant is read back to the second. -/
theorem read_render (h : t.Valid) : read t.render = .ok t.toTheSecond := by
  have hoffset : readOffset (Text.dropBlanks ['Z']) = .ok (0, []) := rfl
  have hrange : ¬ (t.toTheSecond.year < minYear ∨ maxYear < t.toTheSecond.year ∨
      daysInMonth t.toTheSecond.year t.toTheSecond.month < t.toTheSecond.day) := by
    rintro (hyear | hyear | hday)
    · exact absurd h.minYear_le (Int.not_le.2 hyear)
    · exact absurd h.le_maxYear (Int.not_le.2 hyear)
    · exact absurd h.day_le (Nat.not_le.2 hday)
  have hutc : t.toTheSecond.toUtc? 0 = some t.toTheSecond := toUtc?_zero h.hour_le h.minute_le
  rw [read, readLocal_render h, bind_ok]
  simp only [hoffset, bind_ok, if_neg hrange, hutc]
  rfl

end PodAdmission.Instant

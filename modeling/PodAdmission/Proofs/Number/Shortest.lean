import Mathlib.Tactic.Common
import Mathlib.Tactic.Ring
import PodAdmission.Number.Shortest
import PodAdmission.Proofs.Number.Binary64
import PodAdmission.Proofs.Number.Decimal

/-!
# The text of a binary64 number

Seventeen digits always suffice to name a binary64 number, so the shortest decimal of a number that
is not zero has a first digit, and the text of every number is a numeral behind a sign.
-/

namespace PodAdmission

open Ascii

namespace Binary64

/-! ### Seventeen digits -/

lemma lt_pow_digitCount (n : Nat) : n < 10 ^ digitCount n := by
  rw [digitCount]
  split_ifs with h
  · omega
  · exact (Nat.length_toDigits_le_iff (by decide) Nat.length_toDigits_pos).1 (Nat.le_refl _)

lemma pow_digitCount_le {n : Nat} (h : 0 < n) : 10 ^ (digitCount n - 1) ≤ n := by
  rw [digitCount, if_neg (by omega)]
  by_contra hlt
  rcases Nat.eq_zero_or_pos ((Nat.toDigits 10 n).length - 1) with hzero | hpos
  · rw [hzero] at hlt
    omega
  · have := (Nat.length_toDigits_le_iff (by decide) hpos).2 (Nat.lt_of_not_le hlt)
    omega

lemma unitsInOne_pos : 0 < unitsInOne := by
  rw [unitsInOne]
  exact Nat.two_pow_pos 1074

lemma digitCount_pos {n : Nat} (h : 0 < n) : 0 < digitCount n := by
  rw [digitCount, if_neg (by omega)]
  exact Nat.length_toDigits_pos

/-- A step of the grid is a ratio of powers of ten. -/
lemma gridScale_mul {g : Int} {a b : Nat} (h : g = a - b) :
    (gridScale g).1 * 10 ^ b = (gridScale g).2 * 10 ^ a := by
  cases g with
  | ofNat k =>
    have ha : a = k + b := by
      have : (k : Int) = a - b := h
      omega
    rw [ha, Nat.pow_add]
    simp [gridScale]
  | negSucc k =>
    have hb : b = k + 1 + a := by omega
    rw [hb, Nat.pow_add]
    simp [gridScale]

lemma gridScale_pos (g : Int) : 0 < (gridScale g).1 ∧ 0 < (gridScale g).2 := by
  cases g <;> simp [gridScale]

/-- The grid sixteen powers of ten below the leading digit is fine enough for the number to have
seventeen digits on it. -/
lemma seventeen_digits {u : Nat} (hu : 0 < u) :
    10 ^ 16 * ((gridScale (leadingExponent u - 16)).1 * unitsInOne) ≤
      u * (gridScale (leadingExponent u - 16)).2 := by
  rw [leadingExponent]
  have hone := unitsInOne_pos
  generalize unitsInOne = one at *
  split_ifs with hle
  · have hquot : 0 < u / one := Nat.div_pos hle hone
    have hcount := digitCount_pos hquot
    have hpow : 10 ^ (digitCount (u / one) - 1) * one ≤ u :=
      (Nat.le_div_iff_mul_le hone).1 (pow_digitCount_le hquot)
    have hgrid := gridScale_mul (g := (digitCount (u / one) : Int) - 1 - 16)
      (a := digitCount (u / one) - 1) (b := 16) (by omega)
    generalize gridScale ((digitCount (u / one) : Int) - 1 - 16) = grid at hgrid
    calc 10 ^ 16 * (grid.1 * one) = grid.1 * 10 ^ 16 * one := by ring
      _ = grid.2 * (10 ^ (digitCount (u / one) - 1) * one) := by rw [hgrid, Nat.mul_assoc]
      _ ≤ grid.2 * u := Nat.mul_le_mul_left _ hpow
      _ = u * grid.2 := Nat.mul_comm _ _
  · have hlt := lt_pow_digitCount ((one + u - 1) / u - 1)
    generalize digitCount ((one + u - 1) / u - 1) = k at hlt
    have hpow : one ≤ 10 ^ k * u := by
      have hceil : (one + u - 1) / u ≤ 10 ^ k := by omega
      have hmod := Nat.div_add_mod (one + u - 1) u
      have hmodlt := Nat.mod_lt (one + u - 1) hu
      have hmul := Nat.mul_le_mul_left u hceil
      rw [Nat.mul_comm (10 ^ k)]
      omega
    have hgrid := gridScale_mul (g := -(k : Int) - 16) (a := 0) (b := k + 16) (by omega)
    generalize gridScale (-(k : Int) - 16) = grid at hgrid
    rw [Nat.pow_zero, Nat.mul_one, Nat.pow_add] at hgrid
    calc 10 ^ 16 * (grid.1 * one) ≤ 10 ^ 16 * (grid.1 * (10 ^ k * u)) :=
          Nat.mul_le_mul_left _ (Nat.mul_le_mul_left _ hpow)
      _ = grid.1 * (10 ^ k * 10 ^ 16) * u := by ring
      _ = u * grid.2 := by rw [hgrid, Nat.mul_comm]

/-! ### The nearest neighbour -/

lemma roundRatio_near (num : Nat) {den : Nat} (h : 0 < den) :
    2 * num ≤ 2 * (roundRatio num den * den) + den ∧
      2 * (roundRatio num den * den) ≤ 2 * num + den := by
  have hdiv := Nat.div_add_mod num den
  have hlt := Nat.mod_lt num h
  rw [Nat.mul_comm] at hdiv
  unfold roundRatio
  dsimp only
  split_ifs with hup
  · rw [Nat.add_mul, Nat.one_mul]
    simp only [Bool.or_eq_true, decide_eq_true_eq, Bool.and_eq_true, beq_iff_eq] at hup
    omega
  · simp only [Bool.or_eq_true, decide_eq_true_eq, Bool.and_eq_true, beq_iff_eq, not_or,
      not_and] at hup
    omega

lemma lowerBound_eq (x : Binary64) :
    x.lowerBound =
      4 * x.units - (if x.mantissa = 2 ^ 52 ∧ 0 < x.scale then 1 else 2) * 2 ^ x.scale := rfl

lemma upperBound_eq (x : Binary64) : x.upperBound = 4 * x.units + 2 * 2 ^ x.scale := rfl

/-- A ratio within half a unit of seventeen digits is within a quarter unit of the mantissa. -/
lemma near_mantissa {m w den c t : Nat} (hpos : 0 < m) (hm : m < 2 ^ 53)
    (ht : t = 2 ∨ t = 1 ∧ m = 2 ^ 52) (hw : 0 < w) (hfine : 10 ^ 16 * den ≤ m * w)
    (hlower : 2 * (m * w) ≤ 2 * (c * den) + den)
    (hupper : 2 * (c * den) ≤ 2 * (m * w) + den) :
    4 * (m * w) - t * w < 4 * (c * den) ∧ 4 * (c * den) < 4 * (m * w) + 2 * w := by
  have hden : 2 * den < t * w := by
    rcases ht with rfl | ⟨rfl, rfl⟩
    · have hle : m * w ≤ (2 ^ 53 - 1) * w := Nat.mul_le_mul_right _ (by omega)
      omega
    · omega
  have htw : t * w ≤ 2 * w := Nat.mul_le_mul_right _ (by omega)
  have hmw : 1 * w ≤ m * w := Nat.mul_le_mul_right _ hpos
  omega

/-- On a grid on which the number has seventeen digits its nearest neighbour rounds to it. -/
lemma reads_nearest {x : Binary64} (hx : x.Canonical) (hpos : 0 < x.mantissa) {g : Int}
    (h : 10 ^ 16 * ((gridScale g).1 * unitsInOne) ≤ x.units * (gridScale g).2) :
    x.reads (roundRatio (x.units * (gridScale g).2) ((gridScale g).1 * unitsInOne)) g = true := by
  obtain ⟨hup, hdown⟩ := gridScale_pos g
  have hden : 0 < (gridScale g).1 * unitsInOne := Nat.mul_pos hup unitsInOne_pos
  obtain ⟨hlower, hupper⟩ := roundRatio_near (x.units * (gridScale g).2) hden
  have hw : 0 < 2 ^ x.scale * (gridScale g).2 := Nat.mul_pos (Nat.two_pow_pos _) hdown
  have hnum : x.units * (gridScale g).2 = x.mantissa * (2 ^ x.scale * (gridScale g).2) :=
    Nat.mul_assoc _ _ _
  generalize ht : (if x.mantissa = 2 ^ 52 ∧ 0 < x.scale then 1 else 2) = t
  have htwo : t = 2 ∨ t = 1 ∧ x.mantissa = 2 ^ 52 := by
    split_ifs at ht with hpower
    · exact .inr ⟨ht.symm, hpower.1⟩
    · exact .inl ht.symm
  rw [hnum] at h hlower hupper
  obtain ⟨hlow, hhigh⟩ := near_mantissa hpos hx.mantissa_lt htwo hw h hlower hupper
  have hvalue (c : Nat) : 4 * c * (gridScale g).1 * unitsInOne =
      4 * (c * ((gridScale g).1 * unitsInOne)) := by
    rw [Nat.mul_assoc, Nat.mul_assoc]
  have hupperBound : x.upperBound * (gridScale g).2 =
      4 * (x.mantissa * (2 ^ x.scale * (gridScale g).2)) + 2 * (2 ^ x.scale * (gridScale g).2) := by
    rw [upperBound_eq, Nat.add_mul, Nat.mul_assoc, hnum, Nat.mul_assoc]
  have hlowerBound : x.lowerBound * (gridScale g).2 =
      4 * (x.mantissa * (2 ^ x.scale * (gridScale g).2)) - t * (2 ^ x.scale * (gridScale g).2) := by
    rw [lowerBound_eq, ht, Nat.sub_mul, Nat.mul_assoc, hnum, Nat.mul_assoc]
  rw [← hnum] at hlow hhigh hupperBound hlowerBound
  simp only [reads, hvalue, hupperBound, hlowerBound]
  split_ifs
  · simp only [Bool.and_eq_true, decide_eq_true_eq]
    omega
  · simp only [Bool.and_eq_true, decide_eq_true_eq]
    omega

/-- Zero rounds to no other number. -/
lemma reads_zero {x : Binary64} (hpos : 0 < x.mantissa) (g : Int) : x.reads 0 g = false := by
  have hlow : 0 < x.lowerBound * (gridScale g).2 := by
    refine Nat.mul_pos ?_ (gridScale_pos g).2
    have hle : 1 * 2 ^ x.scale ≤ x.mantissa * 2 ^ x.scale := Nat.mul_le_mul_right _ hpos
    have hscale := Nat.two_pow_pos x.scale
    have hunits : x.units = x.mantissa * 2 ^ x.scale := rfl
    rw [lowerBound_eq, hunits]
    split_ifs <;> omega
  simp only [reads, Nat.mul_zero, Nat.zero_mul]
  split_ifs <;> simp [Nat.ne_of_gt hlow]

/-! ### The first digit -/

/-- The nearest neighbour is tried first, and then the one on the other side. -/
lemma neighbour?_eq (x : Binary64) (g : Int) :
    ∃ other, x.neighbour? g =
      if x.reads (roundRatio (x.units * (gridScale g).2) ((gridScale g).1 * unitsInOne)) g then
        some (roundRatio (x.units * (gridScale g).2) ((gridScale g).1 * unitsInOne))
      else if x.reads other g then some other else none :=
  ⟨_, rfl⟩

lemma reads_of_neighbour? {x : Binary64} {g : Int} {c : Nat} (h : x.neighbour? g = some c) :
    x.reads c g = true := by
  obtain ⟨other, heq⟩ := neighbour?_eq x g
  rw [heq] at h
  split_ifs at h with hnearest hother
  · exact Option.some.inj h ▸ hnearest
  · exact Option.some.inj h ▸ hother

lemma neighbour?_ne_zero {x : Binary64} (hpos : 0 < x.mantissa) {g : Int} {c : Nat}
    (h : x.neighbour? g = some c) : c ≠ 0 := by
  rintro rfl
  have hreads := reads_of_neighbour? h
  rw [reads_zero hpos] at hreads
  cases hreads

lemma neighbour?_isSome {x : Binary64} {g : Int}
    (h : x.reads (roundRatio (x.units * (gridScale g).2) ((gridScale g).1 * unitsInOne)) g = true) :
    (x.neighbour? g).isSome = true := by
  obtain ⟨other, heq⟩ := neighbour?_eq x g
  rw [heq, if_pos h]
  rfl

lemma finest_ne_zero {x : Binary64} (hpos : 0 < x.mantissa) (tries : Nat) {g : Int}
    (h : (x.neighbour? (g - tries)).isSome = true) : (x.finest tries g).1 ≠ 0 := by
  induction tries generalizing g with
  | zero =>
    obtain ⟨c, hc⟩ := Option.isSome_iff_exists.1 h
    rw [Int.natCast_zero, Int.sub_zero] at hc
    rw [finest, hc]
    exact neighbour?_ne_zero hpos hc
  | succ tries ih =>
    rw [finest]
    split
    · rename_i c hc
      exact neighbour?_ne_zero hpos hc
    · refine ih ?_
      rwa [show g - 1 - (tries : Int) = g - ((tries + 1 : Nat) : Int) by omega]

/-- Zeros behind the first digit other than zero are dropped, and that digit stays. -/
lemma trimmed_eq_cons {d : Char} (hd : d ≠ '0') (ds : List Char) :
    ∃ es, ((d :: ds).reverse.dropWhile (· == '0')).reverse = d :: es ∧ d :: es ⊆ d :: ds := by
  have hsuffix := List.dropWhile_suffix (· == '0') (l := (d :: ds).reverse)
  have hsub : ((d :: ds).reverse.dropWhile (· == '0')).reverse ⊆ d :: ds := by
    intro e he
    exact List.mem_reverse.1 (hsuffix.subset (List.mem_reverse.1 he))
  rw [List.reverse_cons, List.dropWhile_append] at hsub ⊢
  split_ifs at hsub ⊢ with hzeros
  · refine ⟨[], ?_, by simp⟩
    simp [hd]
  · rw [List.reverse_append] at hsub ⊢
    exact ⟨_, rfl, hsub⟩

/-- The shortest decimal of a number that is not zero starts with a digit other than zero. -/
lemma shortest_digits {x : Binary64} (hx : x.Canonical) (hpos : 0 < x.mantissa) :
    ∃ c cs, x.shortest.digits = c :: cs ∧ c ≠ '0' ∧ ∀ d ∈ c :: cs, d.isDigit = true := by
  have hunits : 0 < x.units := Nat.mul_pos hpos (Nat.two_pow_pos _)
  have hne := finest_ne_zero hpos 16
    (neighbour?_isSome (reads_nearest hx hpos (seventeen_digits hunits)))
  unfold shortest
  generalize x.finest 16 (leadingExponent x.units) = found at hne
  obtain ⟨c, g⟩ := found
  obtain ⟨d, ds, hds, hd⟩ := toDigits_eq_cons (Nat.pos_of_ne_zero hne)
  have hdigits : ∀ e ∈ d :: ds, e.isDigit = true := hds ▸ isDigit_of_mem_toDigits
  obtain ⟨es, hes, hsub⟩ := trimmed_eq_cons hd ds
  simp only [hds, hes]
  exact ⟨d, es, rfl, hd, fun e he => hdigits e (hsub he)⟩

end Binary64

/-! ### Layout -/

lemma isRun_toDigits (n : Nat) : IsRun ((Nat.toDigits 10 n).map byteOf) :=
  isRun_map_byteOf isDigit_of_mem_toDigits

lemma fraction_map_byteOf {cs : List Char} (hne : cs ≠ []) (h : ∀ c ∈ cs, c.isDigit = true) :
    Fraction (('.' :: cs).map byteOf) := by
  cases cs with
  | nil => exact absurd rfl hne
  | cons c cs => exact Fraction.some (isRun_map_byteOf h)

lemma whole_map_byteOf {c : Char} {cs : List Char} (hc : c ≠ '0')
    (h : ∀ d ∈ c :: cs, d.isDigit = true) : Whole ((c :: cs).map byteOf) :=
  Whole.run (byteOf_ne_zero (h c List.mem_cons_self) hc) (isRun_map_byteOf h)

lemma isDigit_of_mem_zeros {k : Nat} {e : Char} (he : e ∈ List.replicate k '0') :
    e.isDigit = true := by
  rw [List.eq_of_mem_replicate he]
  rfl

/-- The decimal is a numeral in either notation. -/
lemma numeral_positional {d : Decimal} {c : Char} {cs : List Char} (hdigits : d.digits = c :: cs)
    (hc : c ≠ '0') (h : ∀ e ∈ c :: cs, e.isDigit = true) :
    Numeral (d.positional.map byteOf) := by
  rw [Decimal.positional]
  rw [hdigits]
  cases d.exponent with
  | ofNat k =>
    dsimp only
    rw [List.take_succ_cons, List.drop_succ_cons]
    generalize hzeros : List.replicate (k + 1 - (c :: cs.take k).length) '0' = zeros
    generalize hfraction : (if (cs.drop k).isEmpty then ['0'] else cs.drop k) = fraction
    have hwhole : ∀ e ∈ c :: (cs.take k ++ zeros), e.isDigit = true := by
      intro e he
      rw [← List.cons_append, List.mem_append, ← hzeros] at he
      rcases he with he | he
      · exact h e (List.cons_subset_cons _ (List.take_subset _ _) he)
      · exact isDigit_of_mem_zeros he
    have hdigit : ∀ e ∈ fraction, e.isDigit = true := by
      intro e he
      rw [← hfraction] at he
      split_ifs at he
      · rw [List.mem_singleton.1 he]
        rfl
      · exact h e (List.mem_cons_of_mem _ (List.drop_subset _ _ he))
    have hne : fraction ≠ [] := by
      rw [← hfraction]
      split_ifs with hempty
      · simp
      · simpa using hempty
    have hnumeral := Numeral.mk (whole_map_byteOf hc hwhole) (fraction_map_byteOf hne hdigit)
      Exponent.none
    rwa [List.append_nil, ← List.map_append, ← List.cons_append] at hnumeral
  | negSucc k =>
    have hdigit : ∀ e ∈ List.replicate k '0' ++ c :: cs, e.isDigit = true := by
      intro e he
      rcases List.mem_append.1 he with he | he
      · exact isDigit_of_mem_zeros he
      · exact h e he
    have hnumeral := Numeral.mk Whole.zero (fraction_map_byteOf (by simp) hdigit) Exponent.none
    rwa [List.append_nil] at hnumeral

lemma numeral_scientific {d : Decimal} {c : Char} {cs : List Char} (hdigits : d.digits = c :: cs)
    (hc : c ≠ '0') (h : ∀ e ∈ c :: cs, e.isDigit = true) :
    Numeral (d.scientific.map byteOf) := by
  have hwhole : Whole ([c].map byteOf) := whole_map_byteOf hc fun e he =>
    h e (List.cons_subset_cons _ (List.nil_subset _) he)
  have hfraction :
      Fraction ((if (c :: cs).length ≤ 1 then [] else '.' :: cs).map byteOf) := by
    split_ifs with hlength
    · exact Fraction.none
    · refine fraction_map_byteOf ?_ fun e he => h e (List.mem_cons_of_mem _ he)
      rintro rfl
      exact hlength (Nat.le_refl _)
  have hexponent :
      Exponent (((if d.exponent < 0 then ['e', '-'] else ['e', '+']) ++
        Nat.toDigits 10 d.exponent.natAbs).map byteOf) := by
    have hrun := isRun_toDigits d.exponent.natAbs
    cases hds : Nat.toDigits 10 d.exponent.natAbs with
    | nil => exact absurd hds Nat.toDigits_ne_nil
    | cons e es =>
      rw [hds] at hrun
      split_ifs
      · exact Exponent.some (.inl rfl) .minus hrun
      · exact Exponent.some (.inl rfl) .plus hrun
  have hnumeral := Numeral.mk hwhole hfraction hexponent
  rw [Decimal.scientific]
  rw [hdigits]
  dsimp only [List.take_succ_cons, List.take_zero, List.drop_succ_cons, List.drop_zero]
  rwa [← List.map_append, ← List.map_append, ← List.append_assoc] at hnumeral

/-- The text of the shortest decimal is a numeral. -/
lemma numeral_shortest {x : Binary64} (hx : x.Canonical) (hpos : 0 < x.mantissa) :
    Numeral (x.shortest.render.map byteOf) := by
  obtain ⟨c, cs, hdigits, hc, h⟩ := Binary64.shortest_digits hx hpos
  rw [Decimal.render]
  split_ifs
  · exact numeral_positional hdigits hc h
  · exact numeral_scientific hdigits hc h

/-! ### Bytes -/

lemma encodeChar_ascii {c : Char} (h : c.toNat < 0x80) : Utf8.encodeChar c = [byteOf c] := by
  simp only [Utf8.encodeChar, if_pos h]
  rfl

lemma encode_ascii {cs : List Char} (h : ∀ c ∈ cs, c.toNat < 0x80) :
    Utf8.encode (String.ofList cs) = cs.map byteOf := by
  rw [Utf8.encode, String.toList_ofList]
  induction cs with
  | nil => rfl
  | cons c cs ih =>
    rw [List.flatMap_cons, encodeChar_ascii (h c List.mem_cons_self),
      ih fun d hd => h d (List.mem_cons_of_mem _ hd)]
    rfl

lemma toNat_lt_of_isDigit {c : Char} (h : c.isDigit = true) : c.toNat < 0x80 := by
  have hc := Char.isDigit_iff_toNat.1 h
  have h9 : '9'.toNat = 57 := rfl
  omega

/-- Every character of a decimal is an ASCII one. -/
lemma render_ascii {d : Decimal} (h : ∀ c ∈ d.digits, c.isDigit = true) :
    ∀ c ∈ d.render, c.toNat < 0x80 := by
  intro c hc
  have hdigit (hmem : c ∈ d.digits) : c.toNat < 0x80 := toNat_lt_of_isDigit (h c hmem)
  rw [Decimal.render] at hc
  split_ifs at hc
  · rw [Decimal.positional] at hc
    generalize d.exponent = exponent at hc
    cases exponent with
    | ofNat k =>
      dsimp only at hc
      simp only [List.mem_append, List.mem_cons] at hc
      obtain (hc | hc) | rfl | hc := hc
      · exact hdigit (List.take_subset _ _ hc)
      · exact toNat_lt_of_isDigit (isDigit_of_mem_zeros hc)
      · decide
      · split_ifs at hc
        · exact List.mem_singleton.1 hc ▸ by decide
        · exact hdigit (List.drop_subset _ _ hc)
    | negSucc k =>
      dsimp only at hc
      simp only [List.mem_append, List.mem_cons, List.cons_append] at hc
      obtain rfl | rfl | hc | hc := hc
      · decide
      · decide
      · exact toNat_lt_of_isDigit (isDigit_of_mem_zeros hc)
      · exact hdigit hc
  · rw [Decimal.scientific] at hc
    simp only [List.mem_append] at hc
    obtain ((hc | hc) | hc) | hc := hc
    · exact hdigit (List.take_subset _ _ hc)
    · split_ifs at hc
      · cases hc
      · rcases List.mem_cons.1 hc with rfl | hc
        · decide
        · exact hdigit (List.drop_subset _ _ hc)
    · split_ifs at hc <;>
      · simp only [List.mem_cons, List.not_mem_nil, or_false] at hc
        rcases hc with rfl | rfl <;> decide
    · exact toNat_lt_of_isDigit (isDigit_of_mem_toDigits c hc)

namespace Binary64

/-- The text of a number is a numeral, behind a sign if it is negative. -/
lemma encode_render {x : Binary64} (hx : x.Canonical) :
    ∃ t, Numeral t ∧ Utf8.encode x.render = if x.negative then minus :: t else t := by
  have hmagnitude : ∃ cs : List Char, (∀ c ∈ cs, c.toNat < 0x80) ∧ Numeral (cs.map byteOf) ∧
      x.render = String.ofList (if x.negative then '-' :: cs else cs) := by
    by_cases hzero : x.mantissa = 0
    · refine ⟨['0', '.', '0'], by simp, ?_, by rw [render, if_pos hzero]⟩
      have hfraction := fraction_map_byteOf (List.cons_ne_nil '0' []) (by simp)
      exact Numeral.mk Whole.zero hfraction Exponent.none
    · obtain ⟨c, cs, hdigits, -, h⟩ := shortest_digits hx (Nat.pos_of_ne_zero hzero)
      exact ⟨x.shortest.render, render_ascii (hdigits ▸ h),
        numeral_shortest hx (Nat.pos_of_ne_zero hzero), by rw [render, if_neg hzero]⟩
  obtain ⟨cs, hascii, hnumeral, hrender⟩ := hmagnitude
  refine ⟨cs.map byteOf, hnumeral, ?_⟩
  rw [hrender]
  split_ifs
  · exact encode_ascii fun c hc => (List.mem_cons.1 hc).elim (fun heq => heq ▸ by decide) (hascii c)
  · exact encode_ascii hascii

end Binary64

end PodAdmission

import Mathlib.Tactic.Ring
import PodAdmission.Number.Binary64

/-!
# The numbers that decimals stand for

Rounding to the nearest binary64 number leaves a mantissa of 53 bits, or fewer at scale zero. All
that a reader makes of a decimal is `Binary64.Canonical`.
-/

namespace PodAdmission

namespace Binary64

/-- The mantissa has 53 bits, or fewer at scale zero, and the number is finite. -/
structure Canonical (x : Binary64) : Prop where
  mantissa_lt : x.mantissa < 2 ^ 53
  full : x.scale = 0 ∨ 2 ^ 52 ≤ x.mantissa
  scale_le : x.scale ≤ maxScale

lemma canonical_zero (negative : Bool) : (zero negative).Canonical :=
  ⟨by simp [zero], .inl rfl, Nat.zero_le _⟩

lemma Canonical.withSign {x : Binary64} (h : x.Canonical) (negative : Bool) :
    (x.withSign negative).Canonical :=
  ⟨h.mantissa_lt, h.full, h.scale_le⟩

/-! ### Rounding -/

lemma roundRatio_le (num den : Nat) : roundRatio num den ≤ num / den + 1 := by
  unfold roundRatio
  dsimp only
  split_ifs <;> omega

lemma le_roundRatio (num den : Nat) : num / den ≤ roundRatio num den := by
  unfold roundRatio
  dsimp only
  split_ifs <;> omega

/-- A ratio that is scaled so that its whole part has 53 bits rounds to 53 bits or to the next
power of two. -/
lemma roundRatio_scaled (num den : Nat) :
    roundRatio num (den * 2 ^ (Nat.log2 (num / den) - 52)) ≤ 2 ^ 53 ∧
      (Nat.log2 (num / den) - 52 = 0 ∨
        2 ^ 52 ≤ roundRatio num (den * 2 ^ (Nat.log2 (num / den) - 52))) := by
  generalize hscale : Nat.log2 (num / den) - 52 = scale
  have hupper := roundRatio_le num (den * 2 ^ scale)
  have hlower := le_roundRatio num (den * 2 ^ scale)
  rw [← Nat.div_div_eq_div_mul] at hupper hlower
  generalize num / den = q at hscale hupper hlower
  have hqlt : q / 2 ^ scale < 2 ^ 53 := by
    rw [Nat.div_lt_iff_lt_mul (Nat.two_pow_pos _), ← Nat.pow_add]
    calc q < 2 ^ (Nat.log2 q + 1) := Nat.lt_log2_self
      _ ≤ 2 ^ (53 + scale) := Nat.pow_le_pow_right (by decide) (by omega)
  refine ⟨by omega, ?_⟩
  by_cases hs : scale = 0
  · exact .inl hs
  · right
    have hq0 : q ≠ 0 := by
      rintro rfl
      rw [Nat.log2_zero] at hscale
      omega
    have hpow : 2 ^ 52 * 2 ^ scale ≤ q := by
      rw [← Nat.pow_add]
      calc 2 ^ (52 + scale) = 2 ^ Nat.log2 q := by
            congr 1
            omega
        _ ≤ q := Nat.log2_self_le hq0
    exact Nat.le_trans ((Nat.le_div_iff_mul_le (Nat.two_pow_pos _)).2 hpow) hlower

lemma carry_fst_lt {m scale : Nat} (h : m ≤ 2 ^ 53) : (carry m scale).1 < 2 ^ 53 := by
  rw [carry]
  split_ifs with hcarry
  · dsimp only
    omega
  · dsimp only
    omega

lemma carry_full {m scale : Nat} (h : scale = 0 ∨ 2 ^ 52 ≤ m) :
    (carry m scale).2 = 0 ∨ 2 ^ 52 ≤ (carry m scale).1 := by
  rw [carry]
  split_ifs with hcarry
  · right
    dsimp only
    omega
  · exact h

lemma canonical_of_ofUnits? {num den : Nat} {x : Binary64} (h : ofUnits? num den = some x) :
    x.Canonical := by
  obtain ⟨hle, hfull⟩ := roundRatio_scaled num den
  simp only [ofUnits?] at h
  split_ifs at h with hmax
  obtain rfl := Option.some.inj h
  exact ⟨carry_fst_lt hle, carry_full hfull, hmax⟩

lemma canonical_of_ofRatio? {num den : Nat} {x : Binary64} (h : ofRatio? num den = some x) :
    x.Canonical := by
  rw [ofRatio?] at h
  exact canonical_of_ofUnits? h

lemma canonical_getD {num den : Nat} : ((ofRatio? num den).getD (zero false)).Canonical := by
  cases h : ofRatio? num den with
  | none => exact canonical_zero false
  | some x => exact canonical_of_ofRatio? h

/-- Whatever a decimal stands for is canonical. -/
lemma canonical_of_ofDecimal? {negative : Bool} {significand : Nat} {exponent : Int} {x : Binary64}
    (h : ofDecimal? negative significand exponent = some x) : x.Canonical := by
  simp only [ofDecimal?] at h
  obtain ⟨y, hy, rfl⟩ := Option.map_eq_some_iff.1 h
  refine Canonical.withSign ?_ negative
  have hwhole : ((ofRatio? significand 1).getD (zero false)).Canonical := canonical_getD
  generalize (ofRatio? significand 1).getD (zero false) = whole at hy hwhole
  cases exponent with
  | ofNat k =>
    dsimp only at hy
    split_ifs at hy
    · exact canonical_of_ofRatio? hy
    · exact Option.some.inj hy ▸ hwhole
  | negSucc k =>
    dsimp only at hy
    split_ifs at hy
    · exact Option.some.inj hy ▸ canonical_getD
    · exact Option.some.inj hy ▸ canonical_getD
    · exact Option.some.inj hy ▸ canonical_zero false

end Binary64

end PodAdmission

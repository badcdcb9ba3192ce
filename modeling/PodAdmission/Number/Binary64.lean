/-!
# Binary64

The finite binary64 numbers, exactly: a sign and a whole number of units of `2 ^ (-1074)`. Every
operation computes an exact ratio of natural numbers and rounds it once to the nearest number, a
tie going to the even one, so nothing here rests on machine arithmetic.

`Binary64.ofDecimal?` is the number that a decimal in a document stands for. It rounds the
significand, then multiplies or divides by a rounded power of ten; the answer is therefore not
always the number nearest to the decimal.
-/

namespace PodAdmission

/-- A finite binary64 number, `mantissa * 2 ^ scale` units of `2 ^ (-1074)` with a sign. The
mantissa has 53 bits, or fewer at scale zero. -/
structure Binary64 where
  negative : Bool
  mantissa : Nat
  scale : Nat
  deriving DecidableEq

namespace Binary64

/-- The number of units in one: `2 ^ 1074`. -/
def unitsInOne : Nat := Nat.pow 2 1074

/-- The largest scale of a finite number. -/
def maxScale : Nat := 2045

/-- Zero with a sign. -/
def zero (negative : Bool) : Binary64 := ⟨negative, 0, 0⟩

/-- The magnitude in units. -/
def units (x : Binary64) : Nat := x.mantissa * Nat.pow 2 x.scale

/-- The same magnitude with the sign given. -/
def withSign (negative : Bool) (x : Binary64) : Binary64 := { x with negative }

/-- Numeric equality: the two zeros are equal. -/
def same (x y : Binary64) : Bool :=
  x.mantissa == y.mantissa && x.scale == y.scale && (x.mantissa == 0 || x.negative == y.negative)

/-- The whole number nearest to a ratio; a tie goes to the even one. -/
def roundRatio (num den : Nat) : Nat :=
  let q := num / den
  let r := num % den
  if den < 2 * r || (2 * r == den && q % 2 == 1) then q + 1 else q

/-- A mantissa of 53 bits that was rounded up to 54 is halved. -/
def carry (m scale : Nat) : Nat × Nat :=
  if m = 0x20000000000000 then (0x10000000000000, scale + 1) else (m, scale)

/-- The positive number nearest to a ratio of units, if it is finite. -/
def ofUnits? (num den : Nat) : Option Binary64 :=
  let scale := Nat.log2 (num / den) - 52
  let (m, scale) := carry (roundRatio num (den * Nat.pow 2 scale)) scale
  if scale ≤ maxScale then some ⟨false, m, scale⟩ else none

/-- The positive number nearest to a ratio, if it is finite. -/
def ofRatio? (num den : Nat) : Option Binary64 :=
  ofUnits? (num * unitsInOne) den

/-- The power of ten with an exponent up to 308. -/
def powerOfTen (k : Nat) : Binary64 :=
  (ofRatio? (Nat.pow 10 k) 1).getD (zero false)

/-- The magnitude times a power of ten, if that is finite. -/
def timesPower? (x : Binary64) (k : Nat) : Option Binary64 :=
  ofRatio? (x.units * (powerOfTen k).units) (unitsInOne * unitsInOne)

/-- The magnitude divided by a power of ten. -/
def overPower (x : Binary64) (k : Nat) : Binary64 :=
  (ofRatio? x.units (powerOfTen k).units).getD (zero false)

/-- The number that a decimal stands for: `significand * 10 ^ exponent`, if it is in range. The
significand fits in 64 bits, so below `10 ^ (-616)` nothing is left of it. -/
def ofDecimal? (negative : Bool) (significand : Nat) (exponent : Int) : Option Binary64 :=
  let whole := (ofRatio? significand 1).getD (zero false)
  let magnitude? :=
    match exponent with
    | .ofNat k =>
      if k ≤ 308 then whole.timesPower? k
      else if whole.mantissa = 0 then some whole
      else none
    | .negSucc k =>
      if k + 1 ≤ 308 then some (whole.overPower (k + 1))
      else if k + 1 ≤ 616 then some ((whole.overPower 308).overPower (k + 1 - 308))
      else some (zero false)
  magnitude?.map (withSign negative)

end Binary64

end PodAdmission

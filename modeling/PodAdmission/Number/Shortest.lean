import PodAdmission.Number.Binary64

/-!
# The shortest decimal of a binary64 number

`Binary64.shortest` is the decimal with the fewest digits among those that round to the number,
and of these the nearest to it. `Binary64.render` lays it out: positional while the exponent of
the leading digit is from -5 to 15, always with a fraction part, and scientific with a signed
exponent otherwise.
-/

namespace PodAdmission

/-- A positive decimal `d.ddd * 10 ^ exponent`, its digits without trailing zeros. -/
structure Decimal where
  digits : List Char
  exponent : Int

namespace Binary64

/-- How many decimal digits a number has; zero has none. -/
def digitCount (n : Nat) : Nat :=
  if n = 0 then 0 else (Nat.toDigits 10 n).length

/-- The exponent of the leading digit of a positive number of units. -/
def leadingExponent (units : Nat) : Int :=
  if unitsInOne ≤ units then
    (digitCount (units / unitsInOne) : Int) - 1
  else
    -(digitCount ((unitsInOne + units - 1) / units - 1) : Int)

/-- Quarter units below which a decimal rounds to a smaller number. Just above a power of two
the smaller neighbour is half as far away. -/
def lowerBound (x : Binary64) : Nat :=
  4 * x.units - (if x.mantissa = 0x10000000000000 ∧ 0 < x.scale then 1 else 2) * Nat.pow 2 x.scale

/-- Quarter units above which a decimal rounds to a greater number. -/
def upperBound (x : Binary64) : Nat :=
  4 * x.units + 2 * Nat.pow 2 x.scale

/-- The numerator and the denominator that a step `10 ^ g` of the decimal grid is measured by. -/
def gridScale (g : Int) : Nat × Nat :=
  match g with
  | .ofNat k => (Nat.pow 10 k, 1)
  | .negSucc k => (1, Nat.pow 10 (k + 1))

/-- Whether `c * 10 ^ g` rounds to the number. The ends of the interval round to the even
mantissa. -/
def reads (x : Binary64) (c : Nat) (g : Int) : Bool :=
  let (up, down) := gridScale g
  let value := 4 * c * up * unitsInOne
  let low := x.lowerBound * down
  let high := x.upperBound * down
  if x.mantissa % 2 = 0 then low ≤ value && value ≤ high else low < value && value < high

/-- The neighbour of the number on the grid `10 ^ g` that rounds to it; of two the nearer one,
and of two equally near the even one. -/
def neighbour? (x : Binary64) (g : Int) : Option Nat :=
  let (up, down) := gridScale g
  let num := x.units * down
  let den := up * unitsInOne
  let c := num / den
  let twice := 2 * (num % den)
  let nearest := if den < twice || (twice == den && c % 2 == 1) then c + 1 else c
  let other := if nearest = c then c + 1 else c
  if x.reads nearest g then some nearest else if x.reads other g then some other else none

/-- Tries one grid after the other, each ten times as fine as the one before. -/
def finest (x : Binary64) : Nat → Int → Nat × Int
  | 0, g => ((x.neighbour? g).getD 0, g)
  | tries + 1, g =>
    match x.neighbour? g with
    | some c => (c, g)
    | none => x.finest tries (g - 1)

/-- The shortest decimal that rounds to a positive number. Seventeen digits always suffice. -/
def shortest (x : Binary64) : Decimal :=
  let (c, g) := x.finest 16 (leadingExponent x.units)
  let digits := Nat.toDigits 10 c
  ⟨(digits.reverse.dropWhile (· == '0')).reverse, g + (digits.length - 1 : Nat)⟩

end Binary64

namespace Decimal

/-- Positional notation: at least one digit on either side of the point. -/
def positional (d : Decimal) : List Char :=
  match d.exponent with
  | .ofNat k =>
    let whole := d.digits.take (k + 1)
    let fraction := d.digits.drop (k + 1)
    whole ++ List.replicate (k + 1 - whole.length) '0' ++ '.' ::
      (if fraction.isEmpty then ['0'] else fraction)
  | .negSucc k => '0' :: '.' :: List.replicate k '0' ++ d.digits

/-- Scientific notation: a point only if a digit follows it, and a signed exponent. -/
def scientific (d : Decimal) : List Char :=
  let mark := if d.exponent < 0 then ['e', '-'] else ['e', '+']
  d.digits.take 1 ++ (if d.digits.length ≤ 1 then [] else '.' :: d.digits.drop 1) ++ mark ++
    Nat.toDigits 10 d.exponent.natAbs

/-- The layout by the exponent of the leading digit. -/
def render (d : Decimal) : List Char :=
  if -5 ≤ d.exponent ∧ d.exponent < 16 then d.positional else d.scientific

end Decimal

/-- The text of a number: the shortest one that reads back. -/
def Binary64.render (x : Binary64) : String :=
  let magnitude := if x.mantissa = 0 then ['0', '.', '0'] else x.shortest.render
  String.ofList (if x.negative then '-' :: magnitude else magnitude)

end PodAdmission

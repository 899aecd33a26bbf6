import Scaffold.Decimal

/-!
# Shortest decimals

The decimal with the fewest digits among those that a float is the nearest float to; of several, the
one nearest to the float. It is found in exact arithmetic: for one digit, two digits and so on, the
two neighbours of the float on that decimal grid are tried.
-/

namespace Scaffold

/-- The number `digits * 10 ^ exponent`. -/
structure Decimal where
  digits : Nat
  exponent : Int
deriving DecidableEq, Repr

namespace Decimal

/-- The digits in front and behind the point, without an exponent. -/
def positional (d : Decimal) : String :=
  let ds := Nat.toDigits 10 d.digits
  let places := (-d.exponent).toNat
  let whole := ds ++ List.replicate d.exponent.toNat '0'
  if places = 0 then String.ofList whole
  else
    let padded := List.replicate (places + 1 - ds.length) '0' ++ ds
    let front := padded.length - places
    String.ofList (padded.take front ++ '.' :: padded.drop front)

end Decimal

namespace Binary

/-- Four times a value in units of `10 ^ exponent`, as a fraction. -/
def quarters (b : Binary) (exponent : Int) : Nat × Nat :=
  (4 * b.mantissa * Nat.pow 2 b.exponent.toNat * Nat.pow 10 (-exponent).toNat,
    Nat.pow 2 (-b.exponent).toNat * Nat.pow 10 exponent.toNat)

/-- The greatest `n` with `10 ^ n` not above a value that is not zero. -/
def decimalExponent (b : Binary) : Int :=
  let (num, den) := (b.mantissa * Nat.pow 2 b.exponent.toNat, Nat.pow 2 (-b.exponent).toNat)
  if den ≤ num then ((Nat.toDigits 10 (num / den)).length : Int) - 1
  else
    let shift := (Nat.toDigits 10 den).length - (Nat.toDigits 10 num).length
    if den ≤ num * Nat.pow 10 shift then -(shift : Int) else -(shift : Int) - 1

/-- Whether a value is the least one with its exponent, so that its neighbour below is nearer than
the one above. -/
def isLeastOfBinade (b : Binary) : Bool :=
  b.mantissa = Nat.pow 2 52 && -1074 < b.exponent

/-- The decimal with an exponent that is nearest to a value, among the two neighbours of the value
that lie between the halfway points to the next floats. -/
def neighbour? (b : Binary) (exponent : Int) : Option Decimal :=
  let (num, den) := b.quarters exponent
  let unit := Nat.pow 2 b.exponent.toNat * Nat.pow 10 (-exponent).toNat
  let low := num - (if b.isLeastOfBinade then unit else 2 * unit)
  let high := num + 2 * unit
  let isInside (c : Nat) : Bool :=
    let x := 4 * c * den
    if b.mantissa % 2 = 0 then low ≤ x && x ≤ high else low < x && x < high
  let below := num / (4 * den)
  let above := below + 1
  let isNearerAbove := 4 * above * den - num < num - 4 * below * den
  match isInside below, isInside above with
  | true, true => some ⟨if isNearerAbove then above else below, exponent⟩
  | true, false => some ⟨below, exponent⟩
  | false, true => some ⟨above, exponent⟩
  | false, false => none

/-- The greatest number of digits that a float needs. -/
def mostDigits : Nat := 17

/-- A decimal without a zero as its last digit: ten units are one unit of the next grid. -/
def carried (d : Decimal) : Decimal :=
  if d.digits = 10 then ⟨1, d.exponent + 1⟩ else d

/-- The shortest decimal of a value. -/
def shortest (b : Binary) : Decimal :=
  if b.mantissa = 0 then ⟨0, 0⟩
  else
    let top := b.decimalExponent
    carried (((List.range mostDigits).findSome? fun n : Nat => b.neighbour? (top - n)).getD ⟨0, 0⟩)

end Binary

/-- The shortest text of a float, without an exponent, and with a point if the float is finite. -/
def shortestText (x : Float) : String :=
  if x.isNaN then "NaN"
  else
    let sign := if x.toBits.toNat / Nat.pow 2 63 = 1 then "-" else ""
    if x.isInf then sign ++ "inf"
    else
      let text := (Binary.ofFloat x).shortest.positional
      sign ++ if text.contains '.' then text else text ++ ".0"

end Scaffold

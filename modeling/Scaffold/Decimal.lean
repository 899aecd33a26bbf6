/-!
# Fixed decimals

A number with a fixed count of digits after the point, rounded from its exact value; a tie goes to
the even neighbour. `Binary.ofFloat` gives the exact value of a finite float.
-/

namespace Scaffold

/-- The nearest natural number to `num / den`; of two, the even one. -/
def roundDiv (num den : Nat) : Nat :=
  let q := num / den
  let r := num % den
  if 2 * r < den then q
  else if den < 2 * r then q + 1
  else if q % 2 = 0 then q else q + 1

/-- The exact value `mantissa * 2 ^ exponent` of a number that is not negative. -/
structure Binary where
  mantissa : Nat
  exponent : Int
deriving DecidableEq, Repr

namespace Binary

/-- The value of a finite float that is not negative. -/
def ofFloat (x : Float) : Binary :=
  let bits := x.toBits.toNat
  let fraction : Nat := bits % Nat.pow 2 52
  let exponent : Nat := bits / Nat.pow 2 52 % Nat.pow 2 11
  if exponent = 0 then ⟨fraction, -1074⟩ else ⟨fraction + Nat.pow 2 52, (exponent : Int) - 1075⟩

/-- The number of units of `10 ^ -places` nearest to a value. -/
def units (b : Binary) (places : Nat) : Nat :=
  roundDiv (b.mantissa * Nat.pow 10 places * Nat.pow 2 b.exponent.toNat)
    (Nat.pow 2 (-b.exponent).toNat)

end Binary

/-- The digits of `n`, at least `width` of them. -/
def paddedDigits (width n : Nat) : List Char :=
  let digits := Nat.toDigits 10 n
  List.replicate (width - digits.length) '0' ++ digits

/-- The text of a number of units of `10 ^ -places`. -/
def fixedText (places n : Nat) : String :=
  let digits := paddedDigits (places + 1) n
  let whole := digits.length - places
  String.ofList (digits.take whole ++ '.' :: digits.drop whole)

/-- The text of a finite float that is not negative, with `places` digits after the point. -/
def fixedDecimal (places : Nat) (x : Float) : String :=
  fixedText places ((Binary.ofFloat x).units places)

end Scaffold

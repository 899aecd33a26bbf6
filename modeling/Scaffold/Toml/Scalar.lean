import Scaffold.Toml.Value

/-!
# Numbers, dates and booleans

The values that are written without quotes or brackets. `scalar?` reads the whole of a word. Digits
may be grouped by single underscores; a decimal number has no leading zero; a day is one that its
month has.
-/

namespace Scaffold.Toml

/-! ## Integers -/

/-- The value of a digit in a base up to sixteen. -/
def digitValue (c : Char) : Nat :=
  if c.isDigit then c.toNat - '0'.toNat
  else if 'a' ≤ c && c ≤ 'f' then c.toNat - 'a'.toNat + 10
  else c.toNat - 'A'.toNat + 10

/-- Whether a character is a digit in a base up to sixteen. -/
def isDigitOf (base : Nat) (c : Char) : Bool :=
  (c.isDigit || ('a' ≤ c && c ≤ 'f') || ('A' ≤ c && c ≤ 'F')) && digitValue c < base

/-- The digits of a run of digits that may be grouped by single underscores. -/
def digitRun? (base : Nat) : List Char → Option (List Char)
  | [] => none
  | [c] => if isDigitOf base c then some [c] else none
  | c :: '_' :: rest => if isDigitOf base c then (digitRun? base rest).map (c :: ·) else none
  | c :: rest => if isDigitOf base c then (digitRun? base rest).map (c :: ·) else none

/-- The number that digits write. -/
def numeral (base : Nat) (digits : List Char) : Nat :=
  digits.foldl (fun n c => n * base + digitValue c) 0

/-- The digits of a decimal number without a sign: no zero leads other digits. -/
def decimalRun? (cs : List Char) : Option (List Char) :=
  match digitRun? 10 cs with
  | some ('0' :: _ :: _) => none
  | digits => digits

/-- A sign, and what follows it. -/
def signed : List Char → Bool × List Char
  | '-' :: rest => (true, rest)
  | '+' :: rest => (false, rest)
  | cs => (false, cs)

/-- An integer. -/
def integer? (cs : List Char) : Option Int :=
  match cs with
  | '0' :: 'x' :: rest => (digitRun? 16 rest).map fun ds => (numeral 16 ds : Int)
  | '0' :: 'o' :: rest => (digitRun? 8 rest).map fun ds => (numeral 8 ds : Int)
  | '0' :: 'b' :: rest => (digitRun? 2 rest).map fun ds => (numeral 2 ds : Int)
  | cs =>
    let (negative, rest) := signed cs
    (decimalRun? rest).map fun ds => if negative then -(numeral 10 ds : Int) else numeral 10 ds

/-! ## Floats -/

/-- The decimal exponent beyond which a number is out of the range of floats. -/
def greatestExponent : Int := 310

/-- The decimal exponent below which a number is zero. -/
def leastExponent : Int := -345

/-- The float nearest to `digits * 10 ^ exponent`. -/
def nearestFloat (negative : Bool) (digits : List Char) (exponent : Int) : Value :=
  let digits := digits.dropWhile (· = '0')
  let magnitude : Int := digits.length + exponent
  let value : Float :=
    if digits.isEmpty || magnitude < leastExponent then 0
    else if greatestExponent < magnitude then 1 / 0
    else Float.ofScientific (numeral 10 digits) (exponent < 0) exponent.natAbs
  if value.isInf then .vastFloat else .float (if negative then -value else value)

/-- The exponent after its letter. -/
def exponent? (cs : List Char) : Option Int :=
  let (negative, rest) := signed cs
  (digitRun? 10 rest).map fun ds => if negative then -(numeral 10 ds : Int) else numeral 10 ds

/-- A float with its fraction and exponent; one of the two must be there. -/
def decimalFloat? (negative : Bool) (cs : List Char) : Option Value := do
  let isExponentMark (c : Char) : Bool := c = 'e' || c = 'E'
  let (mantissa, rest) := (cs.takeWhile fun c => !isExponentMark c, cs.dropWhile fun c => !isExponentMark c)
  let (whole, point) := (mantissa.takeWhile (· ≠ '.'), mantissa.dropWhile (· ≠ '.'))
  let digits ← decimalRun? whole
  let exponent ← match rest with
    | [] => some 0
    | _ :: e => exponent? e
  match point, rest with
  | [], [] => none
  | [], _ => return nearestFloat negative digits exponent
  | _ :: fraction, _ =>
    let places ← digitRun? 10 fraction
    return nearestFloat negative (digits ++ places) (exponent - places.length)

/-- A float. -/
def float? (cs : List Char) : Option Value :=
  let (negative, rest) := signed cs
  if rest = ['i', 'n', 'f'] then some (.float (if negative then -(1 / 0) else 1 / 0))
  else if rest = ['n', 'a', 'n'] then some (.float (0 / 0))
  else decimalFloat? negative rest

/-! ## Dates and times -/

/-- A number of two digits and what follows it. -/
def twoDigits? : List Char → Option (Nat × List Char)
  | a :: b :: rest =>
    if a.isDigit && b.isDigit then some (digitValue a * 10 + digitValue b, rest) else none
  | _ => none

/-- The number of days of a month. -/
def daysOf (year month : Nat) : Nat :=
  if month = 2 then
    if (year % 4 = 0 && year % 100 ≠ 0) || year % 400 = 0 then 29 else 28
  else if month ∈ [4, 6, 9, 11] then 30
  else 31

/-- What follows a date. -/
def afterDate? (cs : List Char) : Option (List Char) := do
  let (century, rest) ← twoDigits? cs
  let (yearOfCentury, rest) ← twoDigits? rest
  let '-' :: rest := rest | none
  let (month, rest) ← twoDigits? rest
  let '-' :: rest := rest | none
  let (day, rest) ← twoDigits? rest
  if 1 ≤ month && month ≤ 12 && 1 ≤ day && day ≤ daysOf (century * 100 + yearOfCentury) month then
    some rest
  else none

/-- What follows the fraction of a second, if there is one. -/
def afterFraction? : List Char → Option (List Char)
  | '.' :: rest =>
    if rest.head?.any Char.isDigit then some (rest.dropWhile Char.isDigit) else none
  | cs => some cs

/-- What follows a time of day; its seconds may be left out. -/
def afterTime? (cs : List Char) : Option (List Char) := do
  let (hour, rest) ← twoDigits? cs
  let ':' :: rest := rest | none
  let (minute, rest) ← twoDigits? rest
  if hour > 23 || minute > 59 then none
  else match rest with
    | ':' :: rest => do
      let (second, rest) ← twoDigits? rest
      if second > 60 then none else afterFraction? rest
    | rest => some rest

/-- Whether a text is the distance of a place from universal time, or nothing. -/
def isOffset (cs : List Char) : Bool :=
  match cs with
  | [] | ['Z'] | ['z'] => true
  | sign :: rest =>
    (sign = '+' || sign = '-') &&
      match twoDigits? rest with
      | some (hour, ':' :: rest) =>
        match twoDigits? rest with
        | some (minute, []) => hour ≤ 23 && minute ≤ 59
        | _ => false
      | _ => false

/-- Whether a text is a date, a time, or both. -/
def isMoment (cs : List Char) : Bool :=
  match afterDate? cs with
  | some [] => true
  | some (mark :: rest) =>
    mark ∈ ['T', 't', ' '] && (afterTime? rest).any isOffset
  | none => afterTime? cs = some []

/-! ## Words -/

/-- A value that is written as a word. -/
def scalar? (cs : List Char) : Option Value :=
  if cs = ['t', 'r', 'u', 'e'] then some (.boolean true)
  else if cs = ['f', 'a', 'l', 's', 'e'] then some (.boolean false)
  else match integer? cs with
    | some n => some (.integer n)
    | none => if isMoment cs then some .moment else float? cs

/-- The characters of words. -/
def isWordCharacter (c : Char) : Bool :=
  c.isAlphanum || c ∈ ['_', '+', '-', '.', ':']

/-- The word that a text begins with, and what follows it. A date goes on over one space when a
digit follows that. -/
def word (cs : List Char) : List Char × List Char :=
  let (first, rest) := (cs.takeWhile isWordCharacter, cs.dropWhile isWordCharacter)
  match rest with
  | ' ' :: d :: more =>
    if d.isDigit && afterDate? first = some [] then
      (first ++ ' ' :: (d :: more).takeWhile isWordCharacter,
        (d :: more).dropWhile isWordCharacter)
    else (first, rest)
  | _ => (first, rest)

end Scaffold.Toml

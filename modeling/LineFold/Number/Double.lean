/-! Binary floating-point numbers of 64 bits. The magnitude is the number's bits without the
sign: it grows with the absolute value, so rounding needs no case for a carry. A decimal is read
as the nearest number, a tie going to the even one, and a number is written with the fewest
digits that read back as it. -/
namespace LineFold.Number

structure Double where
  negative : Bool
  magnitude : Nat
  deriving DecidableEq

namespace Double

def fractionBits : Nat := 52

/-- The exponent of the unit in the last place of the smallest numbers, negated. -/
def smallestExponent : Nat := 1074

def infinity : Nat := 2047 * Nat.pow 2 fractionBits

def notANumber : Nat := infinity + Nat.pow 2 (fractionBits - 1)

/-- The nearest integer to a quotient; a tie goes to the even one. -/
def roundDiv (num den : Nat) : Nat :=
  let quotient := num / den
  let twice := 2 * (num % den)
  if twice < den || (twice == den && quotient % 2 == 0) then quotient else quotient + 1

/-- The quotient of `num` and `den` over two to the power `exponent - smallestExponent`. -/
def scaledRound (num den exponent : Nat) : Nat :=
  if exponent ≤ smallestExponent then roundDiv (num * Nat.pow 2 (smallestExponent - exponent)) den
  else roundDiv num (den * Nat.pow 2 (exponent - smallestExponent))

/-- The magnitude nearest to a positive quotient. The exponents count from the smallest one. -/
def nearest (num den : Nat) : Nat :=
  let exponent := num.log2 + smallestExponent - (den.log2 + fractionBits + 1)
  let mantissa := scaledRound num den exponent
  let rounded :=
    if mantissa ≤ Nat.pow 2 (fractionBits + 1) then exponent * Nat.pow 2 fractionBits + mantissa
    else (exponent + 1) * Nat.pow 2 fractionBits + scaledRound num den (exponent + 1)
  min rounded infinity

def digitCount (n : Nat) : Nat := (Nat.toDigits 10 n).length

/-- The magnitude nearest to `digits` times ten to the power `exponent`. Exponents at which
nothing but zero or infinity is near are not computed with. -/
def ofDecimal (digits : Nat) (exponent : Int) : Nat :=
  let size := exponent + digitCount digits
  if digits = 0 ∨ size < -400 then 0
  else if size > 400 then infinity
  else if exponent ≥ 0 then nearest (digits * Nat.pow 10 exponent.toNat) 1
  else nearest digits (Nat.pow 10 (-exponent).toNat)

/-- The value of a finite magnitude as a quotient. -/
def quotient (magnitude : Nat) : Nat × Nat :=
  let field := magnitude / Nat.pow 2 fractionBits
  let fraction := magnitude % Nat.pow 2 fractionBits
  if field = 0 then (fraction, Nat.pow 2 smallestExponent)
  else
    let mantissa := fraction + Nat.pow 2 fractionBits
    if field - 1 ≥ smallestExponent then (mantissa * Nat.pow 2 (field - 1 - smallestExponent), 1)
    else (mantissa, Nat.pow 2 (smallestExponent - (field - 1)))

/-- The decimal exponent of the first digit of a positive quotient. -/
def leadingExponent (num den : Nat) : Int :=
  if den ≤ num then (digitCount (num / den) : Int) - 1
  else -(digitCount ((den + num - 1) / num - 1) : Int)

/-- The neighbours of a quotient among the multiples of ten to the power `exponent` that read
back as `magnitude`, the nearer one first. -/
def neighbours (magnitude num den : Nat) (exponent : Int) : List Nat :=
  let (num, den) :=
    if exponent ≥ 0 then (num, den * Nat.pow 10 exponent.toNat) else (num * Nat.pow 10 (-exponent).toNat, den)
  let below := num / den
  let nearer := roundDiv num den
  let farther := if nearer = below then below + 1 else below
  [nearer, farther].filter fun digits => ofDecimal digits exponent = magnitude

/-- The fewest digits that read back, and the exponent of the first of them. -/
def shortestFrom (magnitude num den : Nat) (leading : Int) : Nat → Nat → Nat × Int
  | 0, _ => (num / den, leading)
  | fuel + 1, count =>
    let exponent := leading + 1 - count
    match neighbours magnitude num den exponent with
    | digits :: _ => (digits, exponent)
    | [] => shortestFrom magnitude num den leading fuel (count + 1)

def dropTrailingZeros (digits : List Char) : List Char :=
  (digits.reverse.dropWhile (· == '0')).reverse

/-- The shortest digits of a positive finite magnitude and the exponent of the first one. -/
def shortest (magnitude : Nat) : List Char × Int :=
  let (num, den) := quotient magnitude
  let (digits, exponent) := shortestFrom magnitude num den (leadingExponent num den) 17 1
  let text := Nat.toDigits 10 digits
  (dropTrailingZeros text, exponent + text.length - 1)

/-- Numbers from 0.0001 up to 10^16 are written by position, and others with an exponent of at
least two digits. -/
def decimalText (digits : List Char) (leading : Int) : List Char :=
  if leading < -4 ∨ 16 ≤ leading then
    let fraction := digits.drop 1
    let sign := if leading < 0 then '-' else '+'
    let exponent := Nat.toDigits 10 leading.natAbs
    digits.take 1 ++ (if fraction.isEmpty then [] else '.' :: fraction) ++
      'e' :: sign :: (if exponent.length < 2 then '0' :: exponent else exponent)
  else if leading < 0 then
    '0' :: '.' :: List.replicate (leading.natAbs - 1) '0' ++ digits
  else
    let whole := leading.toNat + 1
    let fraction := digits.drop whole
    digits.take whole ++ List.replicate (whole - digits.length) '0' ++
      '.' :: (if fraction.isEmpty then ['0'] else fraction)

def magnitudeText (magnitude : Nat) : String :=
  if infinity < magnitude then "nan"
  else if magnitude = infinity then "inf"
  else if magnitude = 0 then "0.0"
  else
    let (digits, leading) := shortest magnitude
    String.ofList (decimalText digits leading)

def text (x : Double) : String :=
  if x.negative && x.magnitude ≤ infinity then "-" ++ magnitudeText x.magnitude
  else magnitudeText x.magnitude

end Double

end LineFold.Number

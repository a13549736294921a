set_option autoImplicit false

/-! Finite binary floating-point numbers of 64 bits, in exact arithmetic on natural numbers. A
magnitude is its code: the 11 exponent bits followed by the 52 fraction bits. Consecutive
magnitudes have consecutive codes, so rounding up past the last fraction carries into the exponent
by itself. Every operation is one rounding of an exact rational number to the nearest magnitude, a
tie to the even code.

The reals that round to a magnitude form an interval around it, ends included exactly if its code
is even. To find the shortest decimal in it, the two neighbours of the magnitude among the decimals
of one digit, two digits and so on are tried; the first count at which one of them lies in the
interval is the least possible, since a decimal of that many digits in the interval would have one
of these neighbours between itself and the magnitude. Of two neighbours that both fit, the nearer
is taken, and of two equally near the even one. -/

namespace JsonTemplate

/-- The number of codes in a binade: as many as 52 fraction bits tell apart. -/
def binade : Nat := Nat.pow 2 52

def infinityCode : Nat := 2047 * binade

/-- A finite number of 64 bits: its sign and the code of its magnitude. Zero has both
signs. -/
structure Binary64 where
  negative : Bool
  code : Nat
  finite : code < infinityCode
  deriving DecidableEq

namespace Binary64

def zero (negative : Bool) : Binary64 := ⟨negative, 0, by decide⟩

def isZero (number : Binary64) : Bool := number.code == 0

def roundQuotient (numerator denominator : Nat) : Nat :=
  let quotient := numerator / denominator
  let twice := 2 * (numerator % denominator)
  if twice < denominator then quotient
  else if denominator < twice then quotient + 1
  else quotient + quotient % 2

/-- The integer `significand` and the exponent `exponent` of two that a code stands for:
the magnitude is their product `significand * 2 ^ exponent`. -/
def parts (code : Nat) : Nat × Int :=
  if code < binade then (code, -1074)
  else (code % binade + binade, (code / binade : Nat) - 1075)

def shiftQuotient (numerator denominator : Nat) : Int → Nat × Nat
  | .ofNat shift => (numerator * Nat.pow 2 shift, denominator)
  | .negSucc shift => (numerator, denominator * Nat.pow 2 (shift + 1))

/-- The exponent of the greatest power of two that is at most a positive quotient. -/
def floorLog (numerator denominator : Nat) : Int :=
  let guess : Int := (numerator.log2 : Int) - denominator.log2
  let scaled := shiftQuotient numerator denominator (-guess)
  if scaled.1 < scaled.2 then guess - 1 else guess

/-- The code of the magnitude nearest to a quotient. The result need not be finite. -/
def codeOfQuotient (numerator denominator : Nat) : Nat :=
  if numerator = 0 then 0
  else
    let exponent := max (floorLog numerator denominator - 52) (-1074)
    let scaled := shiftQuotient numerator denominator (-exponent)
    (exponent + 1074).toNat * binade + roundQuotient scaled.1 scaled.2

def codeOfNat (number : Nat) : Nat := codeOfQuotient number 1

def mulCodes (left right : Nat) : Nat :=
  let product := shiftQuotient ((parts left).1 * (parts right).1) 1
    ((parts left).2 + (parts right).2)
  codeOfQuotient product.1 product.2

def divCodes (left right : Nat) : Nat :=
  let quotient := shiftQuotient (parts left).1 (parts right).1
    ((parts left).2 - (parts right).2)
  codeOfQuotient quotient.1 quotient.2

def powerOfTen (exponent : Nat) : Nat := codeOfNat (Nat.pow 10 exponent)

/-- A magnitude divided by a power of ten. The powers up to 308 have a finite nearest
magnitude; a greater power is divided out 308 at a time, with one rounding each. -/
def dividedByTens (code exponent : Nat) : Nat :=
  if exponent ≤ 308 then divCodes code (powerOfTen exponent)
  else if code = 0 then 0
  else dividedByTens (divCodes code (powerOfTen 308)) (exponent - 308)
termination_by exponent

def multipliedByTens (code exponent : Nat) : Option Nat :=
  if exponent ≤ 308 then
    let product := mulCodes code (powerOfTen exponent)
    if product < infinityCode then some product else none
  else if code = 0 then some 0
  else none

def ofCode? (negative : Bool) (code : Nat) : Option Binary64 :=
  if finite : code < infinityCode then some ⟨negative, code, finite⟩ else none

/-- The number read from a sign, a significand and an exponent of ten. The significand
is rounded first and scaled afterwards, so two roundings may add up; numbers out of
range have no value, and numbers too small become zero. -/
def ofDecimal? (negative : Bool) (significand : Nat) : Int → Option Binary64
  | .ofNat exponent =>
      (multipliedByTens (codeOfNat significand) exponent).bind (ofCode? negative)
  | .negSucc exponent =>
      ofCode? negative (dividedByTens (codeOfNat significand) (exponent + 1))

structure Decimal where
  digits : Nat
  exponent : Int
  deriving DecidableEq

/-- A decimal without zeros at its end, at most `limit` of them taken away. -/
def Decimal.trimmed : Nat → Decimal → Decimal
  | 0, decimal => decimal
  | limit + 1, decimal =>
      if decimal.digits ≠ 0 ∧ decimal.digits % 10 = 0 then
        Decimal.trimmed limit ⟨decimal.digits / 10, decimal.exponent + 1⟩
      else decimal

/-- A magnitude and the interval of reals that round to it. All three values are counted
in quarters of the unit `2 ^ exponent`. -/
structure Interval where
  low : Nat
  value : Nat
  high : Nat
  exponent : Int
  closed : Bool

/-- The interval of a code. At the foot of a binade the step below is half as long. -/
def interval (code : Nat) : Interval :=
  let significand := (parts code).1
  let belowStep := if code % binade = 0 ∧ binade < code then 1 else 2
  { low := 4 * significand - belowStep
    value := 4 * significand
    high := 4 * significand + 2
    exponent := (parts code).2 - 2
    closed := code % 2 == 0 }

def digitCount (number : Nat) : Nat := (Nat.toDigits 10 number).length

def floorLogTen (numerator denominator : Nat) : Int :=
  if denominator ≤ numerator then digitCount (numerator / denominator) - 1
  else
    let places := digitCount (denominator / numerator)
    if denominator = numerator * Nat.pow 10 (places - 1) then 1 - (places : Int)
    else -(places : Int)

/-- The decimal with the given exponent of ten that stands for the interval's value, if a
neighbour of the value on that grid lies in the interval. -/
def onGrid? (range : Interval) (exponent : Int) : Option Decimal :=
  let unit := shiftQuotient 1 1 range.exponent
  let step := Nat.pow 10 exponent.toNat * unit.2
  let scale := Nat.pow 10 (-exponent).toNat * unit.1
  let value := range.value * scale
  let fits : Nat → Bool := fun candidate =>
    if range.closed then
      decide (range.low * scale ≤ candidate * step) &&
        decide (candidate * step ≤ range.high * scale)
    else
      decide (range.low * scale < candidate * step) &&
        decide (candidate * step < range.high * scale)
  let below := value / step
  let above := below + 1
  match fits below, fits above with
  | true, false => some ⟨below, exponent⟩
  | false, true => some ⟨above, exponent⟩
  | false, false => none
  | true, true =>
      let fromBelow := value - below * step
      let fromAbove := above * step - value
      if fromBelow < fromAbove ∨ (fromBelow = fromAbove ∧ below % 2 = 0) then some ⟨below, exponent⟩
      else some ⟨above, exponent⟩

/-- The shortest decimal of a positive magnitude. Seventeen digits are always enough. -/
def shortest (code : Nat) : Decimal :=
  let range := interval code
  let unit := shiftQuotient range.value 1 range.exponent
  let leading := floorLogTen unit.1 unit.2
  let found := (List.range 17).findSome? (fun (more : Nat) => onGrid? range (leading - more))
  Decimal.trimmed 17 (found.getD ⟨0, 0⟩)

end Binary64
end JsonTemplate

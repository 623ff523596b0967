/-!
# Binary floating-point numbers in JSON text

A number with a fraction, an exponent or more digits than 64 bits hold is kept in the 64-bit binary
format: a mantissa below `2 ^ 53` times a power of two. All rounding is done here on exact ratios,
to the nearest value and to the even mantissa on a tie.

Reading keeps as many digits as fit 64 bits, rounds them, and then multiplies or divides by a
rounded power of ten. Printing writes the fewest digits that identify the value, positionally for
moderate exponents and otherwise with an exponent, which always carries its sign.
-/

namespace StorageGateway

/-- A finite binary floating-point number: the mantissa times two to the exponent. -/
structure Binary64 where
  /-- Whether the number carries a minus sign; zero has both signs. -/
  negative : Bool
  /-- The significant bits, below `2 ^ 53`. -/
  mantissa : Nat
  /-- The power of two, between -1074 and 971. -/
  exponent : Int
deriving DecidableEq, Repr

namespace Binary64

/-- The least power of two. -/
def leastExponent : Int := -1074

/-- The greatest power of two. -/
def greatestExponent : Int := 971

/-- The bound of mantissas, `2 ^ 53`. -/
def mantissaBound : Nat := 9007199254740992

/-- A power of two, exactly. -/
def twoTo (n : Nat) : Nat := Nat.pow 2 n

/-- A power of ten, exactly. -/
def tenTo (n : Nat) : Nat := Nat.pow 10 n

/-- A ratio scaled by two to minus the exponent, as a ratio again. -/
def scaled (num den : Nat) (exponent : Int) : Nat × Nat :=
  if exponent < 0 then (num * twoTo exponent.natAbs, den)
  else (num, den * twoTo exponent.natAbs)

/-- The quotient rounded to the nearest integer, to the even one on a tie. -/
def roundedQuotient (num den : Nat) : Nat :=
  let quotient := num / den
  let twice := 2 * (num % den)
  if twice > den || (twice == den && quotient % 2 == 1) then quotient + 1 else quotient

/-- The exponent at which a positive ratio has 53 significant bits. -/
def exponentOf (num den : Nat) : Int :=
  let guess : Int := (num.log2 : Int) - den.log2 - 53
  let (n, d) := scaled num den guess
  let exponent := if n / d < mantissaBound then guess else guess + 1
  max exponent leastExponent

/-- The number nearest to a ratio, unless that is beyond the greatest finite one. -/
def ofRatio (negative : Bool) (num den : Nat) : Option Binary64 :=
  if num == 0 then some ⟨negative, 0, leastExponent⟩
  else
    let exponent := exponentOf num den
    let (n, d) := scaled num den exponent
    let mantissa := roundedQuotient n d
    let (mantissa, exponent) :=
      if mantissa == mantissaBound then (mantissaBound / 2, exponent + 1) else (mantissa, exponent)
    if exponent > greatestExponent then none else some ⟨negative, mantissa, exponent⟩

/-- The absolute value as a ratio. -/
def ratio (x : Binary64) : Nat × Nat :=
  if x.exponent < 0 then (x.mantissa, twoTo x.exponent.natAbs)
  else (x.mantissa * twoTo x.exponent.natAbs, 1)

/-- The product, rounded. -/
def mul (x y : Binary64) : Option Binary64 :=
  let (a, b) := x.ratio
  let (c, d) := y.ratio
  ofRatio (x.negative != y.negative) (a * c) (b * d)

/-- The quotient by a number other than zero, rounded. -/
def div (x y : Binary64) : Option Binary64 :=
  let (a, b) := x.ratio
  let (c, d) := y.ratio
  ofRatio (x.negative != y.negative) (a * d) (b * c)

/-- A power of ten, rounded. -/
def powerOfTen (n : Nat) : Option Binary64 := ofRatio false (tenTo n) 1

/-- Scales a number by a power of ten in steps that a rounded power of ten can take. The first
argument bounds the steps; a number that is still scaled down after them is zero. -/
def scaleByTen : Nat → Binary64 → Int → Option Binary64
  | 0, x, _ => some ⟨x.negative, 0, leastExponent⟩
  | steps + 1, x, exponent =>
    if exponent.natAbs ≤ 308 then do
      let power ← powerOfTen exponent.natAbs
      if exponent ≥ 0 then x.mul power else x.div power
    else if x.mantissa == 0 then some x
    else if exponent ≥ 0 then none
    else do
      let power ← powerOfTen 308
      scaleByTen steps (← x.div power) (exponent + 308)

/-- The number read for a decimal: the digits kept, and the power of ten they are scaled by. -/
def ofDecimal (negative : Bool) (significand : Nat) (exponent : Int) : Option Binary64 := do
  let x ← ofRatio negative significand 1
  scaleByTen 8 x exponent

/-! ## Printing -/

/-- The bounds of the ratios that round to a positive number, over one denominator: twice the lower
bound, twice the value and twice the upper bound are given by numerators. -/
structure Interval where
  /-- Numerator of the lower bound. -/
  low : Nat
  /-- Numerator of the value itself. -/
  value : Nat
  /-- Numerator of the upper bound. -/
  high : Nat
  /-- The common denominator. -/
  den : Nat
  /-- Whether the bounds themselves round to the number. -/
  closed : Bool

/-- The interval of ratios that round to a positive number. -/
def interval (x : Binary64) : Interval :=
  let narrow := x.mantissa == mantissaBound / 2 && x.exponent > leastExponent
  let four := 4 * x.mantissa
  let low := if narrow then four - 1 else four - 2
  let (factor, den) :=
    if x.exponent < 0 then (1, 4 * twoTo x.exponent.natAbs)
    else (twoTo x.exponent.natAbs, 4)
  ⟨low * factor, four * factor, (four + 2) * factor, den, x.mantissa % 2 == 0⟩

/-- Whether a decimal, digits times ten to the exponent, rounds to the number of an interval. -/
def Interval.contains (i : Interval) (digits : Nat) (exponent : Int) : Bool :=
  let (num, den) :=
    if exponent < 0 then (digits, tenTo exponent.natAbs) else (digits * tenTo exponent.natAbs, 1)
  let lower := i.low * den
  let upper := i.high * den
  let point := num * i.den
  if i.closed then lower ≤ point && point ≤ upper else lower < point && point < upper

/-- The distance of a decimal from the value, over a denominator that depends on the exponent
only. -/
def Interval.distance (i : Interval) (digits : Nat) (exponent : Int) : Nat :=
  let (num, den) :=
    if exponent < 0 then (digits, tenTo exponent.natAbs) else (digits * tenTo exponent.natAbs, 1)
  ((num * i.den : Int) - i.value * den).natAbs

/-- The decimal on the grid of one power of ten that rounds to the number, if there is one; of two
the nearer, and the even one on a tie. -/
def Interval.onGrid (i : Interval) (exponent : Int) : Option Nat :=
  let (num, den) :=
    if exponent < 0 then (i.value * tenTo exponent.natAbs, i.den)
    else (i.value, i.den * tenTo exponent.natAbs)
  let below := num / den
  let above := below + 1
  match i.contains below exponent && below != 0, i.contains above exponent with
  | true, true =>
    let toBelow := i.distance below exponent
    let toAbove := i.distance above exponent
    if toBelow < toAbove || (toBelow == toAbove && below % 2 == 0) then some below else some above
  | true, false => some below
  | false, true => some above
  | false, false => none

/-- The coarsest decimal that rounds to the number, searched downwards from a power of ten; the
first argument bounds the search. -/
def Interval.shortest (i : Interval) : Nat → Int → Nat × Int
  | 0, exponent => (i.value / i.den, exponent)
  | steps + 1, exponent =>
    match i.onGrid exponent with
    | some digits => (digits, exponent)
    | none => i.shortest steps (exponent - 1)

/-- The digits of a positive number and the power of ten they are scaled by. -/
def decimal (x : Binary64) : Nat × Int :=
  let i := x.interval
  let start : Int := ((x.mantissa.log2 : Int) + x.exponent) * 302 / 1000 + 2
  i.shortest 40 start

/-- A run of zeros. -/
def zeros (n : Nat) : List Char := List.replicate n '0'

/-- Where a decimal is written positionally. -/
structure Layout where
  /-- The greatest number of digits before the point. -/
  wholeDigits : Int
  /-- The greatest number of zeros between the point and the first digit. -/
  leadingZeros : Int

/-- Numbers are written positionally up to sixteen digits before the point and four zeros after. -/
def layout : Layout := ⟨16, 4⟩

/-- The mark of an exponent: a letter, the sign, and digits without leading zeros. -/
def exponentMark (exponent : Int) : List Char :=
  'e' :: (if exponent < 0 then '-' else '+') :: (toString exponent.natAbs).toList

/-- Writes digits scaled by a power of ten. -/
def writeDecimal (digits : List Char) (exponent : Int) : List Char :=
  let point : Int := digits.length + exponent
  if 0 ≤ exponent && point ≤ layout.wholeDigits then
    digits ++ zeros exponent.toNat ++ ['.', '0']
  else if 0 < point && point ≤ layout.wholeDigits then
    digits.take point.toNat ++ ['.'] ++ digits.drop point.toNat
  else if -layout.leadingZeros ≤ point && point ≤ 0 then
    ['0', '.'] ++ zeros (-point).toNat ++ digits
  else
    let mark := exponentMark (point - 1)
    match digits with
    | [] => mark
    | [d] => d :: mark
    | d :: rest => d :: '.' :: rest ++ mark

/-- The text of a number. -/
def render (x : Binary64) : List Char :=
  let sign := if x.negative then ['-'] else []
  if x.mantissa == 0 then sign ++ ['0', '.', '0']
  else
    let (digits, exponent) := x.decimal
    sign ++ writeDecimal (Nat.toDigits 10 digits) exponent

end Binary64

end StorageGateway

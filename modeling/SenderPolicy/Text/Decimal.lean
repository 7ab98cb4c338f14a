/-
The decimal text of a binary floating-point number.

A finite number is a significand times a power of two.  All real numbers that are nearer to it than
to its two neighbours read back as this number; the ends of that interval do so as well if the
significand is even.  The text has the fewest digits of which some decimal number lies in the
interval, and of the numbers with so many digits the nearest one.  It has no exponent, and no point
where there is no fraction.
-/
namespace SenderPolicy.Text.Decimal

/-- A positive number `significand * 2 ^ (exponent - 1076)`.  The exponent is shifted so that a
quarter of the smallest number is a whole number of units. -/
structure Binary where
  significand : Nat
  exponent : Nat

namespace Binary

/-- The number of the lowest 63 bits of a floating-point number. -/
def ofBits (bits : Nat) : Binary :=
  let fraction := bits % Nat.pow 2 52
  let biased := bits / Nat.pow 2 52
  if biased = 0 then ⟨fraction, 2⟩ else ⟨Nat.pow 2 52 + fraction, biased + 1⟩

/-- The number in units of `2 ^ (-1076)`. -/
def units (b : Binary) : Nat := b.significand * Nat.pow 2 b.exponent

/-- How many units lie between the number and the upper end of its interval. -/
def above (b : Binary) : Nat := Nat.pow 2 (b.exponent - 1)

/-- How many units lie between the lower end of the interval and the number.  Just above a power of
two the numbers are twice as dense below as above. -/
def below (b : Binary) : Nat :=
  let isPowerOfTwo := b.significand == Nat.pow 2 52 && b.exponent > 2
  Nat.pow 2 (b.exponent - if isPowerOfTwo then 2 else 1)

/-- Whether a multiple of one part in `scale` of a unit, given by the number of those parts, lies in
the interval. -/
def reads (b : Binary) (scale parts : Nat) : Bool :=
  let low := (b.units - b.below) * scale
  let high := (b.units + b.above) * scale
  if b.significand % 2 = 0 then low ≤ parts && parts ≤ high else low < parts && parts < high

end Binary

/-- A positive decimal number `digits * 10 ^ power / 10 ^ places`, in which `power` or `places` is
zero. -/
structure Digits where
  digits : Nat
  power : Nat
  places : Nat

/-- The number of units in one. -/
def unitsPerOne : Nat := Nat.pow 2 1076

/-- The nearest multiple of `10 ^ power / 10 ^ places` that lies in the interval of a number, if one
does.  Of two that are equally near, the upper one. -/
def onGrid? (b : Binary) (power places : Nat) : Option Digits :=
  let step := unitsPerOne * Nat.pow 10 power
  let value := b.units * Nat.pow 10 places
  let low := value / step
  let lowReads := b.reads (Nat.pow 10 places) (low * step)
  let highReads := b.reads (Nat.pow 10 places) ((low + 1) * step)
  let lowIsNearer := value - low * step < (low + 1) * step - value
  if lowReads && (lowIsNearer || !highReads) then some ⟨low, power, places⟩
  else if highReads then some ⟨low + 1, power, places⟩
  else none

/-- The grids to try, the coarsest first: powers of ten downwards, then decimal places upwards. -/
def grids : List (Nat × Nat) :=
  ((List.range 310).reverse.map fun power => (power, 0)) ++
    (List.range 1100).map fun places => (0, places + 1)

/-- The decimal number with the fewest digits in the interval of a number, nearest to it. -/
def shortest (b : Binary) : Digits :=
  (grids.findSome? fun g => onGrid? b g.1 g.2).getD ⟨0, 0, 0⟩

/-- The text of a decimal number. -/
def Digits.text (d : Digits) : List Char :=
  let digits := Nat.toDigits 10 d.digits ++ List.replicate d.power '0'
  if d.places = 0 then digits
  else
    let padded := List.replicate (d.places + 1 - digits.length) '0' ++ digits
    padded.take (padded.length - d.places) ++ '.' :: padded.drop (padded.length - d.places)

/-- The text of a floating-point number. -/
def ofFloat (x : Float) : String :=
  let bits := x.toBits.toNat
  let magnitude := bits % Nat.pow 2 63
  let sign := if bits < Nat.pow 2 63 then "" else "-"
  if magnitude > 2047 * Nat.pow 2 52 then "NaN"
  else if magnitude = 2047 * Nat.pow 2 52 then sign ++ "inf"
  else if magnitude = 0 then sign ++ "0"
  else sign ++ String.ofList (shortest (.ofBits magnitude)).text

end SenderPolicy.Text.Decimal

/-! The shortest decimal that reads back as a given double. All arithmetic is
exact: a double is a whole number times a power of two, the reals that round to
it form an interval, and the fewest digits are found by trying one digit, two
digits, and so on. -/

namespace PathRouting.Decimal

/-- A finite positive double: `significand * 2 ^ exponent`. The interval of reals
that round to it is wider on its lower side unless `lowestOfBinade` holds. -/
structure Binary where
  significand : Nat
  exponent : Int
  /-- Whether the next smaller double is only half as far away as the next larger one. -/
  lowestOfBinade : Bool

/-- The magnitude of the double with these bits. -/
def Binary.ofBits (bits : UInt64) : Binary :=
  let fraction : Nat := bits.toNat % 0x10000000000000
  let biased : Nat := bits.toNat / 0x10000000000000 % 0x800
  if biased = 0 then ⟨fraction, -1074, false⟩
  else ⟨0x10000000000000 + fraction, (biased : Int) - 1075, fraction = 0 && 1 < biased⟩

/-- Powers with an exponent that may be negative, as numerator and denominator. -/
def powerRatio (base : Nat) (exponent : Int) : Nat × Nat :=
  if 0 ≤ exponent then (Nat.pow base exponent.toNat, 1) else (1, Nat.pow base (-exponent).toNat)

def digitCount (n : Nat) : Nat := (Nat.toDigits 10 n).length

def Binary.leading (value : Binary) : Int :=
  let ratio := powerRatio 2 value.exponent
  (digitCount (value.significand * ratio.1 * Nat.pow 10 400 / ratio.2) : Int) - 401

/-- The nearest multiple of `10 ^ exponent` inside the interval of the double, if
there is one; of two that are equally near the even one is taken. -/
def Binary.onGrid? (value : Binary) (exponent : Int) : Option Nat :=
  let two := powerRatio 2 (value.exponent - 2)
  let ten := powerRatio 10 exponent
  -- four times the value, and a step of the grid, over one denominator
  let unit := ten.1 * two.2
  let scale := two.1 * ten.2
  let centre := 4 * value.significand * scale
  let low := (4 * value.significand - (if value.lowestOfBinade then 1 else 2)) * scale
  let high := (4 * value.significand + 2) * scale
  let closed := value.significand % 2 = 0
  let inside (n : Nat) : Bool :=
    (low < n * unit || (closed && low = n * unit)) &&
      (n * unit < high || (closed && high = n * unit))
  let below := centre / unit
  let above := below + 1
  match inside below, inside above with
  | false, false => none
  | true, false => some below
  | false, true => some above
  | true, true =>
    let down := centre - below * unit
    let up := above * unit - centre
    if down < up then some below
    else if up < down then some above
    else if below % 2 = 0 then some below else some above

/-- The first grid, from `digits` digits on, that meets the interval. -/
def Binary.search (value : Binary) (leading : Int) : Nat → Nat → Nat × Int
  | 0, _ => (value.significand, 0)
  | tries + 1, digits =>
    let exponent := leading + 1 - digits
    match value.onGrid? exponent with
    | some n => (n, exponent)
    | none => value.search leading tries (digits + 1)

/-- Moves the zeros at the end of a number into its exponent. -/
def stripZeros : Nat → Nat × Int → Nat × Int
  | 0, number => number
  | tries + 1, (n, exponent) =>
    if n ≠ 0 ∧ n % 10 = 0 then stripZeros tries (n / 10, exponent + 1) else (n, exponent)

/-- Whole number and decimal exponent of the shortest decimal for a nonzero finite double. -/
def shortest (bits : UInt64) : Nat × Int :=
  let value := Binary.ofBits bits
  stripZeros 20 (value.search value.leading 17 1)

end PathRouting.Decimal

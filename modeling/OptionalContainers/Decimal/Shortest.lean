import OptionalContainers.Binary64

namespace OptionalContainers.Decimal

/-- The number `digits * 10 ^ exponent`. -/
structure Point where
  digits : Nat
  exponent : Int
  deriving DecidableEq, Repr

/-- The numbers that round to `center / scale`, all ends over the same scale. -/
structure Interval where
  low : Nat
  center : Nat
  high : Nat
  scale : Nat
  closed : Bool
  deriving DecidableEq, Repr

def fractionBits : Nat := Nat.pow 2 52

def significand (magnitude : Nat) : Nat :=
  if magnitude < fractionBits then magnitude else fractionBits + magnitude % fractionBits

/-- The power of two of the last place, raised by 1076 so that quarters of it stay whole. -/
def placeExponent (magnitude : Nat) : Nat :=
  if magnitude < fractionBits then 0 else magnitude / fractionBits - 1

def Interval.ofMagnitude (magnitude : Nat) : Interval :=
  let m := significand magnitude
  let place := Nat.pow 2 (placeExponent magnitude)
  let below := if m = fractionBits ∧ fractionBits * 2 ≤ magnitude then 1 else 2
  { low := (4 * m - below) * place
    center := 4 * m * place
    high := (4 * m + 2) * place
    scale := Nat.pow 2 1076
    closed := m % 2 == 0 }

def Interval.holds (i : Interval) (n : Nat) : Bool :=
  if i.closed then i.low ≤ n && n ≤ i.high else i.low < n && n < i.high

def digitCount (n : Nat) : Nat :=
  (Nat.toDigits 10 n).length

def leadingExponent (n scale : Nat) : Int :=
  if scale ≤ n then (digitCount (n / scale) : Int) - 1
  else -(digitCount ((scale - 1) / n) : Int)

def distance (a b : Nat) : Nat :=
  (a - b) + (b - a)

def Interval.gridPoint? (i : Interval) (exponent : Int) : Option Point :=
  let factor := Nat.pow 10 (-exponent).toNat
  let step := i.scale * Nat.pow 10 exponent.toNat
  let scaled : Interval :=
    { i with low := i.low * factor, center := i.center * factor, high := i.high * factor }
  let below := scaled.center / step
  let lower := below * step
  let upper := (below + 1) * step
  match scaled.holds lower, scaled.holds upper with
  | true, true =>
      if distance lower scaled.center < distance upper scaled.center then some ⟨below, exponent⟩
      else some ⟨below + 1, exponent⟩
  | true, false => some ⟨below, exponent⟩
  | false, true => some ⟨below + 1, exponent⟩
  | false, false => none

def Interval.coarsest (i : Interval) : Nat → Int → Option Point
  | 0, _ => none
  | tries + 1, exponent =>
      match i.gridPoint? exponent with
      | some p => some p
      | none => i.coarsest tries (exponent - 1)

/-- The fewest digits that read back as the number; seventeen always do. -/
def shortest (x : Binary64) : Point :=
  let i := Interval.ofMagnitude x.magnitude
  ((i.coarsest 17 (leadingExponent i.center i.scale))).getD ⟨0, 0⟩

end OptionalContainers.Decimal

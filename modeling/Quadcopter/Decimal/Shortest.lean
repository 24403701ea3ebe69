import Quadcopter.Decimal.Binary64

/-!
# Quadcopter.Decimal.Shortest

The fewest decimal digits that read back as a given double, and of those the ones nearest to it, a
tie going up. The search tries one digit, then two, and so on; on each grid of decimals only the
two neighbours of the value can lie in the interval of numbers that round to it.
-/

namespace Quadcopter
namespace Decimal

/-- A decimal `digits · 10 ^ exponent`. -/
structure Digits where
  digits : Nat
  exponent : Int
  deriving DecidableEq, Repr

/-- A positive number and the interval around it, all over one denominator. The ends belong to the
interval if `closed`. -/
structure Interval where
  low : Nat
  value : Nat
  high : Nat
  den : Nat
  closed : Bool

/-- The numbers that round to the double `m · 2 ^ q`. Below a power of two the doubles lie twice as
close, so the interval is shorter on that side. -/
def Interval.around (m : Nat) (q : Int) : Interval :=
  let up := pow2 q.toNat
  let den := 4 * pow2 (-q).toNat
  let below := if m = Binary64.hidden then 1 else 2
  { low := (4 * m - below) * up, value := 4 * m * up, high := (4 * m + 2) * up, den,
    closed := m % 2 == 0 }

/-- Whether `num / den` lies in the interval, `den` being the interval's own. -/
def Interval.holds (i : Interval) (num : Nat) : Bool :=
  if i.closed then i.low ≤ num && num ≤ i.high else i.low < num && num < i.high

/-- The interval in units of `10 ^ e`. -/
def Interval.scale (i : Interval) (e : Int) : Interval :=
  let up := pow10 (-e).toNat
  { i with low := i.low * up, value := i.value * up, high := i.high * up,
           den := i.den * pow10 e.toNat }

/-- The whole number of the interval that is nearest to its value, if it holds one. -/
def Interval.nearestWhole? (i : Interval) : Option Nat :=
  let down := i.value / i.den
  let up := down + 1
  match i.holds (down * i.den), i.holds (up * i.den) with
  | true, true => some (if 2 * (i.value % i.den) < i.den then down else up)
  | true, false => some down
  | false, true => some up
  | false, false => none

/-- The coarsest grid from `10 ^ e` down to `fuel` steps below it that has a decimal in the
interval, and that decimal. -/
def Interval.search (i : Interval) : Nat → Int → Digits
  | 0, e => ⟨(i.scale e).value / (i.scale e).den, e⟩
  | fuel + 1, e =>
    match (i.scale e).nearestWhole? with
    | some d => ⟨d, e⟩
    | none => i.search fuel (e - 1)

/-- A decimal exponent that is not below that of the double `m · 2 ^ q`. -/
def topExponent (m : Nat) (q : Int) : Int :=
  ((m.log2 : Int) + q + 1) * 30103 / 100000 + 1

def Digits.strip : Nat → Digits → Digits
  | 0, d => d
  | fuel + 1, d =>
    if d.digits ≠ 0 ∧ d.digits % 10 = 0 then strip fuel ⟨d.digits / 10, d.exponent + 1⟩ else d

/-- The shortest decimal that reads back as the positive double `m · 2 ^ q`. -/
def shortest (m : Nat) (q : Int) : Digits :=
  ((Interval.around m q).search 24 (topExponent m q)).strip 24

end Decimal
end Quadcopter

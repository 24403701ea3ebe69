import Quadcopter.Decimal.Power
import Quadcopter.Decimal.Rounding

/-!
# Quadcopter.Decimal.Binary64

A double is an exact number `m · 2 ^ q` with a sign, an infinity, or no number at all. This module
reads that off the sixty-four bits and goes the other way, from an exact quotient to the nearest
double. What needs exact values is computed here on natural numbers: truncation to an integer and
the remainder of a division.
-/

namespace Quadcopter
namespace Decimal

/-- What a double stands for. -/
inductive Binary64 where
  /-- The number `m · 2 ^ q`, negated if `negative`; zero has `m = 0` and keeps its sign. -/
  | finite (negative : Bool) (m : Nat) (q : Int)
  | infinite (negative : Bool)
  | nan
  deriving DecidableEq, Repr

namespace Binary64

/-- The smallest significand of a normal number. -/
def hidden : Nat := pow2 52

/-- The exponent of the smallest positive double. -/
def minExponent : Int := -1074

/-- Decode the bits of a double, given as a number below `2 ^ 64`. -/
def ofNat (bits : Nat) : Binary64 :=
  let negative := bits / pow2 63 % 2 == 1
  let field : Nat := bits / pow2 52 % pow2 11
  let fraction := bits % pow2 52
  if field = 2047 then
    if fraction = 0 then .infinite negative else .nan
  else if field = 0 then .finite negative fraction minExponent
  else .finite negative (hidden + fraction) ((field : Int) - 1075)

def ofFloat (x : Float) : Binary64 := ofNat x.toBits.toNat

/-- The bits of the double that stands for `m · 2 ^ q`, where `m` is at most `2 ^ 53` and `q` is
`minExponent` or `m` is at least `hidden`. Past the largest double it is an infinity. -/
def assemble (negative : Bool) (m : Nat) (q : Int) : Nat :=
  let magnitude := min ((q - minExponent).toNat * hidden + m) (2047 * hidden)
  (if negative then pow2 63 else 0) + magnitude

def floatOfNat (bits : Nat) : Float := Float.ofBits (UInt64.ofNat bits)

/-- The exponent under which `num / den` has a significand below `2 ^ 53`, and one of at least
`hidden` unless the exponent is the least. -/
def exponentFor (num den : Nat) : Int :=
  let guess : Int := max ((num.log2 : Int) - den.log2 - 53) minExponent
  let scaled := (num * pow2 (-guess).toNat) / (den * pow2 guess.toNat)
  if scaled < pow2 53 then guess else guess + 1

/-- The double nearest to `num / den`, a half going to the even significand. -/
def nearest (negative : Bool) (num den : Nat) : Float :=
  if num = 0 then floatOfNat (assemble negative 0 minExponent)
  else
    let q := exponentFor num den
    let m := roundHalfEven (num * pow2 (-q).toNat) (den * pow2 q.toNat)
    floatOfNat (assemble negative m q)

def infinity (negative : Bool) : Float := floatOfNat (assemble negative 0 4096)

/-- `m · 2 ^ q` cut toward zero. -/
def magnitudeToNat (m : Nat) (q : Int) : Nat := m * pow2 q.toNat / pow2 (-q).toNat

/-- The integer part of a double, kept within the signed words; no number counts as zero. -/
def truncate : Binary64 → Int64
  | .finite negative m q =>
    let n : Int := magnitudeToNat m q
    if negative then Int64.ofInt (max (-n) Int64.minValue.toInt)
    else Int64.ofInt (min n Int64.maxValue.toInt)
  | .infinite negative => if negative then Int64.minValue else Int64.maxValue
  | .nan => 0

def isIntegral : Binary64 → Bool
  | .finite _ m q => m % pow2 (-q).toNat == 0
  | _ => false

/-- The exact remainder of a division cut toward zero. It has the sign of the dividend. -/
def remainder (a b : Float) : Float :=
  match ofFloat a, ofFloat b with
  | .finite negative m p, .finite _ n q =>
    if n = 0 then 0.0 / 0.0
    else
      let e := min p q
      let r := m * pow2 (p - e).toNat % (n * pow2 (q - e).toNat)
      nearest negative (r * pow2 e.toNat) (pow2 (-e).toNat)
  | .finite .., .infinite _ => a
  | _, _ => 0.0 / 0.0

end Binary64
end Decimal
end Quadcopter

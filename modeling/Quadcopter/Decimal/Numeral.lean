import Quadcopter.Decimal.Binary64
import Quadcopter.Text.Split

/-!
# Quadcopter.Decimal.Numeral

Texts that mean numbers: digit strings, signed integers, indices and decimals with an optional
exponent. Digits are the ten of ASCII. A sign alone means nothing.

Main statement: the value of a digit string grows by one digit at a time (`digitsValue_append`).
-/

namespace Quadcopter
namespace Decimal

open Text

def digitValue (c : Char) : Nat := c.toNat - '0'.toNat

def digitsValue (s : List Char) : Nat := s.foldl (fun n c => 10 * n + digitValue c) 0

theorem digitsValue_append (s : List Char) (c : Char) :
    digitsValue (s ++ [c]) = 10 * digitsValue s + digitValue c := by
  simp [digitsValue]

/-- The number that a text of digits means, if it has at least one and nothing else. -/
def natural? (s : List Char) : Option Nat :=
  if s ≠ [] ∧ s.all Char.isDigit then some (digitsValue s) else none

/-- Split an optional sign off: whether it is negative, and the rest. -/
def splitSign : List Char → Bool × List Char
  | '-' :: s => (true, s)
  | '+' :: s => (false, s)
  | s => (false, s)

/-- The integer that a text means: digits after an optional sign. -/
def integer? (s : List Char) : Option Int :=
  match splitSign s with
  | (negative, digits) =>
    (natural? digits).map fun n => if negative then -(n : Int) else n

/-- The index that a text means: digits after an optional plus. -/
def index? (s : List Char) : Option Nat :=
  match splitSign s with
  | (true, _) => none
  | (false, digits) => natural? digits

/-- Split an exponent off the end of a decimal: an `e` of either case, then a signed integer.
A text without one has the exponent zero. -/
def splitExponent? (s : List Char) : Option (List Char × Int) :=
  match splitWhile (fun c => c != 'e' && c != 'E') s with
  | (mantissa, []) => some (mantissa, 0)
  | (mantissa, _ :: exponent) => (integer? exponent).map fun e => (mantissa, e)

/-- The digits of a mantissa around an optional point, and how many stand after it. -/
def mantissa? (s : List Char) : Option (List Char × Nat) :=
  match splitWhile Char.isDigit s with
  | (whole, rest) =>
    let fraction := rest.drop 1
    if (rest = [] ∨ rest.head? = some '.') ∧ fraction.all Char.isDigit ∧ whole ++ fraction ≠ [] then
      some (whole ++ fraction, fraction.length)
    else none

/-- The double nearest to `n · 10 ^ e`. Exponents far outside the range of doubles are settled by
the number of digits. -/
def scientific (negative : Bool) (n : Nat) (e : Int) : Float :=
  let size : Int := (Nat.toDigits 10 n).length + e
  if n = 0 || size < -400 then Binary64.nearest negative 0 1
  else if 400 < size then Binary64.infinity negative
  else Binary64.nearest negative (n * pow10 e.toNat) (pow10 (-e).toNat)

/-- The texts, in lower case, that mean an infinity. -/
def infinityNames : List String := ["inf", "infinity"]

/-- The double that a text means: a decimal, `inf`, `infinity` or `nan` in any case, each after an
optional sign. -/
def float? (s : List Char) : Option Float :=
  match splitSign s with
  | (negative, body) =>
    let name := String.ofList (body.map Char.toLower)
    if infinityNames.contains name then some (Binary64.infinity negative)
    else if name = "nan" then some (0.0 / 0.0)
    else
      match splitExponent? body with
      | none => none
      | some (mantissa, e) =>
        (mantissa? mantissa).map fun (digits, places) =>
          scientific negative (digitsValue digits) (e - places)

end Decimal
end Quadcopter

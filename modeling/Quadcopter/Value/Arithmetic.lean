import Quadcopter.Fault
import Quadcopter.Value.Basic

/-!
# Quadcopter.Value.Arithmetic

Arithmetic and comparison of register values. Two words give a word and may overflow; a double on
either side makes the operation one of doubles. Division is always one of doubles. Floor division
and its remainder start from the division that cuts toward zero and correct it by the signs.

Main statement: a word result of `checked` is exact (`checked_eq_ok_iff`).
-/

namespace Quadcopter

inductive Arith where
  | add
  | sub
  | mult
  | div
  | idiv
  | rdiv
  deriving DecidableEq, Repr

namespace Arith

open Decimal

def inRange (n : Int) : Bool := Int64.minValue.toInt ≤ n && n ≤ Int64.maxValue.toInt

/-- An exact integer result as a word, unless it does not fit. -/
def checked (n : Int) : Except Cause Value :=
  if inRange n then .ok (.int (Int64.ofInt n)) else .error .integerOverflow

theorem checked_eq_ok_iff {n : Int} {v : Value} :
    checked n = .ok v ↔ inRange n = true ∧ v = .int (Int64.ofInt n) := by
  unfold checked
  split
  · next h => simp [h, eq_comm]
  · next h => simp [h]

/-- The only pair of words whose quotient is no word. -/
def quotientOverflows (l r : Int64) : Bool := l == Int64.minValue && r == -1

/-- The quotient of two words rounded down: the quotient cut toward zero, less one if the division
is inexact and the signs differ. -/
def floorQuotient (l r : Int64) : Int64 :=
  let q := l / r
  if q * r != l && (l < 0) != (r < 0) then q - 1 else q

/-- The remainder that goes with `floorQuotient`: it has the sign of the divisor. -/
def floorRemainder (l r : Int64) : Int64 :=
  let m := l % r
  if m != 0 && (m < 0) != (r < 0) then m + r else m

/-- The remainder of two doubles, with the sign of the divisor. -/
def floatRemainder (l r : Float) : Float :=
  let m := Binary64.remainder l r
  if m != 0.0 && (m < 0.0) != (r < 0.0) then m + r else m

def sum : Value → Value → Except Cause Value
  | .int l, .int r => checked (l.toInt + r.toInt)
  | l, r => .ok (.float (l.toFloat + r.toFloat))

def difference : Value → Value → Except Cause Value
  | .int l, .int r => checked (l.toInt - r.toInt)
  | l, r => .ok (.float (l.toFloat - r.toFloat))

def product : Value → Value → Except Cause Value
  | .int l, .int r => checked (l.toInt * r.toInt)
  | l, r => .ok (.float (l.toFloat * r.toFloat))

/-- The quotient, always a double. -/
def quotient (l r : Value) : Except Cause Value :=
  if r.isZero then .error .divideByZero else .ok (.float (l.toFloat / r.toFloat))

def floorDivide (l r : Value) : Except Cause Value :=
  if r.isZero then .error .divideByZero
  else
    match l, r with
    | .int l, .int r =>
      if quotientOverflows l r then .error .integerOverflow else .ok (.int (floorQuotient l r))
    | l, r => .ok (.float (l.toFloat / r.toFloat).floor)

/-- The remainder with the sign of the divisor. It is found along with the quotient, so it fails
where the quotient is no word. -/
def remainder (l r : Value) : Except Cause Value :=
  if r.isZero then .error .divideByZero
  else
    match l, r with
    | .int l, .int r =>
      if quotientOverflows l r then .error .integerOverflow else .ok (.int (floorRemainder l r))
    | l, r => .ok (.float (floatRemainder l.toFloat r.toFloat))

def apply : Arith → Value → Value → Except Cause Value
  | .add => sum
  | .sub => difference
  | .mult => product
  | .div => quotient
  | .idiv => floorDivide
  | .rdiv => remainder

end Arith

/-- How two numbers compare; nothing if one of them is no number. -/
def Value.compare? : Value → Value → Option Ordering
  | .int l, .int r => some (Ord.compare l.toInt r.toInt)
  | l, r =>
    let (a, b) := (l.toFloat, r.toFloat)
    if a < b then some .lt
    else if b < a then some .gt
    else if a == b then some .eq
    else none

inductive Relation where
  | eq
  | ne
  | gt
  | lt
  | ge
  | le
  deriving DecidableEq, Repr

/-- Whether a comparison holds. Of two numbers that do not compare only `ne` does. -/
def Relation.holds : Relation → Option Ordering → Bool
  | .ne, none => true
  | _, none => false
  | .eq, some o => o == .eq
  | .ne, some o => o != .eq
  | .gt, some o => o == .gt
  | .lt, some o => o == .lt
  | .ge, some o => o != .lt
  | .le, some o => o != .gt

end Quadcopter

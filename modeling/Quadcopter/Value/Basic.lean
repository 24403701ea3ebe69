import Quadcopter.Decimal.Plain

/-!
# Quadcopter.Value.Basic

What a number register holds: a signed word or a double. A word is written in decimal. A double that
is whole and below `10 ^ 16` is written with one place, any other double with the shortest digits
that read back.
-/

namespace Quadcopter

inductive Value where
  | int (n : Int64)
  | float (x : Float)
  deriving Repr

instance : Inhabited Value := ⟨.int 0⟩

namespace Value

open Decimal

def toFloat : Value → Float
  | .int n => n.toFloat
  | .float x => x

/-- The integer part of the number, kept within the signed words. -/
def truncate : Value → Int64
  | .int n => n
  | .float x => (Binary64.ofFloat x).truncate

/-- Whether the number is zero of either sign. -/
def isZero : Value → Bool
  | .int n => n == 0
  | .float x => x == 0.0

def isInt : Value → Bool
  | .int _ => true
  | .float _ => false

/-- Doubles of at least this size are written without a place after the point. -/
def plainFrom : Float := 1e16

def intText (n : Int) : String :=
  String.ofList (signText (n < 0) ++ natText n.natAbs)

def render : Value → String
  | .int n => intText n.toInt
  | .float x =>
    if (Binary64.ofFloat x).isIntegral && x.abs < plainFrom then fixed 1 x else plain x

end Value
end Quadcopter

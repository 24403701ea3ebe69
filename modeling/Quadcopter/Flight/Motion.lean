/-!
# Quadcopter.Flight.Motion

The eight ways a vehicle moves, and the orders a program gives it.
-/

namespace Quadcopter

/-- The motions. Lengths are in centimetres and angles in degrees. -/
inductive Motion where
  | forward
  | backward
  | left
  | right
  | up
  | down
  | rotateCw
  | rotateCcw
  deriving DecidableEq, Repr

namespace Motion

/-- The word for a motion in a vehicle's own language. -/
def word : Motion → String
  | .forward => "forward"
  | .backward => "back"
  | .left => "left"
  | .right => "right"
  | .up => "up"
  | .down => "down"
  | .rotateCw => "cw"
  | .rotateCcw => "ccw"

def isTurn : Motion → Bool
  | .rotateCw | .rotateCcw => true
  | _ => false

end Motion

inductive Order where
  | takeoff
  | land
  | move (motion : Motion) (amount : Int64)
  deriving DecidableEq, Repr

def Order.text : Order → String
  | .takeoff => "takeoff"
  | .land => "land"
  | .move motion amount => motion.word ++ " " ++ toString amount.toInt

end Quadcopter

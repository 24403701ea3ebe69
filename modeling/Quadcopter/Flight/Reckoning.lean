import Quadcopter.Decimal.Plain
import Quadcopter.Flight.Motion
import Quadcopter.Flight.Position
import Quadcopter.Flight.Telemetry

/-!
# Quadcopter.Flight.Reckoning

Dead reckoning: where a vehicle is if it does exactly what it is told. Heading zero points along the
`x` axis and left of it is a quarter turn more.
-/

namespace Quadcopter

/-- A reckoned vehicle: its position, its heading in radians, and two flags. -/
structure Reckoning where
  position : Position
  heading : Float
  connected : Bool
  flying : Bool
  deriving Repr

namespace Reckoning

def start : Reckoning := ⟨.origin, 0.0, false, false⟩

instance : Inhabited Reckoning := ⟨start⟩

def radiansPerDegree : Float := 0.017453292519943295

def degreesPerRadian : Float := 57.29577951308232

def toRadians (degrees : Float) : Float := degrees * radiansPerDegree

/-- Travel in the plane along an angle. -/
def travel (r : Reckoning) (length angle : Float) : Reckoning :=
  { r with position :=
      { r.position with
        x := r.position.x + length * angle.cos, y := r.position.y + length * angle.sin } }

def climb (r : Reckoning) (length : Float) : Reckoning :=
  { r with position := { r.position with z := r.position.z + length } }

def move (r : Reckoning) (motion : Motion) (amount : Int64) : Reckoning :=
  let n := amount.toFloat
  match motion with
  | .forward => r.travel n r.heading
  | .backward => r.travel (-n) r.heading
  | .left => r.travel n (r.heading + toRadians 90.0)
  | .right => r.travel n (r.heading - toRadians 90.0)
  | .up => r.climb n
  | .down => r.climb (-n)
  | .rotateCw => { r with heading := r.heading - toRadians n }
  | .rotateCcw => { r with heading := r.heading + toRadians n }

def obey (r : Reckoning) : Order → Reckoning
  | .takeoff => { r with flying := true }
  | .land => { r with flying := false }
  | .move motion amount => r.move motion amount

/-- What the vehicle reports: its coordinates, and how far it has turned clockwise. -/
def telemetry (r : Reckoning) : Telemetry :=
  Telemetry.empty
    |>.insert "x" (Decimal.plain r.position.x)
    |>.insert "y" (Decimal.plain r.position.y)
    |>.insert "z" (Decimal.plain r.position.z)
    |>.insert "yaw" (Decimal.plain (-(r.heading * degreesPerRadian)))

end Reckoning
end Quadcopter

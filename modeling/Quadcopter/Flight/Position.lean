import Quadcopter.Decimal.Plain

/-!
# Quadcopter.Flight.Position

Where a vehicle is, in centimetres from where it started.
-/

namespace Quadcopter

structure Position where
  x : Float
  y : Float
  z : Float
  deriving Repr

namespace Position

def origin : Position := ⟨0.0, 0.0, 0.0⟩

instance : Inhabited Position := ⟨origin⟩

/-- A coordinate rounded to the one place that is shown, a half away from zero, and without the sign
of a negative zero. -/
def tidy (v : Float) : Float := (v * 10.0).round / 10.0 + 0.0

def coordinate (v : Float) : String := Decimal.fixed 1 (tidy v)

def render (p : Position) : String :=
  "(" ++ coordinate p.x ++ ", " ++ coordinate p.y ++ ", " ++ coordinate p.z ++ ")"

def distance (a b : Position) : Float :=
  let (dx, dy, dz) := (b.x - a.x, b.y - a.y, b.z - a.z)
  (dx * dx + dy * dy + dz * dz).sqrt

/-- The distances between neighbours of a path added up, starting from a negative zero. -/
def pathLength : List Position → Float
  | path => (path.zip (path.drop 1)).foldl (fun sum (a, b) => sum + distance a b) (-0.0)

end Position
end Quadcopter

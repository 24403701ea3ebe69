/-!
# Quadcopter.Vision

Faces in pictures. A detector gives rows of single precision numbers, an encoder gives a feature
vector for a detected face, and two vectors are compared by the cosine of their angle. Detector and
encoder are outside: a `Vision` answers from what it was asked so far.
-/

namespace Quadcopter

/-- Where a face is in a picture: a box (left, top, width, height), five landmarks and a score. -/
structure Detection where
  box : Float32 × Float32 × Float32 × Float32
  rightEye : Float32 × Float32
  leftEye : Float32 × Float32
  noseTip : Float32 × Float32
  rightMouth : Float32 × Float32
  leftMouth : Float32 × Float32
  score : Float32
  deriving Repr

/-- The detection of a detector's row, which has at least fifteen numbers. -/
def Detection.ofRow? : List Float32 → Option Detection
  | l :: t :: w :: h :: rx :: ry :: lx :: ly :: nx :: ny :: rmx :: rmy :: lmx :: lmy :: score :: _ =>
    some ⟨(l, t, w, h), (rx, ry), (lx, ly), (nx, ny), (rmx, rmy), (lmx, lmy), score⟩
  | _ => none

structure Encoding where
  features : Array Float32
  deriving Repr

structure Face where
  detection : Option Detection
  encoding : Option Encoding
  deriving Repr

namespace Face

def empty : Face := ⟨none, none⟩

instance : Inhabited Face := ⟨empty⟩

def isEmpty (f : Face) : Bool := f.detection.isNone && f.encoding.isNone

end Face

/-- A double brought into the unit interval; what is no number counts as zero. -/
def clampUnit (x : Float) : Float :=
  let y := if x > 0.0 then x else 0.0
  if y < 1.0 then y else 1.0

namespace Encoding

def dot (a b : Encoding) : Float :=
  (a.features.zip b.features).foldl (fun sum (x, y) => sum + x.toFloat * y.toFloat) 0.0

/-- The cosine of the angle between two vectors, from zero for no likeness to one for the same
direction. Vectors of different lengths, and vectors without length, are not alike. -/
def similarity (a b : Encoding) : Float :=
  if a.features.size ≠ b.features.size ∨ a.features.isEmpty then 0.0
  else
    let (na, nb) := (a.dot a, b.dot b)
    if na == 0.0 || nb == 0.0 then 0.0 else clampUnit (a.dot b / (na * nb).sqrt)

end Encoding
end Quadcopter

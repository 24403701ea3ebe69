import Quadcopter.Picture.Basic
import Quadcopter.Vision

/-!
# Quadcopter.Machine.Seeing

What a machine asks of a vision backend, the backend that sees nothing, and one that sees what its
script says.
-/

namespace Quadcopter

/-- What can look at pictures. As with vehicles, every question gives the backend after it. -/
class Vision (E : Type) where
  findFaces : Picture → E → List Detection × E
  encode : Picture → Detection → E → Option Encoding × E
  /-- How alike two faces are, from zero to one. -/
  similarity : Encoding → Encoding → E → Float × E

/-- The backend that sees nothing. -/
structure Blind where
  deriving Inhabited

instance : Vision Blind where
  findFaces _ e := ([], e)
  encode _ _ e := (none, e)
  similarity a b e := (a.similarity b, e)

/-- A backend that answers from lists, the last entry of a list being repeated, and how often each
question was asked. -/
structure ScriptedVision where
  detections : List (List Detection) := []
  encodings : List (Option Encoding) := []
  searches : Nat := 0
  encodes : Nat := 0

def entryOrLast {α : Type} (entries : List α) (k : Nat) : Option α :=
  entries[min k (entries.length - 1)]?

instance : Vision ScriptedVision where
  findFaces _ e :=
    ((entryOrLast e.detections e.searches).getD [], { e with searches := e.searches + 1 })
  encode _ _ e := ((entryOrLast e.encodings e.encodes).join, { e with encodes := e.encodes + 1 })
  similarity a b e := (a.similarity b, e)

end Quadcopter

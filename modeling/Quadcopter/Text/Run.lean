/-!
# Quadcopter.Text.Run

Runs of code points, the form in which the tables of this folder are written. A `Run` moves every
code point it covers by one shift; a plain pair of bounds is a `Range`.
-/

namespace Quadcopter
namespace Text

/-- The code points `first`, `first + step`, … up to `last`, each moved by `shift`. -/
structure Run where
  first : Nat
  last : Nat
  step : Nat
  shift : Int

def Run.covers (r : Run) (n : Nat) : Bool :=
  r.first ≤ n && n ≤ r.last && (n - r.first) % r.step == 0

/-- The image of the code point `n` under the first run that covers it, `n` itself under none. -/
def moveBy (table : List Run) (n : Nat) : Nat :=
  match table.find? (·.covers n) with
  | some r => (n + r.shift).toNat
  | none => n

/-- All code points from `first` to `last`. -/
structure Range where
  first : Nat
  last : Nat

def inTable (table : List Range) (n : Nat) : Bool :=
  table.any fun r => r.first ≤ n && n ≤ r.last

end Text
end Quadcopter

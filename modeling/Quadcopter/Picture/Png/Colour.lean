/-!
# Quadcopter.Picture.Png.Colour

What the samples of a pixel mean and how many bits they have.
-/

namespace Quadcopter
namespace Png

/-- The number of bits of a sample. -/
inductive Depth where
  | one
  | two
  | four
  | eight
  | sixteen
  deriving DecidableEq, Repr

namespace Depth

def bits : Depth → Nat
  | one => 1
  | two => 2
  | four => 4
  | eight => 8
  | sixteen => 16

def ofNat? : Nat → Option Depth
  | 1 => some one
  | 2 => some two
  | 4 => some four
  | 8 => some eight
  | 16 => some sixteen
  | _ => none

def name : Depth → String
  | one => "One"
  | two => "Two"
  | four => "Four"
  | eight => "Eight"
  | sixteen => "Sixteen"

end Depth

/-- What the samples of a pixel mean. -/
inductive Colour where
  | grey
  | rgb
  | palette
  | greyAlpha
  | rgbAlpha
  deriving DecidableEq, Repr

namespace Colour

def channels : Colour → Nat
  | grey | palette => 1
  | greyAlpha => 2
  | rgb => 3
  | rgbAlpha => 4

def ofNat? : Nat → Option Colour
  | 0 => some grey
  | 2 => some rgb
  | 3 => some palette
  | 4 => some greyAlpha
  | 6 => some rgbAlpha
  | _ => none

def name : Colour → String
  | grey => "Grayscale"
  | rgb => "Rgb"
  | palette => "Indexed"
  | greyAlpha => "GrayscaleAlpha"
  | rgbAlpha => "Rgba"

def allows : Colour → Depth → Bool
  | grey, _ => true
  | palette, d => d != .sixteen
  | _, d => d == .eight || d == .sixteen

/-- The bytes of a pixel when its samples have at least eight bits, its palette is looked up, and it has
a sample more if some colour is transparent. -/
def expandedBytes (c : Colour) (d : Depth) (transparent : Bool) : Nat :=
  let samples :=
    match c with
    | grey => if transparent then 2 else 1
    | rgb | palette => if transparent then 4 else 3
    | greyAlpha => 2
    | rgbAlpha => 4
  if d = .sixteen then 2 * samples else samples

end Colour
end Png
end Quadcopter

import Quadcopter.Decimal.Power
import Quadcopter.Picture.Png.Breach

/-!
# Quadcopter.Picture.Png.Header

What the first chunk says about a picture, and the sizes that follow from it.

Main statement: a header that is read has pixels, and its colour type allows its depth
(`valid_of_ofBytes`).
-/

namespace Quadcopter
namespace Png

/-- What the first chunk says about a picture. -/
structure Header where
  width : UInt32
  height : UInt32
  depth : Depth
  colour : Colour
  interlaced : Bool
  deriving DecidableEq, Repr

/-- The byte at a place of a chunk, which has to be long enough. -/
def byteOf (chunk : ChunkName) (data : ByteArray) (i : Nat) : Except Breach Nat :=
  if i < data.size then .ok (byteAt data i).toNat else .error (.tooShort chunk)

/-- The four byte number at a place of a chunk, which has to be long enough. -/
def wordOf (chunk : ChunkName) (data : ByteArray) (i : Nat) : Except Breach Nat :=
  if i + 4 ≤ data.size then .ok (wordAt data i) else .error (.tooShort chunk)

namespace Header

def colourOf (depth : Depth) (n : Nat) : Except Breach Colour :=
  match Colour.ofNat? n with
  | none => .error (.colour n)
  | some colour => if colour.allows depth then .ok colour else .error (.combination colour depth)

def depthOf (n : Nat) : Except Breach Depth :=
  match Depth.ofNat? n with
  | none => .error (.depth n)
  | some depth => .ok depth

def interlacingOf : Nat → Except Breach Bool
  | 0 => .ok false
  | 1 => .ok true
  | n => .error (.interlacing n)

/-- Check that a method has the one number that is known. -/
def checkMethod (breach : Nat → Breach) : Nat → Except Breach Unit
  | 0 => .ok ()
  | n => .error (breach n)

/-- The dimensions of a picture, which has to have pixels. -/
def dimensionsOf (data : ByteArray) : Except Breach (UInt32 × UInt32) := do
  let width ← wordOf .header data 0
  let height ← wordOf .header data 4
  let (width, height) := (UInt32.ofNat width, UInt32.ofNat height)
  if width = 0 ∨ height = 0 then .error .dimensions else .ok (width, height)

/-- The header in the data of its chunk. What is wrong first counts. -/
def ofBytes (data : ByteArray) : Except Breach Header := do
  let (width, height) ← dimensionsOf data
  let depth ← depthOf (← byteOf .header data 8)
  let colour ← colourOf depth (← byteOf .header data 9)
  checkMethod .compression (← byteOf .header data 10)
  checkMethod .filter (← byteOf .header data 11)
  let interlaced ← interlacingOf (← byteOf .header data 12)
  return { width, height, depth, colour, interlaced }

def IsValid (h : Header) : Prop := h.width ≠ 0 ∧ h.height ≠ 0 ∧ h.colour.allows h.depth = true

theorem allows_of_colourOf {d : Depth} {n : Nat} {c : Colour} (h : colourOf d n = .ok c) :
    c.allows d = true := by
  unfold colourOf at h
  split at h <;> grind

theorem ne_zero_of_dimensionsOf {data : ByteArray} {w h : UInt32} (hs : dimensionsOf data = .ok (w, h)) :
    w ≠ 0 ∧ h ≠ 0 := by
  simp only [dimensionsOf, bind, Except.bind] at hs
  grind

theorem valid_of_ofBytes {data : ByteArray} {h : Header} (hb : ofBytes data = .ok h) :
    h.IsValid := by
  simp only [ofBytes, bind, Except.bind, pure, Except.pure] at hb
  split at hb
  · contradiction
  · next size hsize =>
    obtain ⟨hw, hh⟩ := ne_zero_of_dimensionsOf hsize
    repeat (split at hb; · contradiction)
    cases hb
    exact ⟨hw, hh, allows_of_colourOf (by assumption)⟩

def pixelBits (h : Header) : Nat := h.depth.bits * h.colour.channels

def rowBytes (h : Header) (pixels : Nat) : Nat := (pixels * h.pixelBits + 7) / 8

def expandedRow (h : Header) (transparent : Bool) : Nat :=
  h.width.toNat * h.colour.expandedBytes h.depth transparent

def expandedSize (h : Header) (transparent : Bool) : Nat :=
  h.expandedRow transparent * h.height.toNat

/-- The most bytes that expanded pixels may take: 512 MiB. -/
def maxExpandedSize : Nat := 536870912

/-- The bytes that are announced for the rows, each with its filter. Of an interlaced picture it is a
bound. -/
def announcedSize (h : Header) : Nat :=
  h.height.toNat * ((1 + h.rowBytes h.width.toNat) * if h.interlaced then 2 else 1)

end Header
end Png
end Quadcopter

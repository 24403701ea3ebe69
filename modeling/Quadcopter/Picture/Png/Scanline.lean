import Quadcopter.Picture.Png.Header

/-!
# Quadcopter.Picture.Png.Scanline

The rows of a picture, each behind a byte that says how it is filtered, and the pixels in them.
Interlaced pictures are written in seven passes over finer and finer grids.
-/

namespace Quadcopter
namespace Png

/-- A grid of the pixels of a picture: where it starts and how far its pixels lie apart. -/
structure Pass where
  x : Nat
  y : Nat
  dx : Nat
  dy : Nat

def Pass.columns (p : Pass) (width : Nat) : Nat := (width - p.x + p.dx - 1) / p.dx

def Pass.rows (p : Pass) (height : Nat) : Nat := (height - p.y + p.dy - 1) / p.dy

/-- The rows of one pass: how many there are, and of how many bytes each behind its filter. -/
structure Strip where
  pass : Pass
  rows : Nat
  bytes : Nat

namespace Header

/-- The passes in which a picture is written: one, or seven that get finer. -/
def passes (h : Header) : List Pass :=
  if h.interlaced then
    [⟨0, 0, 8, 8⟩, ⟨4, 0, 8, 8⟩, ⟨0, 4, 4, 8⟩, ⟨2, 0, 4, 4⟩, ⟨0, 2, 2, 4⟩, ⟨1, 0, 2, 2⟩, ⟨0, 1, 1, 2⟩]
  else [⟨0, 0, 1, 1⟩]

/-- The strips of a picture in the order in which they are written. Passes without columns have none. -/
def strips (h : Header) : List Strip :=
  h.passes.filterMap fun pass =>
    let columns := pass.columns h.width.toNat
    if columns = 0 then none else some ⟨pass, pass.rows h.height.toNat, h.rowBytes columns⟩

def packedSize (h : Header) : Nat := h.strips.foldl (fun n s => n + s.rows * (1 + s.bytes)) 0

end Header

def maxFilter : Nat := 4

/-- The first unknown filter among so many rows, as far as they are complete in the first bytes of the
data. -/
def unknownFilter? (data : ByteArray) (size bytes : Nat) : Nat → Nat → Option Nat
  | 0, _ => none
  | n + 1, start =>
    if size < start + 1 + bytes then none
    else
      let filter := (byteAt data start).toNat
      if maxFilter < filter then some filter
      else unknownFilter? data size bytes n (start + 1 + bytes)

/-- The first unknown filter among strips, as far as they are complete in the first bytes of the data. -/
def unknownFilterIn? (data : ByteArray) (size : Nat) : List Strip → Nat → Option Nat
  | [], _ => none
  | s :: more, start =>
    match unknownFilter? data size s.bytes s.rows start with
    | some filter => some filter
    | none => unknownFilterIn? data size more (start + s.rows * (1 + s.bytes))

/-- Of three neighbours the one nearest to left plus above minus above left. -/
def nearestNeighbour (left above corner : UInt8) : UInt8 :=
  let (a, b, c) := (Int.ofNat left.toNat, Int.ofNat above.toNat, Int.ofNat corner.toNat)
  let guess := a + b - c
  let (da, db, dc) := ((guess - a).natAbs, (guess - b).natAbs, (guess - c).natAbs)
  if da ≤ db ∧ da ≤ dc then left else if db ≤ dc then above else corner

/-- What a filter predicts for a byte from the bytes left, above, and above left of it. -/
def prediction : Nat → UInt8 → UInt8 → UInt8 → UInt8
  | 1, left, _, _ => left
  | 2, _, above, _ => above
  | 3, left, above, _ => ((left.toNat + above.toNat) / 2).toUInt8
  | 4, left, above, corner => nearestNeighbour left above corner
  | _, _, _, _ => 0

/-- Undo the filter of a row, given the row above and how far the pixel to the left is. -/
def unfilter (filter step : Nat) (above row : ByteArray) : ByteArray :=
  row.foldl (fun out byte =>
    let i := out.size
    let back (b : ByteArray) : UInt8 := if step ≤ i then byteAt b (i - step) else 0
    out.push (byte + prediction filter (back out) (byteAt above i) (back above))) .empty

def rowsFrom (step bytes : Nat) (data : ByteArray) : Nat → Nat → ByteArray → List ByteArray
  | 0, _, _ => []
  | n + 1, start, above =>
    let stop := start + 1 + bytes
    let row := unfilter (byteAt data start).toNat step above (data.extract (start + 1) stop)
    row :: rowsFrom step bytes data n stop row

namespace Header

/-- The sample at an index of a row, as a number of the header's depth. -/
def sample (h : Header) (row : ByteArray) (i : Nat) : Nat :=
  if h.depth = .sixteen then halfAt row (2 * i)
  else
    let place := i * h.depth.bits
    (byteAt row (place / 8)).toNat >>> (8 - h.depth.bits - place % 8) % Decimal.pow2 h.depth.bits

def toByte (h : Header) (sample : Nat) : UInt8 :=
  if h.depth = .sixteen then ((sample + 128) / 257).toUInt8
  else (sample * (255 / (Decimal.pow2 h.depth.bits - 1))).toUInt8

/-- The red, green and blue of a pixel of a row. An entry that a palette does not have is black. -/
def pixel (h : Header) (palette row : ByteArray) (x : Nat) : List UInt8 :=
  let first := x * h.colour.channels
  match h.colour with
  | .palette =>
    let entry := 3 * h.sample row x
    [byteAt palette entry, byteAt palette (entry + 1), byteAt palette (entry + 2)]
  | .grey | .greyAlpha => List.replicate 3 (h.toByte (h.sample row first))
  | .rgb | .rgbAlpha => (List.range 3).map fun k => h.toByte (h.sample row (first + k))

/-- Put the pixels of a row of a pass where they belong in a picture whose rows are so many pixels
apart. -/
def place (h : Header) (stride : Nat) (palette : ByteArray) (pass : Pass) (y : Nat) (row : ByteArray)
    (rgb : Array UInt8) : Array UInt8 :=
  (List.range (pass.columns h.width.toNat)).foldl (fun rgb i =>
    let start := 3 * ((pass.y + y * pass.dy) * stride + pass.x + i * pass.dx)
    (h.pixel palette row i).zipIdx.foldl (fun rgb (b, k) => rgb.setIfInBounds (start + k) b) rgb) rgb

/-- Paint strips one after the other from the unpacked rows. -/
def paint (h : Header) (stride : Nat) (palette data : ByteArray) :
    List Strip → Nat → Array UInt8 → Array UInt8
  | [], _, rgb => rgb
  | s :: more, start, rgb =>
    let step := max 1 (h.pixelBits / 8)
    let rows := rowsFrom step s.bytes data s.rows start .empty
    let rgb := rows.zipIdx.foldl (fun rgb (row, y) => h.place stride palette s.pass y row rgb) rgb
    h.paint stride palette data more (start + s.rows * (1 + s.bytes)) rgb

end Header
end Png
end Quadcopter

import Quadcopter.Picture.Defect
import Quadcopter.Picture.Png.Header

/-!
# Quadcopter.Picture.Png.Preamble

The chunks up to the image data. The header comes first, a palette and transparent colours matter for
the picture, and so does the frame of an animation that the image data is. The chunks with measures of
the picture are only looked at for mistakes, and all others not at all. A chunk is looked at before its
checksum is, an empty one only for its checksum; a wrong checksum matters only where the chunk does.
-/

namespace Quadcopter
namespace Png

open Picture (Defect)

/-- A frame of an animation: its number, and its size. -/
structure Frame where
  number : Nat
  width : UInt32
  height : UInt32

/-- What is known about a picture before its image data. -/
structure Preamble where
  header : Header
  palette : Option ByteArray := none
  transparent : Bool := false
  /-- The chunks that may stand in a file once and were there. -/
  seen : List ChunkName := []
  /-- The last frame that was described. -/
  frame : Option Frame := none
  frames : Option Nat := none
  /-- The bytes that are kept of palette and transparent colours. -/
  kept : Nat := 0
  longest : Nat := 0

namespace Preamble

/-- Note that a chunk was there that may stand in a file once. -/
def once (p : Preamble) (name : ChunkName) : Except Breach Preamble :=
  if p.seen.contains name then .error (.repeated name) else .ok { p with seen := name :: p.seen }

def takeTransparency (p : Preamble) (name : ChunkName) (data : ByteArray) : Except Breach Preamble :=
  let done : Preamble := { p with transparent := true, kept := p.kept + data.size }
  let need (n : Nat) : Except Breach Preamble :=
    if data.size < n then .error (.transparentColour n data.size) else .ok done
  if p.transparent then .error (.repeated .palette)
  else
    match p.header.colour with
    | .grey => need 2
    | .rgb => need 6
    | .palette => if p.palette.isNone then .error (.paletteLate name) else .ok done
    | .greyAlpha | .rgbAlpha => .error (.transparentAlpha p.header.colour)

def nextNumber (p : Preamble) : Nat :=
  match p.frame with
  | none => 0
  | some frame => frame.number + 1

/-- Take the description of a frame in, which has to lie within the picture. -/
def takeFrame (p : Preamble) (name : ChunkName) (data : ByteArray) : Except Breach Preamble := do
  let number ← wordOf name data 0
  if number ≠ p.nextNumber then throw (.frameOrder p.nextNumber number)
  let disposal ← byteOf name data 24
  if 2 < disposal then throw (.disposal disposal)
  let blending ← byteOf name data 25
  if 1 < blending then throw (.blending blending)
  let (width, height) := (wordAt data 4, wordAt data 8)
  if width = 0 ∨ height = 0 then throw .dimensions
  if p.header.width.toNat < wordAt data 12 + width ∨ p.header.height.toNat < wordAt data 16 + height then
    throw .frameBounds
  return { p with frame := some ⟨number, UInt32.ofNat width, UInt32.ofNat height⟩ }

def take (p : Preamble) (name : ChunkName) (data : ByteArray) : Except Breach Preamble := do
  match String.ofList (name.bytes.map fun b => Char.ofNat b.toNat) with
  | "IHDR" => throw (.repeated name)
  | "PLTE" =>
    if p.palette.isSome then throw (.repeated name)
    return { p with palette := some data, kept := p.kept + data.size }
  | "tRNS" => p.takeTransparency name data
  | "pHYs" =>
    let p ← p.once name
    let unit ← byteOf name data 8
    if 1 < unit then throw (.unit unit)
    return p
  | "gAMA" =>
    let p ← p.once name
    let _ ← wordOf name data 0
    return p
  | "cHRM" =>
    let p ← p.once name
    let _ ← wordOf name data 28
    return p
  | "sRGB" =>
    let p ← p.once name
    let intent ← byteOf name data 0
    if 3 < intent then throw (.intent intent)
    return p
  | "acTL" =>
    let frames ← wordOf name data 0
    let _ ← wordOf name data 4
    return { p with frames := some frames }
  | "fcTL" => p.takeFrame name data
  | _ => return p

/-- The rows that the image data holds: those of the frame, if there is one, and else of the picture. -/
def shape (p : Preamble) : Header :=
  match p.frame with
  | none => p.header
  | some frame => { p.header with width := frame.width, height := frame.height }

/-- Whether there is an animation that has no frames, not even the one of the image data. -/
def hasNoFrames (p : Preamble) : Bool := p.frame.isSome && p.frames == some 0

/-- The longest chunk that is read without more memory. -/
def chunkRoom : Nat := 32768

/-- The memory that reading has taken: what is kept, and what the longest chunk needed, for which the
room was doubled as often as it had to be. -/
def memory (p : Preamble) : Nat :=
  p.kept + if p.longest ≤ chunkRoom then 0 else Decimal.pow2 ((p.longest - 1).log2 + 1) - chunkRoom

/-- Whether a picture needs more memory than there may be, for one row beside all else or for all rows. -/
def isTooLarge (p : Preamble) : Bool :=
  Header.maxExpandedSize < p.memory + p.shape.expandedRow p.transparent ||
    Header.maxExpandedSize < p.header.expandedSize p.transparent

/-- The preamble that a header starts. Its size in bytes has to fit into a word of 64 bits. -/
def start (data : ByteArray) : Except Defect Preamble :=
  match Header.ofBytes data with
  | .error why => .error (.malformed why)
  | .ok header =>
    if Decimal.pow2 64 ≤ header.expandedSize false then .error .tooLarge else .ok { header }

def measured (p : Preamble) (c : Chunk) : Preamble := { p with longest := max p.longest c.length }

/-- Take a chunk in, the first of which is the header. -/
def takeNext (p : Option Preamble) (file : ByteArray) (c : Chunk) :
    Except Defect (Option Preamble) :=
  if c.length = 0 then .ok p
  else
    match p with
    | none => (start (c.data file)).map fun p => some (p.measured c)
    | some p =>
      match p.take c.name (c.data file) with
      | .error why => .error (.malformed why)
      | .ok p => .ok (some (p.measured c))

def checkData (p : Preamble) (c : Chunk) : Except Breach Unit :=
  if c.name = .imageData then .ok ()
  else if p.frame.isNone then .error .unexpectedFrame
  else if c.length < 4 then .error .frameTooShort
  else .ok ()

/-- Take a chunk in and check what stands behind it. -/
def absorb (file : ByteArray) (p : Option Preamble) (c : Chunk) : Except Defect (Option Preamble) :=
  if file.size ≤ c.stop then .error .cutShort
  else
    match takeNext p file c with
    | .error why => .error why
    | .ok p =>
      if file.size < c.next then .error .cutShort
      else if c.name.isCritical ∧ c.checksum file ≠ c.written file then
        .error (.malformed (.checksum (c.written file) (c.checksum file) c.name))
      else if c.name = .theEnd then .error (.malformed .noData)
      else .ok p

/-- What to do at a chunk: stop because image data starts, or take it in. -/
def arrive (p : Option Preamble) (c : Chunk) : Except Breach (Option Preamble) :=
  match p with
  | none => if c.name = .header then .ok none else .error (.headerLate c.name)
  | some known =>
    if c.name = .imageData ∨ c.name = .frameData then (known.checkData c).map fun () => some known
    else .ok none

/-- Read chunks from a place on up to the first one with image data. -/
def read (file : ByteArray) : Nat → Nat → Option Preamble → Except Defect (Preamble × Chunk)
  | 0, _, _ => .error .cutShort
  | fuel + 1, place, p =>
    match Chunk.at? file place with
    | none => .error .cutShort
    | some c =>
      match arrive p c with
      | .error why => .error (.malformed why)
      | .ok (some known) => .ok (known, c)
      | .ok none =>
        match absorb file p c with
        | .error why => .error why
        | .ok p => read file fuel c.next p

end Preamble
end Png
end Quadcopter

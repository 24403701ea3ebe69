import Quadcopter.Picture.Basic
import Quadcopter.Picture.Png.Intake

/-!
# Quadcopter.Picture.Png

The PNG format, read in all its colour types, depths and interlacings and written in one: eight bits a
channel, rows as they are, data stored without compression. Reading brings every picture to eight bits
a channel; grey is repeated, palettes are looked up and alpha is dropped.
-/

namespace Quadcopter
namespace Png

open Picture (Defect)

/-- The first four of the eight bytes with which every file starts, as a number. -/
def firstMark : Nat := 0x89504E47

/-- The other four. -/
def secondMark : Nat := 0x0D0A1A0A

def checkMarks (file : ByteArray) : Except Defect Unit :=
  if file.size < 4 then .error .cutShort
  else if wordAt file 0 ≠ firstMark then .error (.malformed .signature)
  else if file.size < 8 then .error .cutShort
  else if wordAt file 4 ≠ secondMark then .error (.malformed .signature)
  else .ok ()

/-- The picture of unpacked rows. The pixels of a frame fill it from its first one on, row after row,
except that interlaced ones keep to the rows of the picture; the other pixels are black. -/
def develop (p : Preamble) (rows : ByteArray) : Except Defect Picture :=
  let h := p.header
  let black := Array.replicate (h.width.toNat * h.height.toNat * 3) 0
  let stride := if h.interlaced then h.width else p.shape.width
  let rgb := p.shape.paint stride.toNat (p.palette.getD .empty) rows p.shape.strips 0 black
  match Picture.ofRgb h.width h.height ⟨rgb⟩ with
  | .ok (some picture) => .ok picture
  | _ => .error .tooLarge

/-- The picture of a preamble and the image data that starts with a chunk. -/
def readImage (file : ByteArray) (p : Preamble) (first : Chunk) : Except Defect Picture :=
  if p.isTooLarge then .error .tooLarge
  else if p.hasNoFrames then .error .noFrames
  else
    match Intake.run p (arrivals file file.size first p.nextNumber) (.start p) with
    | .error why => .error why
    | .ok rows => develop p rows

def decode (file : ByteArray) : Except Defect Picture :=
  match checkMarks file with
  | .error why => .error why
  | .ok () =>
    match Preamble.read file file.size 8 none with
    | .error why => .error why
    | .ok (p, first) => readImage file p first

def blockSize : Nat := 65535

def storedBlock (last : Bool) (data : ByteArray) : ByteArray :=
  let n := UInt16.ofNat data.size
  let m := n ^^^ 0xFFFF
  ⟨#[if last then 1 else 0, n.toUInt8, (n >>> 8).toUInt8, m.toUInt8, (m >>> 8).toUInt8]⟩ ++ data

def storedBlocks (data : ByteArray) : Nat → Nat → ByteArray
  | 0, _ => .empty
  | fuel + 1, start =>
    let next := start + blockSize
    let last := data.size ≤ next
    storedBlock last (data.extract start next) ++
      if last then .empty else storedBlocks data fuel next

def deflateStored (data : ByteArray) : ByteArray :=
  ⟨#[0x78, 0x01]⟩ ++ storedBlocks data (data.size + 1) 0 ++ wordBytes (Checksum.adler32 data)

/-- The rows of a picture, each behind a byte that says that it is not filtered. -/
def scanlines (p : Picture) : ByteArray :=
  let bytes := 3 * p.width.toNat
  (List.range p.height.toNat).foldl
    (fun all y => all.push 0 ++ p.rgb.extract (y * bytes) ((y + 1) * bytes)) .empty

def ending : ByteArray := Chunk.encode .theEnd .empty

/-- What is written for a picture, and what is wrong with it. Of a picture without pixels only the end
is written. -/
def encode (p : Picture) : ByteArray × Option Defect :=
  if p.width = 0 then (ending, some .noWidth)
  else if p.height = 0 then (ending, some .noHeight)
  else
    let header := wordBytes p.width ++ wordBytes p.height ++ ⟨#[8, 2, 0, 0, 0]⟩
    let marks := wordBytes (UInt32.ofNat firstMark) ++ wordBytes (UInt32.ofNat secondMark)
    (marks ++ Chunk.encode .header header ++
      Chunk.encode .imageData (deflateStored (scanlines p)) ++ ending, none)

end Png
end Quadcopter

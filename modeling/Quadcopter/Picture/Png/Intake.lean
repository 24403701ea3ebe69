import Quadcopter.Picture.Inflate.Space
import Quadcopter.Picture.Inflate.Stream
import Quadcopter.Picture.Png.Preamble
import Quadcopter.Picture.Png.Scanline

/-!
# Quadcopter.Picture.Png.Intake

The image data of a file: a run of chunks of one name whose data, put together, is a compressed stream
of the rows.

The data is taken in piece by piece, and after each piece the rows that have become complete are looked
at. So of several mistakes in a file the first one counts: an unknown filter of a row before a wrong
checksum behind it, and a wrong checksum before a flaw in the next chunk.
-/

namespace Quadcopter
namespace Png

open Picture (Defect)

/-- What is met when image data is read in order. -/
inductive Arrival where
  | piece (data : ByteArray)
  | defect (why : Defect)
  /-- A chunk of another name. -/
  | ended

def pieceSize : Nat := 32768

/-- The bytes between two places, cut where the file is. -/
def piecesFrom (file : ByteArray) (stop : Nat) : Nat → Nat → List Arrival
  | 0, _ => []
  | fuel + 1, start =>
    if stop ≤ start then []
    else
      let cut := min stop ((start / pieceSize + 1) * pieceSize)
      .piece (file.extract start cut) :: piecesFrom file stop fuel cut

/-- The data of a chunk from a place on. If there is none but the chunk goes on, it is an empty piece. -/
def pieces (file : ByteArray) (c : Chunk) (start : Nat) : List Arrival :=
  if c.stop ≤ start ∧ start < file.size then [.piece .empty]
  else piecesFrom file (min c.stop file.size) file.size start

/-- Where the compressed data of a chunk starts: frame data starts with its number, which has to be the
one that is expected. -/
def dataStart (file : ByteArray) (c : Chunk) (expected : Nat) : Except Defect Nat :=
  if c.name = .imageData then .ok c.start
  else if file.size < c.start + 4 then .error .cutShort
  else
    let found := wordAt file c.start
    if found = expected then .ok (c.start + 4)
    else .error (.malformed (.frameOrder expected found))

/-- What stands behind a chunk of image data: a defect, the end, or a chunk that goes on. The checksum of
frame data does not matter. -/
def follower (file : ByteArray) (c : Chunk) : Except Defect (Option Chunk) :=
  if file.size < c.next then .error .cutShort
  else if c.name.isCritical ∧ c.checksum file ≠ c.written file then
    .error (.malformed (.checksum (c.written file) (c.checksum file) c.name))
  else
    match Chunk.at? file c.next with
    | none => .error .cutShort
    | some next =>
      if next.name ≠ c.name then .ok none
      else if c.name = .frameData ∧ next.length < 4 then .error (.malformed .frameTooShort)
      else .ok (some next)

/-- Everything that is met from a chunk of image data on, if frame data is numbered from some number
on. -/
def arrivals (file : ByteArray) : Nat → Chunk → Nat → List Arrival
  | 0, _, _ => [.defect .cutShort]
  | fuel + 1, c, number =>
    match dataStart file c number with
    | .error why => [.defect why]
    | .ok start =>
      pieces file c start ++
        match follower file c with
        | .error why => [.defect why]
        | .ok none => [.ended]
        | .ok (some next) => arrivals file fuel next (number + 1)

def Preamble.checkPalette (p : Preamble) : Except Breach Unit :=
  if p.header.colour ≠ .palette then .ok ()
  else
    match p.palette with
    | none => .error .noPalette
    | some entries =>
      if entries.size % 3 = 0 ∧ entries.size ≤ 768 then .ok () else .error .palette

/-- Check the rows that are complete in the first bytes of the data. The palette is needed when the first
one is. -/
def Preamble.checkRows (p : Preamble) (data : ByteArray) (size : Nat) : Except Breach Unit :=
  match p.shape.strips with
  | [] => .ok ()
  | first :: _ =>
    match unknownFilter? data size first.bytes 1 0 with
    | some filter => .error (.filter filter)
    | none =>
      if size < 1 + first.bytes then .ok ()
      else
        match p.checkPalette with
        | .error why => .error why
        | .ok () =>
          match unknownFilterIn? data size p.shape.strips 0 with
          | some filter => .error (.filter filter)
          | none => .ok ()

/-- Image data as far as it was taken in: all bytes, how far they are unpacked, the space for what is
unpacked, and how much of that was handed over. -/
structure Intake where
  data : ByteArray := .empty
  stream : Inflate.Stream := {}
  space : Inflate.Space := {}
  shown : Nat := 0

namespace Intake

/-- The start of the intake of a picture. How much will be unpacked is not known of a frame. -/
def start (p : Preamble) : Intake :=
  { space := { expected := if p.frame.isSome then none else some p.header.announcedSize } }

/-- Unpack until the space is full or the data is used up, and say whether there is room left. -/
def unpack (i : Intake) : Except Breach (Intake × Bool) :=
  let space := i.space.widen
  let limit := i.shown + space.free
  match i.stream.advance i.data limit with
  | .error flaw => .error (.packing flaw)
  | .ok stream =>
    let shown := min limit stream.out.size
    .ok ({ i with stream, shown, space := space.fill (shown - i.shown) }, decide (shown < limit))

/-- Unpack again and again until the data is taken in, and look at the rows each time. Data behind the
end of the stream is left out. -/
def digest (p : Preamble) : Nat → Intake → Except Breach Intake
  | 0, i => .ok i
  | fuel + 1, i =>
    if i.stream.isFinished then .ok i
    else
      match i.unpack with
      | .error why => .error why
      | .ok (i, _) =>
        match p.checkRows i.stream.out i.shown with
        | .error why => .error why
        | .ok () => if i.stream.taken < i.data.size then i.digest p fuel else .ok i

/-- More turns than the work on the data takes, of which each but the first few unpacks 32 KiB. -/
def manyTurns (i : Intake) : Nat := i.data.size + 8

def add (p : Preamble) (i : Intake) (piece : ByteArray) : Except Breach Intake :=
  let i := { i with data := i.data ++ piece }
  i.digest p i.manyTurns

/-- Unpack what is left when no more data comes. -/
def drain : Nat → Intake → Except Breach Intake
  | 0, i => .ok i
  | fuel + 1, i =>
    if i.stream.isFinished then .ok i
    else
      match i.unpack with
      | .error why => .error why
      | .ok (i, hasRoom) =>
        if !i.stream.isFinished ∧ hasRoom then .error (.packing .incomplete) else i.drain fuel

def finish (p : Preamble) (i : Intake) : Except Breach ByteArray :=
  match i.drain i.manyTurns with
  | .error why => .error why
  | .ok i =>
    match p.checkRows i.stream.out i.shown with
    | .error why => .error why
    | .ok () => if i.shown < p.shape.packedSize then .error .rowsMissing else .ok i.stream.out

def run (p : Preamble) : List Arrival → Intake → Except Defect ByteArray
  | [], _ => .error .cutShort
  | .defect why :: _, _ => .error why
  | .ended :: _, i =>
    match i.finish p with
    | .error why => .error (.malformed why)
    | .ok rows => .ok rows
  | .piece data :: more, i =>
    match i.add p data with
    | .error why => .error (.malformed why)
    | .ok i => run p more i

end Intake
end Png
end Quadcopter

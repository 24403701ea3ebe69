import Quadcopter.Picture.Checksum
import Quadcopter.Text.Quoted

/-!
# Quadcopter.Picture.Png.Chunk

The chunks of which a PNG file consists: four bytes of length, four letters of name, the data, and a
checksum of name and data. Numbers are written with the high byte first.

The case of each letter of a name says something about the chunk; a capital first letter means that
the picture cannot be understood without it.
-/

namespace Quadcopter
namespace Png

/-- A byte by its place; past the end it is zero. -/
def byteAt (data : ByteArray) (i : Nat) : UInt8 := if h : i < data.size then data[i] else 0

def halfAt (data : ByteArray) (i : Nat) : Nat :=
  256 * (byteAt data i).toNat + (byteAt data (i + 1)).toNat

def wordAt (data : ByteArray) (i : Nat) : Nat := 65536 * halfAt data i + halfAt data (i + 2)

def wordBytes (n : UInt32) : ByteArray :=
  ⟨#[(n >>> 24).toUInt8, (n >>> 16).toUInt8, (n >>> 8).toUInt8, n.toUInt8]⟩

/-- The name of a chunk: four bytes, which should be letters. -/
structure ChunkName where
  first : UInt8
  second : UInt8
  third : UInt8
  fourth : UInt8
  deriving DecidableEq, Repr

namespace ChunkName

def ofBytes (data : ByteArray) (i : Nat) : ChunkName :=
  ⟨byteAt data i, byteAt data (i + 1), byteAt data (i + 2), byteAt data (i + 3)⟩

/-- The name in the first four characters of a text. -/
def ofString (s : String) : ChunkName := ofBytes s.toUTF8 0

def header : ChunkName := ofString "IHDR"

def palette : ChunkName := ofString "PLTE"

/-- A part of the compressed rows. -/
def imageData : ChunkName := ofString "IDAT"

/-- A part of the compressed rows of a frame of an animation. -/
def frameData : ChunkName := ofString "fdAT"

def theEnd : ChunkName := ofString "IEND"

def isSmall (letter : UInt8) : Bool := letter &&& 32 != 0

/-- Whether the picture cannot be understood without the chunk. -/
def isCritical (n : ChunkName) : Bool := !isSmall n.first

def bytes (n : ChunkName) : List UInt8 := [n.first, n.second, n.third, n.fourth]

/-- A name and what the case of its letters says. -/
def describe (n : ChunkName) : String :=
  let letters := n.bytes.flatMap fun b => Text.escaped (Char.ofNat b.toNat)
  let flag (label : String) (b : Bool) : String := ", " ++ label ++ ": " ++ if b then "true" else "false"
  "ChunkType \x7b type: " ++ String.ofList letters ++ flag "critical" n.isCritical ++
    flag "private" (isSmall n.second) ++ flag "reserved" (isSmall n.third) ++
    flag "safecopy" (isSmall n.fourth) ++ " \x7d"

end ChunkName

/-- A chunk in a file, by the place where it starts. Its parts may lie behind the end of the file. -/
structure Chunk where
  name : ChunkName
  start : Nat
  length : Nat

namespace Chunk

/-- The chunk at a place, if its length and name are there. -/
def at? (file : ByteArray) (place : Nat) : Option Chunk :=
  if file.size < place + 8 then none
  else some ⟨.ofBytes file (place + 4), place + 8, wordAt file place⟩

def stop (c : Chunk) : Nat := c.start + c.length

def next (c : Chunk) : Nat := c.stop + 4

def data (file : ByteArray) (c : Chunk) : ByteArray := file.extract c.start c.stop

def written (file : ByteArray) (c : Chunk) : UInt32 := UInt32.ofNat (wordAt file c.stop)

def checksum (file : ByteArray) (c : Chunk) : UInt32 :=
  Checksum.crc32 (file.extract (c.start - 4) c.stop)

/-- A chunk of a name and data as it stands in a file. -/
def encode (name : ChunkName) (data : ByteArray) : ByteArray :=
  let covered := ⟨name.bytes.toArray⟩ ++ data
  wordBytes (UInt32.ofNat data.size) ++ covered ++ wordBytes (Checksum.crc32 covered)

end Chunk
end Png
end Quadcopter

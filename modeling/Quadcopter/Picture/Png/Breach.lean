import Quadcopter.Picture.Inflate.Flaw
import Quadcopter.Picture.Png.Chunk
import Quadcopter.Picture.Png.Colour

/-!
# Quadcopter.Picture.Png.Breach

The rules of the PNG format that a file can break, and the wording of each breach.
-/

namespace Quadcopter
namespace Png

/-- The ways in which a file can break the format. -/
inductive Breach where
  | signature
  | checksum (written computed : UInt32) (chunk : ChunkName)
  | headerLate (chunk : ChunkName)
  | repeated (chunk : ChunkName)
  | paletteLate (chunk : ChunkName)
  | tooShort (chunk : ChunkName)
  /-- Frame data stands where none is expected. -/
  | unexpectedFrame
  | frameTooShort
  | frameOrder (expected found : Nat)
  | frameBounds
  | disposal (n : Nat)
  | blending (n : Nat)
  | transparentColour (expected found : Nat)
  | transparentAlpha (colour : Colour)
  | noPalette
  /-- The palette has a part of an entry, or too many entries. -/
  | palette
  | dimensions
  | depth (n : Nat)
  | colour (n : Nat)
  | combination (colour : Colour) (depth : Depth)
  | compression (n : Nat)
  | filter (n : Nat)
  | interlacing (n : Nat)
  | unit (n : Nat)
  | intent (n : Nat)
  | noData
  | rowsMissing
  | packing (flaw : Inflate.Flaw)
  deriving DecidableEq, Repr

def hexText (n : UInt32) : String := "0x" ++ String.ofList (Nat.toDigits 16 n.toNat)

def Breach.message : Breach → String
  | .signature => "Invalid PNG signature."
  | .checksum written computed chunk =>
    "CRC error: expected " ++ hexText written ++ " have " ++ hexText computed ++
      " while decoding " ++ chunk.describe ++ " chunk."
  | .headerLate chunk => chunk.describe ++ " chunk appeared before IHDR chunk"
  | .repeated chunk => "Chunk " ++ chunk.describe ++ " must appear at most once."
  | .paletteLate chunk => "Chunk " ++ chunk.describe ++ " is invalid before PLTE chunk."
  | .tooShort chunk => "Chunk is too short: " ++ chunk.describe
  | .unexpectedFrame => "Unexpected restart of " ++ ChunkName.frameData.describe ++ " chunk sequence"
  | .frameTooShort => "fdAT chunk shorter than 4 bytes"
  | .frameOrder expected found =>
    "Sequence is not in order, expected #" ++ toString expected ++ " got #" ++ toString found ++ "."
  | .frameBounds => "Sub frame is out-of-bounds."
  | .disposal n => "Invalid dispose op " ++ toString n ++ "."
  | .blending n => "Invalid blend op " ++ toString n ++ "."
  | .transparentColour expected found =>
    "Not enough palette entries, expect " ++ toString expected ++ " got " ++ toString found ++ "."
  | .transparentAlpha c => "Transparency chunk found for color type " ++ c.name ++ "."
  | .noPalette => "Missing palette of indexed image."
  | .palette => "Invalid palette of indexed image."
  | .dimensions => "Invalid image dimensions"
  | .depth n => "Invalid bit depth " ++ toString n ++ "."
  | .colour n => "Invalid color type " ++ toString n ++ "."
  | .combination c d => "Invalid color/depth combination in header: " ++ c.name ++ "/" ++ d.name
  | .compression n => "Unknown compression method " ++ toString n ++ "."
  | .filter n => "Unknown filter method " ++ toString n ++ "."
  | .interlacing n => "Unknown interlace method " ++ toString n ++ "."
  | .unit n => "Invalid physical pixel size unit " ++ toString n ++ "."
  | .intent n => "Invalid sRGB rendering intent " ++ toString n ++ "."
  | .noData => "IDAT or fdAT chunk is missing."
  | .rowsMissing => "IDAT or fDAT chunk does not have enough data for image."
  | .packing flaw => "Corrupt deflate stream. " ++ flaw.word

end Png
end Quadcopter

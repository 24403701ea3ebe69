/-!
# Quadcopter.Picture.Inflate.Flaw

What can be wrong with compressed data, and the word for each.
-/

namespace Quadcopter
namespace Inflate

/-- The reasons for which a compressed stream cannot be unpacked. -/
inductive Flaw where
  | header
  | blockKind
  | storedLength
  /-- More literal and length symbols are announced than there are. -/
  | literalCount
  /-- More distance symbols are announced than there are. -/
  | distanceCount
  /-- The lengths of a code leave gaps or overlap. -/
  | lengthTree
  /-- A block cannot end, because its end has no code. -/
  | literalTree
  | distanceTree
  /-- A repeated code length has nothing to repeat, or repeats too often. -/
  | lengthRepeat
  | distanceCode
  | distance
  | incomplete
  deriving DecidableEq, Repr

def Flaw.word : Flaw → String
  | .header => "BadZlibHeader"
  | .blockKind => "InvalidBlockType"
  | .storedLength => "InvalidUncompressedBlockLength"
  | .literalCount => "InvalidHlit"
  | .distanceCount => "InvalidHdist"
  | .lengthTree => "BadCodeLengthHuffmanTree"
  | .literalTree => "BadLiteralLengthHuffmanTree"
  | .distanceTree => "BadDistanceHuffmanTree"
  | .lengthRepeat => "InvalidCodeLengthRepeat"
  | .distanceCode => "InvalidDistanceCode"
  | .distance => "DistanceTooFarBack"
  | .incomplete => "InsufficientInput"

end Inflate
end Quadcopter

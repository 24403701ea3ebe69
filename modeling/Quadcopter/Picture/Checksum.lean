/-!
# Quadcopter.Picture.Checksum

The two checksums of the PNG format: CRC-32, which also identifies a picture in reports, and
Adler-32.
-/

namespace Quadcopter
namespace Checksum

/-- One step of the division of a remainder by the polynomial. -/
def crcBit (r : UInt32) : UInt32 :=
  if r &&& 1 == 1 then (r >>> 1) ^^^ 0xEDB88320 else r >>> 1

/-- The remainder that a byte leaves. -/
def crcEntry (byte : Nat) : UInt32 := Nat.repeat crcBit 8 (UInt32.ofNat byte)

def crcTable : Array UInt32 := Array.ofFn fun i : Fin 256 => crcEntry i

def crcStep (r : UInt32) (byte : UInt8) : UInt32 :=
  crcTable.getD ((r ^^^ byte.toUInt32) &&& 0xFF).toNat 0 ^^^ (r >>> 8)

def crc32 (bytes : ByteArray) : UInt32 := bytes.foldl crcStep 0xFFFFFFFF ^^^ 0xFFFFFFFF

/-- The Adler-32 of a string of bytes: the sum of the bytes and the sum of those sums. -/
def adler32 (bytes : ByteArray) : UInt32 :=
  let (a, b) := bytes.foldl
    (fun (a, b) byte =>
      let a := (a + byte.toUInt32) % 65521
      (a, (b + a) % 65521)) (1, 0)
  b * 65536 + a

end Checksum
end Quadcopter

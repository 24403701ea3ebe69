import Quadcopter.Picture.Checksum

/-!
# Quadcopter.Picture.Basic

Pictures: three bytes for each pixel, row by row. That there are as many bytes as the dimensions ask
for is part of the type, so every pixel inside the picture can be read.

A machine does not pass pictures around but `Photo`s, a picture together with where it came from: two
photos are the same one only if they come from the same place, whatever their pixels are.

Bytes are counted in machine words. Dimensions that ask for more bytes than a word can count are not
refused: what was to be done with them breaks off.

Main statements: dimensions that can be counted ask for three bytes a pixel (`byteCount?_eq_some`), and a
pixel can be read exactly inside the picture (`pixel?_isSome_iff`).
-/

namespace Quadcopter

/-- A picture of eight bits a channel. -/
structure Picture where
  width : UInt32
  height : UInt32
  rgb : ByteArray
  size_rgb : rgb.size = width.toNat * height.toNat * 3

namespace Picture

def wordLimit : Nat := 0x10000000000000000

/-- A size, unless it is no machine word. -/
def counted? (n : Nat) : Option Nat := if n < wordLimit then some n else none

/-- The bytes that dimensions ask for, counted step by step. -/
def byteCount? (width height : UInt32) : Option Nat :=
  match counted? (width.toNat * height.toNat) with
  | none => none
  | some pixels => counted? (pixels * 3)

theorem counted?_eq_some {n k : Nat} (h : counted? n = some k) : k = n := by
  unfold counted? at h
  split at h
  · exact (Option.some.inj h).symm
  · cases h

theorem byteCount?_eq_some {width height : UInt32} {n : Nat} (h : byteCount? width height = some n) :
    n = width.toNat * height.toNat * 3 := by
  unfold byteCount? at h
  split at h
  · cases h
  · next pixels hp => rw [counted?_eq_some h, counted?_eq_some hp]

/-- A computation has broken off at dimensions whose bytes cannot be counted. -/
structure Uncountable where
  deriving DecidableEq, Repr

/-- The picture of a buffer, if the buffer has the size that the dimensions ask for. -/
def ofRgb (width height : UInt32) (rgb : ByteArray) : Except Uncountable (Option Picture) :=
  match hn : byteCount? width height with
  | none => .error {}
  | some n =>
    .ok (if h : rgb.size = n then some ⟨width, height, rgb, h.trans (byteCount?_eq_some hn)⟩ else none)

def blank (width height : UInt32) : Picture where
  width := width
  height := height
  rgb := ⟨Array.replicate (width.toNat * height.toNat * 3) 0⟩
  size_rgb := Array.size_replicate

instance : Inhabited Picture := ⟨blank 0 0⟩

theorem pixel_lt {p : Picture} {x y : UInt32} (hx : x < p.width) (hy : y < p.height) :
    3 * (y.toNat * p.width.toNat + x.toNat) + 2 < p.rgb.size := by
  have hx' : x.toNat + 1 ≤ p.width.toNat := hx
  have hy' : y.toNat + 1 ≤ p.height.toNat := hy
  have h := Nat.mul_le_mul_right p.width.toNat hy'
  rw [p.size_rgb, Nat.mul_comm p.width.toNat]
  rw [Nat.add_mul, Nat.one_mul] at h
  omega

/-- The red, green and blue of a pixel, if it lies inside the picture. -/
def pixel? (p : Picture) (x y : UInt32) : Option (UInt8 × UInt8 × UInt8) :=
  if h : x < p.width ∧ y < p.height then
    let i := 3 * (y.toNat * p.width.toNat + x.toNat)
    have bound : i + 2 < p.rgb.size := pixel_lt h.1 h.2
    some (p.rgb[i], p.rgb[i + 1], p.rgb[i + 2])
  else none

def checksum (p : Picture) : UInt32 := Checksum.crc32 p.rgb

/-- A word in hexadecimal digits, eight of them. -/
def hexWord (upperCase : Bool) (n : UInt32) : String :=
  let digits := Nat.toDigits 16 n.toNat
  let digits := if upperCase then digits.map Char.toUpper else digits
  String.ofList (List.replicate (8 - digits.length) '0' ++ digits)

/-- The text of a picture: its size and its checksum. -/
def render (p : Picture) : String :=
  "PICTURE " ++ toString p.width.toNat ++ "x" ++ toString p.height.toNat ++
    " CRC " ++ hexWord true p.checksum

theorem pixel?_isSome_iff {p : Picture} {x y : UInt32} :
    (p.pixel? x y).isSome ↔ x < p.width ∧ y < p.height := by
  unfold pixel?
  split <;> simp_all

/-- A library that reads and writes JPEG files. What it has to say about a file or a picture is passed on
in its own words. -/
structure JpegCodec where
  decode : ByteArray → Except String Picture
  /-- What is written for a picture, even if that fails. -/
  encode : Picture → ByteArray × Option String

/-- For a program that was built without such a library. -/
def JpegCodec.absent : JpegCodec where
  decode _ := .error "The image format Jpeg is not supported"
  encode _ := (.empty, some "The image format `Jpeg` is not supported")

end Picture

inductive Origin where
  /-- Made for the one who asked, as the `serial`th picture. -/
  | made (serial : Nat)
  /-- The `serial`th picture that a camera put out for everyone. -/
  | published (serial : Nat)
  deriving DecidableEq, Repr

structure Photo where
  origin : Origin
  picture : Picture

instance : Inhabited Photo := ⟨⟨.made 0, default⟩⟩

def Photo.same (a b : Photo) : Bool := a.origin == b.origin

end Quadcopter

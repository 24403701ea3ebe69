/-!
# Quadcopter.Picture.Inflate.Bits

A place in a string of bytes, counted in bits; the low bit of a byte comes first.

Main statement: reading a number of bits moves the place by as many (`place_of_bits?`).
-/

namespace Quadcopter
namespace Inflate

/-- A string of bytes and a place in it. -/
structure Reader where
  data : ByteArray
  place : Nat

/-- The number of bits from the place on. -/
def Reader.left (r : Reader) : Nat := 8 * r.data.size - r.place

def Reader.bit? (r : Reader) : Option (Nat × Reader) :=
  if h : r.place / 8 < r.data.size then
    some ((r.data[r.place / 8].toNat >>> (r.place % 8)) % 2, { r with place := r.place + 1 })
  else none

/-- A number of so many bits, the low ones first. -/
def Reader.bits? : Nat → Reader → Option (Nat × Reader)
  | 0, r => some (0, r)
  | n + 1, r =>
    match r.bit? with
    | none => none
    | some (b, r) =>
      match bits? n r with
      | none => none
      | some (rest, r) => some (b + 2 * rest, r)

theorem Reader.place_of_bit? {r s : Reader} {b : Nat} (h : r.bit? = some (b, s)) :
    s.place = r.place + 1 := by
  unfold Reader.bit? at h
  split at h <;> grind

theorem Reader.place_of_bits? {n : Nat} {r s : Reader} {b : Nat} (h : r.bits? n = some (b, s)) :
    s.place = r.place + n := by
  induction n generalizing r s b with
  | zero => simp [bits?] at h; simp [h]
  | succ n ih =>
    simp only [bits?] at h
    split at h
    · contradiction
    · next b' r' hbit =>
      have hplace := place_of_bit? hbit
      split at h
      · contradiction
      · next rest s' hrest =>
        have := ih hrest
        simp only [Option.some.injEq, Prod.mk.injEq] at h
        grind

/-- The byte at an index; past the end it is zero. -/
def Reader.byteAt (r : Reader) (i : Nat) : Nat :=
  if h : i < r.data.size then r.data[i].toNat else 0

/-- The bit that comes after so many others; past the end it is zero. -/
def Reader.bitAt (r : Reader) (n : Nat) : Nat :=
  (r.byteAt ((r.place + n) / 8) >>> ((r.place + n) % 8)) % 2

def Reader.skip (r : Reader) (n : Nat) : Reader := { r with place := r.place + n }

/-- The index of the first whole byte after `n` more bits. -/
def Reader.nextByte (r : Reader) (n : Nat) : Nat := (r.place + n + 7) / 8

end Inflate
end Quadcopter

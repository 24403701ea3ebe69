import Quadcopter.Picture.Basic

/-!
# Quadcopter.Proofs.Pixels

Pictures and the bytes that their dimensions ask for, with every size counted in machine words.

* `ofRgb_of_le`, `ofRgb_of_lt`: dimensions that ask for more bytes than a word can count break off; all
  others are compared with the buffer.
* `readPixel?`: the reading of a pixel, given up where an index is no word or no byte has it. In a picture
  whose bytes can be counted it is never given up (`readPixel?_eq`).
* `ofRgb_exact`: which buffers become pictures, and which bytes their pixels are.
-/

namespace Quadcopter
namespace Picture

/-! ## Sizes -/

theorem counted?_of_lt {n : Nat} (h : n < wordLimit) : counted? n = some n := if_pos h

theorem counted?_of_le {n : Nat} (h : wordLimit ≤ n) : counted? n = none := if_neg (Nat.not_lt.2 h)

/-- The product of two dimensions is always a word; only the third factor can make it too large. -/
theorem byteCount?_eq (width height : UInt32) :
    byteCount? width height = counted? (width.toNat * height.toNat * 3) := by
  have hpixels : width.toNat * height.toNat < wordLimit :=
    Nat.mul_lt_mul'' width.toNat_lt height.toNat_lt
  rw [byteCount?, counted?_of_lt hpixels]

variable {width height : UInt32} {rgb : ByteArray}

theorem ofRgb_of_le (h : wordLimit ≤ width.toNat * height.toNat * 3) :
    ofRgb width height rgb = .error {} := by
  unfold ofRgb
  split
  · rfl
  · next n hn =>
    rw [byteCount?_eq, counted?_of_le h] at hn
    cases hn

theorem ofRgb_of_lt (h : width.toNat * height.toNat * 3 < wordLimit) :
    ofRgb width height rgb =
      .ok (if hs : rgb.size = width.toNat * height.toNat * 3 then some ⟨width, height, rgb, hs⟩ else none) := by
  unfold ofRgb
  split
  · next hn =>
    rw [byteCount?_eq, counted?_of_lt h] at hn
    cases hn
  · next n hn =>
    obtain rfl := byteCount?_eq_some hn
    rfl

theorem ofRgb_eq_some {p : Picture} (h : ofRgb width height rgb = .ok (some p)) :
    p.width = width ∧ p.height = height ∧ p.rgb = rgb ∧ p.rgb.size < wordLimit := by
  rcases Nat.lt_or_ge (width.toNat * height.toNat * 3) wordLimit with hlt | hle
  · rw [ofRgb_of_lt hlt] at h
    split at h
    · next hs =>
      cases h
      refine ⟨rfl, rfl, rfl, ?_⟩
      rwa [hs]
    · cases h
  · rw [ofRgb_of_le hle] at h
    cases h

/-! ## Pixels -/

/-- The index of the first byte of a pixel. -/
def pixelIndex? (p : Picture) (x y : UInt32) : Option Nat := do
  let above ← counted? (y.toNat * p.width.toNat)
  let before ← counted? (above + x.toNat)
  counted? (before * 3)

/-- The byte at an index. -/
def byte? (p : Picture) (i : Nat) : Option UInt8 := do
  let i ← counted? i
  p.rgb[i]?

/-- `pixel?`, given up where an index is no machine word or no byte has it. -/
def readPixel? (p : Picture) (x y : UInt32) : Option (Option (UInt8 × UInt8 × UInt8)) :=
  if p.width ≤ x ∨ p.height ≤ y then some none
  else do
    let i ← p.pixelIndex? x y
    let r ← p.byte? i
    let g ← p.byte? (i + 1)
    let b ← p.byte? (i + 2)
    return some (r, g, b)

section

variable {p : Picture} {x y : UInt32}

theorem pixel?_of_outside (h : p.width ≤ x ∨ p.height ≤ y) : p.pixel? x y = none := by
  unfold pixel?
  rw [dif_neg]
  rintro ⟨hx, hy⟩
  rcases h with h | h
  · exact absurd hx (UInt32.not_lt.2 h)
  · exact absurd hy (UInt32.not_lt.2 h)

variable (hx : x < p.width) (hy : y < p.height)

include hx hy

/-- The three bytes of a pixel that lies inside the picture. -/
theorem pixel?_of_inside :
    let i := 3 * (y.toNat * p.width.toNat + x.toNat)
    ∃ r g b, p.pixel? x y = some (r, g, b) ∧
      p.rgb[i]? = some r ∧ p.rgb[i + 1]? = some g ∧ p.rgb[i + 2]? = some b := by
  intro i
  have hbound : i + 2 < p.rgb.size := pixel_lt hx hy
  have hpixel : p.pixel? x y = some (p.rgb[i], p.rgb[i + 1], p.rgb[i + 2]) := by
    unfold pixel?
    rw [dif_pos ⟨hx, hy⟩]
  exact ⟨_, _, _, hpixel, getElem?_pos .., getElem?_pos .., getElem?_pos ..⟩

theorem pixelIndex?_of_inside (hp : p.rgb.size < wordLimit) :
    p.pixelIndex? x y = some (3 * (y.toNat * p.width.toNat + x.toNat)) := by
  have hbound := pixel_lt hx hy
  have habove : counted? (y.toNat * p.width.toNat) = some (y.toNat * p.width.toNat) :=
    counted?_of_lt (by omega)
  have hbefore : counted? (y.toNat * p.width.toNat + x.toNat) = some (y.toNat * p.width.toNat + x.toNat) :=
    counted?_of_lt (by omega)
  have hindex : counted? ((y.toNat * p.width.toNat + x.toNat) * 3) =
      some (3 * (y.toNat * p.width.toNat + x.toNat)) := by
    rw [Nat.mul_comm]
    exact counted?_of_lt (by omega)
  simp [pixelIndex?, habove, hbefore, hindex]

end

theorem byte?_of_some {p : Picture} {i : Nat} {b : UInt8} (hp : p.rgb.size < wordLimit)
    (h : p.rgb[i]? = some b) : p.byte? i = some b := by
  have hi : i < p.rgb.size := by
    rcases Nat.lt_or_ge i p.rgb.size with hlt | hge
    · exact hlt
    · rw [getElem?_neg p.rgb i (Nat.not_lt.2 hge)] at h
      cases h
  simp [byte?, counted?_of_lt (Nat.lt_trans hi hp), h]

/-- In a picture whose bytes can be counted no index goes wrong. -/
theorem readPixel?_eq {p : Picture} (hp : p.rgb.size < wordLimit) (x y : UInt32) :
    p.readPixel? x y = some (p.pixel? x y) := by
  unfold readPixel?
  split
  · next h => rw [pixel?_of_outside h]
  · next h =>
    rw [not_or, UInt32.not_le, UInt32.not_le] at h
    obtain ⟨hx, hy⟩ := h
    obtain ⟨r, g, b, hpixel, hr, hg, hb⟩ := pixel?_of_inside hx hy
    simp [pixelIndex?_of_inside hx hy hp, byte?_of_some hp hr, byte?_of_some hp hg, byte?_of_some hp hb,
      hpixel]

/-- A buffer becomes a picture exactly if it has three bytes for each pixel, unless that many bytes cannot
be counted: then making the picture breaks off. Of a picture that is made, a pixel can be read exactly
inside of its dimensions; it has the bytes at its place in the buffer, and no index on the way goes wrong. -/
theorem ofRgb_exact (width height : UInt32) (rgb : ByteArray) :
    let size := 3 * width.toNat * height.toNat
    (ofRgb width height rgb = .error {} ↔ wordLimit ≤ size) ∧
    (size < wordLimit →
      ((∃ p, ofRgb width height rgb = .ok (some p)) ↔ rgb.size = size) ∧
      (ofRgb width height rgb = .ok none ↔ rgb.size ≠ size)) ∧
    ∀ p, ofRgb width height rgb = .ok (some p) →
      ∀ x y, p.readPixel? x y = some (p.pixel? x y) ∧
        ((p.pixel? x y).isSome ↔ x < width ∧ y < height) ∧
        ∀ r g b, p.pixel? x y = some (r, g, b) →
          let i := 3 * (y.toNat * width.toNat + x.toNat)
          rgb[i]? = some r ∧ rgb[i + 1]? = some g ∧ rgb[i + 2]? = some b := by
  intro size
  have hsize : size = width.toNat * height.toNat * 3 := by rw [Nat.mul_comm, ← Nat.mul_assoc]
  refine ⟨⟨?_, ?_⟩, ?_, ?_⟩
  · intro h
    rcases Nat.lt_or_ge size wordLimit with hlt | hge
    · rw [ofRgb_of_lt (by omega)] at h
      cases h
    · exact hge
  · intro h
    exact ofRgb_of_le (by omega)
  · intro h
    rw [ofRgb_of_lt (by omega), hsize]
    by_cases hs : rgb.size = width.toNat * height.toNat * 3
    · simp [hs]
    · simp [hs]
  · intro p h x y
    obtain ⟨rfl, rfl, rfl, hp⟩ := ofRgb_eq_some h
    refine ⟨readPixel?_eq hp x y, pixel?_isSome_iff, ?_⟩
    intro r g b hpixel
    have hin : x < p.width ∧ y < p.height := pixel?_isSome_iff.1 (by rw [hpixel]; rfl)
    obtain ⟨r', g', b', hpixel', hbytes⟩ := pixel?_of_inside hin.1 hin.2
    rw [hpixel] at hpixel'
    cases hpixel'
    exact hbytes

/-- Six bytes are a picture of two pixels, and the right one has the last three of them. -/
theorem ofRgb_exact_pair :
    let rgb : ByteArray := ⟨#[1, 2, 3, 4, 5, 6]⟩
    rgb.size = 3 * 2 * 1 ∧
      ∃ p, ofRgb 2 1 rgb = .ok (some p) ∧ p.readPixel? 1 0 = some (some (4, 5, 6)) := by
  intro rgb
  obtain ⟨-, hmade, hread⟩ := ofRgb_exact 2 1 rgb
  obtain ⟨p, hp⟩ := (hmade (by decide)).1.2 rfl
  obtain ⟨hcounted, hinside, hbytes⟩ := hread p hp 1 0
  obtain ⟨⟨r, g, b⟩, hpixel⟩ := Option.isSome_iff_exists.1 (hinside.2 (by decide))
  obtain ⟨hr, hg, hb⟩ := hbytes r g b hpixel
  have hr' : 4 = r := Option.some.inj hr
  have hg' : 5 = g := Option.some.inj hg
  have hb' : 6 = b := Option.some.inj hb
  exact ⟨rfl, p, hp, by rw [hcounted, hpixel, hr', hg', hb']⟩

/-- An empty buffer does not have the size of the largest square, but it is not refused. -/
theorem square_uncountable :
    let side : UInt32 := 4294967295
    ByteArray.empty.size ≠ 3 * side.toNat * side.toNat ∧ ofRgb side side .empty ≠ .ok none ∧
      ofRgb side side .empty = .error {} := by
  intro side
  have hbreak : ofRgb side side .empty = .error {} := ofRgb_of_le (by decide)
  refine ⟨by decide, ?_, hbreak⟩
  rw [hbreak]
  nofun

end Picture
end Quadcopter

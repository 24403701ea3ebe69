import Quadcopter.Text.Blank
import Quadcopter.Text.Uppercase

/-!
# Quadcopter.Proofs.Casing

What upper casing cannot do, read off its tables.

* `upperChar_of_mem`: an upper case form is its own upper case form.
* `eq_of_mem_upperChar`: white space, `#` and the quote come from themselves only.
* `upperChar_of_toUpper_eq`: it undoes any change of case in letters of ASCII.

The tables are compared as sets of code points, one bit for each: that no image is a code point that
changes is one conjunction of two numbers.
-/

namespace Quadcopter
namespace Text

/-! ## Sets of code points as bits -/

def bitsOf (ns : List Nat) : Nat := ns.foldr (fun n bits => (1 <<< n) ||| bits) 0

theorem testBit_bitsOf {ns : List Nat} {n : Nat} (h : n ∈ ns) : (bitsOf ns).testBit n = true := by
  induction ns with
  | nil => cases h
  | cons m ns ih =>
    rw [bitsOf, List.foldr_cons, Nat.testBit_or, Bool.or_eq_true]
    rcases List.mem_cons.1 h with rfl | h
    · left; simp [Nat.testBit_shiftLeft]
    · right; exact ih h

theorem notMem_of_bitsOf {ns ms : List Nat} (h : bitsOf ns &&& bitsOf ms = 0) {n : Nat} (hn : n ∈ ns) :
    n ∉ ms := by
  intro hm
  have hb : (bitsOf ns &&& bitsOf ms).testBit n = true := by
    rw [Nat.testBit_and, testBit_bitsOf hn, testBit_bitsOf hm]; rfl
  rw [h, Nat.zero_testBit] at hb
  cases hb

/-! ## The code points that change, and what they become -/

def Run.points (r : Run) : List Nat :=
  (List.range ((r.last - r.first) / r.step + 1)).map fun k => r.first + r.step * k

theorem mem_points {r : Run} {n : Nat} (h : r.covers n = true) : n ∈ r.points := by
  simp only [Run.covers, Bool.and_eq_true, decide_eq_true_eq, beq_iff_eq] at h
  obtain ⟨⟨hfirst, hlast⟩, hstep⟩ := h
  refine List.mem_map.2 ⟨(n - r.first) / r.step, ?_, ?_⟩
  · have : (n - r.first) / r.step ≤ (r.last - r.first) / r.step :=
      Nat.div_le_div_right (Nat.sub_le_sub_right hlast _)
    exact List.mem_range.2 (by omega)
  · have := Nat.mul_div_cancel' (Nat.dvd_of_mod_eq_zero hstep)
    omega

def asciiLower : List Nat := (List.range 26).map (97 + ·)

def asciiUpper : List Nat := (List.range 26).map (65 + ·)

def lowerPoints : List Nat :=
  asciiLower ++ upperRuns.flatMap Run.points ++ upperExpansions.map (·.1)

def upperPoints : List Nat :=
  asciiUpper ++
    upperRuns.flatMap (fun r => r.points.map fun n : Nat => (n + r.shift).toNat) ++
    upperExpansions.flatMap (·.2)

/-- The code points that separate tokens, open a comment or enclose a text. -/
def markPoints : List Nat := 0x22 :: 0x23 :: blankPoints

theorem upper_lower_apart : bitsOf upperPoints &&& bitsOf lowerPoints = 0 := by decide +kernel

theorem mark_lower_apart : bitsOf markPoints &&& bitsOf lowerPoints = 0 := by decide +kernel

theorem mark_upper_apart : bitsOf markPoints &&& bitsOf upperPoints = 0 := by decide +kernel

theorem upperPoints_valid : ∀ n ∈ upperPoints, n.isValidChar := by decide +kernel

/-! ## Characters -/

theorem toNat_ofNat {n : Nat} (h : n.isValidChar) : (Char.ofNat n).toNat = n := by
  rw [Char.ofNat, dif_pos h]; rfl

theorem ascii_upper : ∀ n < 0x80, (Char.ofNat n).toUpper = Char.ofNat n ∧ n ∉ asciiLower ∨
    (Char.ofNat n).toUpper.toNat ∈ asciiUpper ∧ n ∈ asciiLower := by
  decide +kernel

theorem ascii_cases {c : Char} (h : c.toNat < 0x80) :
    c.toUpper = c ∧ c.toNat ∉ asciiLower ∨ c.toUpper.toNat ∈ asciiUpper ∧ c.toNat ∈ asciiLower := by
  have := ascii_upper c.toNat h
  rwa [Char.ofNat_toNat] at this

def Raised (image : List Char) : Prop := ∀ d ∈ image, d.toNat ∈ upperPoints

theorem ofNat_mem_upperPoints {n : Nat} (h : n ∈ upperPoints) : (Char.ofNat n).toNat ∈ upperPoints := by
  rwa [toNat_ofNat (upperPoints_valid n h)]

theorem raised_expansion {n : Nat} {image : List Nat} (h : upperExpansions.lookup n = some image) :
    n ∈ lowerPoints ∧ Raised (image.map Char.ofNat) := by
  obtain ⟨before, after, he, -⟩ := List.lookup_eq_some_iff.1 h
  have hm : (n, image) ∈ upperExpansions := by simp [he]
  constructor
  · exact List.mem_append_right _ (List.mem_map.2 ⟨_, hm, rfl⟩)
  · intro d hd
    obtain ⟨m, hi, rfl⟩ := List.mem_map.1 hd
    apply ofNat_mem_upperPoints
    exact List.mem_append_right _ (List.mem_flatMap.2 ⟨_, hm, hi⟩)

theorem raised_run {n : Nat} {r : Run} (h : upperRuns.find? (·.covers n) = some r) :
    n ∈ lowerPoints ∧ Raised [Char.ofNat (n + r.shift).toNat] := by
  have hr := List.mem_of_find?_eq_some h
  have hc : r.covers n = true := List.find?_some (p := fun r : Run => r.covers n) h
  have hn : n ∈ r.points := mem_points hc
  constructor
  · exact List.mem_append_left _ (List.mem_append_right _ (List.mem_flatMap.2 ⟨r, hr, hn⟩))
  · intro d hd
    obtain rfl := List.mem_singleton.1 hd
    apply ofNat_mem_upperPoints
    refine List.mem_append_left _ (List.mem_append_right _ (List.mem_flatMap.2 ⟨r, hr, ?_⟩))
    exact List.mem_map.2 ⟨n, hn, rfl⟩

/-- A character either stays or changes into the upper case. -/
theorem upperChar_cases (c : Char) :
    upperChar c = [c] ∨ c.toNat ∈ lowerPoints ∧ Raised (upperChar c) := by
  unfold upperChar
  split
  · next hc =>
    rcases ascii_cases hc with ⟨hu, -⟩ | ⟨hu, hl⟩
    · left; rw [hu]
    · right
      refine ⟨List.mem_append_left _ (List.mem_append_left _ hl), ?_⟩
      intro d hd
      obtain rfl := List.mem_singleton.1 hd
      exact List.mem_append_left _ (List.mem_append_left _ hu)
  split
  · next hl => exact .inr (raised_expansion hl)
  unfold moveBy
  split
  · next hr => exact .inr (raised_run hr)
  · left; rw [Char.ofNat_toNat]

theorem upperChar_of_notMem {c : Char} (h : c.toNat ∉ lowerPoints) : upperChar c = [c] := by
  rcases upperChar_cases c with hc | ⟨hl, -⟩
  · exact hc
  · exact absurd hl h

/-- An upper case form is its own upper case form. -/
theorem upperChar_of_mem {c d : Char} (h : d ∈ upperChar c) : upperChar d = [d] := by
  rcases upperChar_cases c with hc | ⟨-, hu⟩
  · rw [hc] at h
    obtain rfl := List.mem_singleton.1 h
    exact hc
  · exact upperChar_of_notMem (notMem_of_bitsOf upper_lower_apart (hu d h))

theorem upperChar_of_mark {c : Char} (h : c.toNat ∈ markPoints) : upperChar c = [c] :=
  upperChar_of_notMem (notMem_of_bitsOf mark_lower_apart h)

/-- Marks come from themselves only. -/
theorem eq_of_mem_upperChar {c d : Char} (h : d ∈ upperChar c) (hd : d.toNat ∈ markPoints) : c = d := by
  rcases upperChar_cases c with hc | ⟨-, hu⟩
  · rw [hc] at h
    exact (List.mem_singleton.1 h).symm
  · exact absurd (hu d h) (notMem_of_bitsOf mark_upper_apart hd)

theorem toUpper_of_le {c : Char} (h : 0x80 ≤ c.toNat) : c.toUpper = c := by
  unfold Char.toUpper
  refine dif_neg ?_
  rintro ⟨-, hz⟩
  have hle : c.toNat ≤ 122 := UInt32.le_iff_toNat_le.1 hz
  omega

theorem toUpper_of_fixed {c : Char} (h : upperChar c = [c]) : c.toUpper = c := by
  by_cases hc : c.toNat < 0x80
  · rw [upperChar, if_pos hc] at h
    exact (List.cons.inj h).1
  · exact toUpper_of_le (Nat.not_lt.1 hc)

/-- Whatever the case of a letter of ASCII is changed to, its upper case form stays. -/
theorem upperChar_of_toUpper_eq {c d : Char} (hc : upperChar c = [c]) (h : c.toUpper = d.toUpper) :
    upperChar d = [c] := by
  rw [toUpper_of_fixed hc] at h
  by_cases hd : d.toNat < 0x80
  · rw [upperChar, if_pos hd, h]
  · rw [toUpper_of_le (Nat.not_lt.1 hd)] at h
    rw [← h, hc]

theorem mem_markPoints_of_isBlank {c : Char} (h : isBlank c = true) : c.toNat ∈ markPoints :=
  List.mem_cons_of_mem _ (List.mem_cons_of_mem _ (isBlank_iff.1 h))

/-! ## Texts -/

theorem upper_of_fixed {s : List Char} (h : ∀ c ∈ s, upperChar c = [c]) : upper s = s := by
  induction s with
  | nil => rfl
  | cons c s ih =>
    have hs : upper s = s := ih fun d hd => h d (List.mem_cons_of_mem c hd)
    rw [upper, List.flatMap_cons, h c List.mem_cons_self]
    exact congrArg (c :: ·) hs

theorem upperChar_of_mem_upper {s : List Char} {d : Char} (h : d ∈ upper s) : upperChar d = [d] := by
  obtain ⟨c, -, hd⟩ := List.mem_flatMap.1 h
  exact upperChar_of_mem hd

theorem mem_of_mem_upper {s : List Char} {d : Char} (h : d ∈ upper s) (hd : d.toNat ∈ markPoints) :
    d ∈ s := by
  obtain ⟨c, hc, hm⟩ := List.mem_flatMap.1 h
  rwa [← eq_of_mem_upperChar hm hd]

theorem upper_of_isBlank {s : List Char} (h : ∀ c ∈ s, isBlank c = true) : upper s = s :=
  upper_of_fixed fun c hc => upperChar_of_mark (mem_markPoints_of_isBlank (h c hc))

end Text
end Quadcopter

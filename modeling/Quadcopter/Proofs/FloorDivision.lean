import Mathlib.Data.Rat.Floor
import Mathlib.Tactic.Linarith
import Quadcopter.Proofs.Decoding

/-!
# Quadcopter.Proofs.FloorDivision

Floor division of words. The machine divides toward zero and corrects quotient and remainder by the
signs, with sums and products of words that could wrap around.

* `Truncated`, `Floored`: the two ways to divide, in integers. The correction leads from the one to the
  other (`Truncated.corrected`), and nothing that it computes is larger than what it is given.
* `floorQuotient?`, `floorRemainder?`: the computations of the machine, given up where a result is no
  word. They are never given up (`floorQuotient?_eq`, `floorRemainder?_eq`).
* `floor_division`: `IDIV` is the quotient rounded down and `RDIV` the remainder that goes with it.
-/

namespace Quadcopter
namespace Arith

/-! ## Integers -/

/-- The quotient of `l` and `r` cut toward zero, and the remainder that goes with it. -/
structure Truncated (l r q m : Int) : Prop where
  split : l = q * r + m
  parts : (q * r).natAbs + m.natAbs = l.natAbs
  small : m.natAbs < r.natAbs
  nonneg : 0 ≤ l → 0 ≤ m
  nonpos : l ≤ 0 → m ≤ 0

/-- The quotient of `l` and `r` rounded down, and the remainder that goes with it. -/
structure Floored (l r q m : Int) : Prop where
  split : l = q * r + m
  ofPos : 0 < r → 0 ≤ m ∧ m < r
  ofNeg : r < 0 → r < m ∧ m ≤ 0

/-- A remainder that is not zero and does not have the sign of the divisor. -/
def Apart (m r : Int) : Prop := m ≠ 0 ∧ ¬ (m < 0 ↔ r < 0)

theorem truncated_tdiv (l : Int) {r : Int} (hr : r ≠ 0) : Truncated l r (l.tdiv r) (l.tmod r) where
  split := by rw [Int.mul_comm]; exact (Int.mul_tdiv_add_tmod l r).symm
  parts := by
    rw [Int.natAbs_mul, Int.natAbs_tdiv, Int.natAbs_tmod]
    exact Nat.div_add_mod' _ _
  small := by
    rw [Int.natAbs_tmod]
    exact Nat.mod_lt _ (Int.natAbs_pos.2 hr)
  nonneg := Int.tmod_nonneg r
  nonpos hl := by
    have h := Int.tmod_nonneg r (Int.neg_nonneg_of_nonpos hl)
    rw [Int.neg_tmod] at h
    omega

namespace Truncated

variable {l r q m : Int}

theorem apart_iff (h : Truncated l r q m) : Apart m r ↔ q * r ≠ l ∧ ¬ (l < 0 ↔ r < 0) := by
  obtain ⟨hsplit, -, -, hnonneg, hnonpos⟩ := h
  unfold Apart
  generalize q * r = product at *
  omega

/-- One less in the quotient is one divisor more in the remainder. -/
theorem corrected (h : Truncated l r q m) (ha : Apart m r) : Floored l r (q - 1) (m + r) := by
  obtain ⟨hsplit, -, hsmall, -, -⟩ := h
  unfold Apart at ha
  refine ⟨?_, ?_, ?_⟩
  · rw [Int.sub_mul]
    omega
  · omega
  · omega

theorem uncorrected (h : Truncated l r q m) (ha : ¬ Apart m r) : Floored l r q m := by
  obtain ⟨hsplit, -, hsmall, -, -⟩ := h
  unfold Apart at ha
  exact ⟨hsplit, by omega, by omega⟩

/-- A quotient that is corrected was halved at least, so that it has room for one less. -/
theorem two_mul_natAbs_le (h : Truncated l r q m) (ha : Apart m r) : 2 * q.natAbs ≤ l.natAbs := by
  have hm : m.natAbs ≠ 0 := Int.natAbs_ne_zero.2 ha.1
  have hr : 2 ≤ r.natAbs := by
    have := h.small
    omega
  calc
    2 * q.natAbs ≤ r.natAbs * q.natAbs := Nat.mul_le_mul_right _ hr
    _ = (q * r).natAbs := by rw [Int.natAbs_mul, Nat.mul_comm]
    _ ≤ l.natAbs := by rw [← h.parts]; exact Nat.le_add_right _ _

end Truncated

namespace Floored

variable {l r q m : Int}

theorem eq_floor (h : Floored l r q m) (hr : r ≠ 0) : q = ⌊(l : ℚ) / r⌋ := by
  have hsplit : (l : ℚ) = q * r + m := by exact_mod_cast h.split
  have hne : (r : ℚ) ≠ 0 := by exact_mod_cast hr
  have hquotient : (l : ℚ) / r = q + m / r := by
    rw [hsplit]
    field_simp
  -- what the remainder adds to the quotient is less than one
  have hrest : 0 ≤ (m : ℚ) / r ∧ (m : ℚ) / r < 1 := by
    rcases Int.lt_or_gt_of_ne hr with hneg | hpos
    · obtain ⟨hlow, hhigh⟩ := h.ofNeg hneg
      have hneg' : (r : ℚ) < 0 := by exact_mod_cast hneg
      have hlow' : (r : ℚ) < m := by exact_mod_cast hlow
      exact ⟨div_nonneg_of_nonpos (by exact_mod_cast hhigh) hneg'.le, (div_lt_one_of_neg hneg').2 hlow'⟩
    · obtain ⟨hlow, hhigh⟩ := h.ofPos hpos
      have hpos' : (0 : ℚ) < r := by exact_mod_cast hpos
      have hhigh' : (m : ℚ) < r := by exact_mod_cast hhigh
      exact ⟨div_nonneg (by exact_mod_cast hlow) hpos'.le, (div_lt_one hpos').2 hhigh'⟩
  symm
  rw [Int.floor_eq_iff, hquotient]
  constructor
  · linarith [hrest.1]
  · linarith [hrest.2]

theorem sign_eq (h : Floored l r q m) (hr : r ≠ 0) (hm : m ≠ 0) : m.sign = r.sign := by
  rcases Int.lt_or_gt_of_ne hr with hneg | hpos
  · have := h.ofNeg hneg
    rw [Int.sign_eq_neg_one_of_neg hneg, Int.sign_eq_neg_one_of_neg (by omega)]
  · have := h.ofPos hpos
    rw [Int.sign_eq_one_of_pos hpos, Int.sign_eq_one_of_pos (by omega)]

theorem abs_lt (h : Floored l r q m) (hr : r ≠ 0) : |m| < |r| := by
  have hneg := h.ofNeg
  have hpos := h.ofPos
  rw [Int.abs_eq_natAbs, Int.abs_eq_natAbs]
  omega

end Floored

/-! ## Words -/

theorem isWord_toInt (x : Int64) : IsWord x.toInt := by
  have hlow := x.le_toInt
  have hhigh := x.toInt_lt
  exact ⟨hlow, Int.le_of_lt_add_one hhigh⟩

theorem toInt_ofInt {n : Int} (h : IsWord n) : (Int64.ofInt n).toInt = n :=
  Int64.toInt_ofInt_of_le h.1 (Int.lt_add_one_of_le h.2)

/-- The word of an exact result, if there is one. -/
def word? (n : Int) : Option Int64 := if inRange n then some (Int64.ofInt n) else none

theorem word?_of_isWord {n : Int} (h : IsWord n) : word? n = some (Int64.ofInt n) :=
  if_pos (inRange_iff.2 h)

/-- `floorQuotient`, given up where a result on the way is no word. -/
def floorQuotient? (l r : Int64) : Option Int64 :=
  let q := l / r
  (word? (q.toInt * r.toInt)).bind fun product =>
    if product != l && (l < 0) != (r < 0) then word? (q.toInt - 1) else some q

/-- `floorRemainder`, given up where a result on the way is no word. -/
def floorRemainder? (l r : Int64) : Option Int64 :=
  let m := l % r
  if m != 0 && (m < 0) != (r < 0) then word? (m.toInt + r.toInt) else some m

section

variable {l r : Int64}

theorem toInt_quotient (h : quotientOverflows l r = false) : (l / r).toInt = l.toInt.tdiv r.toInt := by
  simp only [quotientOverflows, Bool.and_eq_false_iff, beq_eq_false_iff_ne] at h
  rcases h with h | h
  · exact Int64.toInt_div_of_ne_left l r h
  · exact Int64.toInt_div_of_ne_right l r h

theorem truncated_words (hr : r ≠ 0) (h : quotientOverflows l r = false) :
    Truncated l.toInt r.toInt (l / r).toInt (l % r).toInt := by
  have hr' : r.toInt ≠ 0 := fun h0 => hr (Int64.toInt_inj.1 h0)
  rw [toInt_quotient h, Int64.toInt_mod]
  exact truncated_tdiv l.toInt hr'

/-- The product that is compared with the dividend lies between zero and the dividend. -/
theorem isWord_product {q m : Int} (h : Truncated l.toInt r.toInt q m) : IsWord (q * r.toInt) := by
  obtain ⟨hsplit, hparts, -, hnonneg, hnonpos⟩ := h
  have hl := isWord_toInt l
  unfold IsWord at *
  generalize q * r.toInt = product at *
  omega

theorem isWord_pred {q m : Int} (h : Truncated l.toInt r.toInt q m) (ha : Apart m r.toInt) :
    IsWord (q - 1) := by
  have hhalf := h.two_mul_natAbs_le ha
  have hl := isWord_toInt l
  unfold IsWord at *
  omega

/-- A remainder and a divisor of different signs do not add up to more than either. -/
theorem isWord_sum {q m : Int} (h : Truncated l.toInt r.toInt q m) (ha : Apart m r.toInt) :
    IsWord (m + r.toInt) := by
  have hsmall := h.small
  have hr := isWord_toInt r
  unfold Apart at ha
  unfold IsWord at *
  omega

theorem signs_differ_iff (x y : Int64) :
    ((decide (x < 0) != decide (y < 0)) = true) ↔ ¬ (x.toInt < 0 ↔ y.toInt < 0) := by
  rw [bne_iff_ne, ne_eq, decide_eq_decide, Int64.lt_iff_toInt_lt, Int64.lt_iff_toInt_lt, Int64.toInt_zero]

variable {q m : Int64}

theorem quotient_corrected_iff (h : Truncated l.toInt r.toInt q.toInt m.toInt) :
    (q * r != l && (l < 0) != (r < 0)) = true ↔ Apart m.toInt r.toInt := by
  have hproduct : (q * r).toInt = q.toInt * r.toInt := by
    rw [← toInt_ofInt (isWord_product h), Int64.ofInt_mul, Int64.ofInt_toInt, Int64.ofInt_toInt]
  rw [h.apart_iff, Bool.and_eq_true, bne_iff_ne, signs_differ_iff, ← hproduct, ne_eq, ne_eq,
    Int64.toInt_inj]

theorem remainder_corrected_iff : (m != 0 && (m < 0) != (r < 0)) = true ↔ Apart m.toInt r.toInt := by
  rw [Apart, Bool.and_eq_true, bne_iff_ne, signs_differ_iff, ne_eq, ne_eq, ← Int64.toInt_inj,
    Int64.toInt_zero]

variable (hr : r ≠ 0) (h : quotientOverflows l r = false)

include hr h

theorem floorQuotient?_eq : floorQuotient? l r = some (floorQuotient l r) := by
  have ht := truncated_words hr h
  have hproduct : word? ((l / r).toInt * r.toInt) = some (l / r * r) := by
    rw [word?_of_isWord (isWord_product ht), Int64.ofInt_mul, Int64.ofInt_toInt, Int64.ofInt_toInt]
  simp only [floorQuotient?, hproduct, Option.bind_some, floorQuotient]
  split
  · next hc =>
    have ha := (quotient_corrected_iff ht).1 hc
    rw [word?_of_isWord (isWord_pred ht ha), Int64.ofInt_sub, Int64.ofInt_toInt]
    rfl
  · rfl

theorem floorRemainder?_eq : floorRemainder? l r = some (floorRemainder l r) := by
  have ht := truncated_words hr h
  simp only [floorRemainder?, floorRemainder]
  split
  · next hc =>
    have ha := remainder_corrected_iff.1 hc
    rw [word?_of_isWord (isWord_sum ht ha), Int64.ofInt_add, Int64.ofInt_toInt, Int64.ofInt_toInt]
  · rfl

/-- Both corrections are made, or neither is. -/
theorem floored_words :
    Floored l.toInt r.toInt (floorQuotient l r).toInt (floorRemainder l r).toInt := by
  have ht := truncated_words hr h
  by_cases ha : Apart (l % r).toInt r.toInt
  · have hq : (floorQuotient l r).toInt = (l / r).toInt - 1 := by
      rw [floorQuotient, if_pos ((quotient_corrected_iff ht).2 ha), ← toInt_ofInt (isWord_pred ht ha),
        Int64.ofInt_sub, Int64.ofInt_toInt]
      rfl
    have hm : (floorRemainder l r).toInt = (l % r).toInt + r.toInt := by
      rw [floorRemainder, if_pos (remainder_corrected_iff.2 ha), ← toInt_ofInt (isWord_sum ht ha),
        Int64.ofInt_add, Int64.ofInt_toInt, Int64.ofInt_toInt]
    rw [hq, hm]
    exact ht.corrected ha
  · rw [floorQuotient, if_neg (ha ∘ (quotient_corrected_iff ht).1), floorRemainder,
      if_neg (ha ∘ remainder_corrected_iff.1)]
    exact ht.uncorrected ha

end

/-! ## Operations -/

theorem apply_idiv {l r : Int64} (hr : r ≠ 0) (h : quotientOverflows l r = false) :
    idiv.apply (.int l) (.int r) = .ok (.int (floorQuotient l r)) := by
  simp [apply, floorDivide, Value.isZero, hr, h]

theorem apply_rdiv {l r : Int64} (hr : r ≠ 0) (h : quotientOverflows l r = false) :
    rdiv.apply (.int l) (.int r) = .ok (.int (floorRemainder l r)) := by
  simp [apply, remainder, Value.isZero, hr, h]

theorem divides_of_ok {l r : Int64} {x : Value} (h : idiv.apply (.int l) (.int r) = .ok x) :
    r ≠ 0 ∧ quotientOverflows l r = false := by
  by_cases hr : r = 0
  · simp [apply, floorDivide, Value.isZero, hr] at h
  · cases ho : quotientOverflows l r with
    | true => simp [apply, floorDivide, Value.isZero, hr, ho] at h
    | false => exact ⟨hr, rfl⟩

/-- Where `IDIV` and `RDIV` of two words succeed, they give the quotient rounded down and the remainder
that goes with it, which is zero or has the sign of the divisor and is smaller. Both succeed for each
divisor but zero, a quotient that is no word apart, and no result on the way is out of the words. -/
theorem floor_division (l r : Int64) :
    (∀ x y, idiv.apply (.int l) (.int r) = .ok x → rdiv.apply (.int l) (.int r) = .ok y →
      ∃ q m : Int64, x = .int q ∧ y = .int m ∧ q.toInt = ⌊(l.toInt : ℚ) / r.toInt⌋ ∧
        l.toInt = q.toInt * r.toInt + m.toInt ∧ (m.toInt = 0 ∨ m.toInt.sign = r.toInt.sign) ∧
        |m.toInt| < |r.toInt|) ∧
    (r ≠ 0 → ¬ (l = Int64.minValue ∧ r = -1) →
      ∃ q m : Int64, idiv.apply (.int l) (.int r) = .ok (.int q) ∧
        rdiv.apply (.int l) (.int r) = .ok (.int m) ∧
        floorQuotient? l r = some q ∧ floorRemainder? l r = some m) := by
  constructor
  · intro x y hx hy
    obtain ⟨hr, ho⟩ := divides_of_ok hx
    rw [apply_idiv hr ho] at hx
    rw [apply_rdiv hr ho] at hy
    cases hx
    cases hy
    have hf := floored_words hr ho
    have hr' : r.toInt ≠ 0 := fun h0 => hr (Int64.toInt_inj.1 h0)
    exact ⟨_, _, rfl, rfl, hf.eq_floor hr', hf.split, or_iff_not_imp_left.2 (hf.sign_eq hr'),
      hf.abs_lt hr'⟩
  · intro hr hmin
    have ho : quotientOverflows l r = false := by
      simpa [quotientOverflows, ← not_and] using hmin
    exact ⟨_, _, apply_idiv hr ho, apply_rdiv hr ho, floorQuotient?_eq hr ho, floorRemainder?_eq hr ho⟩

/-- The least word by three: both results are corrected. -/
theorem floor_division_least :
    let l := Int64.minValue
    let r : Int64 := 3
    let q : Int64 := -3074457345618258603
    idiv.apply (.int l) (.int r) = .ok (.int q) ∧ rdiv.apply (.int l) (.int r) = .ok (.int 1) ∧
      floorQuotient? l r = some q ∧ floorRemainder? l r = some 1 ∧
      q.toInt = ⌊(l.toInt : ℚ) / r.toInt⌋ ∧ l.toInt = q.toInt * r.toInt + 1 := by
  intro l r q
  obtain ⟨hvalues, hsucceed⟩ := floor_division l r
  obtain ⟨q', m', hq, hm, hq', hm'⟩ := hsucceed (by decide) (by decide)
  have hthird : floorQuotient? l r = some q := by decide
  have hrest : floorRemainder? l r = some 1 := by decide
  cases hq'.symm.trans hthird
  cases hm'.symm.trans hrest
  obtain ⟨_, _, hx, hy, hfloor, hsplit, -⟩ := hvalues _ _ hq hm
  cases hx
  cases hy
  exact ⟨hq, hm, hthird, hrest, hfloor, hsplit⟩

end Arith
end Quadcopter

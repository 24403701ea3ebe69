import Quadcopter.Proofs.FloorDivision
import Quadcopter.Proofs.Registers

/-!
# Quadcopter.Proofs.Digitwise

Reading a number digit by digit in a machine word. The numbers read on the way have to be words too, so that
reading may have to be given up before the last digit.

* `Span.parse?`: reading between two bounds, given up where a number on the way is out of them.
* `foldlM_extend?`: it is given up only if the whole number is out of the bounds.
* `integerLiteral_eq_ok_iff`, `registerIndex_eq_ok_iff`: literals and registers are read as in words, signed
  and unsigned, however many digits there are.
-/

namespace Quadcopter

namespace Decimal

/-- The integers between two bounds. -/
structure Span where
  low : Int
  high : Int

namespace Span

/-- The signed words of 64 bits. -/
def words : Span := ⟨-9223372036854775808, 9223372036854775807⟩

/-- The unsigned words of 64 bits. -/
def counts : Span := ⟨0, 18446744073709551615⟩

variable (b : Span)

def Holds (n : Int) : Prop := b.low ≤ n ∧ n ≤ b.high

instance (n : Int) : Decidable (b.Holds n) := inferInstanceAs (Decidable (_ ∧ _))

def keep? (n : Int) : Option Int := if b.Holds n then some n else none

def ofSign (negative : Bool) (k : Nat) : Int := if negative then -(k : Int) else k

/-- One digit more at the end of a number, away from zero. -/
def extend? (negative : Bool) (n : Int) (c : Char) : Option Int :=
  if c.isDigit then
    (b.keep? (10 * n)).bind fun tenfold => b.keep? (tenfold + ofSign negative (digitValue c))
  else none

/-- Read digits after an optional sign one by one, and give up where the number read so far is not between
the bounds. A minus is only a sign if there are negative numbers. -/
def parse? (s : List Char) : Option Int :=
  match splitSign s with
  | (negative, digits) =>
    if digits = [] ∨ (negative = true ∧ 0 ≤ b.low) then none
    else digits.foldlM (b.extend? negative) 0

variable {b}

theorem keep?_of_holds {n : Int} (h : b.Holds n) : b.keep? n = some n := if_pos h

theorem keep?_of_not_holds {n : Int} (h : ¬ b.Holds n) : b.keep? n = none := if_neg h

theorem keep?_eq_some_iff {n x : Int} : b.keep? n = some x ↔ b.Holds x ∧ n = x := by
  unfold keep?
  split
  · next h =>
    rw [Option.some_inj]
    constructor
    · rintro rfl
      exact ⟨h, rfl⟩
    · exact And.right
  · next h =>
    refine iff_of_false nofun ?_
    rintro ⟨hx, rfl⟩
    exact h hx

theorem ten_mul_ofSign (negative : Bool) (k : Nat) : 10 * ofSign negative k = ofSign negative (10 * k) := by
  cases negative with
  | true => simp only [ofSign, if_true]; omega
  | false => simp only [ofSign, Bool.false_eq_true, if_false]; omega

theorem ofSign_add (negative : Bool) (k l : Nat) :
    ofSign negative k + ofSign negative l = ofSign negative (k + l) := by
  cases negative with
  | true => simp only [ofSign, if_true]; omega
  | false => simp only [ofSign, Bool.false_eq_true, if_false]; omega

theorem ofSign_zero (negative : Bool) : ofSign negative 0 = 0 := by
  cases negative <;> rfl

theorem le_ofDigitChars (s : List Char) (k : Nat) : k ≤ Nat.ofDigitChars 10 s k := by
  induction s generalizing k with
  | nil => exact Nat.le_refl k
  | cons c s ih =>
    calc
      k ≤ 10 * k + (c.toNat - '0'.toNat) := by omega
      _ ≤ Nat.ofDigitChars 10 (c :: s) k := ih _

variable (hlow : b.low ≤ 0) (hhigh : 0 ≤ b.high)

include hlow hhigh

/-- Bounds around zero hold what is closer to zero than a number that they hold. -/
theorem Holds.of_le {negative : Bool} {k l : Nat} (h : b.Holds (ofSign negative l)) (hle : k ≤ l) :
    b.Holds (ofSign negative k) := by
  unfold Holds ofSign at *
  cases negative with
  | true => simp only [if_true] at *; omega
  | false => simp only [Bool.false_eq_true, if_false] at *; omega

theorem extend?_ofSign (negative : Bool) (k : Nat) {c : Char} (hc : c.isDigit = true) :
    b.extend? negative (ofSign negative k) c = b.keep? (ofSign negative (10 * k + digitValue c)) := by
  rw [extend?, if_pos hc, ten_mul_ofSign]
  by_cases hm : b.Holds (ofSign negative (10 * k))
  · rw [keep?_of_holds hm, Option.bind_some, ofSign_add]
  · -- ten times the number is too much, so that the digit cannot help
    rw [keep?_of_not_holds hm, keep?_of_not_holds (fun h => hm (h.of_le hlow hhigh (Nat.le_add_right _ _)))]
    rfl

/-- The loop gives up where something is no digit, or where the whole number is out of the bounds; what it
has read on the way is never further from zero. -/
theorem foldlM_extend? (negative : Bool) (s : List Char) {k : Nat} (hk : b.Holds (ofSign negative k)) :
    s.foldlM (b.extend? negative) (ofSign negative k) =
      if s.all Char.isDigit then b.keep? (ofSign negative (Nat.ofDigitChars 10 s k)) else none := by
  induction s generalizing k with
  | nil => exact (keep?_of_holds hk).symm
  | cons c s ih =>
    rw [List.foldlM_cons]
    cases hc : c.isDigit with
    | false => simp [extend?, hc]
    | true =>
      rw [extend?_ofSign hlow hhigh negative k hc]
      by_cases hm : b.Holds (ofSign negative (10 * k + digitValue c))
      · rw [keep?_of_holds hm, List.all_cons, hc, Bool.true_and]
        exact ih hm
      · have hlast : ¬ b.Holds (ofSign negative (Nat.ofDigitChars 10 (c :: s) k)) :=
          fun h => hm (h.of_le hlow hhigh (le_ofDigitChars s _))
        rw [keep?_of_not_holds hm, keep?_of_not_holds hlast]
        simp

/-- Reading between bounds around zero gives just the integers between them. -/
theorem parse?_eq_some_iff {s : List Char} {x : Int} :
    b.parse? s = some x ↔ integer? s = some x ∧ b.Holds x ∧ ((splitSign s).1 = true → b.low < 0) := by
  simp only [parse?, integer?]
  generalize splitSign s = parts
  obtain ⟨negative, digits⟩ := parts
  by_cases hd : digits = []
  · simp [hd, natural?]
  by_cases hm : negative = true ∧ 0 ≤ b.low
  · refine iff_of_false (by simp [hm]) ?_
    rintro ⟨-, -, h⟩
    have := h hm.1
    omega
  · have hstart : b.Holds (ofSign negative 0) := by
      rw [ofSign_zero]
      exact ⟨hlow, hhigh⟩
    have hloop := foldlM_extend? hlow hhigh negative digits hstart
    rw [ofSign_zero] at hloop
    rw [if_neg (not_or.2 ⟨hd, hm⟩), hloop]
    have hsign : negative = true → b.low < 0 := by
      intro hn
      exact Int.not_le.1 fun hge => hm ⟨hn, hge⟩
    cases hall : digits.all Char.isDigit with
    | false => simp [natural?, hall]
    | true =>
      have hnatural : natural? digits = some (digitsValue digits) := if_pos ⟨hd, hall⟩
      have hvalue : ofSign negative (Nat.ofDigitChars 10 digits 0) = ofSign negative (digitsValue digits) := rfl
      rw [if_pos rfl, keep?_eq_some_iff, hvalue, hnatural]
      simp only [Option.bind_eq_bind, Option.bind_some, Option.pure_def, Option.map_some, Option.some_inj]
      constructor
      · rintro ⟨hx, rfl⟩
        exact ⟨rfl, hx, hsign⟩
      · rintro ⟨rfl, hx, -⟩
        exact ⟨hx, rfl⟩

end Span
end Decimal

open Decimal

/-- A literal is read as a signed word. -/
theorem integerLiteral_eq_ok_iff {text : String} {x : Int64} :
    integerLiteral text = .ok (.int x) ↔ Span.words.parse? text.toList = some x.toInt := by
  have hlow : Span.words.low < 0 := by decide
  rw [Span.parse?_eq_some_iff (by decide) (by decide), integerLiteral]
  constructor
  · intro h
    split at h
    · next n hn =>
      split at h
      · next hin =>
        cases h
        have hword : IsWord n := inRange_iff.1 hin
        rw [Arith.toInt_ofInt hword]
        exact ⟨hn, hword, fun _ => hlow⟩
      · cases h
    · cases h
  · rintro ⟨hn, hword, -⟩
    simp only [hn]
    rw [if_pos (inRange_iff.2 hword), Int64.ofInt_toInt]

theorem index?_eq_some_iff {s : List Char} {k : Nat} :
    index? s = some k ↔ integer? s = some (k : Int) ∧ (splitSign s).1 = false := by
  simp only [index?, integer?]
  generalize splitSign s = parts
  obtain ⟨negative, digits⟩ := parts
  cases negative with
  | true => simp
  | false =>
    dsimp only
    cases natural? digits with
    | none => simp
    | some n => simp

/-- The number of a register is read as an unsigned word. -/
theorem registerIndex_eq_ok_iff {size : Nat} (hsize : size ≤ 18446744073709551616) {text : String}
    {r : Fin size} : registerIndex size text = .ok r ↔ Span.counts.parse? text.toList = some (r.val : Int) := by
  have hcounts : Span.counts.Holds r.val := by
    have hr := r.isLt
    exact ⟨Int.natCast_nonneg _, by dsimp only [Span.counts]; omega⟩
  have hread : registerIndex size text = .ok r ↔ index? text.toList = some r.val := by
    refine ⟨index?_of_registerIndex, ?_⟩
    intro h
    simp only [registerIndex, h, r.isLt, dif_pos]
  rw [hread, index?_eq_some_iff, Span.parse?_eq_some_iff (by decide) (by decide)]
  -- there is no number below zero to which a minus could be the sign
  have hsign : ((splitSign text.toList).1 = true → Span.counts.low < 0) ↔ (splitSign text.toList).1 = false := by
    have hlow : ¬ Span.counts.low < 0 := by decide
    simp [hlow]
  rw [hsign, and_iff_right hcounts]

end Quadcopter

/-!
# Quadcopter.Decimal.Rounding

Quotients of natural numbers rounded to the nearest natural number, a half going to the even
neighbour.

Main statement: the result is within half a unit of the quotient (`roundHalfEven_near`).
-/

namespace Quadcopter
namespace Decimal

/-- `num / den` rounded to the nearest natural number, a half to the even one. -/
def roundHalfEven (num den : Nat) : Nat :=
  let q := num / den
  let twice := 2 * (num % den)
  if den < twice || (twice == den && q % 2 == 1) then q + 1 else q

theorem roundHalfEven_near (num den : Nat) (h : 0 < den) :
    2 * num ≤ (2 * roundHalfEven num den + 1) * den ∧
      2 * roundHalfEven num den * den ≤ 2 * num + den := by
  have hdiv : num / den * den + num % den = num := by
    rw [Nat.mul_comm]; exact Nat.div_add_mod num den
  have hlt : num % den < den := Nat.mod_lt _ h
  unfold roundHalfEven
  generalize num / den = q at *
  generalize num % den = r at *
  subst hdiv
  simp only [Bool.or_eq_true, decide_eq_true_eq, Bool.and_eq_true, beq_iff_eq]
  split <;> (constructor <;> grind)

end Decimal
end Quadcopter

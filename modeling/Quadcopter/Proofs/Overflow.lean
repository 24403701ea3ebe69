import Quadcopter.Proofs.FloorDivision

/-!
# Quadcopter.Proofs.Overflow

When an operation on two words overflows.

* `Arith.exactResult?`: the result of an operation in the integers.
* `Arith.Overflows`: where it cannot be given. That is where it is no word; but a remainder is found along
  with its quotient, so `RDIV` also overflows for the one pair of words whose quotient is no word.
* `Arith.settled_of_exact`: everywhere else an operation gives its exact result.
-/

namespace Quadcopter
namespace Arith

/-- The exact result of an operation on integers. There is none of `DIV`, which gives doubles, and of a
division by zero. -/
def exactResult? : Arith → Int → Int → Option Int
  | .add, l, r => some (l + r)
  | .sub, l, r => some (l - r)
  | .mult, l, r => some (l * r)
  | .idiv, l, r => if r = 0 then none else some (l.fdiv r)
  | .rdiv, l, r => if r = 0 then none else some (l.fmod r)
  | .div, _, _ => none

/-- Where an operation with the exact result `n` overflows. -/
def Overflows (op : Arith) (l r : Int64) (n : Int) : Prop :=
  ¬ IsWord n ∨ (op = .rdiv ∧ l = Int64.minValue ∧ r = -1)

instance (n : Int) : Decidable (IsWord n) := inferInstanceAs (Decidable (_ ∧ _))

theorem not_overflows_iff {op : Arith} {l r : Int64} {n : Int} :
    ¬ op.Overflows l r n ↔ IsWord n ∧ ¬ (op = .rdiv ∧ l = Int64.minValue ∧ r = -1) := by
  rw [Overflows, not_or, not_not]

/-! ## Divisions -/

theorem Floored.fdiv_fmod {l r q m : Int} (h : Floored l r q m) (hr : r ≠ 0) :
    l.fdiv r = q ∧ l.fmod r = m := by
  have hsum : m + r * q = l := by rw [h.split, Int.mul_comm, Int.add_comm]
  rcases Int.lt_or_gt_of_ne hr with hneg | hpos
  · exact (Int.fdiv_fmod_unique' hneg).2 ⟨hsum, h.ofNeg hneg⟩
  · exact (Int.fdiv_fmod_unique hpos).2 ⟨hsum, h.ofPos hpos⟩

theorem quotientOverflows_iff {l r : Int64} :
    quotientOverflows l r = true ↔ l = Int64.minValue ∧ r = -1 := by
  simp [quotientOverflows]

theorem toInt_floored {l r : Int64} (hr : r ≠ 0) (h : quotientOverflows l r = false) :
    (floorQuotient l r).toInt = l.toInt.fdiv r.toInt ∧
      (floorRemainder l r).toInt = l.toInt.fmod r.toInt := by
  have hr' : r.toInt ≠ 0 := fun h0 => hr (Int64.toInt_inj.1 h0)
  obtain ⟨hq, hm⟩ := (floored_words hr h).fdiv_fmod hr'
  exact ⟨hq.symm, hm.symm⟩

/-! ## Operations -/

/-- An operation has overflowed where it overflows, and has given its exact result where it does not. -/
def Settled (op : Arith) (l r : Int64) (n : Int) : Prop :=
  (¬ op.Overflows l r n ∧ ∃ z : Int64, op.apply (.int l) (.int r) = .ok (.int z) ∧ z.toInt = n) ∨
  (op.Overflows l r n ∧ op.apply (.int l) (.int r) = .error .integerOverflow)

theorem settled_of_checked {op : Arith} {l r : Int64} {n : Int} (hop : op ≠ .rdiv)
    (h : op.apply (.int l) (.int r) = checked n) : op.Settled l r n := by
  rw [Settled, h, checked]
  by_cases hn : IsWord n
  · rw [if_pos (inRange_iff.2 hn)]
    refine .inl ⟨?_, Int64.ofInt n, rfl, toInt_ofInt hn⟩
    rintro (hn' | ⟨hrdiv, -⟩)
    · exact hn' hn
    · exact hop hrdiv
  · rw [if_neg (fun hin => hn (inRange_iff.1 hin))]
    exact .inr ⟨.inl hn, rfl⟩

theorem settled_of_word {op : Arith} {l r z : Int64} (h : op.apply (.int l) (.int r) = .ok (.int z))
    (ho : quotientOverflows l r = false) : op.Settled l r z.toInt := by
  refine .inl ⟨?_, z, h, rfl⟩
  rintro (hz | ⟨-, hpair⟩)
  · exact hz (isWord_toInt z)
  · simp [quotientOverflows_iff.2 hpair] at ho

theorem settled_idiv {l r : Int64} (hr : r ≠ 0) : idiv.Settled l r (l.toInt.fdiv r.toInt) := by
  cases ho : quotientOverflows l r with
  | true =>
    obtain ⟨rfl, rfl⟩ := quotientOverflows_iff.1 ho
    exact .inr ⟨.inl (by decide), rfl⟩
  | false =>
    rw [← (toInt_floored hr ho).1]
    exact settled_of_word (apply_idiv hr ho) ho

theorem settled_rdiv {l r : Int64} (hr : r ≠ 0) : rdiv.Settled l r (l.toInt.fmod r.toInt) := by
  cases ho : quotientOverflows l r with
  | true =>
    -- the remainder itself would be a word
    obtain ⟨rfl, rfl⟩ := quotientOverflows_iff.1 ho
    exact .inr ⟨.inr ⟨rfl, rfl, rfl⟩, rfl⟩
  | false =>
    rw [← (toInt_floored hr ho).2]
    exact settled_of_word (apply_rdiv hr ho) ho

theorem settled_of_exact {op : Arith} {l r : Int64} {n : Int}
    (h : op.exactResult? l.toInt r.toInt = some n) : op.Settled l r n := by
  have hdivisor : ∀ {m : Int}, (if r.toInt = 0 then none else some m) = some n → r ≠ 0 ∧ m = n := by
    intro m hm
    split at hm
    · cases hm
    · next hr =>
      refine ⟨?_, Option.some.inj hm⟩
      rintro rfl
      exact hr rfl
  cases op with
  | add => cases h; exact settled_of_checked nofun rfl
  | sub => cases h; exact settled_of_checked nofun rfl
  | mult => cases h; exact settled_of_checked nofun rfl
  | div => cases h
  | idiv =>
    obtain ⟨hr, rfl⟩ := hdivisor h
    exact settled_idiv hr
  | rdiv =>
    obtain ⟨hr, rfl⟩ := hdivisor h
    exact settled_rdiv hr

/-- An operation on two words tells an overflow exactly if its result is no word, except that `RDIV` of the
least word by minus one does too. In all other cases it gives its exact result. -/
theorem overflow_exact {op : Arith} {l r : Int64} {n : Int} (h : op.exactResult? l.toInt r.toInt = some n) :
    ((∃ cause, op.apply (.int l) (.int r) = .error cause ∧ cause.text = "INTEGER OVERFLOW") ↔
      ¬ IsWord n ∨ (op = .rdiv ∧ l = Int64.minValue ∧ r = -1)) ∧
    ((∃ z : Int64, op.apply (.int l) (.int r) = .ok (.int z) ∧ z.toInt = n) ↔
      IsWord n ∧ ¬ (op = .rdiv ∧ l = Int64.minValue ∧ r = -1)) := by
  rw [← not_overflows_iff]
  rcases settled_of_exact h with ⟨hno, z, hz, hexact⟩ | ⟨ho, herror⟩
  · refine ⟨⟨?_, fun ho => absurd ho hno⟩, fun _ => hno, fun _ => ⟨z, hz, hexact⟩⟩
    rintro ⟨cause, hcause, -⟩
    rw [hz] at hcause
    cases hcause
  · refine ⟨⟨fun _ => ho, fun _ => ⟨_, herror, rfl⟩⟩, ?_, fun hno => absurd ho hno⟩
    rintro ⟨z, hz, -⟩
    rw [herror] at hz
    cases hz

/-- The least word by minus one: its quotient is one more than the greatest word. -/
theorem overflow_exact_least :
    let n : Int := 9223372036854775808
    idiv.exactResult? Int64.minValue.toInt (-1 : Int64).toInt = some n ∧ ¬ IsWord n ∧
      ∃ cause, idiv.apply (.int Int64.minValue) (.int (-1)) = .error cause ∧
        cause.text = "INTEGER OVERFLOW" := by
  intro n
  have hexact : idiv.exactResult? Int64.minValue.toInt (-1 : Int64).toInt = some n := by decide
  have hn : ¬ IsWord n := by decide
  exact ⟨hexact, hn, (overflow_exact hexact).1.2 (.inl hn)⟩

/-- The remainder of the same words is zero, which is a word, and yet `RDIV` tells an overflow. -/
theorem remainder_overflows :
    ∃ n cause, rdiv.exactResult? Int64.minValue.toInt (-1 : Int64).toInt = some n ∧ IsWord n ∧
      rdiv.apply (.int Int64.minValue) (.int (-1)) = .error cause ∧ cause.text = "INTEGER OVERFLOW" :=
  ⟨0, .integerOverflow, by decide, by decide, rfl, rfl⟩

end Arith
end Quadcopter

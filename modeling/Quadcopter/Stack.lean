import Quadcopter.Fault

/-!
# Quadcopter.Stack

Last in, first out, with room for 65535 items. The bound is part of the type, and so is the number of
items, which is kept beside them.

Main statements: a push fails exactly on a full stack and a pop exactly on an empty one
(`push_eq_error_iff`, `pop_eq_error_iff`), and popping undoes pushing (`pop_of_push`).
-/

namespace Quadcopter

def stackCapacity : Nat := 65535

/-- A bounded stack, its top item first. -/
structure Stack (α : Type) where
  items : List α
  size : Nat
  size_eq : size = items.length
  bounded : size ≤ stackCapacity

namespace Stack

variable {α : Type}

def empty : Stack α := ⟨[], 0, rfl, Nat.zero_le _⟩

instance : Inhabited (Stack α) := ⟨empty⟩

def isEmpty (s : Stack α) : Bool := s.items.isEmpty

def top? (s : Stack α) : Option α := s.items.head?

/-- The items from the bottom to the top, for inspection. -/
def inspect (text : α → String) (s : Stack α) : String :=
  "[" ++ ", ".intercalate (s.items.reverse.map text) ++ "]"

def push (name : StackName) (s : Stack α) (a : α) : Except Cause (Stack α) :=
  if h : s.size < stackCapacity then
    .ok ⟨a :: s.items, s.size + 1, by rw [List.length_cons, s.size_eq], h⟩
  else .error (.stackOverflow name)

def pop (name : StackName) : Stack α → Except Cause (α × Stack α)
  | ⟨[], _, _, _⟩ => .error (.stackUnderflow name)
  | ⟨a :: items, size, size_eq, bounded⟩ =>
    .ok (a, ⟨items, size - 1, by simp [size_eq], by omega⟩)

theorem push_eq_error_iff {name : StackName} {s : Stack α} {a : α} {e : Cause} :
    s.push name a = .error e ↔ s.size = stackCapacity ∧ e = .stackOverflow name := by
  have := s.bounded
  unfold push
  split
  · next h => simp; omega
  · next h => simp [eq_comm]; omega

theorem pop_eq_error_iff {name : StackName} {s : Stack α} {e : Cause} :
    s.pop name = .error e ↔ s.size = 0 ∧ e = .stackUnderflow name := by
  cases s with
  | mk items size size_eq bounded =>
    cases items with
    | nil => simp [pop, size_eq, eq_comm]
    | cons a items => simp [pop, size_eq]

theorem items_push {name : StackName} {s t : Stack α} {a : α} (h : s.push name a = .ok t) :
    t.items = a :: s.items := by
  unfold push at h
  split at h
  · cases h; rfl
  · cases h

theorem pop_of_push {name : StackName} {s t : Stack α} {a : α} (h : s.push name a = .ok t) :
    t.pop name = .ok (a, s) := by
  unfold push at h
  split at h
  · cases h; simp [pop]
  · cases h

end Stack
end Quadcopter

/-!
# Quadcopter.Picture.Inflate.Space

The space into which a stream is unpacked. It starts small and is widened by at least 32 KiB at a time,
but not beyond the bytes that are expected in all, as long as there are no more of them. What was put
out long ago makes place again: copies reach back 32 KiB at most.

Main statement: a space that was widened has room (`free_widen_pos`).
-/

namespace Quadcopter
namespace Inflate

/-- A space for unpacked bytes. -/
structure Space where
  size : Nat := 0
  used : Nat := 0
  /-- The bytes that are expected in all, if that is known. -/
  expected : Option Nat := none

/-- How far a copy reaches back, and the least by which a space is widened. -/
def reach : Nat := 32768

namespace Space

def free (s : Space) : Nat := s.size - s.used

/-- A number, or the expected one if that is less. -/
def bounded (expected : Option Nat) (n : Nat) : Nat :=
  match expected with
  | none => n
  | some e => min n e

/-- What is still expected: no number that was reached. -/
def expectation (s : Space) : Option Nat := s.expected.filter (s.used < ·)

def widen (s : Space) : Space :=
  let expected := s.expectation
  if bounded expected (s.used + reach) ≤ s.size then { s with expected }
  else { s with expected, size := bounded expected (s.size + max reach s.size) }

/-- The most bytes that a space holds before the old ones are dropped. -/
def manyBytes : Nat := 4 * reach

def fill (s : Space) (n : Nat) : Space :=
  let used := s.used + n
  { s with used := if manyBytes < used then reach else used }

theorem lt_bounded_expectation {s : Space} {n : Nat} (h : s.used < n) :
    s.used < bounded s.expectation n := by
  unfold bounded expectation
  cases s.expected with
  | none => simpa
  | some e =>
    by_cases he : s.used < e
    · simp only [Option.filter_some, he, decide_true, if_true]
      omega
    · simpa [Option.filter_some, he]

theorem free_widen_pos {s : Space} (h : s.used ≤ s.size) : 0 < s.widen.free := by
  have hreach : 0 < reach := by decide
  simp only [widen, free]
  split
  · have := lt_bounded_expectation (s := s) (n := s.used + reach) (by omega)
    simp only
    omega
  · have := lt_bounded_expectation (s := s) (n := s.size + max reach s.size) (by omega)
    simp only
    omega

end Space
end Inflate
end Quadcopter

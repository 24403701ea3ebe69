import Quadcopter.Line
import Quadcopter.Program

/-!
# Quadcopter.Compile

From source lines to a program. The first line that cannot be read ends the work, and its fault
carries its number. Labels are not looked up here: a jump to a label that no line defines is a fault
only when it runs.
-/

namespace Quadcopter

/-- Append source lines to a program whose last line was number `done`. -/
def compileFrom (p : Program) (done : Nat) : List String → Except Fault Program
  | [] => .ok p
  | s :: rest =>
    match Line.read (done + 1) s with
    | .error f => .error f
    | .ok ts => compileFrom (p.add ts) (done + 1) rest

def compile (lines : List String) : Except Fault Program := compileFrom .empty 0 lines

theorem size_compileFrom {p q : Program} {done : Nat} {lines : List String}
    (h : compileFrom p done lines = .ok q) : q.size = p.size + lines.length := by
  induction lines generalizing p done with
  | nil => cases h; rfl
  | cons s rest ih =>
    rw [compileFrom] at h
    split at h
    · cases h
    · rw [ih h, Program.size_add, List.length_cons]; omega

/-- A compiled program has as many lines as its source. -/
theorem size_compile {lines : List String} {p : Program} (h : compile lines = .ok p) :
    p.size = lines.length := by
  rw [size_compileFrom h]; exact Nat.zero_add _

end Quadcopter

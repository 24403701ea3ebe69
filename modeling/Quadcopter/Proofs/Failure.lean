import Quadcopter.Flight.Rehearsal
import Quadcopter.Proofs.Run

/-!
# Quadcopter.Proofs.Failure

Steps that fail.

* `step_error_atomic`: a step that fails ends the run, marks the machine as failed and shuts the
  vehicle down; everything else is as it was. The program need not have been checked.
* `compiled_run_fault`: a compiled program never fails for the shape of a line or for having left
  itself, and each of its faults carries the number of the source line that failed.
-/

namespace Quadcopter

variable {V E : Type} [Vehicle V] [Vision E]

namespace Machine

/-- A step that fails changes nothing but that the run is over and has failed. The vehicle has
received calls of flight, if any, and then one shutdown. -/
theorem step_error_atomic {files : Files} {m m' : Machine V E} {f : Fault}
    (h : m.step files = (.error f, m')) :
    ∃ v, ∃ cs : List Call, m.contact = .live v ∧ (∀ c ∈ cs, c.isFlight = true) ∧
      m' = { m with failed := true, contact := .ended (Vehicle.after (cs ++ [.shutdown]) v) } := by
  have hs := step_spec files m
  rw [h] at hs
  cases hs with
  | unreadable hl hi hp hf => exact ⟨_, [], hl, nofun, rfl⟩
  | @failed v i cause runs ho =>
    obtain ⟨cs, hcs, hv⟩ := result_calls files m v i
    refine ⟨v, cs, runs.live, hcs, ?_⟩
    rw [Vehicle.after_append, ← hv]; rfl
  | ran runs ho hne hf => exact absurd rfl (hf f)

/-- A rehearsal that refuses its first order, which is to take off. -/
theorem refused_takeoff_atomic :
    let v : Recorded Rehearsal := .new { script := { failAt := some 1 } }
    let m := (start (.new 0 Blind.mk) ⟨#[⟨none, [.ofMnemonic .takeoff]⟩]⟩ v).2
    let m' := (m.step .empty).2
    m.step .empty = (.error ⟨.manoeuvreRefused, some 1⟩, m') ∧
      ∃ v, ∃ cs : List Call, m.contact = .live v ∧ (∀ c ∈ cs, c.isFlight = true) ∧
        m' = { m with failed := true, contact := .ended (Vehicle.after (cs ++ [.shutdown]) v) } := by
  intro v m m'
  have h : m.step .empty = (.error ⟨.manoeuvreRefused, some 1⟩, m') := rfl
  exact ⟨h, step_error_atomic h⟩

/-! ## Compiled programs -/

omit [Vision E] in
theorem program_start (m : Machine V E) (p : Program) (v : V) : (m.start p v).2.program = p := by
  unfold start
  dsimp only
  split <;> rfl

omit [Vehicle V] [Vision E] in
/-- Inside its program a machine fetches the line it is at. -/
theorem fetch_of_lt {m : Machine V E} (h : m.core.pc < m.program.size) :
    ∃ ts, m.program.line? m.core.pc = some ts ∧ m.fetch = Instruction.decode ts := by
  obtain ⟨ts, hts⟩ := Program.line?_isSome h
  exact ⟨ts, hts, by simp [fetch, hts]⟩

end Machine

/-- The wordings of faults that only a line of the wrong shape can cause, or a run that has left its
program. -/
def shapeTexts : List String :=
  ["UNKNOWN COMMAND", "INVALID NUMBER OF ARGUMENTS", "UNKNOWN VALUE TYPE",
   "PROGRAM COUNTER OUT OF RANGE"]

theorem text_of_isOperand {cause : Cause} (h : cause.isOperand = true) : cause.text ∉ shapeTexts := by
  unfold Cause.isOperand at h
  split at h
  · decide
  · decide
  · cases h

theorem append_notMem_shapeTexts {s : String} (rest : String)
    (h : ∀ t ∈ shapeTexts, ¬ s.toList <+: t.toList) : s ++ rest ∉ shapeTexts := by
  intro hm
  refine h _ hm ⟨rest.toList, ?_⟩
  rw [String.toList_append]

theorem text_of_isRuntime {cause : Cause} (h : cause.isRuntime = true) : cause.text ∉ shapeTexts := by
  unfold Cause.isRuntime at h
  split at h
  · next name => exact append_notMem_shapeTexts name (by decide)
  · decide
  · decide
  · next stack => cases stack <;> decide
  · next stack => cases stack <;> decide
  · decide
  · decide
  · next path why =>
    have hu := append_notMem_shapeTexts (s := "UNABLE TO LOAD PICTURE ") (path ++ ": " ++ why.message)
      (by decide)
    rwa [← String.append_assoc, ← String.append_assoc] at hu
  · decide
  · decide
  · cases h

/-- In a run of a compiled program every fault carries the number of the source line at which the
machine was, and none of them has one of the wordings in `shapeTexts`. -/
theorem compiled_run_fault {lines : List String} {p : Program} (hc : compile lines = .ok p)
    (m : Machine V E) (v : V) (as : List (Act E)) (files : Files) {f : Fault}
    (h : (((m.start p v).2.acts as).step files).1 = .error f) :
    f.text ∉ shapeTexts ∧
      ∃ n s ts, f.line = some n ∧ 1 ≤ n ∧ n ≤ lines.length ∧
        ((m.start p v).2.acts as).core.pc = n - 1 ∧
        lines[n - 1]? = some s ∧ Line.parse s = .ok ts ∧
        p.line? (n - 1) = some (Program.instructionOf (unlabelled ts)) := by
  generalize hm : (m.start p v).2.acts as = m' at h ⊢
  have hprog : m'.program = p := by rw [← hm, Machine.program_acts, Machine.program_start]
  have hsize : p.size = lines.length := size_compile hc
  -- the line at which a step fails, and the tokens there
  have place : m'.core.pc < m'.program.size → ∃ n s ts, some (m'.core.pc + 1) = some n ∧ 1 ≤ n ∧
      n ≤ lines.length ∧ m'.core.pc = n - 1 ∧ lines[n - 1]? = some s ∧ Line.parse s = .ok ts ∧
      p.line? (n - 1) = some (Program.instructionOf (unlabelled ts)) := by
    intro hp
    rw [hprog, hsize] at hp
    have hs : lines[m'.core.pc]? = some lines[m'.core.pc] := List.getElem?_eq_getElem hp
    obtain ⟨ts, hparse, hline⟩ := line?_compile hc hs
    exact ⟨m'.core.pc + 1, _, ts, rfl, by omega, by omega, by simp, hs, hparse, hline⟩
  have hs := Machine.step_spec files m'
  rw [h] at hs
  generalize (m'.step files).2 = m'' at hs
  cases hs with
  | @unreadable _ cause hl hi hp hf =>
    refine ⟨text_of_isOperand ?_, place hp⟩
    obtain ⟨n, s, ts, hn, -, -, hpc, hs, hparse, hline⟩ := place hp
    obtain ⟨ts', hts', hfetch⟩ := Machine.fetch_of_lt hp
    rw [hprog, hpc, hline] at hts'
    cases hts'
    rw [hfetch] at hf
    exact decode_error_of_check (check_of_parse hparse) hf
  | failed runs ho => exact ⟨text_of_isRuntime (Core.execute_error ho).runtime, place runs.inside⟩
  | ran runs ho hne hf => exact absurd rfl (hf f)

/-- A stack underflow in the second line, the first being a comment. -/
theorem underflow_run_fault :
    let lines := ["# start", "pop_num $r0"]
    let p : Program :=
      ⟨#[⟨none, [.ofMnemonic .nop]⟩, ⟨none, [.ofMnemonic .popNum, ⟨.numberRegister, "0"⟩]⟩]⟩
    let m := ((Machine.new 0 Blind.mk).start p Reckoning.start).2.acts [.step .empty]
    let f : Fault := ⟨.stackUnderflow .number, some 2⟩
    compile lines = .ok p ∧ (m.step .empty).1 = .error f ∧ f.text ∉ shapeTexts ∧
      ∃ n s ts, f.line = some n ∧ 1 ≤ n ∧ n ≤ lines.length ∧ m.core.pc = n - 1 ∧
        lines[n - 1]? = some s ∧ Line.parse s = .ok ts ∧
        p.line? (n - 1) = some (Program.instructionOf (unlabelled ts)) := by
  intro lines p m f
  have hc : compile lines = .ok p := eq_ok_of_toOption (by decide +kernel)
  have hf : (m.step .empty).1 = .error f := rfl
  exact ⟨hc, hf, compiled_run_fault hc (.new 0 Blind.mk) Reckoning.start [.step .empty] .empty hf⟩

end Quadcopter

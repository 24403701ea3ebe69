import Quadcopter.Proofs.Answers
import Quadcopter.Proofs.Lifecycle

/-!
# Quadcopter.Proofs.Restart

A machine that is used again. A reset puts back piece by piece what runs have written, and together these
pieces are all there is: what is left of the earlier runs is the vision backend, and the timeout that the
host has set.

* `reset_eq_new`, `start_eq_new`: a reset machine is a new one, and a machine that starts is a new one that
  starts.
* `start_of_history`: after any history, a start and all that follows it go as with a new machine.
-/

namespace Quadcopter

variable {V E : Type}

theorem Core.reset_eq_initial (c : Core) : c.reset = .initial := rfl

namespace Machine

theorem reset_eq_new (m : Machine V E) (vision : E) :
    m.reset = { new m.frameTimeout vision with vision := m.vision } := by
  rw [reset, Core.reset_eq_initial]
  rfl

variable [Vehicle V]

theorem start_eq_new (m : Machine V E) (vision : E) (p : Program) (v : V) :
    (m.start p v).1 = ((new m.frameTimeout vision).start p v).1 ∧
      (m.start p v).2 = { ((new m.frameTimeout vision).start p v).2 with vision := m.vision } := by
  unfold start
  rw [reset_eq_new m vision, reset_eq_new (new m.frameTimeout vision) vision]
  split
  · exact ⟨rfl, rfl⟩
  · exact ⟨rfl, rfl⟩

theorem vision_start (m : Machine V E) (p : Program) (v : V) : (m.start p v).2.vision = m.vision := by
  unfold start
  dsimp only
  split <;> rfl

/-- With the same vision backend nothing at all is left of what was before the start. -/
theorem start_eq_new_of_vision (m : Machine V E) (p : Program) (v : V) :
    (m.start p v).2 = ((new m.frameTimeout m.vision).start p v).2 := by
  have hv : ((new m.frameTimeout m.vision).start p v).2.vision = m.vision := vision_start ..
  rw [(m.start_eq_new m.vision p v).2]
  generalize ((new m.frameTimeout m.vision).start p v).2 = n at hv ⊢
  cases n
  cases hv
  rfl

theorem start_eq_start_new (m : Machine V E) (p : Program) (v : V) :
    m.start p v = (new m.frameTimeout m.vision).start p v :=
  Prod.ext (m.start_eq_new m.vision p v).1 (m.start_eq_new_of_vision p v)

end Machine

variable [Vehicle V] [Vision E]

/-- Whatever a host has done with a machine, a start gives the same result as with a new machine of the
same timeout, and leaves the machine in the same state, the vision backend apart. If a new machine has the
same vision backend too, and a vehicle that gives the same answers, then whatever the host does next, its
steps tell the same and leave the same state. A reset gives a new machine, vision and timeout apart. -/
theorem start_of_history (frameTimeout : Nat) (vision : E) (ds : List (Deed V E)) (p : Program) (v : V)
    (e : E) :
    let b := (Logbook.new (Machine.new frameTimeout vision)).history ds
    let fresh (W : Type) (e : E) : Machine W E := .new b.machine.frameTimeout e
    let used := (b.start p v).2.machine
    (b.start p v).1 = ((fresh V e).start p v).1 ∧
    used = { ((fresh V e).start p v).2 with vision := b.machine.vision } ∧
    (∀ (W : Type) [Vehicle W] (R : V → W → Prop) (w : W), SameAnswers R → R v w →
      ∀ as : List (Act E),
        let other := ((fresh W b.machine.vision).start p w).2
        used.events as = other.events as ∧ (used.acts as).Alike R (other.acts as)) ∧
    b.reset.machine = { fresh V e with vision := b.machine.vision } := by
  intro b fresh used
  obtain ⟨hresult, hstate⟩ := b.machine.start_eq_new e p v
  refine ⟨hresult, hstate, ?_, b.machine.reset_eq_new e⟩
  intro W _ R w hR hvw as other
  have hused : used = ((fresh V b.machine.vision).start p v).2 := b.machine.start_eq_new_of_vision p v
  obtain ⟨-, halike⟩ := Machine.start_alike hR hvw b.machine.frameTimeout b.machine.vision p
  rw [hused]
  exact Machine.run_alike hR halike as

/-- A machine that was interrupted in a flight, and then starts again with the same program, tells what a
new machine tells whose vehicle keeps its calls. -/
theorem restart_recorded :
    let p : Program := ⟨#[⟨none, [.ofMnemonic .takeoff]⟩, ⟨none, [.ofMnemonic .land]⟩]⟩
    let ds : List (Deed Reckoning Blind) := [.start p .start, .act (.step .empty), .act .interrupt]
    let b := (Logbook.new (.new 0 Blind.mk)).history ds
    let other : Machine (Recorded Reckoning) Blind := ((Machine.new 0 Blind.mk).start p (.new .start)).2
    b.machine.interrupted = true ∧
      ∀ as, (b.start p .start).2.machine.events as = other.events as := by
  intro p ds b other
  refine ⟨rfl, fun as => ?_⟩
  have h := start_of_history 0 Blind.mk ds p .start Blind.mk
  exact (h.2.2.1 (Recorded Reckoning) _ (.new .start) Recorded.sameAnswers rfl as).1

end Quadcopter

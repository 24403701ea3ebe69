import Quadcopter.Proofs.Run

/-!
# Quadcopter.Proofs.Answers

A machine knows its vehicle by the answers that it gets and by nothing else. `SameAnswers` relates
vehicles, be they of different types, that answer every call in the same way from then on.

* `Core.execute_alike`, `Machine.step_alike`: with such vehicles an instruction and a step do the same.
* `Machine.run_alike`: so runs tell the same and leave the same machine, but for the vehicle.
* `Recorded.sameAnswers`: a vehicle that keeps its calls answers as it does without keeping them.
-/

namespace Quadcopter

variable {V W E : Type}

/-- The same answer from two vehicles, which are related after it. -/
def Answered {α : Type} (R : V → W → Prop) (x : α × V) (y : α × W) : Prop := x.1 = y.1 ∧ R x.2 y.2

theorem Answered.eq {α : Type} {R : V → W → Prop} {x : α × V} {y : α × W} (h : Answered R x y) :
    ∃ a v w, x = (a, v) ∧ y = (a, w) ∧ R v w :=
  ⟨x.1, x.2, y.2, rfl, by rw [h.1], h.2⟩

/-- Vehicles related by `R` give the same answer to every call. -/
structure SameAnswers [Vehicle V] [Vehicle W] (R : V → W → Prop) : Prop where
  connect : ∀ v w, R v w → Answered R (Vehicle.connect v) (Vehicle.connect w)
  perform : ∀ o v w, R v w → Answered R (Vehicle.perform o v) (Vehicle.perform o w)
  frame : ∀ v w, R v w → Answered R (Vehicle.frame v) (Vehicle.frame w)
  shutdown : ∀ v w, R v w → R (Vehicle.shutdown v) (Vehicle.shutdown w)

/-- A vehicle that keeps its calls answers as it does without keeping them. -/
theorem Recorded.sameAnswers [Vehicle V] :
    SameAnswers fun (v : V) (r : Recorded V) => r.vehicle = v where
  connect := by rintro _ r rfl; exact ⟨rfl, rfl⟩
  perform := by rintro o _ r rfl; exact ⟨rfl, rfl⟩
  frame := by rintro _ r rfl; exact ⟨rfl, rfl⟩
  shutdown := by rintro _ r rfl; rfl

/-- Contacts at the same stage with related vehicles. -/
inductive Contact.Alike (R : V → W → Prop) : Contact V → Contact W → Prop where
  | none : Alike R .none .none
  | ended {v : V} {w : W} : R v w → Alike R (.ended v) (.ended w)
  | live {v : V} {w : W} : R v w → Alike R (.live v) (.live w)

/-- The same result with related vehicles. -/
structure Result.Alike (R : V → W → Prop) (r : Result V E) (s : Result W E) : Prop where
  vehicle : R r.vehicle s.vehicle
  vision : r.vision = s.vision
  core : r.core = s.core
  outcome : r.outcome = s.outcome

/-- The machine with another contact. -/
def Machine.withContact (m : Machine V E) (contact : Contact W) : Machine W E :=
  ⟨m.frameTimeout, m.vision, m.program, m.core, m.failed, m.interrupted, contact⟩

/-- Machines that differ in their vehicles only, which are related. -/
structure Machine.Alike (R : V → W → Prop) (m : Machine V E) (n : Machine W E) : Prop where
  contact : m.contact.Alike R n.contact
  rest : n = m.withContact n.contact

variable {R : V → W → Prop} {v : V} {w : W}

theorem Core.proceed_alike {c : Core} {e : E} (h : R v w) (next : Except Cause Core) :
    (c.proceed v e next).Alike R (c.proceed w e next) := by
  cases next with
  | ok d => exact ⟨h, rfl, rfl, rfl⟩
  | error x => exact ⟨h, rfl, rfl, rfl⟩

variable [Vehicle V] [Vehicle W]

theorem awaitFrame_alike (hR : SameAnswers R) (n : Nat) (h : R v w) :
    Answered R (awaitFrame n v) (awaitFrame n w) := by
  induction n generalizing v w with
  | zero => exact ⟨rfl, h⟩
  | succ n ih =>
    obtain ⟨f, v', w', hv, hw, hafter⟩ := (hR.frame v w h).eq
    unfold awaitFrame
    rw [hv, hw]
    cases f with
    | some frame => exact ⟨rfl, hafter⟩
    | none => exact ih hafter

namespace Core

variable {c : Core} {e : E}

theorem order_alike (hR : SameAnswers R) (h : R v w) (o : Order) (done : Core) (event : Event) :
    (c.order v e o done event).Alike R (c.order w e o done event) := by
  obtain ⟨agreed, v', w', hv, hw, hafter⟩ := (hR.perform o v w h).eq
  unfold order
  rw [hv, hw]
  cases agreed with
  | true => exact ⟨hafter, rfl, rfl, rfl⟩
  | false => exact ⟨hafter, rfl, rfl, rfl⟩

/-- With vehicles that give the same answers an instruction does the same. -/
theorem execute_alike [Vision E] (hR : SameAnswers R) (h : R v w) (files : Files) (looks : Nat)
    (p : Program) (i : Instruction) :
    (c.execute files looks p v e i).Alike R (c.execute files looks p w e i) := by
  cases i with
  | takeoff => exact order_alike hR h ..
  | land => exact order_alike hR h ..
  | move motion operand => exact order_alike hR h ..
  | takePic dest =>
    obtain ⟨f, v', w', hv, hw, hafter⟩ := (awaitFrame_alike hR looks h).eq
    simp only [execute, hv, hw]
    cases f with
    | some frame => exact ⟨hafter, rfl, rfl, rfl⟩
    | none => exact ⟨hafter, rfl, rfl, rfl⟩
  -- the others do not call the vehicle
  | display what =>
    simp only [execute]
    cases c.shown what with
    | ok event => exact ⟨h, rfl, rfl, rfl⟩
    | error x => exact ⟨h, rfl, rfl, rfl⟩
  | detectFace picture face dest =>
    simp only [execute, detect]
    split
    · exact ⟨h, rfl, rfl, rfl⟩
    · split
      · exact ⟨h, rfl, rfl, rfl⟩
      · exact ⟨h, rfl, rfl, rfl⟩
  | matchFace first second dest =>
    simp only [execute, likeness]
    split
    · exact ⟨h, rfl, rfl, rfl⟩
    · exact ⟨h, rfl, rfl, rfl⟩
  | nop => exact ⟨h, rfl, rfl, rfl⟩
  | halt => exact ⟨h, rfl, rfl, rfl⟩
  | jumpReturn => exact ⟨h, rfl, rfl, rfl⟩
  | store source dest => exact ⟨h, rfl, rfl, rfl⟩
  | copy source dest => exact ⟨h, rfl, rfl, rfl⟩
  | copyPic source dest => exact ⟨h, rfl, rfl, rfl⟩
  | _ => exact proceed_alike h _

end Core

namespace Machine

theorem start_alike (hR : SameAnswers R) (h : R v w) (frameTimeout : Nat) (vision : E) (p : Program) :
    ((new frameTimeout vision).start p v).1 = ((new frameTimeout vision).start p w).1 ∧
      ((new frameTimeout vision).start p v).2.Alike R ((new frameTimeout vision).start p w).2 := by
  obtain ⟨agreed, v', w', hcv, hcw, hafter⟩ := (hR.connect v w h).eq
  unfold start
  rw [hcv, hcw]
  cases agreed with
  | true => exact ⟨rfl, .live hafter, rfl⟩
  | false => exact ⟨rfl, .ended (hR.shutdown v' w' hafter), rfl⟩

variable [Vision E] {m : Machine V E} {n : Machine W E}

theorem perform_alike (hR : SameAnswers R) (h : m.Alike R n) (hvw : R v w) (files : Files)
    (i : Instruction) :
    (m.perform files v i).1 = (n.perform files w i).1 ∧
      (m.perform files v i).2.Alike R (n.perform files w i).2 := by
  have hr : (m.core.execute files m.looks m.program v m.vision i).Alike R
      (n.core.execute files n.looks n.program w n.vision i) := by
    rw [h.rest]
    exact Core.execute_alike hR hvw files m.looks m.program i
  unfold perform
  generalize m.core.execute files m.looks m.program v m.vision i = r at hr ⊢
  generalize n.core.execute files n.looks n.program w n.vision i = s at hr ⊢
  obtain ⟨v', e, c, outcome⟩ := r
  obtain ⟨w', _, _, _⟩ := s
  obtain ⟨hafter, rfl, rfl, rfl⟩ := hr
  have hended := Contact.Alike.ended (hR.shutdown v' w' hafter)
  rw [h.rest]
  cases outcome with
  | error cause => exact ⟨rfl, hended, rfl⟩
  | ok event => cases event with
    | stopped => exact ⟨rfl, hended, rfl⟩
    | _ => exact ⟨rfl, .live hafter, rfl⟩

/-- With vehicles that give the same answers a step does the same. -/
theorem step_alike (hR : SameAnswers R) (h : m.Alike R n) (files : Files) :
    (m.step files).1 = (n.step files).1 ∧ (m.step files).2.Alike R (n.step files).2 := by
  have hcontact := h.contact
  generalize hm : m.contact = c at hcontact
  generalize hn : n.contact = d at hcontact
  cases hcontact with
  | none =>
    have idle : m.isRunning = false := by rw [isRunning, hm]; rfl
    have idle' : n.isRunning = false := by rw [isRunning, hn]; rfl
    rw [step_of_not_live files idle, step_of_not_live files idle']
    exact ⟨rfl, h⟩
  | ended hvw =>
    have idle : m.isRunning = false := by rw [isRunning, hm]; rfl
    have idle' : n.isRunning = false := by rw [isRunning, hn]; rfl
    rw [step_of_not_live files idle, step_of_not_live files idle']
    exact ⟨rfl, h⟩
  | @live v w hvw =>
    have hended := Contact.Alike.ended (hR.shutdown v w hvw)
    have hi : n.interrupted = m.interrupted := by rw [h.rest]; rfl
    have hs : n.program.size ≤ n.core.pc ↔ m.program.size ≤ m.core.pc := by rw [h.rest]; rfl
    have hf : n.fetch = m.fetch := by rw [h.rest]; rfl
    unfold step
    simp only [hm, hn, hi, hs, hf]
    split
    · exact ⟨rfl, hended, by rw [h.rest]; rfl⟩
    · split
      · exact ⟨rfl, hended, by rw [h.rest]; rfl⟩
      · split
        · exact ⟨by rw [h.rest]; rfl, hended, by rw [h.rest]; rfl⟩
        · exact perform_alike hR h hvw files _

theorem act_alike (hR : SameAnswers R) (h : m.Alike R n) (a : Act E) : (m.act a).Alike R (n.act a) := by
  cases a with
  | step files => exact (step_alike hR h files).2
  | _ => exact ⟨h.contact, by rw [h.rest]; rfl⟩

/-- With vehicles that give the same answers a run tells the same and leaves the same machine, but for the
vehicle. -/
theorem run_alike (hR : SameAnswers R) (h : m.Alike R n) (as : List (Act E)) :
    m.events as = n.events as ∧ (m.acts as).Alike R (n.acts as) := by
  induction as generalizing m n with
  | nil => exact ⟨rfl, h⟩
  | cons a as ih =>
    obtain ⟨hevents, hacts⟩ := ih (act_alike hR h a)
    refine ⟨?_, hacts⟩
    cases a with
    | step files =>
      rw [events, events, (step_alike hR h files).1]
      exact congrArg _ hevents
    | _ => exact hevents

end Machine
end Quadcopter

import Quadcopter.Machine.Core

/-!
# Quadcopter.Proofs.Calls

Calls to a vehicle, one after the other, and what becomes of the vehicle (`Vehicle.after`). Calls split
at any point, so a run can be followed call by call. `Watched` keeps the questions to a vision backend
as `Recorded` keeps the calls.

* `Recorded.after_eq`: a recorded vehicle has exactly the calls that were made, the last first.
* `awaitFrame_vehicle`: waiting for a frame is a number of looks through the camera.
-/

namespace Quadcopter

namespace Call

/-- Whether a vehicle receives the call in flight: it is an order or a look through the camera. -/
def isFlight : Call → Bool
  | .perform _ | .frame => true
  | .connect | .shutdown => false

end Call

namespace Vehicle

variable {V : Type} [Vehicle V]

def call : Call → V → V
  | .connect, v => (Vehicle.connect v).2
  | .perform o, v => (Vehicle.perform o v).2
  | .frame, v => (Vehicle.frame v).2
  | .shutdown, v => Vehicle.shutdown v

def after (cs : List Call) (v : V) : V := cs.foldl (fun v c => call c v) v

@[simp] theorem after_nil (v : V) : after [] v = v := rfl

@[simp] theorem after_cons (c : Call) (cs : List Call) (v : V) :
    after (c :: cs) v = after cs (call c v) := rfl

@[simp] theorem after_append (cs ds : List Call) (v : V) :
    after (cs ++ ds) v = after ds (after cs v) := List.foldl_append

end Vehicle

namespace Recorded

variable {V : Type} [Vehicle V]

theorem call_eq (c : Call) (r : Recorded V) :
    Vehicle.call c r = r.note c (Vehicle.call c r.vehicle) := by
  cases c <;> rfl

/-- A recorded vehicle keeps the calls that it receives, the last first. -/
theorem after_eq (cs : List Call) (r : Recorded V) :
    Vehicle.after cs r = ⟨Vehicle.after cs r.vehicle, cs.reverse ++ r.calls⟩ := by
  induction cs generalizing r with
  | nil => rfl
  | cons c cs ih => simp [ih, call_eq, note]

theorem calls_after_new (cs : List Call) (v : V) : (Vehicle.after cs (new v)).calls = cs.reverse := by
  simp [after_eq, new]

end Recorded

/-- What a vision backend is asked. -/
inductive Question where
  | findFaces (picture : Picture)
  | encode (picture : Picture) (detection : Detection)
  | similarity (a b : Encoding)

/-- A vision backend with the questions it was asked, the last first. -/
structure Watched (E : Type) where
  vision : E
  questions : List Question

namespace Watched

variable {E : Type} [Vision E]

/-- A vision backend that has been asked nothing. -/
def new (e : E) : Watched E := ⟨e, []⟩

instance : Vision (Watched E) where
  findFaces picture w :=
    let (found, e) := Vision.findFaces picture w.vision
    (found, ⟨e, .findFaces picture :: w.questions⟩)
  encode picture detection w :=
    let (encoding, e) := Vision.encode picture detection w.vision
    (encoding, ⟨e, .encode picture detection :: w.questions⟩)
  similarity a b w :=
    let (x, e) := Vision.similarity a b w.vision
    (x, ⟨e, .similarity a b :: w.questions⟩)

end Watched

/-- Waiting for a frame is looking through the camera some number of times. -/
theorem awaitFrame_vehicle {V : Type} [Vehicle V] (n : Nat) (v : V) :
    ∃ k, (awaitFrame n v).2 = Vehicle.after (List.replicate k .frame) v := by
  induction n generalizing v with
  | zero => exact ⟨0, rfl⟩
  | succ n ih =>
    rw [awaitFrame]
    split
    · next f w hw =>
      refine ⟨1, ?_⟩
      simp [Vehicle.call, hw]
    · next w hw =>
      obtain ⟨k, hk⟩ := ih w
      refine ⟨k + 1, ?_⟩
      rw [hk, List.replicate_succ, Vehicle.after_cons]
      simp [Vehicle.call, hw]

end Quadcopter

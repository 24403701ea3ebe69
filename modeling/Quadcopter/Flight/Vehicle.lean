import Quadcopter.Flight.Reckoning
import Quadcopter.Picture.Basic

/-!
# Quadcopter.Flight.Vehicle

What a machine asks of a vehicle. A vehicle is a value; every call gives the answer and the vehicle
after the call, so its answers are a function of the calls made so far. `Recorded` keeps the calls
themselves.
-/

namespace Quadcopter

/-- A camera's picture: rendered for the one who asks, or put out for everyone. -/
inductive Frame where
  | fresh (picture : Picture)
  | published (serial : Nat) (picture : Picture)

/-- The photo of a frame for one who has made `serial` pictures before. -/
def Frame.photo (serial : Nat) : Frame → Photo
  | .fresh picture => ⟨.made serial, picture⟩
  | .published n picture => ⟨.published n, picture⟩

def Frame.picture : Frame → Picture
  | .fresh picture => picture
  | .published _ picture => picture

class Vehicle (V : Type) where
  connect : V → Bool × V
  /-- Carry out an order, or refuse it. -/
  perform : Order → V → Bool × V
  /-- The latest picture of the camera, if there is one. -/
  frame : V → Option Frame × V
  shutdown : V → V
  telemetry : V → Telemetry

/-- The calls that a vehicle receives, reports apart. -/
inductive Call where
  | connect
  | perform (order : Order)
  | frame
  | shutdown
  deriving DecidableEq, Repr

/-- A vehicle with the calls it received, the last first. -/
structure Recorded (V : Type) where
  vehicle : V
  calls : List Call

namespace Recorded

variable {V : Type} [Vehicle V]

def new (v : V) : Recorded V := ⟨v, []⟩

def note (r : Recorded V) (c : Call) (v : V) : Recorded V := ⟨v, c :: r.calls⟩

instance : Vehicle (Recorded V) where
  connect r := let (ok, v) := Vehicle.connect r.vehicle; (ok, r.note .connect v)
  perform o r := let (ok, v) := Vehicle.perform o r.vehicle; (ok, r.note (.perform o) v)
  frame r := let (f, v) := Vehicle.frame r.vehicle; (f, r.note .frame v)
  shutdown r := r.note .shutdown (Vehicle.shutdown r.vehicle)
  telemetry r := Vehicle.telemetry r.vehicle

end Recorded

/-- What the simulator's camera sees. -/
def simulatedFrame : Picture := .blank 100 100

/-- A reckoned vehicle can be flown: it obeys every order. -/
instance : Vehicle Reckoning where
  connect r := (true, { r with connected := true })
  perform o r := (true, r.obey o)
  frame r := (some (.fresh simulatedFrame), r)
  shutdown r := { r with connected := false, flying := false }
  telemetry r := r.telemetry

end Quadcopter

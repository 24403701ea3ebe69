import Quadcopter.Machine.Basic

/-!
# Quadcopter.Machine.Logbook

A machine together with the vehicles it has let go. A new run or a reset ends the contact that is live,
and the vehicle of that contact is kept here as it was left.
-/

namespace Quadcopter

/-- A machine and the vehicles of its earlier contacts, in order. -/
structure Logbook (V E : Type) where
  machine : Machine V E
  past : Array V

namespace Logbook

variable {V E : Type} [Vehicle V]

def new (m : Machine V E) : Logbook V E := ⟨m, #[]⟩

/-- All vehicles in order, the live contact being ended. -/
def vehicles (b : Logbook V E) : Array V :=
  match b.machine.stop.contact.vehicle? with
  | some v => b.past.push v
  | none => b.past

/-- End contact and go back to the state of a new machine. -/
def reset (b : Logbook V E) : Logbook V E := ⟨b.machine.reset, b.vehicles⟩

def start (b : Logbook V E) (program : Program) (v : V) : Except Fault Unit × Logbook V E :=
  let past := b.vehicles
  let (result, machine) := b.machine.start program v
  (result, ⟨machine, past⟩)

end Logbook
end Quadcopter

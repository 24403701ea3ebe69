import Quadcopter.Machine.Core

/-!
# Quadcopter.Machine.Basic

The machine: a program, a core, and contact with a vehicle. One step runs at most one instruction.
Contact is live from a successful start until the run ends, and it ends in exactly one way: the
vehicle is shut down. What the run has left behind can be looked at afterwards.

Main statement: a machine without live contact does not change (`step_of_not_live`).
-/

namespace Quadcopter

/-- Contact with a vehicle: never made, ended, or live. -/
inductive Contact (V : Type) where
  | none
  | ended (v : V)
  | live (v : V)

namespace Contact

variable {V : Type}

def isLive : Contact V → Bool
  | .live _ => true
  | _ => false

def vehicle? : Contact V → Option V
  | .none => Option.none
  | .ended v | .live v => some v

/-- End contact, shutting the vehicle down if it is live. -/
def close [Vehicle V] : Contact V → Contact V
  | .live v => .ended (Vehicle.shutdown v)
  | c => c

end Contact

/-- A register machine that flies a vehicle of type `V` and sees with a backend of type `E`. -/
structure Machine (V E : Type) where
  /-- How long a frame is waited for, in milliseconds. -/
  frameTimeout : Nat
  vision : E
  program : Program
  core : Core
  failed : Bool
  /-- Whether the run is to stop before its next instruction. -/
  interrupted : Bool
  contact : Contact V

namespace Machine

variable {V E : Type}

def defaultFrameTimeout : Nat := 10000

/-- The time between two looks through the camera, in milliseconds. -/
def framePoll : Nat := 20

def new (frameTimeout : Nat) (vision : E) : Machine V E :=
  { frameTimeout, vision, program := .empty, core := .initial, failed := false,
    interrupted := false, contact := .none }

/-- How often the camera is asked for a frame: once, and again after each pause until the time is
over. -/
def looks (m : Machine V E) : Nat := 1 + (m.frameTimeout + (framePoll - 1)) / framePoll

def isRunning (m : Machine V E) : Bool := m.contact.isLive

def interrupt (m : Machine V E) : Machine V E := { m with interrupted := true }

/-- Put back what a run has left behind, a pending interrupt included. Vision and timeout stay. -/
def reset (m : Machine V E) : Machine V E :=
  { m with
    program := .empty
    core := m.core.reset
    failed := false
    interrupted := false
    contact := .none }

variable [Vehicle V]

/-- What the vehicle reports; before any contact, what a vehicle at the start would. -/
def telemetry (m : Machine V E) : Telemetry :=
  match m.contact.vehicle? with
  | some v => Vehicle.telemetry v
  | none => Reckoning.start.telemetry

def stop (m : Machine V E) : Machine V E := { m with contact := m.contact.close }

/-- Reset, take a program and make contact with a vehicle. A vehicle that cannot be reached is shut
down. -/
def start (m : Machine V E) (program : Program) (v : V) : Except Fault Unit × Machine V E :=
  let m := { m.reset with program }
  match Vehicle.connect v with
  | (true, v) => (.ok (), { m with contact := .live v })
  | (false, v) => (.error ⟨.noConnection, none⟩, { m with contact := .ended (Vehicle.shutdown v) })

variable [Vision E]

/-- End a run with a fault in the line it is at. -/
def fail (m : Machine V E) (v : V) (cause : Cause) : Event × Machine V E :=
  (.error (cause.inLine (m.core.pc + 1)),
    { m with failed := true, contact := .ended (Vehicle.shutdown v) })

def fetch (m : Machine V E) : Except Cause Instruction :=
  match m.program.line? m.core.pc with
  | none => .error .pcOutOfRange
  | some tokens => Instruction.decode tokens

def perform (files : Files) (m : Machine V E) (v : V) (i : Instruction) : Event × Machine V E :=
  match m.core.execute files m.looks m.program v m.vision i with
  | ⟨v, vision, core, .error cause⟩ => { m with core, vision }.fail v cause
  | ⟨v, vision, core, .ok .stopped⟩ =>
    (.stopped, { m with core, vision, contact := .ended (Vehicle.shutdown v) })
  | ⟨v, vision, core, .ok event⟩ => (event, { m with core, vision, contact := .live v })

/-- Run at most one instruction. A run ends at an interrupt, behind its last line, at a `HALT` and at
a fault. -/
def step (files : Files) (m : Machine V E) : Event × Machine V E :=
  match m.contact with
  | .live v =>
    if m.interrupted then
      (.stopped, { m with interrupted := false, contact := .ended (Vehicle.shutdown v) })
    else if m.program.size ≤ m.core.pc then
      (.stopped, { m with contact := .ended (Vehicle.shutdown v) })
    else
      match m.fetch with
      | .error cause => m.fail v cause
      | .ok i => m.perform files v i
  | _ => (.stopped, m)

/-- Run up to so many instructions, until there is something to tell. -/
def execute (files : Files) : Nat → Machine V E → Event × Machine V E
  | 0, m => (.running, m)
  | n + 1, m =>
    match m.step files with
    | (.running, m) => execute files n m
    | told => told

/-- Run to the end within a number of steps: the path flown, or the fault that ended the run. If the
steps do not suffice there is no answer. -/
def finish (files : Files) : Nat → Machine V E → Option (Except Fault (List Position)) × Machine V E
  | 0, m => (none, m)
  | n + 1, m =>
    match m.step files with
    | (.stopped, m) => (some (.ok m.core.path), m)
    | (.error fault, m) => (some (.error fault), m)
    | (_, m) => finish files n m

def runProgram (files : Files) (steps : Nat) (m : Machine V E) (program : Program) (v : V) :
    Option (Except Fault (List Position)) × Machine V E :=
  match m.start program v with
  | (.error fault, m) => (some (.error fault), m)
  | (.ok (), m) => m.finish files steps

theorem step_of_not_live (files : Files) {m : Machine V E} (h : m.isRunning = false) :
    m.step files = (.stopped, m) := by
  unfold isRunning at h
  unfold step
  split
  · next v hv => rw [hv] at h; cases h
  · rfl

end Machine
end Quadcopter

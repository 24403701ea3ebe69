import Quadcopter.Machine.Craft
import Quadcopter.Machine.Logbook

/-!
# Quadcopter.Host.Performance

A run as a host presents it: one line for each thing the program displays, and one for the fault that
ended it. Pictures are also written to a directory if there is one for them.
-/

namespace Quadcopter
namespace Host

structure Options where
  live : Bool := false
  check : Bool := false
  telemetry : Bool := false
  showDir : Option String := none

/-- A fault as the user sees it, in bold type. -/
def bold (f : Fault) : String := "\x1b[1m" ++ f.render ++ "\x1b[0m"

/-- What a run has shown so far: its lines, the files after them, and how many pictures it showed. -/
structure Stage where
  files : Files
  lines : Array String
  shown : Nat

def Stage.emit (s : Stage) (line : String) : Stage := { s with lines := s.lines.push line }

def pictureName (index : Nat) (p : Picture) : String :=
  "picture-" ++ String.ofList (Decimal.paddedNat 3 index) ++ "-" ++
    Picture.hexWord false p.checksum ++ ".png"

/-- Write a displayed picture to a directory, which is made if it is missing. -/
def writePicture (files : Files) (dir : String) (index : Nat) (p : Picture) :
    Except Cause String × Files :=
  match files.makeDirectory dir with
  | (.error why, files) => (.error (.uncreatable dir why), files)
  | (.ok (), files) =>
    let path := Files.join dir (pictureName index p)
    match p.save files path with
    | (.ok (), files) => (.ok path, files)
    | (.error cause, files) => (.error cause, files)

def Stage.picture (s : Stage) (options : Options) (p : Picture) : Stage :=
  let s := s.emit p.render
  match options.showDir with
  | none => s
  | some dir =>
    match writePicture s.files dir (s.shown + 1) p with
    | (result, files) =>
      let s := { s with files, shown := s.shown + 1 }
      match result with
      | .ok path => s.emit ("SAVED " ++ path)
      | .error cause => s.emit (bold ⟨cause, none⟩)

def Stage.hear (s : Stage) (options : Options) : Event → Stage
  | .print text => s.emit text
  | .show photo => s.picture options photo.picture
  | .error fault => s.emit (bold fault)
  | .running | .moved _ | .stopped => s

/-- The vehicle of a run: the live one, or a new simulator. -/
def craft (live : Bool) (radio : Radio) : Craft := if live then .live radio else .simulated .start

/-- The number of instructions that run between two looks of the host. -/
def batch : Nat := 5000

variable {V E : Type} [Vehicle V] [Vision E]

/-- Run to the end within so many batches: whether it ended well, if it ended. -/
def perform (options : Options) : Nat → Machine V E → Stage → Option Bool × Machine V E × Stage
  | 0, m, s => (none, m, s)
  | n + 1, m, s =>
    match m.execute s.files batch with
    | (.stopped, m) => (some !m.failed, m, s)
    | (.error fault, m) => (some false, m, s.hear options (.error fault))
    | (event, m) => perform options n m (s.hear options event)

/-- What a run left behind: whether it ended well, if it ended, and what it showed. -/
structure Performance (V E : Type) where
  success : Option Bool
  logbook : Logbook V E
  files : Files
  lines : Array String

def telemetryLines (m : Machine V E) : List String :=
  m.telemetry.entries.map fun (key, value) => key ++ ": " ++ value

/-- Start a program on a vehicle, run it to the end within so many batches, and if it has ended show the
vehicle's report, if the user wants it. -/
def present (options : Options) (batches : Nat) (files : Files) (b : Logbook V E)
    (program : Program) (v : V) : Performance V E :=
  let stage : Stage := ⟨files, #[], 0⟩
  let (success, b, stage) :=
    match b.start program v with
    | (.error fault, b) => (some false, b, stage.emit (bold fault))
    | (.ok (), b) =>
      let (success, m, stage) := perform options batches b.machine stage
      (success, { b with machine := m }, stage)
  { success, logbook := b, files := stage.files
    lines := if success.isSome && options.telemetry then stage.lines ++ telemetryLines b.machine
      else stage.lines }

end Host
end Quadcopter

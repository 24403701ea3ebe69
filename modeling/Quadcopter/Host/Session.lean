import Quadcopter.Host.Performance
import Quadcopter.Host.Source

/-!
# Quadcopter.Host.Session

The interactive host. A line that starts with a dot is a command to the host, any other line is added
to the listing. A session is a value; what a line writes and what it adds to the history is part of
the answer.
-/

namespace Quadcopter
namespace Host

/-- What a session holds between two lines. -/
structure Session where
  options : Options
  files : Files
  listing : Listing
  live : Bool
  /-- The driver of the live vehicle as it is before a run. -/
  radio : Radio
  logbook : Logbook Craft Blind

def Session.new (options : Options) (frameTimeout : Nat) (files : Files) (radio : Radio) : Session :=
  { options, files, listing := .empty, live := options.live, radio
    logbook := .new (.new frameTimeout {}) }

def greeting : String := "DroneASM\n.help for commands\n"

def help : String :=
  ".run          compile and run the listing
.list         show the listing
.new          clear the listing
.load FILE    replace the listing with a file
.save FILE    write the listing to a file
.live         fly a Tello
.sim          fly the simulator
.path         show the last flight path
.help         this text
.quit         exit
Any other line is appended to the listing."

def Session.prompt (s : Session) : String := if s.live then "live> " else "> "

/-- What a session does with a line: what it writes, what it adds to the history, and whether it goes
on. -/
structure Reply where
  session : Session
  output : List String := []
  history : List String := []
  quit : Bool := false

/-- A number with blanks before it up to a width of four. -/
def indexColumn (n : Nat) : String :=
  let digits := Decimal.natText n
  String.ofList (List.replicate (4 - digits.length) ' ' ++ digits)

/-- Lines behind their numbers, counted from `first`. -/
def numbered (first : Nat) (lines : List String) : List String :=
  lines.zipIdx.map fun (line, i) => indexColumn (i + first) ++ " " ++ line

/-- The flight path of the last run, and how long it was. -/
def pathLines (path : List Position) : List String :=
  numbered 0 (path.map Position.render) ++
    match path.getLast? with
    | some last =>
      ["ENDED AT " ++ last.render ++ " AFTER " ++
        Decimal.fixed 1 (Position.pathLength path) ++ " CM"]
    | none => []

inductive Verb where
  | run
  | list
  | new
  | load
  | save
  | live
  | sim
  | path
  | help
  | quit
  deriving DecidableEq, Repr

def Verb.ofWord? (word : List Char) : Option Verb :=
  match String.ofList (Text.lower word) with
  | "run" => some .run
  | "list" => some .list
  | "new" => some .new
  | "load" => some .load
  | "save" => some .save
  | "live" => some .live
  | "sim" => some .sim
  | "path" => some .path
  | "help" => some .help
  | "quit" => some .quit
  | _ => none

namespace Session

def craft (s : Session) : Craft := Host.craft s.live s.radio

/-- The driver for the next run, after a run has used the link. -/
def radioAfter (s : Session) : Contact Craft → Radio
  | .ended (.live r) | .live (.live r) =>
    { s.radio with link := r.link, frames := r.frames, published := r.published }
  | _ => s.radio

def run (s : Session) (batches : Nat) : Reply :=
  match s.listing.compile with
  | .error fault => { session := s, output := [bold fault] }
  | .ok program =>
    let p := present s.options batches s.files s.logbook program s.craft
    { session :=
        { s with files := p.files, logbook := p.logbook
                 radio := s.radioAfter p.logbook.machine.contact }
      output := p.lines.toList }

def obey (s : Session) (batches : Nat) (argument : String) : Verb → Reply
  | .run => s.run batches
  | .list => { session := s, output := numbered 1 s.listing.lines.toList }
  | .new => { session := { s with listing := .empty, logbook := s.logbook.reset } }
  | .load =>
    match loadListing s.files argument with
    | .ok listing => { session := { s with listing } }
    | .error fault => { session := s, output := [bold fault] }
  | .save =>
    match saveListing s.files s.listing argument with
    | .ok files => { session := { s with files } }
    | .error fault => { session := s, output := [bold fault] }
  | .live => { session := { s with live := true } }
  | .sim => { session := { s with live := false } }
  | .path => { session := s, output := pathLines s.logbook.machine.core.path }
  | .help => { session := s, output := [help] }
  | .quit => { session := s, quit := true }

/-- Carry out what follows the dot of a line. The line goes into the history first. -/
def command (s : Session) (batches : Nat) (line : String) (body : List Char) : Reply :=
  let (word, argument) := Text.splitWhile (fun c => !Text.isBlank c) (Text.trim body)
  let reply :=
    match Verb.ofWord? word with
    | some verb => s.obey batches (String.ofList (Text.trim argument)) verb
    | none => { session := s, output := ["UNKNOWN COMMAND ." ++ String.ofList word] }
  { reply with history := [line] }

/-- Add a line to the listing, and to the history if it was accepted. -/
def enter (s : Session) (line : String) : Reply :=
  let (result, listing) := s.listing.push line
  match result with
  | .ok () => { session := { s with listing }, history := [line] }
  | .error fault => { session := { s with listing }, output := [bold fault] }

/-- Handle a line. A run ends within so many batches or not at all. -/
def handle (s : Session) (batches : Nat) (line : String) : Reply :=
  match Text.trim line.toList with
  | [] => { session := s }
  | '.' :: body => s.command batches line body
  | _ => s.enter line

/-- The logs that live vehicles have written in the session, the last contact being ended. -/
def logs (s : Session) : Array (Array Exchange) :=
  s.logbook.vehicles.flatMap fun
    | .live r => r.written
    | _ => #[]

end Session

/-- The instruction words that a word could be the start of, in any case; nothing if there are none. -/
def completions? (word : String) : Option (List String) :=
  let start := Text.upper word.toList
  match (Mnemonic.all.map Mnemonic.spelling).filter fun w => start.isPrefixOf w.toList with
  | [] => none
  | words => some words

/-- Whether a line is accepted or not, the session goes on with the listing that is left. -/
theorem Session.session_enter (s : Session) (line : String) :
    (s.enter line).session = { s with listing := (s.listing.push line).2 } := by
  unfold Session.enter
  dsimp only
  split <;> rfl

def Reply.text (r : Reply) : String := r.output.foldl (fun s line => s ++ line ++ "\n") ""

end Host
end Quadcopter

import Quadcopter.Decimal.Numeral
import Quadcopter.Host.Session

/-!
# Quadcopter.Host.CommandLine

The command line: an optional file and a few options. An option may be given once; a value follows it
as the next argument, which must not look like an option, or behind an equals sign. Two dashes end the
options.
-/

namespace Quadcopter
namespace Host

structure Invocation where
  file : Option String := none
  options : Options := {}
  /-- Seconds to wait for a frame. -/
  frameTimeout : Option Float := none
  logDir : Option String := none
  verbose : Bool := false

inductive Usage where
  | help
  | wrong
  deriving DecidableEq, Repr

/-- The options without a value. -/
inductive Flag where
  | live
  | check
  | telemetry
  | verbose
  deriving DecidableEq

/-- The options with a value. -/
inductive Setting where
  | frameTimeout
  | logDir
  | showDir
  deriving DecidableEq

def Flag.ofName? : String → Option Flag
  | "live" => some .live
  | "check" => some .check
  | "telemetry" => some .telemetry
  | "verbose" => some .verbose
  | _ => none

def Setting.ofName? : String → Option Setting
  | "frame-timeout" => some .frameTimeout
  | "log-dir" => some .logDir
  | "show-dir" => some .showDir
  | _ => none

namespace Invocation

def flag (i : Invocation) : Flag → Except Usage Invocation
  | .live =>
    if i.options.live then .error .wrong
    else .ok { i with options := { i.options with live := true } }
  | .check =>
    if i.options.check then .error .wrong
    else .ok { i with options := { i.options with check := true } }
  | .telemetry =>
    if i.options.telemetry then .error .wrong
    else .ok { i with options := { i.options with telemetry := true } }
  | .verbose => if i.verbose then .error .wrong else .ok { i with verbose := true }

/-- Give a value to an option that has none. A directory needs a name and a time is a number. -/
def set (i : Invocation) (value : String) : Setting → Except Usage Invocation
  | .frameTimeout =>
    match i.frameTimeout, Decimal.float? value.toList with
    | none, some x => .ok { i with frameTimeout := some x }
    | _, _ => .error .wrong
  | .logDir =>
    if i.logDir.isSome || value.isEmpty then .error .wrong
    else .ok { i with logDir := some value }
  | .showDir =>
    if i.options.showDir.isSome || value.isEmpty then .error .wrong
    else .ok { i with options := { i.options with showDir := some value } }

/-- Name the file, of which there can be one. -/
def name (i : Invocation) (file : String) : Except Usage Invocation :=
  if i.file.isSome || file.isEmpty then .error .wrong else .ok { i with file := some file }

/-- Name files only: nothing is an option any more. -/
def names (i : Invocation) : List String → Except Usage Invocation
  | [] => .ok i
  | arg :: rest =>
    match i.name arg with
    | .error e => .error e
    | .ok i => i.names rest

/-- Options of one letter, several of which may stand behind one dash. -/
def letters (i : Invocation) : List Char → Except Usage Invocation
  | [] => .ok i
  | 'v' :: rest =>
    match i.flag .verbose with
    | .error e => .error e
    | .ok i => i.letters rest
  | 'h' :: _ => .error .help
  | _ => .error .wrong

end Invocation

/-- Whether an argument looks like an option. A single dash does not. -/
def looksLikeOption (arg : String) : Bool := arg.startsWith "-" && arg != "-"

/-- A long option taken apart: its name, and the value behind an equals sign if there is one. -/
def splitLong (body : List Char) : String × Option String :=
  match Text.splitWhile (· != '=') body with
  | (name, []) => (String.ofList name, none)
  | (name, _ :: value) => (String.ofList name, some (String.ofList value))

inductive Argument where
  /-- Two dashes alone. -/
  | endOfOptions
  | flag (f : Flag)
  | setting (s : Setting) (value : Option String)
  | letters (cs : List Char)
  | help
  | unknown
  | file

def Argument.ofLong (name : String) (value : Option String) : Argument :=
  match Flag.ofName? name, Setting.ofName? name, value with
  | some f, _, none => .flag f
  | none, some s, value => .setting s value
  | none, none, none => if name = "help" then .help else .unknown
  | _, _, _ => .unknown

def Argument.ofString (arg : String) : Argument :=
  match arg.toList with
  | ['-', '-'] => .endOfOptions
  | '-' :: '-' :: body => let (name, value) := splitLong body; .ofLong name value
  | '-' :: c :: body => .letters (c :: body)
  | _ => .file

def Invocation.read (i : Invocation) : List String → Except Usage Invocation
  | [] => .ok i
  | arg :: rest =>
    match Argument.ofString arg with
    | .endOfOptions => i.names rest
    | .flag f => (i.flag f).bind fun i => i.read rest
    | .setting s (some value) => (i.set value s).bind fun i => i.read rest
    | .setting s none =>
      match rest with
      | [] => .error .wrong
      | value :: rest =>
        if looksLikeOption value then .error .wrong
        else (i.set value s).bind fun i => i.read rest
    | .letters cs => (i.letters cs).bind fun i => i.read rest
    | .help => .error .help
    | .unknown => .error .wrong
    | .file => (i.name arg).bind fun i => i.read rest

def Invocation.ofArguments (args : List String) : Except Usage Invocation :=
  Invocation.read {} args

/-- The longest time that a frame is waited for, in seconds. -/
def longestWait : Float := 3600.0

/-- The time that a frame is waited for, in milliseconds. A time that is no finite number is not
taken. -/
def Invocation.timeout (i : Invocation) : Nat :=
  match i.frameTimeout with
  | none => Machine.defaultFrameTimeout
  | some x =>
    match Decimal.Binary64.ofFloat x with
    | .finite .. =>
      let seconds := if x < 0.0 then 0.0 else if longestWait < x then longestWait else x
      (Decimal.Binary64.ofFloat (seconds * 1000.0)).truncate.toInt.toNat
    | _ => Machine.defaultFrameTimeout

/-- What a process leaves behind: what it wrote on its two channels, its exit code if it has ended, and
the files. -/
structure Transcript where
  stdout : String := ""
  stderr : String := ""
  code : Option Nat
  files : Files

def unlines (lines : List String) : String := lines.foldl (fun s line => s ++ line ++ "\n") ""

def Performance.transcript {V E : Type} (p : Performance V E) : Transcript :=
  { stdout := unlines p.lines.toList
    code := p.success.map fun success => if success then 0 else 1
    files := p.files }

/-- Compile a file and run it on a vehicle. Faults of the source go to the error channel, faults of
the run stand with its output. A run that does not end within so many batches has no exit code. -/
def runFile (options : Options) (frameTimeout batches : Nat) (files : Files) (path : String)
    (radio : Radio) : Transcript :=
  match (loadListing files path).bind (·.compile) with
  | .error fault => { stderr := unlines [bold fault], code := some 1, files }
  | .ok program =>
    if options.check then
      { stdout := unlines [path ++ ": " ++ toString program.size ++ " lines OK"], code := some 0, files }
    else
      let machine : Machine Craft Blind := .new frameTimeout {}
      (present options batches files (.new machine) program (craft options.live radio)).transcript

end Host
end Quadcopter

import Quadcopter.Host.CommandLine

/-!
# Quadcopter.Main

The program itself. Before a run the parts of the disk that it may ask for are taken into a tree of
files, and afterwards what has changed in the tree is put on the disk. The program has no radio of its
own, so a live vehicle is never reached.
-/

namespace Quadcopter
namespace Host

/-- The files whose pictures a program may load, each name also in lower case. -/
def pictureFiles (program : Program) : List String :=
  program.entries.toList.flatMap fun e =>
    match Instruction.decode e.tokens with
    | .ok (.loadPic file _) => [file, String.ofList (Text.lower file.toList)]
    | _ => []

def runFiles (options : Options) (program : Except Fault Program) : List String :=
  options.showDir.toList ++
    match program with
    | .ok program => pictureFiles program
    | .error _ => []

/-- The files that a session may ask for when it handles a line. -/
def Session.lineFiles (s : Session) (line : String) : List String :=
  match Text.trim line.toList with
  | '.' :: body =>
    let argument := (Text.splitWhile (fun c => !Text.isBlank c) (Text.trim body)).2
    String.ofList (Text.trim argument) :: runFiles s.options s.listing.compile
  | _ => []

/-- The places on the way along names, up to the last. -/
def waypoints (place : List String) : List String → List (List String)
  | [] => []
  | "." :: rest => waypoints place rest
  | ".." :: rest => place.dropLast :: waypoints place.dropLast rest
  | name :: rest => (place ++ [name]) :: waypoints (place ++ [name]) rest

def placeName (place : List String) : String := "/" ++ "/".intercalate place

/-- What stands at a place of the disk, if it can be read. -/
def look (place : List String) : IO (Option Node) := do
  try
    return some (.file (← IO.FS.readBinFile (placeName place)))
  catch
    | .inappropriateType .. => return some .directory
    | _ => return none

/-- A tree that holds what the disk has at some paths and on the way to them. -/
def survey (here : List String) (paths : List String) : IO Files := do
  let mut files : Files := { nodes := [(here, .directory)], here }
  for path in paths do
    if let .ok parts := Files.Path.ofString path then
      for place in waypoints (files.base parts) parts.steps do
        if let some node ← look place then
          files := files.put place node
  return files

def unchanged : Option Node → Node → Bool
  | some .directory, .directory => true
  | some (.file before), .file after => before.data == after.data
  | _, _ => false

/-- Put on the disk what one tree has and another has not. -/
def settle (before after : Files) : IO Unit := do
  for (place, node) in after.nodes.reverse do
    if !unchanged (before.node? place) node then
      match node with
      | .directory => IO.FS.createDirAll (placeName place)
      | .file contents => IO.FS.writeBinFile (placeName place) contents

def workingDirectory : IO (List String) := do
  return ((← IO.currentDir).toString.splitOn "/").filter (· != "")

/-- More batches than a run takes. -/
def manyBatches : Nat := 1000000000000000

def runPath (inv : Invocation) (path : String) : IO UInt32 := do
  let here ← workingDirectory
  let source ← survey here [path]
  let program := (loadListing source path).bind (·.compile)
  let files ← survey here (path :: runFiles inv.options program)
  let t := runFile inv.options inv.timeout manyBatches files path (.new 0 false false .dead)
  settle files t.files
  IO.print t.stdout
  IO.eprint t.stderr
  return UInt32.ofNat (t.code.getD 1)

/-- Handle one line after the other until there are no more. -/
partial def converse (input output : IO.FS.Stream) (here : List String) (s : Session) : IO UInt32 := do
  output.putStr s.prompt
  output.flush
  let line ← input.getLine
  if line.isEmpty then return 0
  let line := String.ofList (Text.dropMark '\n' line.toList)
  let files ← survey here (s.lineFiles line)
  let reply := { s with files }.handle manyBatches line
  settle files reply.session.files
  output.putStr reply.text
  if reply.quit then return 0
  converse input output here reply.session

def usage : String :=
  "Usage: droneasm [OPTIONS] [FILE]

  --live                     fly a Tello instead of the simulator
  --check                    compile only
  --frame-timeout SECONDS    how long TAKE_PIC waits for a camera frame
  --log-dir DIR              where command logs are written
  --show-dir DIR             also write displayed pictures here
  --telemetry                print vehicle telemetry after each run
  -v, --verbose              debug logging
  -h, --help                 this text
"

/-- Run the file that the arguments name, or hold a session if they name none. -/
def launch (args : List String) : IO UInt32 := do
  match Invocation.ofArguments args with
  | .error .help =>
    IO.print usage
    return 0
  | .error .wrong =>
    IO.eprint usage
    return 2
  | .ok inv =>
    match inv.file with
    | some path => runPath inv path
    | none =>
      let s := Session.new inv.options inv.timeout .empty (.new 0 false false .dead)
      IO.print greeting
      converse (← IO.getStdin) (← IO.getStdout) (← workingDirectory) s

end Host
end Quadcopter

def main (args : List String) : IO UInt32 := Quadcopter.Host.launch args

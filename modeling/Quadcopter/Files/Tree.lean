import Quadcopter.Files.Refusal
import Quadcopter.Picture.Basic
import Quadcopter.Text.Split

/-!
# Quadcopter.Files.Tree

A tree of files as a value, with a working directory in it. A path is looked up name by name, from the
root if it starts with a slash and from the working directory otherwise. Everything on the way has to be
a directory; a dot stays there and two dots go up, also behind the last name, so `a/.` means something
only if `a` is a directory.

Main statement: what was written is what is read (`node?_put`).
-/

namespace Quadcopter

inductive Node where
  | directory
  | file (contents : ByteArray)

/-- A tree of files: the places below the root, each with the names that lead to it. -/
structure Files where
  nodes : List (List String × Node)
  /-- The working directory. -/
  here : List String := []
  /-- What reads and writes the pictures in its JPEG files. -/
  jpeg : Picture.JpegCodec := .absent

namespace Files

def empty : Files := { nodes := [] }

instance : Inhabited Files := ⟨empty⟩

def node? (f : Files) (place : List String) : Option Node :=
  if place = [] then some .directory else f.nodes.lookup place

def put (f : Files) (place : List String) (node : Node) : Files :=
  { f with nodes := (place, node) :: f.nodes.filter (·.1 != place) }

theorem node?_put (f : Files) {place : List String} (node : Node) (h : place ≠ []) :
    (f.put place node).node? place = some node := by
  simp [node?, put, h]

/-- A path taken apart: the names on the way, with single and double dots among them. -/
structure Path where
  fromRoot : Bool
  steps : List String
  /-- Whether there is a slash behind the last name, so that it can only mean a directory. -/
  slashed : Bool

def maxNameBytes : Nat := 255

def maxPathBytes : Nat := 4095

/-- Take a path apart. Several slashes are as good as one. -/
def Path.ofString (s : String) : Except Refusal Path :=
  let pieces := (Text.splitAt '/' s.toList).map String.ofList
  if s.toList.contains '\x00' then .error .nulInName
  else if s.isEmpty then .error .missing
  else if maxPathBytes < s.utf8ByteSize then .error .nameTooLong
  else .ok ⟨s.startsWith "/", pieces.filter (· != ""), s.endsWith "/"⟩

def base (f : Files) (path : Path) : List String := if path.fromRoot then [] else f.here

/-- What stands in a directory under a name. -/
def lookup (f : Files) (place : List String) (name : String) : Except Refusal (Option Node) :=
  if maxNameBytes < name.utf8ByteSize then .error .nameTooLong else .ok (f.node? (place ++ [name]))

def enter (f : Files) (place : List String) : List String → Except Refusal (List String)
  | [] => .ok place
  | "." :: rest => f.enter place rest
  | ".." :: rest => f.enter place.dropLast rest
  | name :: rest =>
    match f.lookup place name with
    | .error why => .error why
    | .ok none => .error .missing
    | .ok (some (.file _)) => .error .notDirectory
    | .ok (some .directory) => f.enter (place ++ [name]) rest

inductive Spot where
  /-- A directory on the way, because the path ends with dots or has no names. -/
  | directory
  /-- A name in a directory; there may be nothing under it. -/
  | entry (place : List String) (name : String)

/-- Follow a path up to its last name. -/
def locate (f : Files) (path : Path) : Except Refusal Spot :=
  match f.enter (f.base path) path.steps.dropLast with
  | .error why => .error why
  | .ok place =>
    match path.steps.getLast? with
    | none | some "." | some ".." => .ok .directory
    | some name => .ok (.entry place name)

def find (f : Files) (path : Path) : Except Refusal Node :=
  match f.locate path with
  | .error why => .error why
  | .ok .directory => .ok .directory
  | .ok (.entry place name) =>
    match f.lookup place name with
    | .error why => .error why
    | .ok none => .error .missing
    | .ok (some .directory) => .ok .directory
    | .ok (some (.file data)) => if path.slashed then .error .notDirectory else .ok (.file data)

/-- Open what a path means for reading. A directory can be opened. -/
def openAt (f : Files) (s : String) : Except Refusal Node :=
  match Path.ofString s with
  | .error why => .error why
  | .ok path => f.find path

/-- The contents of what was opened. A directory has none. -/
def contents : Node → Except Refusal ByteArray
  | .directory => .error .isDirectory
  | .file data => .ok data

/-- Write a file, over the one that is there. -/
def write (f : Files) (s : String) (data : ByteArray) : Except Refusal Files :=
  match Path.ofString s with
  | .error why => .error why
  | .ok path =>
    match f.locate path with
    | .error why => .error why
    | .ok .directory => .error .isDirectory
    | .ok (.entry place name) =>
      if path.slashed then .error .isDirectory
      else
        match f.lookup place name with
        | .error why => .error why
        | .ok (some .directory) => .error .isDirectory
        | .ok _ => .ok (f.put (place ++ [name]) (.file data))

def make (f : Files) (path : Path) : Except Refusal Files :=
  match f.locate path with
  | .error why => .error why
  | .ok .directory => .error .alreadyExists
  | .ok (.entry place name) =>
    match f.lookup place name with
    | .error why => .error why
    | .ok (some _) => .error .alreadyExists
    | .ok none => .ok (f.put (place ++ [name]) .directory)

def isDirectory (f : Files) (path : Path) : Bool :=
  match f.find path with
  | .ok .directory => true
  | _ => false

/-- The result of making a directory, which is as good if it is there. -/
def settle (f : Files) (path : Path) : Except Refusal Unit × Files :=
  match f.make path with
  | .ok made => (.ok (), made)
  | .error why => (if f.isDirectory path then .ok () else .error why, f)

/-- Make a directory and, if that fails for want of those above it, first those. Above it are all but
the first of `names`, the last name first. What was made stays if a later step fails. -/
def makeAll (f : Files) (path : Path) : List String → Except Refusal Unit × Files
  | [] => f.settle path
  | _ :: above =>
    match f.make path with
    | .error .missing =>
      match f.makeAll ⟨path.fromRoot, above.reverse, false⟩ above with
      | (.error why, f) => (.error why, f)
      | (.ok (), f) => f.settle path
    | _ => f.settle path

/-- Make a directory and those above it. The empty path means the working directory, which is there. -/
def makeDirectory (f : Files) (s : String) : Except Refusal Unit × Files :=
  if s.isEmpty then (.ok (), f)
  else
    match Path.ofString s with
    | .error why => (.error why, f)
    | .ok path => f.makeAll path (path.steps.filter (· != ".")).reverse

def join (directory name : String) : String :=
  if directory.isEmpty || directory.endsWith "/" then directory ++ name
  else directory ++ "/" ++ name

end Files
end Quadcopter

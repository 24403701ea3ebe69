import Quadcopter.Compile

/-!
# Quadcopter.Listing

Source text under edit. A line is checked when it is added, so a listing holds readable lines only;
it is kept without its trailing blanks.
-/

namespace Quadcopter

def maxLineBytes : Nat := 1024

/-- Lines of source, each of which has passed the check. -/
structure Listing where
  lines : Array String
  deriving DecidableEq, Repr

namespace Listing

def empty : Listing := ⟨#[]⟩

instance : Inhabited Listing := ⟨empty⟩

def size (l : Listing) : Nat := l.lines.size

def isEmpty (l : Listing) : Bool := l.lines.isEmpty

/-- A line by its number, counted from one. -/
def line? (l : Listing) : Nat → Option String
  | 0 => none
  | n + 1 => l.lines[n]?

def kept (s : String) : String := String.ofList (Text.trimEnd s.toList)

/-- Append a line, unless it is too long or cannot be read. -/
def push (l : Listing) (s : String) : Except Fault Unit × Listing :=
  let number := l.size + 1
  if maxLineBytes < s.utf8ByteSize then (.error (Cause.lineTooLong.inLine number), l)
  else
    match Line.read number s with
    | .error f => (.error f, l)
    | .ok _ => (.ok (), ⟨l.lines.push (kept s)⟩)

/-- Append lines until one is refused. -/
def pushAll (l : Listing) : List String → Except Fault Listing
  | [] => .ok l
  | s :: rest =>
    match l.push s with
    | (.error f, _) => .error f
    | (.ok (), l') => l'.pushAll rest

def compile (l : Listing) : Except Fault Program := Quadcopter.compile l.lines.toList

/-- Every accepted line adds one. -/
theorem size_push {l m : Listing} {s : String} (h : l.push s = (.ok (), m)) : m.size = l.size + 1 := by
  unfold push at h
  dsimp only at h
  split at h
  · cases h
  · split at h
    · cases h
    · cases h; simp [size]

/-- A line that is refused leaves the listing as it was. -/
theorem eq_of_push_error {l m : Listing} {s : String} {f : Fault} (h : l.push s = (.error f, m)) :
    m = l := by
  unfold push at h
  dsimp only at h
  split at h
  · cases h; rfl
  · split at h
    · cases h; rfl
    · cases h

end Listing
end Quadcopter

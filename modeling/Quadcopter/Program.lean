import Quadcopter.Fault
import Quadcopter.Token.Basic

/-!
# Quadcopter.Program

A program is a sequence of instruction lines, some of them labelled. Line `i` of the program is source
line `i + 1`: a source line without an instruction holds a `NOP`. Each label stands at one line, the
last that defined it, because defining a label takes it off the line that had it.

Main statements: every source line adds one line (`size_add`), and a label that is found stands at a
line of the program (`lookup_lt`).
-/

namespace Quadcopter

/-- A line of a program: the tokens of an instruction and the label that stands there, if any. -/
structure Entry where
  label : Option String
  tokens : List Token
  deriving DecidableEq, Repr

def Entry.render (e : Entry) : String :=
  (match e.label with
    | some name => name ++ ": "
    | none => "") ++ Token.renderAll e.tokens

/-- The line without a label of the given name. -/
def Entry.forget (name : String) (e : Entry) : Entry :=
  if e.label = some name then { e with label := none } else e

structure Program where
  entries : Array Entry
  deriving DecidableEq, Repr

namespace Program

def empty : Program := ⟨#[]⟩

instance : Inhabited Program := ⟨empty⟩

def size (p : Program) : Nat := p.entries.size

def isEmpty (p : Program) : Bool := p.entries.isEmpty

/-- An instruction line; one without tokens does nothing. -/
def instructionOf : List Token → List Token
  | [] => [Token.ofMnemonic .nop]
  | ts => ts

def append (p : Program) (label : Option String) (tokens : List Token) : Program :=
  let entries :=
    match label with
    | some name => p.entries.map (Entry.forget name)
    | none => p.entries
  ⟨entries.push ⟨label, instructionOf tokens⟩⟩

/-- Append a source line. A label at its start is defined to stand at the new line. -/
def add (p : Program) : List Token → Program
  | t :: ts => if t.isLabel then p.append (some t.text) ts else p.append none (t :: ts)
  | [] => p.append none []

def line? (p : Program) (i : Nat) : Option (List Token) := p.entries[i]?.map (·.tokens)

def find? (p : Program) (name : String) : Option Nat :=
  p.entries.findIdx? fun e => e.label == some name

/-- The line to which a jump to a label goes. -/
def lookup (p : Program) (name : String) : Except Cause Nat :=
  match p.find? name with
  | some i => .ok i
  | none => .error (.noSuchLabel name)

/-- The source form of a program, each line ended by a newline. -/
def render (p : Program) : String :=
  p.entries.foldl (fun s e => s ++ e.render ++ "\n") ""

theorem size_append (p : Program) (label : Option String) (ts : List Token) :
    (p.append label ts).size = p.size + 1 := by
  unfold append size
  cases label <;> simp

theorem size_add (p : Program) (ts : List Token) : (p.add ts).size = p.size + 1 := by
  unfold add
  split
  · split <;> exact size_append ..
  · exact size_append ..

/-- A label that is found stands at a line of the program. -/
theorem lookup_lt {p : Program} {name : String} {i : Nat} (h : p.lookup name = .ok i) :
    i < p.size := by
  unfold lookup at h
  split at h
  · next j hj =>
    cases h
    exact (Array.findIdx?_eq_some_iff_getElem.1 hj).1
  · cases h

end Program
end Quadcopter

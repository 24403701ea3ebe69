/-!
# Quadcopter.Radio.Mailbox

A place for one letter. A new letter replaces the one that is there; looking leaves it, taking
empties the place.
-/

namespace Quadcopter

structure Mailbox (α : Type) where
  letter : Option α
  deriving Repr

namespace Mailbox

variable {α : Type}

def empty : Mailbox α := ⟨none⟩

instance : Inhabited (Mailbox α) := ⟨empty⟩

/-- Deliver a letter over the one that is there. -/
def put (_ : Mailbox α) (a : α) : Mailbox α := ⟨some a⟩

def latest (m : Mailbox α) : Option α := m.letter

def take (m : Mailbox α) : Option α × Mailbox α := (m.letter, empty)

/-- Take the letter out, waiting for the next delivery if there is none now. -/
def waitTake (m : Mailbox α) (next : Option α) : Option α × Mailbox α :=
  match m.letter with
  | some a => (some a, ⟨next⟩)
  | none => (next, empty)

end Mailbox
end Quadcopter

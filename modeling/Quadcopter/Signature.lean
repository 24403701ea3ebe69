import Quadcopter.Fault
import Quadcopter.Token.Basic

/-!
# Quadcopter.Signature

What operands each instruction word takes: how many, by a table of the words, and of what classes, by
the word's signature. A line has the right shape if it has as many operands as its word takes and their
kinds fit the signature one by one.

Main statements: both tables say the same about every word (`length_signature`), and a line that passes
`check` is empty, a label, or a command whose operands fit its signature (`check_eq_ok_iff`).
-/

namespace Quadcopter

inductive Slot where
  /-- A number register or a literal. -/
  | numeric
  | numberRegister
  | pictureRegister
  | identifier
  | text
  /-- Anything that can be shown: a text, a number or a picture register. -/
  | displayable
  /-- A number register, or an integer that is the index of one. -/
  | destination
  /-- An integer that is the index of a face register. -/
  | faceIndex
  deriving DecidableEq, Repr

def Slot.accepts : Slot → Kind → Bool
  | .numeric, k => k.isNumeric
  | .numberRegister, k => k == .numberRegister
  | .pictureRegister, k => k == .pictureRegister
  | .identifier, k => k == .identifier
  | .text, k => k == .text
  | .displayable, k => k.isNumeric || k == .text || k == .pictureRegister
  | .destination, k => k == .numberRegister || k == .integer
  | .faceIndex, k => k == .integer

namespace Mnemonic

def signature : Mnemonic → List Slot
  | .nop | .halt | .jumpReturn | .popReturn | .takeoff | .land => []
  | .pushNum | .forward | .backward | .left | .right | .up | .down | .rotateCw | .rotateCcw =>
    [.numeric]
  | .pushReturn | .jump => [.identifier]
  | .pushPic | .popPic | .takePic => [.pictureRegister]
  | .popNum => [.numberRegister]
  | .display => [.displayable]
  | .store => [.numeric, .numberRegister]
  | .copy => [.numberRegister, .numberRegister]
  | .copyPic => [.pictureRegister, .pictureRegister]
  | .loadPic => [.text, .pictureRegister]
  | .branchEq | .branchNe | .branchGt | .branchLt | .branchGe | .branchLe =>
    [.numeric, .numeric, .identifier]
  | .add | .sub | .mult | .div | .idiv | .rdiv => [.numeric, .numeric, .destination]
  | .detectFace => [.pictureRegister, .faceIndex, .numberRegister]
  | .matchFace => [.faceIndex, .faceIndex, .numberRegister]

/-- The words without operands, those with one, and so on. -/
def arityTable : List (List Mnemonic) :=
  [[.nop, .halt, .jumpReturn, .popReturn, .takeoff, .land],
   [.pushNum, .pushReturn, .pushPic, .popNum, .popPic, .jump,
    .forward, .backward, .left, .right, .up, .down, .rotateCw, .rotateCcw, .display, .takePic],
   [.store, .copy, .copyPic, .loadPic],
   [.branchEq, .branchNe, .branchGt, .branchLt, .branchGe, .branchLe,
    .add, .sub, .mult, .div, .idiv, .rdiv, .detectFace, .matchFace]]

def ofArity (n : Nat) : List Mnemonic := arityTable.getD n []

def arity (w : Mnemonic) : Nat := arityTable.findIdx (·.contains w)

theorem arity_le_three (w : Mnemonic) : w.arity ≤ 3 := by cases w <;> decide

theorem length_signature (w : Mnemonic) : w.signature.length = w.arity := by cases w <;> rfl

theorem contains_ofArity (n : Nat) (w : Mnemonic) : (ofArity n).contains w = (n == w.arity) := by
  match n with
  | 0 | 1 | 2 | 3 => cases w <;> rfl
  | n + 4 =>
    have hle := w.arity_le_three
    have hne : n + 4 ≠ w.arity := by omega
    simp [ofArity, arityTable, hne]

end Mnemonic

/-- Whether operands fit a signature: as many of them as slots, each of a kind its slot accepts. -/
def fits : List Slot → List Token → Bool
  | [], [] => true
  | slot :: slots, t :: ts => slot.accepts t.kind && fits slots ts
  | _, _ => false

def unlabelled : List Token → List Token
  | t :: ts => if t.isLabel then ts else t :: ts
  | [] => []

/-- Check the shape of a line: behind an optional label, nothing or a command with its operands. -/
def check (line : List Token) : Except Cause Unit :=
  match unlabelled line with
  | [] => .ok ()
  | command :: operands =>
    match command.mnemonic? with
    | none => .error .noCommand
    | some w =>
      if !(Mnemonic.ofArity operands.length).contains w then .error .wrongArity
      else if fits w.signature operands then .ok ()
      else .error .wrongKinds

theorem length_of_fits {slots : List Slot} {ts : List Token} (h : fits slots ts = true) :
    ts.length = slots.length := by
  induction slots generalizing ts with
  | nil => cases ts with
    | nil => rfl
    | cons => simp [fits] at h
  | cons slot slots ih => cases ts with
    | nil => simp [fits] at h
    | cons t ts =>
      simp only [fits, Bool.and_eq_true] at h
      simp [ih h.2]

theorem check_eq_ok_iff {line : List Token} :
    check line = .ok () ↔
      unlabelled line = [] ∨
        ∃ command operands w, unlabelled line = command :: operands ∧
          command.mnemonic? = some w ∧ fits w.signature operands = true := by
  unfold check
  constructor
  · intro h
    split at h
    · next h0 => exact .inl h0
    · next command operands hc =>
      split at h
      · cases h
      · next w hw =>
        split at h
        · cases h
        · split at h
          · next hf => exact .inr ⟨command, operands, w, hc, hw, hf⟩
          · cases h
  · rintro (h0 | ⟨command, operands, w, hc, hw, hf⟩)
    · rw [h0]
    · rw [hc]
      have hlen : operands.length = w.arity := (length_of_fits hf).trans w.length_signature
      simp only [hw, Mnemonic.contains_ofArity, hlen, hf, beq_self_eq_true, Bool.not_true,
        Bool.false_eq_true, if_false, if_true]

end Quadcopter

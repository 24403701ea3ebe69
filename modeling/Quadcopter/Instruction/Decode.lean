import Quadcopter.Decimal.Numeral
import Quadcopter.Instruction.Basic
import Quadcopter.Signature

/-!
# Quadcopter.Instruction.Decode

From the tokens of a line to an instruction. Each word has its own readers, one for each operand; a
reader looks at the kind of its token first and at the text second. Decoding does not trust the shape
of the line, it counts the operands again. Operands are read from left to right, and the first that
cannot be read is the fault.
-/

namespace Quadcopter

open Decimal

/-- The index that a text means, if it is below the size of a bank. -/
def registerIndex (size : Nat) (text : String) : Except Cause (Fin size) :=
  match index? text.toList with
  | some n => if h : n < size then .ok ⟨n, h⟩ else .error .noSuchRegister
  | none => .error .noSuchRegister

def integerLiteral (text : String) : Except Cause Value :=
  match integer? text.toList with
  | some n => if Arith.inRange n then .ok (.int (Int64.ofInt n)) else .error .invalidLiteral
  | none => .error .invalidLiteral

def floatLiteral (text : String) : Except Cause Value :=
  match float? text.toList with
  | some x => .ok (.float x)
  | none => .error .invalidLiteral

namespace Token

/-! ## Readers -/

/-- Read a register of a bank, named by a token of one of some kinds. -/
def register (size : Nat) (kinds : List Kind) (t : Token) : Except Cause (Fin size) :=
  if kinds.contains t.kind then registerIndex size t.text else .error .unknownValueType

def numberRegister : Token → Except Cause NumReg := register numberCount [.numberRegister]

def pictureRegister : Token → Except Cause PicReg := register pictureCount [.pictureRegister]

/-- Face registers are named by their index alone. -/
def faceRegister : Token → Except Cause FaceReg := register faceCount [.integer]

/-- Where a result goes: a number register, which may be named by its index alone. -/
def destination : Token → Except Cause NumReg := register numberCount [.numberRegister, .integer]

def numeric (t : Token) : Except Cause Operand :=
  match t.kind with
  | .numberRegister => (registerIndex numberCount t.text).map .register
  | .integer => (integerLiteral t.text).map .literal
  | .float => (floatLiteral t.text).map .literal
  | _ => .error .unknownValueType

/-- Read a text that stands for itself. -/
def plain (kind : Kind) (t : Token) : Except Cause String :=
  if t.kind = kind then .ok t.text else .error .unknownValueType

def displayable (t : Token) : Except Cause Shown :=
  match t.kind with
  | .text => .ok (.text t.text)
  | .pictureRegister => t.pictureRegister.map .picture
  | _ => t.numeric.map .number

end Token

def decodeOne {α : Type} (read : Token → Except Cause α) (f : α → Instruction) :
    List Token → Except Cause Instruction
  | [t] => (read t).map f
  | _ => .error .operandCount

def decodeTwo {α β : Type} (first : Token → Except Cause α) (second : Token → Except Cause β)
    (f : α → β → Instruction) : List Token → Except Cause Instruction
  | [s, t] =>
    match first s with
    | .error e => .error e
    | .ok a => (second t).map (f a)
  | _ => .error .operandCount

def decodeThree {α β γ : Type} (first : Token → Except Cause α) (second : Token → Except Cause β)
    (third : Token → Except Cause γ) (f : α → β → γ → Instruction) :
    List Token → Except Cause Instruction
  | [s, t, u] =>
    match first s with
    | .error e => .error e
    | .ok a =>
      match second t with
      | .error e => .error e
      | .ok b => (third u).map (f a b)
  | _ => .error .operandCount

namespace Mnemonic

open Token (numeric numberRegister pictureRegister faceRegister destination plain displayable)

def decodeMove (motion : Motion) : List Token → Except Cause Instruction :=
  decodeOne numeric (.move motion)

def decodeBranch (relation : Relation) : List Token → Except Cause Instruction :=
  decodeThree numeric numeric (plain .identifier) (.branch relation)

def decodeArithmetic (op : Arith) : List Token → Except Cause Instruction :=
  decodeThree numeric numeric destination (.arithmetic op)

def decode : Mnemonic → List Token → Except Cause Instruction
  | .nop => fun _ => .ok .nop
  | .halt => fun _ => .ok .halt
  | .jumpReturn => fun _ => .ok .jumpReturn
  | .popReturn => fun _ => .ok .popReturn
  | .takeoff => fun _ => .ok .takeoff
  | .land => fun _ => .ok .land
  | .pushNum => decodeOne numeric .pushNum
  | .pushReturn => decodeOne (plain .identifier) .pushReturn
  | .pushPic => decodeOne pictureRegister .pushPic
  | .popNum => decodeOne numberRegister .popNum
  | .popPic => decodeOne pictureRegister .popPic
  | .jump => decodeOne (plain .identifier) .jump
  | .forward => decodeMove .forward
  | .backward => decodeMove .backward
  | .left => decodeMove .left
  | .right => decodeMove .right
  | .up => decodeMove .up
  | .down => decodeMove .down
  | .rotateCw => decodeMove .rotateCw
  | .rotateCcw => decodeMove .rotateCcw
  | .display => decodeOne displayable .display
  | .takePic => decodeOne pictureRegister .takePic
  | .store => decodeTwo numeric numberRegister .store
  | .copy => decodeTwo numberRegister numberRegister .copy
  | .copyPic => decodeTwo pictureRegister pictureRegister .copyPic
  | .loadPic => decodeTwo (plain .text) pictureRegister .loadPic
  | .branchEq => decodeBranch .eq
  | .branchNe => decodeBranch .ne
  | .branchGt => decodeBranch .gt
  | .branchLt => decodeBranch .lt
  | .branchGe => decodeBranch .ge
  | .branchLe => decodeBranch .le
  | .add => decodeArithmetic .add
  | .sub => decodeArithmetic .sub
  | .mult => decodeArithmetic .mult
  | .div => decodeArithmetic .div
  | .idiv => decodeArithmetic .idiv
  | .rdiv => decodeArithmetic .rdiv
  | .detectFace => decodeThree pictureRegister faceRegister numberRegister .detectFace
  | .matchFace => decodeThree faceRegister faceRegister numberRegister .matchFace

end Mnemonic

/-- The instruction of a line of tokens. The first token is the command; no tokens do nothing. -/
def Instruction.decode : List Token → Except Cause Instruction
  | [] => .ok .nop
  | command :: operands =>
    match command.mnemonic? with
    | none => .error .unknownCommand
    | some w => if operands.length ≠ w.arity then .error .operandCount else w.decode operands

end Quadcopter

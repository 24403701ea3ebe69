import Quadcopter.Flight.Motion
import Quadcopter.Value.Arithmetic

/-!
# Quadcopter.Instruction.Basic

Instructions with their operands read. Registers are numbered below the size of their bank, so an
instruction cannot name one that does not exist; labels are names and are resolved when the
instruction runs.
-/

namespace Quadcopter

def numberCount : Nat := 16

def pictureCount : Nat := 8

def faceCount : Nat := 8

abbrev NumReg := Fin numberCount

abbrev PicReg := Fin pictureCount

abbrev FaceReg := Fin faceCount

/-- Where a number comes from. -/
inductive Operand where
  | register (r : NumReg)
  | literal (v : Value)
  deriving Repr

inductive Shown where
  | text (s : String)
  | number (source : Operand)
  | picture (source : PicReg)
  deriving Repr

inductive Instruction where
  -- control
  | nop
  | halt
  | jump (label : String)
  | jumpReturn
  | pushReturn (label : String)
  | popReturn
  | branch (relation : Relation) (lhs rhs : Operand) (label : String)
  -- data
  | store (source : Operand) (dest : NumReg)
  | copy (source dest : NumReg)
  | copyPic (source dest : PicReg)
  | pushNum (source : Operand)
  | pushPic (source : PicReg)
  | popNum (dest : NumReg)
  | popPic (dest : PicReg)
  | arithmetic (op : Arith) (lhs rhs : Operand) (dest : NumReg)
  -- flight
  | takeoff
  | land
  | move (motion : Motion) (amount : Operand)
  -- vision
  | display (what : Shown)
  | takePic (dest : PicReg)
  | loadPic (file : String) (dest : PicReg)
  | detectFace (picture : PicReg) (face : FaceReg) (dest : NumReg)
  | matchFace (first second : FaceReg) (dest : NumReg)
  deriving Repr

end Quadcopter

/-!
# Quadcopter.Mnemonic

The forty instruction words, in their fixed order, with their spellings.

Main statement: a spelling names the word it is the spelling of (`ofSpelling?_spelling`).
-/

namespace Quadcopter

inductive Mnemonic where
  | nop | halt | jumpReturn | popReturn | takeoff | land
  | pushNum | pushReturn | pushPic | popNum | popPic | jump
  | forward | backward | left | right | up | down | rotateCw | rotateCcw
  | display | takePic
  | store | copy | copyPic | loadPic
  | branchEq | branchNe | branchGt | branchLt | branchGe | branchLe
  | add | sub | mult | div | idiv | rdiv
  | detectFace | matchFace
  deriving DecidableEq, Repr

namespace Mnemonic

def all : List Mnemonic :=
  [.nop, .halt, .jumpReturn, .popReturn, .takeoff, .land,
   .pushNum, .pushReturn, .pushPic, .popNum, .popPic, .jump,
   .forward, .backward, .left, .right, .up, .down, .rotateCw, .rotateCcw,
   .display, .takePic,
   .store, .copy, .copyPic, .loadPic,
   .branchEq, .branchNe, .branchGt, .branchLt, .branchGe, .branchLe,
   .add, .sub, .mult, .div, .idiv, .rdiv,
   .detectFace, .matchFace]

def spelling : Mnemonic → String
  | .nop => "NOP"
  | .halt => "HALT"
  | .jumpReturn => "JUMP_RETURN"
  | .popReturn => "POP_RETURN"
  | .takeoff => "TAKEOFF"
  | .land => "LAND"
  | .pushNum => "PUSH_NUM"
  | .pushReturn => "PUSH_RETURN"
  | .pushPic => "PUSH_PIC"
  | .popNum => "POP_NUM"
  | .popPic => "POP_PIC"
  | .jump => "JUMP"
  | .forward => "FORWARD"
  | .backward => "BACKWARD"
  | .left => "LEFT"
  | .right => "RIGHT"
  | .up => "UP"
  | .down => "DOWN"
  | .rotateCw => "ROTATE_CW"
  | .rotateCcw => "ROTATE_CCW"
  | .display => "DISPLAY"
  | .takePic => "TAKE_PIC"
  | .store => "STORE"
  | .copy => "COPY"
  | .copyPic => "COPY_PIC"
  | .loadPic => "LOAD_PIC"
  | .branchEq => "BRANCH_EQ"
  | .branchNe => "BRANCH_NE"
  | .branchGt => "BRANCH_GT"
  | .branchLt => "BRANCH_LT"
  | .branchGe => "BRANCH_GE"
  | .branchLe => "BRANCH_LE"
  | .add => "ADD"
  | .sub => "SUB"
  | .mult => "MULT"
  | .div => "DIV"
  | .idiv => "IDIV"
  | .rdiv => "RDIV"
  | .detectFace => "DETECT_FACE"
  | .matchFace => "MATCH_FACE"

/-- The word that a text spells, if any. -/
def ofSpelling? (s : String) : Option Mnemonic := all.find? fun w => w.spelling == s

def index (w : Mnemonic) : Nat := all.idxOf w

theorem ofSpelling?_spelling (w : Mnemonic) : ofSpelling? w.spelling = some w := by
  cases w <;> rfl

theorem spelling_of_ofSpelling? {s : String} {w : Mnemonic} (h : ofSpelling? s = some w) :
    w.spelling = s := by
  simpa using List.find?_some h

end Mnemonic
end Quadcopter

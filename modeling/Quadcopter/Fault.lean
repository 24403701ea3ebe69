import Quadcopter.Picture.Defect

/-!
# Quadcopter.Fault

What can go wrong, from reading a line to flying it. A `Cause` says what happened, a `Fault` adds the
source line it happened in, and a `Report` is the text form of both. The wording of every cause is
in `Cause.text` and nowhere else.
-/

namespace Quadcopter

/-- The four families of faults. The first two arise before a program runs. -/
inductive Code where
  | tokenizer
  | validation
  | software
  | hardware
  deriving DecidableEq, Repr

namespace Code

def number : Code → Nat
  | .tokenizer => 1
  | .validation => 2
  | .software => 3
  | .hardware => 4

def title : Code → String
  | .tokenizer => "TOKENIZER ERROR"
  | .validation => "VALIDATION ERROR"
  | .software => "SOFTWARE ERROR"
  | .hardware => "HARDWARE ERROR"

/-- Whether faults of this family keep a program from being compiled. -/
def isCompile : Code → Bool
  | .tokenizer | .validation => true
  | .software | .hardware => false

end Code

inductive StackName where
  | number
  | picture
  | ret
  deriving DecidableEq, Repr

def StackName.text : StackName → String
  | .number => "NUMBER"
  | .picture => "PICTURE"
  | .ret => "RETURN"

inductive Cause where
  -- reading a line
  | incompleteToken
  | strangeSymbol
  | strangeInRegister
  | strangeInPictureRegister
  | strangeInNumber
  | strangeInIdentifier
  | missingBlank
  | lineTooLong
  -- checking its shape
  | noCommand
  | wrongArity
  | wrongKinds
  -- decoding it
  | unknownCommand
  | operandCount
  | unknownValueType
  | noSuchRegister
  | invalidLiteral
  -- running it
  | pcOutOfRange
  | noSuchLabel (name : String)
  | integerOverflow
  | divideByZero
  | stackOverflow (stack : StackName)
  | stackUnderflow (stack : StackName)
  | emptyPicture
  | emptyFace
  | unloadablePicture (path : String) (why : Picture.Defect)
  | unsavablePicture (path : String) (why : Picture.Defect)
  -- the vehicle
  | noConnection
  | manoeuvreRefused
  | noFrame
  -- the host's files
  | unopenable (path : String) (why : Files.Refusal)
  | uncreatable (path : String) (why : Files.Refusal)
  | storage (why : Files.Refusal)
  | nothingToSave
  deriving DecidableEq, Repr

namespace Cause

def code : Cause → Code
  | .incompleteToken | .strangeSymbol | .strangeInRegister | .strangeInPictureRegister
  | .strangeInNumber | .strangeInIdentifier | .missingBlank | .lineTooLong => .tokenizer
  | .noCommand | .wrongArity | .wrongKinds => .validation
  | .noConnection | .manoeuvreRefused | .noFrame => .hardware
  | .unknownCommand | .operandCount | .unknownValueType | .noSuchRegister | .invalidLiteral
  | .pcOutOfRange | .noSuchLabel _ | .integerOverflow | .divideByZero | .stackOverflow _ | .stackUnderflow _
  | .emptyPicture | .emptyFace | .unloadablePicture .. | .unsavablePicture .. | .unopenable ..
  | .uncreatable .. | .storage _ | .nothingToSave => .software

def text : Cause → String
  | .incompleteToken => "UNKNOWN/INCOMPLETE TOKEN"
  | .strangeSymbol => "UNKNOWN/INCORRECT SYMBOL IN TOKEN"
  | .strangeInRegister => "UNKNOWN/INCORRECT SYMBOL IN REGISTER TOKEN"
  | .strangeInPictureRegister => "UNKNOWN/INCORRECT SYMBOL IN PICTURE REGISTER TOKEN"
  | .strangeInNumber => "UNKNOWN/INCORRECT SYMBOL IN NUMBER TOKEN"
  | .strangeInIdentifier => "UNKNOWN/INCORRECT SYMBOL IN IDENTIFIER TOKEN"
  | .missingBlank => "MISSING WHITESPACE AFTER TOKEN"
  | .lineTooLong => "LINE TOO LONG"
  | .noCommand => "LINE DOES NOT START WITH A COMMAND"
  | .wrongArity => "INVALID NUMBER OF ARGUMENTS"
  | .wrongKinds => "INVALID ARGUMENT TYPE(S)"
  | .unknownCommand => "UNKNOWN COMMAND"
  | .operandCount => "INVALID NUMBER OF ARGUMENTS"
  | .unknownValueType => "UNKNOWN VALUE TYPE"
  | .noSuchRegister => "NON-EXISTENT REGISTER"
  | .invalidLiteral => "INVALID NUMERIC LITERAL"
  | .pcOutOfRange => "PROGRAM COUNTER OUT OF RANGE"
  | .noSuchLabel name => "CANNOT FIND LABEL " ++ name
  | .integerOverflow => "INTEGER OVERFLOW"
  | .divideByZero => "DIVIDE BY ZERO"
  | .stackOverflow stack => stack.text ++ " STACK OVERFLOW"
  | .stackUnderflow stack => stack.text ++ " STACK UNDERFLOW"
  | .emptyPicture => "EMPTY PICTURE REGISTER"
  | .emptyFace => "EMPTY FACE REGISTER"
  | .unloadablePicture path why => "UNABLE TO LOAD PICTURE " ++ path ++ ": " ++ why.message
  | .unsavablePicture path why => "UNABLE TO SAVE PICTURE " ++ path ++ ": " ++ why.message
  | .noConnection => "UNABLE TO CONNECT TO DRONE"
  | .manoeuvreRefused => "COULD NOT COMPLETE MANEUVER"
  | .noFrame => "NO FRAME RECEIVED FROM DRONE"
  | .unopenable path why => "UNABLE TO OPEN " ++ path ++ ": " ++ why.message
  | .uncreatable path why => "UNABLE TO CREATE " ++ path ++ ": " ++ why.message
  | .storage why => why.message
  | .nothingToSave => "NOTHING TO SAVE"

end Cause

/-- A fault in its text form: a family, the source line if there is one, and a wording. -/
structure Report where
  code : Code
  line : Option Nat
  text : String
  deriving DecidableEq, Repr

/-- The report on one line: the title, then the line number, then the wording if it has one. -/
def Report.render (r : Report) : String :=
  r.code.title
    ++ (match r.line with
        | some n => " IN " ++ toString n
        | none => "")
    ++ (if r.text.isEmpty then "" else "; " ++ r.text)

/-- The report marked as such, for inspection. -/
def Report.inspect (r : Report) : String := "Error \x7b " ++ r.render ++ " \x7d"

/-- A cause and the source line it arose in, counted from one. -/
structure Fault where
  cause : Cause
  line : Option Nat := none
  deriving DecidableEq, Repr

namespace Fault

def code (f : Fault) : Code := f.cause.code

def text (f : Fault) : String := f.cause.text

def report (f : Fault) : Report := ⟨f.code, f.line, f.text⟩

def render (f : Fault) : String := f.report.render

end Fault

def Cause.inLine (c : Cause) (number : Nat) : Fault := ⟨c, some number⟩

end Quadcopter

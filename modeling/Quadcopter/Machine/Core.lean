import Quadcopter.Flight.Vehicle
import Quadcopter.Instruction.Decode
import Quadcopter.Machine.Seeing
import Quadcopter.Picture.Format
import Quadcopter.Program
import Quadcopter.Stack
import Quadcopter.Text.Lowercase

/-!
# Quadcopter.Machine.Core

The registers and stacks of the machine, and what each instruction does to them. The vehicle, the
vision backend and the core are given back in any case, also by an instruction that fails; whatever
can go wrong is asked before anything is written.
-/

namespace Quadcopter

inductive Event where
  | running
  | stopped
  | print (s : String)
  | show (photo : Photo)
  | moved (position : Position)
  | error (fault : Fault)

/-- Registers, stacks and the reckoned flight of a run. -/
structure Core where
  pc : Nat
  numbers : Vector Value numberCount
  pictures : Vector (Option Photo) pictureCount
  faces : Vector Face faceCount
  numberStack : Stack Value
  pictureStack : Stack (Option Photo)
  returnStack : Stack Nat
  returnRegister : Nat
  /-- Where the vehicle is if it did what it agreed to. -/
  tracker : Reckoning
  /-- Where the flight started and the positions after each motion, the last first. -/
  trail : List Position
  /-- How many pictures this run has made. -/
  made : Nat

namespace Core

def initial : Core where
  pc := 0
  numbers := .replicate _ (.int 0)
  pictures := .replicate _ none
  faces := .replicate _ .empty
  numberStack := .empty
  pictureStack := .empty
  returnStack := .empty
  returnRegister := 0
  tracker := .start
  trail := [.origin]
  made := 0

instance : Inhabited Core := ⟨initial⟩

/-- What a run has written, put back piece by piece for the next one. -/
def reset (c : Core) : Core :=
  { c with
    pc := 0
    numbers := .replicate _ (.int 0)
    pictures := .replicate _ none
    faces := .replicate _ .empty
    numberStack := .empty
    pictureStack := .empty
    returnStack := .empty
    returnRegister := 0
    tracker := .start
    trail := [.origin]
    made := 0 }

def path (c : Core) : List Position := c.trail.reverse

def value (c : Core) : Operand → Value
  | .register r => c.numbers.get r
  | .literal v => v

def photo (c : Core) (p : PicReg) : Except Cause Photo :=
  match c.pictures.get p with
  | some photo => .ok photo
  | none => .error .emptyPicture

def next (c : Core) : Core := { c with pc := c.pc + 1 }

def setNumber (c : Core) (r : NumReg) (v : Value) : Core :=
  { c.next with numbers := c.numbers.set r v r.isLt }

def setPicture (c : Core) (p : PicReg) (photo : Option Photo) : Core :=
  { c.next with pictures := c.pictures.set p photo p.isLt }

def jump (c : Core) (program : Program) (label : String) : Except Cause Core :=
  match program.lookup label with
  | .error e => .error e
  | .ok address => .ok { c with pc := address }

/-- Note an order that the vehicle has carried out, and go on. -/
def follow (c : Core) (o : Order) : Core := { c.next with tracker := c.tracker.obey o }

/-- Note a motion that the vehicle has carried out: it also adds to the path. -/
def travel (c : Core) (motion : Motion) (amount : Int64) : Core :=
  let c := c.follow (.move motion amount)
  { c with trail := c.tracker.position :: c.trail }

def keep (c : Core) (p : PicReg) (photo : Photo) : Core :=
  { c.setPicture p (some photo) with made := c.made + 1 }

def pushReturn (c : Core) (program : Program) (label : String) : Except Cause Core :=
  match program.lookup label with
  | .error e => .error e
  | .ok address =>
    (c.returnStack.push .ret address).map fun s => { c.next with returnStack := s }

/-- Pop an address into the return register. -/
def popReturn (c : Core) : Except Cause Core :=
  (c.returnStack.pop .ret).map fun (address, s) =>
    { c.next with returnStack := s, returnRegister := address }

def branch (c : Core) (program : Program) (relation : Relation) (lhs rhs : Operand)
    (label : String) : Except Cause Core :=
  if relation.holds ((c.value lhs).compare? (c.value rhs)) then c.jump program label
  else .ok c.next

def pushNumber (c : Core) (v : Value) : Except Cause Core :=
  (c.numberStack.push .number v).map fun s => { c.next with numberStack := s }

def popNumber (c : Core) (dest : NumReg) : Except Cause Core :=
  (c.numberStack.pop .number).map fun (v, s) => { c.setNumber dest v with numberStack := s }

/-- Push what a picture register holds, be it nothing. -/
def pushPicture (c : Core) (photo : Option Photo) : Except Cause Core :=
  (c.pictureStack.push .picture photo).map fun s => { c.next with pictureStack := s }

def popPicture (c : Core) (dest : PicReg) : Except Cause Core :=
  (c.pictureStack.pop .picture).map fun (photo, s) =>
    { c.setPicture dest photo with pictureStack := s }

def arithmetic (c : Core) (op : Arith) (lhs rhs : Operand) (dest : NumReg) : Except Cause Core :=
  (op.apply (c.value lhs) (c.value rhs)).map (c.setNumber dest)

def shown (c : Core) : Shown → Except Cause Event
  | .text s => .ok (.print s)
  | .number source => .ok (.print (c.value source).render)
  | .picture source => (c.photo source).map .show

end Core

/-- Load a picture. Source is upper cased, so the name in lower case is tried as well; if neither can
be loaded the fault is that of the name as it stands. -/
def loadEitherCase (files : Files) (name : String) : Except Cause Picture :=
  match Picture.load files name with
  | .ok p => .ok p
  | .error e =>
    match Picture.load files (String.ofList (Text.lower name.toList)) with
    | .ok p => .ok p
    | .error _ => .error e

/-- Look through the camera up to so many times until there is a frame. -/
def awaitFrame {V : Type} [Vehicle V] : Nat → V → Option Frame × V
  | 0, v => (none, v)
  | n + 1, v =>
    match Vehicle.frame v with
    | (some f, v) => (some f, v)
    | (none, v) => awaitFrame n v

/-- What became of an instruction: the vehicle, the vision backend and the core after it, and the
event it tells or the cause of its failure. -/
structure Result (V E : Type) where
  vehicle : V
  vision : E
  core : Core
  outcome : Except Cause Event

namespace Core

variable {V E : Type} [Vehicle V] [Vision E]

/-- Go on with the core that an instruction gives, if it gives one. -/
def proceed (c : Core) (v : V) (e : E) : Except Cause Core → Result V E
  | .ok c => ⟨v, e, c, .ok .running⟩
  | .error cause => ⟨v, e, c, .error cause⟩

/-- Tell an event and go on, if there is something to tell. -/
def tell (c : Core) (v : V) (e : E) : Except Cause Event → Result V E
  | .ok event => ⟨v, e, c.next, .ok event⟩
  | .error cause => ⟨v, e, c, .error cause⟩

/-- Give the vehicle an order; if it is carried out, go on with the core `done`. -/
def order (c : Core) (v : V) (e : E) (o : Order) (done : Core) (event : Event) : Result V E :=
  match Vehicle.perform o v with
  | (true, v) => ⟨v, e, done, .ok event⟩
  | (false, v) => ⟨v, e, c, .error .manoeuvreRefused⟩

/-- Look for a face in a picture. The first one found goes into a face register. -/
def detect (c : Core) (v : V) (e : E) (photo : Photo) (face : FaceReg) (dest : NumReg) :
    Result V E :=
  match Vision.findFaces photo.picture e with
  | ([], e) => ⟨v, e, c.setNumber dest (.int 0), .ok .running⟩
  | (detection :: _, e) =>
    let (encoding, e) := Vision.encode photo.picture detection e
    let c := { c with faces := c.faces.set face ⟨some detection, encoding⟩ face.isLt }
    ⟨v, e, c.setNumber dest (.int 1), .ok .running⟩

def likeness (c : Core) (v : V) (e : E) (first second : FaceReg) (dest : NumReg) : Result V E :=
  match (c.faces.get first).encoding, (c.faces.get second).encoding with
  | some a, some b =>
    let (x, e) := Vision.similarity a b e
    ⟨v, e, c.setNumber dest (.float x), .ok .running⟩
  | _, _ => ⟨v, e, c, .error .emptyFace⟩

/-- Carry out an instruction. `looks` is how often the camera is asked for a frame. -/
def execute (files : Files) (looks : Nat) (program : Program) (c : Core) (v : V) (e : E) :
    Instruction → Result V E
  | .nop => ⟨v, e, c.next, .ok .running⟩
  | .halt => ⟨v, e, c.next, .ok .stopped⟩
  | .jump label => c.proceed v e (c.jump program label)
  | .jumpReturn => ⟨v, e, { c with pc := c.returnRegister }, .ok .running⟩
  | .pushReturn label => c.proceed v e (c.pushReturn program label)
  | .popReturn => c.proceed v e c.popReturn
  | .branch relation lhs rhs label => c.proceed v e (c.branch program relation lhs rhs label)
  | .store source dest => ⟨v, e, c.setNumber dest (c.value source), .ok .running⟩
  | .copy source dest => ⟨v, e, c.setNumber dest (c.numbers.get source), .ok .running⟩
  | .copyPic source dest => ⟨v, e, c.setPicture dest (c.pictures.get source), .ok .running⟩
  | .pushNum source => c.proceed v e (c.pushNumber (c.value source))
  | .pushPic source => c.proceed v e (c.pushPicture (c.pictures.get source))
  | .popNum dest => c.proceed v e (c.popNumber dest)
  | .popPic dest => c.proceed v e (c.popPicture dest)
  | .arithmetic op lhs rhs dest => c.proceed v e (c.arithmetic op lhs rhs dest)
  | .takeoff => c.order v e .takeoff (c.follow .takeoff) .running
  | .land => c.order v e .land (c.follow .land) .running
  | .move motion operand =>
    let amount := (c.value operand).truncate
    let done := c.travel motion amount
    c.order v e (.move motion amount) done (.moved done.tracker.position)
  | .display what => c.tell v e (c.shown what)
  | .takePic dest =>
    match awaitFrame looks v with
    | (some frame, v) => ⟨v, e, c.keep dest (frame.photo c.made), .ok .running⟩
    | (none, v) => ⟨v, e, c, .error .noFrame⟩
  | .loadPic name dest =>
    c.proceed v e ((loadEitherCase files name).map fun p => c.keep dest ⟨.made c.made, p⟩)
  | .detectFace picture face dest =>
    match c.photo picture with
    | .error cause => ⟨v, e, c, .error cause⟩
    | .ok photo => c.detect v e photo face dest
  | .matchFace first second dest => c.likeness v e first second dest

end Core
end Quadcopter

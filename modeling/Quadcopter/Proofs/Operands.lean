import Quadcopter.Instruction.Decode

/-!
# Quadcopter.Proofs.Operands

Reading operands by signature. The check of a line and the decoder have a table each, one of classes of
operands and one of readers. Here a class of operands gets the type of its meanings and one reader, and
the tables are compared word by word.

* `readOperands`: the operands of a signature, read from left to right.
* `decode_eq_read`: the readers of every word are those of its signature.
* `decode_cons`: so a line is decoded by the signature of its command.
-/

namespace Quadcopter

/-- The source of a number, by the kind of its token. -/
def numericOperand (t : Token) : Except Cause Operand :=
  match t.kind with
  | .numberRegister => (registerIndex numberCount t.text).map .register
  | .float => (floatLiteral t.text).map .literal
  | _ => (integerLiteral t.text).map .literal

namespace Slot

/-- What an operand in a slot means. -/
@[reducible] def Meaning : Slot → Type
  | .numeric => Operand
  | .numberRegister => NumReg
  | .pictureRegister => PicReg
  | .identifier => String
  | .text => String
  | .displayable => Shown
  | .destination => NumReg
  | .faceIndex => FaceReg

/-- The meaning of a token whose kind the slot accepts. -/
def meaning (t : Token) : (slot : Slot) → Except Cause slot.Meaning
  | .numeric => numericOperand t
  | .numberRegister => registerIndex numberCount t.text
  | .pictureRegister => registerIndex pictureCount t.text
  | .identifier => .ok t.text
  | .text => .ok t.text
  | .displayable =>
    match t.kind with
    | .text => .ok (.text t.text)
    | .pictureRegister => (registerIndex pictureCount t.text).map .picture
    | _ => (numericOperand t).map .number
  | .destination => registerIndex numberCount t.text
  | .faceIndex => registerIndex faceCount t.text

/-- Read a token in a slot. -/
def read (slot : Slot) (t : Token) : Except Cause slot.Meaning :=
  if slot.accepts t.kind then slot.meaning t else .error .unknownValueType

end Slot

/-- The meanings of the operands of a signature. -/
@[reducible] def Operands : List Slot → Type
  | [] => Unit
  | slot :: slots => slot.Meaning × Operands slots

/-- Read operands from left to right. -/
def readOperands : (slots : List Slot) → List Token → Except Cause (Operands slots)
  | [], [] => .ok ()
  | slot :: slots, t :: ts =>
    match slot.read t with
    | .error e => .error e
    | .ok a =>
      match readOperands slots ts with
      | .error e => .error e
      | .ok rest => .ok (a, rest)
  | _, _ => .error .operandCount

/-- The instruction of a word with its operands. -/
def Mnemonic.instruction : (w : Mnemonic) → Operands w.signature → Instruction
  | .nop, _ => .nop
  | .halt, _ => .halt
  | .jumpReturn, _ => .jumpReturn
  | .popReturn, _ => .popReturn
  | .takeoff, _ => .takeoff
  | .land, _ => .land
  | .pushNum, (a, _) => .pushNum a
  | .pushReturn, (l, _) => .pushReturn l
  | .pushPic, (p, _) => .pushPic p
  | .popNum, (r, _) => .popNum r
  | .popPic, (p, _) => .popPic p
  | .jump, (l, _) => .jump l
  | .forward, (a, _) => .move .forward a
  | .backward, (a, _) => .move .backward a
  | .left, (a, _) => .move .left a
  | .right, (a, _) => .move .right a
  | .up, (a, _) => .move .up a
  | .down, (a, _) => .move .down a
  | .rotateCw, (a, _) => .move .rotateCw a
  | .rotateCcw, (a, _) => .move .rotateCcw a
  | .display, (s, _) => .display s
  | .takePic, (p, _) => .takePic p
  | .store, (a, r, _) => .store a r
  | .copy, (r, s, _) => .copy r s
  | .copyPic, (p, q, _) => .copyPic p q
  | .loadPic, (s, p, _) => .loadPic s p
  | .branchEq, (a, b, l, _) => .branch .eq a b l
  | .branchNe, (a, b, l, _) => .branch .ne a b l
  | .branchGt, (a, b, l, _) => .branch .gt a b l
  | .branchLt, (a, b, l, _) => .branch .lt a b l
  | .branchGe, (a, b, l, _) => .branch .ge a b l
  | .branchLe, (a, b, l, _) => .branch .le a b l
  | .add, (a, b, r, _) => .arithmetic .add a b r
  | .sub, (a, b, r, _) => .arithmetic .sub a b r
  | .mult, (a, b, r, _) => .arithmetic .mult a b r
  | .div, (a, b, r, _) => .arithmetic .div a b r
  | .idiv, (a, b, r, _) => .arithmetic .idiv a b r
  | .rdiv, (a, b, r, _) => .arithmetic .rdiv a b r
  | .detectFace, (p, f, r, _) => .detectFace p f r
  | .matchFace, (f, g, r, _) => .matchFace f g r

/-! ## The readers of the slots -/

section Readers

variable (t : Token)

theorem numeric_eq_read : t.numeric = Slot.numeric.read t := by
  obtain ⟨kind, text⟩ := t
  cases kind <;> rfl

theorem numberRegister_eq_read : t.numberRegister = Slot.numberRegister.read t := by
  obtain ⟨kind, text⟩ := t
  cases kind <;> rfl

theorem pictureRegister_eq_read : t.pictureRegister = Slot.pictureRegister.read t := by
  obtain ⟨kind, text⟩ := t
  cases kind <;> rfl

theorem faceRegister_eq_read : t.faceRegister = Slot.faceIndex.read t := by
  obtain ⟨kind, text⟩ := t
  cases kind <;> rfl

theorem destination_eq_read : t.destination = Slot.destination.read t := by
  obtain ⟨kind, text⟩ := t
  cases kind <;> rfl

theorem identifier_eq_read : t.plain .identifier = Slot.identifier.read t := by
  obtain ⟨kind, text⟩ := t
  cases kind <;> rfl

theorem text_eq_read : t.plain .text = Slot.text.read t := by
  obtain ⟨kind, text⟩ := t
  cases kind <;> rfl

theorem displayable_eq_read : t.displayable = Slot.displayable.read t := by
  obtain ⟨kind, text⟩ := t
  cases kind <;> rfl

end Readers

/-! ## The readers of the words -/

section Rows

variable (slot₁ slot₂ slot₃ : Slot)

theorem decodeOne_eq_read {read : Token → Except Cause slot₁.Meaning} {f : slot₁.Meaning → Instruction}
    (hread : ∀ t, read t = slot₁.read t) {ts : List Token} (hlen : ts.length = 1) :
    decodeOne read f ts = (readOperands [slot₁] ts).map fun a => f a.1 := by
  match ts, hlen with
  | [t], _ =>
    simp only [decodeOne, readOperands, hread]
    cases slot₁.read t <;> rfl

theorem decodeTwo_eq_read {first : Token → Except Cause slot₁.Meaning}
    {second : Token → Except Cause slot₂.Meaning} {f : slot₁.Meaning → slot₂.Meaning → Instruction}
    (hfirst : ∀ t, first t = slot₁.read t) (hsecond : ∀ t, second t = slot₂.read t)
    {ts : List Token} (hlen : ts.length = 2) :
    decodeTwo first second f ts = (readOperands [slot₁, slot₂] ts).map fun a => f a.1 a.2.1 := by
  match ts, hlen with
  | [s, t], _ =>
    simp only [decodeTwo, readOperands, hfirst, hsecond]
    cases slot₁.read s with
    | error e => rfl
    | ok a => cases slot₂.read t <;> rfl

theorem decodeThree_eq_read {first : Token → Except Cause slot₁.Meaning}
    {second : Token → Except Cause slot₂.Meaning} {third : Token → Except Cause slot₃.Meaning}
    {f : slot₁.Meaning → slot₂.Meaning → slot₃.Meaning → Instruction}
    (hfirst : ∀ t, first t = slot₁.read t) (hsecond : ∀ t, second t = slot₂.read t)
    (hthird : ∀ t, third t = slot₃.read t) {ts : List Token} (hlen : ts.length = 3) :
    decodeThree first second third f ts =
      (readOperands [slot₁, slot₂, slot₃] ts).map fun a => f a.1 a.2.1 a.2.2.1 := by
  match ts, hlen with
  | [s, t, u], _ =>
    simp only [decodeThree, readOperands, hfirst, hsecond, hthird]
    cases slot₁.read s with
    | error e => rfl
    | ok a =>
      cases slot₂.read t with
      | error e => rfl
      | ok b => cases slot₃.read u <;> rfl

end Rows

/-- Word by word: the readers of the decoder are those of the signature. -/
theorem decode_eq_read (w : Mnemonic) {ts : List Token} (hlen : ts.length = w.arity) :
    w.decode ts = (readOperands w.signature ts).map w.instruction := by
  cases w with
  | nop | halt | jumpReturn | popReturn | takeoff | land =>
    obtain rfl := List.length_eq_zero_iff.1 hlen
    rfl
  | pushNum | forward | backward | left | right | up | down | rotateCw | rotateCcw =>
    exact decodeOne_eq_read .numeric numeric_eq_read hlen
  | pushReturn | jump => exact decodeOne_eq_read .identifier identifier_eq_read hlen
  | pushPic | popPic | takePic => exact decodeOne_eq_read .pictureRegister pictureRegister_eq_read hlen
  | popNum => exact decodeOne_eq_read .numberRegister numberRegister_eq_read hlen
  | display => exact decodeOne_eq_read .displayable displayable_eq_read hlen
  | store => exact decodeTwo_eq_read .numeric .numberRegister numeric_eq_read numberRegister_eq_read hlen
  | copy =>
    exact decodeTwo_eq_read .numberRegister .numberRegister numberRegister_eq_read
      numberRegister_eq_read hlen
  | copyPic =>
    exact decodeTwo_eq_read .pictureRegister .pictureRegister pictureRegister_eq_read
      pictureRegister_eq_read hlen
  | loadPic => exact decodeTwo_eq_read .text .pictureRegister text_eq_read pictureRegister_eq_read hlen
  | branchEq | branchNe | branchGt | branchLt | branchGe | branchLe =>
    exact decodeThree_eq_read .numeric .numeric .identifier numeric_eq_read numeric_eq_read
      identifier_eq_read hlen
  | add | sub | mult | div | idiv | rdiv =>
    exact decodeThree_eq_read .numeric .numeric .destination numeric_eq_read numeric_eq_read
      destination_eq_read hlen
  | detectFace =>
    exact decodeThree_eq_read .pictureRegister .faceIndex .numberRegister pictureRegister_eq_read
      faceRegister_eq_read numberRegister_eq_read hlen
  | matchFace =>
    exact decodeThree_eq_read .faceIndex .faceIndex .numberRegister faceRegister_eq_read
      faceRegister_eq_read numberRegister_eq_read hlen

/-- A line is decoded by the signature of its command. -/
theorem decode_cons (command : Token) (operands : List Token) :
    Instruction.decode (command :: operands) =
      match command.mnemonic? with
      | none => .error .unknownCommand
      | some w =>
        if operands.length ≠ w.arity then .error .operandCount
        else
          match readOperands w.signature operands with
          | .error e => .error e
          | .ok a => .ok (w.instruction a) := by
  rw [Instruction.decode]
  cases command.mnemonic? with
  | none => rfl
  | some w =>
    by_cases hlen : operands.length = w.arity
    · simp only [hlen, ne_eq, not_true_eq_false, if_false, decode_eq_read w hlen]
      cases readOperands w.signature operands <;> rfl
    · simp only [ne_eq, hlen, not_false_eq_true, if_true]

end Quadcopter

import Quadcopter.Machine.Core
import Quadcopter.Proofs.Compilation

/-!
# Quadcopter.Proofs.Registers

The registers of an instruction, and those that the tokens of its line name. The text of a token is
read as a number before anything else is known about it; decoding lets an instruction through only if
every such number is below the size of its bank.

* `named_of_read`, `named_of_readOperands`: what an operand means has the registers that its token names.
* `registers_of_decode`: an instruction uses just the registers that its line names, and they are there.
-/

namespace Quadcopter

/-- The banks of registers. -/
inductive Bank where
  | number
  | picture
  | face
  deriving DecidableEq, Repr

/-- The bank of the registers that a kind of token stands for. -/
def Kind.bank? : Kind → Option Bank
  | .numberRegister => some .number
  | .pictureRegister => some .picture
  | _ => none

/-- The bank in which a token of a kind names a register. In two slots an integer is enough. -/
def Slot.bank? (kind : Kind) : Slot → Option Bank
  | .destination => some .number
  | .faceIndex => some .face
  | _ => kind.bank?

/-- The register that a token names in a slot: the bank and the number that the text means. -/
def Slot.named (slot : Slot) (t : Token) : Option (Bank × Option Nat) :=
  (slot.bank? t.kind).map fun bank => (bank, Decimal.index? t.text.toList)

/-- The registers that a line names. -/
def namedRegisters : List Token → List (Bank × Option Nat)
  | [] => []
  | command :: operands =>
    match command.mnemonic? with
    | none => []
    | some w => (w.signature.zip operands).filterMap fun (slot, t) => slot.named t

def Operand.registers : Operand → List (Bank × Nat)
  | .register r => [(.number, r)]
  | .literal _ => []

def Shown.registers : Shown → List (Bank × Nat)
  | .text _ => []
  | .number source => source.registers
  | .picture source => [(.picture, source)]

/-- The registers that an instruction reads and writes. -/
def Instruction.registers : Instruction → List (Bank × Nat)
  | .nop | .halt | .jump _ | .jumpReturn | .pushReturn _ | .popReturn | .takeoff | .land => []
  | .branch _ lhs rhs _ => lhs.registers ++ rhs.registers
  | .store source dest => source.registers ++ [(Bank.number, dest.val)]
  | .copy source dest => [(.number, source), (.number, dest)]
  | .copyPic source dest => [(.picture, source), (.picture, dest)]
  | .pushNum source | .move _ source => source.registers
  | .pushPic r | .popPic r | .takePic r | .loadPic _ r => [(.picture, r)]
  | .popNum dest => [(Bank.number, dest.val)]
  | .arithmetic _ lhs rhs dest => lhs.registers ++ (rhs.registers ++ [(Bank.number, dest.val)])
  | .display what => what.registers
  | .detectFace picture face dest => [(.picture, picture), (.face, face), (.number, dest)]
  | .matchFace first second dest => [(.face, first), (.face, second), (.number, dest)]

def Slot.registers : (slot : Slot) → slot.Meaning → List (Bank × Nat)
  | .numeric, source => source.registers
  | .numberRegister, r | .destination, r => [(.number, r)]
  | .pictureRegister, r => [(.picture, r)]
  | .identifier, _ | .text, _ => []
  | .displayable, what => what.registers
  | .faceIndex, r => [(.face, r)]

def operandRegisters : (slots : List Slot) → Operands slots → List (Bank × Nat)
  | [], _ => []
  | slot :: slots, (a, rest) => slot.registers a ++ operandRegisters slots rest

theorem registers_instruction (w : Mnemonic) (a : Operands w.signature) :
    (w.instruction a).registers = operandRegisters w.signature a := by
  -- both sides compute; only where the last operand may be a literal they differ by an empty list
  cases w with
  | pushNum | forward | backward | left | right | up | down | rotateCw | rotateCcw | display =>
    exact (List.append_nil _).symm
  | branchEq | branchNe | branchGt | branchLt | branchGe | branchLe =>
    exact congrArg _ (List.append_nil _).symm
  | _ => rfl

theorem index?_of_registerIndex {size : Nat} {text : String} {r : Fin size}
    (h : registerIndex size text = .ok r) : Decimal.index? text.toList = some r.val := by
  unfold registerIndex at h
  split at h
  · next n hn =>
    split at h
    · cases h; exact hn
    · cases h
  · cases h

/-- A register whose number is known. -/
def known (r : Bank × Nat) : Bank × Option Nat := (r.1, some r.2)

theorem named_of_numericOperand {t : Token} {o : Operand} (h : numericOperand t = .ok o)
    (hp : t.kind ≠ .pictureRegister) :
    o.registers.map known =
      (t.kind.bank?.map fun bank => (bank, Decimal.index? t.text.toList)).toList := by
  unfold numericOperand at h
  split at h
  · next hk =>
    obtain ⟨r, hr, rfl⟩ := map_eq_ok h
    simp [Operand.registers, known, Kind.bank?, hk, index?_of_registerIndex hr]
  · next hk =>
    obtain ⟨x, -, rfl⟩ := map_eq_ok h
    simp [Operand.registers, Kind.bank?, hk]
  · next hk _ =>
    obtain ⟨x, -, rfl⟩ := map_eq_ok h
    have hb : t.kind.bank? = none := by
      unfold Kind.bank?
      split
      · next hn => exact absurd hn hk
      · next hn => exact absurd hn hp
      · rfl
    rw [hb]
    rfl

theorem named_of_read {slot : Slot} {t : Token} {a : slot.Meaning} (h : slot.read t = .ok a) :
    (slot.registers a).map known = (slot.named t).toList := by
  unfold Slot.read at h
  split at h
  · next hk =>
    cases slot with
    | numeric =>
      refine named_of_numericOperand h fun hp => ?_
      rw [hp] at hk; cases hk
    | numberRegister =>
      have hk : t.kind = .numberRegister := by simpa [Slot.accepts] using hk
      simp [Slot.registers, Slot.named, Slot.bank?, Kind.bank?, hk, known, index?_of_registerIndex h]
    | pictureRegister =>
      have hk : t.kind = .pictureRegister := by simpa [Slot.accepts] using hk
      simp [Slot.registers, Slot.named, Slot.bank?, Kind.bank?, hk, known, index?_of_registerIndex h]
    | identifier =>
      have hk : t.kind = .identifier := by simpa [Slot.accepts] using hk
      simp [Slot.registers, Slot.named, Slot.bank?, Kind.bank?, hk]
    | text =>
      have hk : t.kind = .text := by simpa [Slot.accepts] using hk
      simp [Slot.registers, Slot.named, Slot.bank?, Kind.bank?, hk]
    | displayable =>
      simp only [Slot.meaning] at h
      split at h
      · next hk =>
        cases h
        simp [Slot.registers, Shown.registers, Slot.named, Slot.bank?, Kind.bank?, hk]
      · next hk =>
        obtain ⟨r, hr, rfl⟩ := map_eq_ok h
        simp [Slot.registers, Shown.registers, Slot.named, Slot.bank?, Kind.bank?, hk, known,
          index?_of_registerIndex hr]
      · next hk =>
        obtain ⟨o, ho, rfl⟩ := map_eq_ok h
        exact named_of_numericOperand ho hk
    | destination => simp [Slot.registers, Slot.named, Slot.bank?, known, index?_of_registerIndex h]
    | faceIndex => simp [Slot.registers, Slot.named, Slot.bank?, known, index?_of_registerIndex h]
  · cases h

theorem named_of_readOperands {slots : List Slot} {ts : List Token} {a : Operands slots}
    (h : readOperands slots ts = .ok a) :
    (operandRegisters slots a).map known = (slots.zip ts).filterMap fun (slot, t) => slot.named t := by
  induction slots generalizing ts with
  | nil => rfl
  | cons slot slots ih => cases ts with
    | nil => cases h
    | cons t ts =>
      rw [readOperands] at h
      split at h
      · cases h
      · next x hx =>
        split at h
        · cases h
        · next rest hrest =>
          cases h
          rw [operandRegisters, List.map_append, named_of_read hx, ih hrest, List.zip_cons_cons]
          cases hn : slot.named t with
          | none => simp [hn]
          | some r => simp [hn]

/-- The number of registers that a core has in a bank. -/
def Core.bankSize (c : Core) : Bank → Nat
  | .number => c.numbers.toArray.size
  | .picture => c.pictures.toArray.size
  | .face => c.faces.toArray.size

theorem Operand.registers_lt (c : Core) (o : Operand) : ∀ r ∈ o.registers, r.2 < c.bankSize r.1 := by
  cases o with
  | register r => simp [registers, Core.bankSize]
  | literal v => exact nofun

theorem Slot.registers_lt (c : Core) (slot : Slot) (a : slot.Meaning) :
    ∀ r ∈ slot.registers a, r.2 < c.bankSize r.1 := by
  cases slot with
  | numeric => exact a.registers_lt c
  | displayable => cases a with
    | text s => exact nofun
    | number source => exact source.registers_lt c
    | picture source => simp [registers, Shown.registers, Core.bankSize]
  | identifier => exact nofun
  | text => exact nofun
  | _ => simp [registers, Core.bankSize]

theorem operandRegisters_lt (c : Core) (slots : List Slot) (a : Operands slots) :
    ∀ r ∈ operandRegisters slots a, r.2 < c.bankSize r.1 := by
  induction slots with
  | nil => exact nofun
  | cons slot slots ih =>
    intro r hr
    rcases List.mem_append.1 hr with hr | hr
    · exact slot.registers_lt c a.1 r hr
    · exact ih a.2 r hr

/-- The instruction of a line, if it has one, is one of the words with its operands read. -/
theorem decode_eq_ok {ts : List Token} {i : Instruction} (h : Instruction.decode ts = .ok i) :
    ts = [] ∧ i = .nop ∨ ∃ command operands w a, ts = command :: operands ∧
      command.mnemonic? = some w ∧ readOperands w.signature operands = .ok a ∧ i = w.instruction a := by
  cases ts with
  | nil => cases h; exact .inl ⟨rfl, rfl⟩
  | cons command operands =>
    rw [decode_cons] at h
    split at h
    · cases h
    · next w hw =>
      split at h
      · cases h
      · split at h
        · cases h
        · next a ha => cases h; exact .inr ⟨_, _, w, a, rfl, hw, ha, rfl⟩

/-- An instruction uses just the registers that its line names, and they are there. -/
theorem registers_of_decode (c : Core) {ts : List Token} {i : Instruction}
    (h : Instruction.decode ts = .ok i) :
    i.registers.map known = namedRegisters ts ∧ ∀ r ∈ i.registers, r.2 < c.bankSize r.1 := by
  rcases decode_eq_ok h with ⟨rfl, rfl⟩ | ⟨command, operands, w, a, rfl, hw, ha, rfl⟩
  · exact ⟨rfl, nofun⟩
  · rw [registers_instruction, named_of_readOperands ha, namedRegisters, hw]
    exact ⟨rfl, operandRegisters_lt c _ a⟩

end Quadcopter

import Quadcopter.Compile
import Quadcopter.Proofs.Operands

/-!
# Quadcopter.Proofs.Compilation

What compiling gives: line `i` of the program is the instruction of source line `i + 1`, without its
label (`line?_compile`), and that source line has passed the check. A checked line decodes, or one of
its operands names a register that is not there or a number that is none (`decode_error_of_check`).
-/

namespace Quadcopter

namespace Program

@[simp] theorem tokens_forget (name : String) (e : Entry) : (e.forget name).tokens = e.tokens := by
  unfold Entry.forget
  split <;> rfl

theorem line?_append_of_lt {p : Program} {i : Nat} (h : i < p.size) (label : Option String)
    (ts : List Token) : (p.append label ts).line? i = p.line? i := by
  unfold size at h
  cases label with
  | none => simp [append, line?, Array.getElem?_push, Nat.ne_of_lt h]
  | some name => simp [append, line?, Array.getElem?_push, Nat.ne_of_lt h, Function.comp_def]

theorem line?_append_size (p : Program) (label : Option String) (ts : List Token) :
    (p.append label ts).line? p.size = some (instructionOf ts) := by
  unfold size
  cases label with
  | none => simp [append, line?]
  | some name => simp [append, line?, Array.getElem_push]

theorem add_eq_append (p : Program) (ts : List Token) :
    ∃ label, p.add ts = p.append label (unlabelled ts) := by
  cases ts with
  | nil => exact ⟨none, rfl⟩
  | cons t ts =>
    cases h : t.isLabel with
    | true => exact ⟨some t.text, by simp [add, unlabelled, h]⟩
    | false => exact ⟨none, by simp [add, unlabelled, h]⟩

theorem line?_add_of_lt {p : Program} {i : Nat} (h : i < p.size) (ts : List Token) :
    (p.add ts).line? i = p.line? i := by
  obtain ⟨label, ha⟩ := add_eq_append p ts
  rw [ha, line?_append_of_lt h]

theorem line?_add_size (p : Program) (ts : List Token) :
    (p.add ts).line? p.size = some (instructionOf (unlabelled ts)) := by
  obtain ⟨label, ha⟩ := add_eq_append p ts
  rw [ha, line?_append_size]

theorem size_le_iff_line? (p : Program) (i : Nat) : p.size ≤ i ↔ p.line? i = none := by
  simp [size, line?]

theorem find?_lt {p : Program} {name : String} {i : Nat} (h : p.find? name = some i) : i < p.size :=
  (Array.findIdx?_eq_some_iff_getElem.1 h).1

theorem line?_isSome {p : Program} {i : Nat} (h : i < p.size) : ∃ ts, p.line? i = some ts := by
  unfold size at h
  exact ⟨p.entries[i].tokens, by simp [line?, h]⟩

end Program

theorem isLabel_of_mnemonic {t : Token} {w : Mnemonic} (h : t.mnemonic? = some w) :
    t.isLabel = false := by
  obtain ⟨kind, text⟩ := t
  cases kind with
  | command => rfl
  | _ => cases h

/-- A result that is there, for programs that are compiled by evaluation. -/
theorem eq_ok_of_toOption {ε α : Type} {x : Except ε α} {a : α} (h : x.toOption = some a) :
    x = .ok a := by
  cases x with
  | error e => cases h
  | ok b => cases h; rfl

theorem parse_of_read {number : Nat} {s : String} {ts : List Token}
    (h : Line.read number s = .ok ts) : Line.parse s = .ok ts := by
  unfold Line.read at h
  split at h
  · cases h
  · next hp => cases h; exact hp

theorem read_of_parse (number : Nat) {s : String} {ts : List Token} (h : Line.parse s = .ok ts) :
    Line.read number s = .ok ts := by
  rw [Line.read, h]

theorem check_of_parse {s : String} {ts : List Token} (h : Line.parse s = .ok ts) :
    check ts = .ok () := by
  unfold Line.parse at h
  split at h
  · cases h
  · split at h
    · cases h
    · next hc => cases h; exact hc

theorem line?_compileFrom_of_lt {p q : Program} {done : Nat} {lines : List String}
    (h : compileFrom p done lines = .ok q) {i : Nat} (hi : i < p.size) : q.line? i = p.line? i := by
  induction lines generalizing p done with
  | nil => cases h; rfl
  | cons s rest ih =>
    rw [compileFrom] at h
    split at h
    · cases h
    · next ts _ =>
      have hadd : i < (p.add ts).size := by rw [Program.size_add]; omega
      rw [ih h hadd, Program.line?_add_of_lt hi]

theorem line?_compileFrom {p q : Program} {done : Nat} {lines : List String}
    (h : compileFrom p done lines = .ok q) {i : Nat} {s : String} (hs : lines[i]? = some s) :
    ∃ ts, Line.parse s = .ok ts ∧
      q.line? (p.size + i) = some (Program.instructionOf (unlabelled ts)) := by
  induction lines generalizing p done i with
  | nil => simp at hs
  | cons s' rest ih =>
    rw [compileFrom] at h
    split at h
    · cases h
    · next ts hts =>
      cases i with
      | zero =>
        obtain rfl : s' = s := by simpa using hs
        refine ⟨ts, parse_of_read hts, ?_⟩
        have hsize : p.size < (p.add ts).size := by rw [Program.size_add]; omega
        rw [Nat.add_zero, line?_compileFrom_of_lt h hsize, Program.line?_add_size]
      | succ i =>
        obtain ⟨ts', hp, hl⟩ := ih h (by simpa using hs)
        refine ⟨ts', hp, ?_⟩
        rw [Program.size_add, Nat.add_assoc, Nat.add_comm 1] at hl
        exact hl

/-- Each line of a compiled program is the instruction of its source line, without the label. -/
theorem line?_compile {lines : List String} {p : Program} (h : compile lines = .ok p) {i : Nat}
    {s : String} (hs : lines[i]? = some s) :
    ∃ ts, Line.parse s = .ok ts ∧ p.line? i = some (Program.instructionOf (unlabelled ts)) := by
  obtain ⟨ts, hp, hl⟩ := line?_compileFrom h hs
  have hz : Program.empty.size = 0 := rfl
  rw [hz, Nat.zero_add] at hl
  exact ⟨ts, hp, hl⟩

/-! ## Decoding of checked lines -/

/-- The causes for which an operand of the right kind cannot be read. -/
def Cause.isOperand : Cause → Bool
  | .noSuchRegister | .invalidLiteral => true
  | _ => false

theorem registerIndex_error {size : Nat} {text : String} {cause : Cause}
    (h : registerIndex size text = .error cause) : cause.isOperand = true := by
  unfold registerIndex at h
  split at h
  · split at h
    · cases h
    · cases h; rfl
  · cases h; rfl

theorem integerLiteral_error {text : String} {cause : Cause}
    (h : integerLiteral text = .error cause) : cause.isOperand = true := by
  unfold integerLiteral at h
  split at h
  · split at h
    · cases h
    · cases h; rfl
  · cases h; rfl

theorem floatLiteral_error {text : String} {cause : Cause}
    (h : floatLiteral text = .error cause) : cause.isOperand = true := by
  unfold floatLiteral at h
  split at h
  · cases h
  · cases h; rfl

theorem map_eq_error {α β : Type} {x : Except Cause α} {f : α → β} {cause : Cause}
    (h : x.map f = .error cause) : x = .error cause := by
  cases x with
  | ok a => cases h
  | error e => cases h; rfl

theorem map_eq_ok {α β : Type} {x : Except Cause α} {f : α → β} {b : β} (h : x.map f = .ok b) :
    ∃ a, x = .ok a ∧ b = f a := by
  cases x with
  | ok a => cases h; exact ⟨a, rfl, rfl⟩
  | error e => cases h

theorem numericOperand_error {t : Token} {cause : Cause} (h : numericOperand t = .error cause) :
    cause.isOperand = true := by
  unfold numericOperand at h
  split at h
  · exact registerIndex_error (map_eq_error h)
  · exact floatLiteral_error (map_eq_error h)
  · exact integerLiteral_error (map_eq_error h)

theorem meaning_error {slot : Slot} {t : Token} {cause : Cause} (h : slot.meaning t = .error cause) :
    cause.isOperand = true := by
  cases slot with
  | numeric => exact numericOperand_error h
  | numberRegister => exact registerIndex_error h
  | pictureRegister => exact registerIndex_error h
  | identifier => cases h
  | text => cases h
  | displayable =>
    simp only [Slot.meaning] at h
    split at h
    · cases h
    · exact registerIndex_error (map_eq_error h)
    · exact numericOperand_error (map_eq_error h)
  | destination => exact registerIndex_error h
  | faceIndex => exact registerIndex_error h

theorem readOperands_error {slots : List Slot} {ts : List Token} {cause : Cause}
    (hf : fits slots ts = true) (h : readOperands slots ts = .error cause) :
    cause.isOperand = true := by
  induction slots generalizing ts with
  | nil => cases ts with
    | nil => cases h
    | cons => simp [fits] at hf
  | cons slot slots ih => cases ts with
    | nil => simp [fits] at hf
    | cons t ts =>
      simp only [fits, Bool.and_eq_true] at hf
      rw [readOperands] at h
      split at h
      · next hr =>
        cases h
        rw [Slot.read, if_pos hf.1] at hr
        exact meaning_error hr
      · split at h
        · next hrs => cases h; exact ih hf.2 hrs
        · cases h

/-- A checked line can fail to decode for one of its operands only. -/
theorem decode_error_of_check {ts : List Token} {cause : Cause} (hc : check ts = .ok ())
    (h : Instruction.decode (Program.instructionOf (unlabelled ts)) = .error cause) :
    cause.isOperand = true := by
  rcases check_eq_ok_iff.1 hc with h0 | ⟨command, operands, w, hu, hw, hf⟩
  · rw [h0] at h
    cases h
  · rw [hu] at h
    simp only [Program.instructionOf, decode_cons, hw] at h
    split at h
    · next hlen => exact absurd ((length_of_fits hf).trans w.length_signature) hlen
    · split at h
      · next hr => cases h; exact readOperands_error hf hr
      · cases h

/-! ## Decoding of any lines -/

/-- The causes for which a line, whatever its shape, cannot be decoded. -/
def Cause.isDecode : Cause → Bool
  | .unknownCommand | .operandCount | .unknownValueType => true
  | cause => cause.isOperand

theorem isDecode_of_isOperand {cause : Cause} (h : cause.isOperand = true) : cause.isDecode = true := by
  unfold Cause.isDecode
  split
  · rfl
  · rfl
  · rfl
  · exact h

theorem readOperands_isDecode {slots : List Slot} {ts : List Token} {cause : Cause}
    (h : readOperands slots ts = .error cause) : cause.isDecode = true := by
  induction slots generalizing ts with
  | nil => cases ts with
    | nil => cases h
    | cons => cases h; rfl
  | cons slot slots ih => cases ts with
    | nil => cases h; rfl
    | cons t ts =>
      rw [readOperands] at h
      split at h
      · next hr =>
        cases h
        rw [Slot.read] at hr
        split at hr
        · exact isDecode_of_isOperand (meaning_error hr)
        · cases hr; rfl
      · split at h
        · next hrs => cases h; exact ih hrs
        · cases h

theorem decode_isDecode {ts : List Token} {cause : Cause}
    (h : Instruction.decode ts = .error cause) : cause.isDecode = true := by
  cases ts with
  | nil => cases h
  | cons command operands =>
    rw [decode_cons] at h
    split at h
    · cases h; rfl
    · split at h
      · cases h; rfl
      · split at h
        · next hr => cases h; exact readOperands_isDecode hr
        · cases h

end Quadcopter

import Quadcopter.Proofs.Compilation

/-!
# Quadcopter.Proofs.Decoding

Which lines can be decoded. The check of a line looks at the kinds of its operands, the decoder at
their texts too; otherwise both take the same lines.

* `Slot.Legible`: the texts that can be read in a place, by the kind of the token.
* `read_ok_iff`, `readOperands_ok_iff`: operands are read exactly if they fit and are legible.
* `decode_agrees`: the decoder takes the lines without a label that pass the check and are legible. A
  line that is only not legible fails for a register or for a number.
-/

namespace Quadcopter

/-- The text is a number below a bound: digits, which may stand behind a plus. -/
def Token.Denotes (t : Token) (bound : Nat) : Prop :=
  ∃ n, Decimal.index? t.text.toList = some n ∧ n < bound

/-- The integer is a signed word of 64 bits. -/
def IsWord (n : Int) : Prop := -9223372036854775808 ≤ n ∧ n ≤ 9223372036854775807

/-- The texts that can be read. An integer is an index where a result or a face goes, and a signed word
where a value is asked for. -/
def Slot.Legible : Slot → Token → Prop
  | .destination, t => t.Denotes 16
  | .faceIndex, t => t.Denotes 8
  | _, t =>
    match t.kind with
    | .numberRegister => t.Denotes 16
    | .pictureRegister => t.Denotes 8
    | .integer => ∃ n, Decimal.integer? t.text.toList = some n ∧ IsWord n
    | .float => ∃ x, Decimal.float? t.text.toList = some x
    | _ => True

/-- Each operand of the line's command can be read in its place. -/
def LegibleOperands : List Token → Prop
  | [] => True
  | command :: operands =>
    ∀ w ∈ command.mnemonic?, ∀ p ∈ w.signature.zip operands, p.1.Legible p.2

/-! ## Texts -/

theorem registerIndex_ok_iff {size : Nat} {t : Token} :
    (∃ r, registerIndex size t.text = .ok r) ↔ t.Denotes size := by
  unfold registerIndex Token.Denotes
  constructor
  · rintro ⟨r, hr⟩
    split at hr
    · next n hn =>
      split at hr
      · next hlt => exact ⟨n, hn, hlt⟩
      · cases hr
    · cases hr
  · rintro ⟨n, hn, hlt⟩
    exact ⟨⟨n, hlt⟩, by simp [hn, hlt]⟩

theorem inRange_iff {n : Int} : Arith.inRange n = true ↔ IsWord n := by
  have hmin : Int64.minValue.toInt = -9223372036854775808 := by decide
  have hmax : Int64.maxValue.toInt = 9223372036854775807 := by decide
  simp only [Arith.inRange, hmin, hmax, Bool.and_eq_true, decide_eq_true_eq, IsWord]

theorem integerLiteral_ok_iff {text : String} :
    (∃ v, integerLiteral text = .ok v) ↔
      ∃ n, Decimal.integer? text.toList = some n ∧ IsWord n := by
  unfold integerLiteral
  constructor
  · rintro ⟨v, hv⟩
    split at hv
    · next n hn =>
      split at hv
      · next hin => exact ⟨n, hn, inRange_iff.1 hin⟩
      · cases hv
    · cases hv
  · rintro ⟨n, hn, hin⟩
    exact ⟨.int (Int64.ofInt n), by simp [hn, inRange_iff.2 hin]⟩

theorem floatLiteral_ok_iff {text : String} :
    (∃ v, floatLiteral text = .ok v) ↔ ∃ x, Decimal.float? text.toList = some x := by
  unfold floatLiteral
  constructor
  · rintro ⟨v, hv⟩
    split at hv
    · next x hx => exact ⟨x, hx⟩
    · cases hv
  · rintro ⟨x, hx⟩
    exact ⟨.float x, by simp [hx]⟩

theorem map_ok_iff {α β : Type} {x : Except Cause α} {f : α → β} :
    (∃ b, x.map f = .ok b) ↔ ∃ a, x = .ok a := by
  constructor
  · rintro ⟨b, hb⟩
    obtain ⟨a, ha, -⟩ := map_eq_ok hb
    exact ⟨a, ha⟩
  · rintro ⟨a, rfl⟩
    exact ⟨f a, rfl⟩

/-! ## Operands -/

theorem numericOperand_ok_iff {t : Token} (hk : t.kind.isNumeric = true) :
    (∃ a, numericOperand t = .ok a) ↔ Slot.numeric.Legible t := by
  obtain ⟨kind, text⟩ := t
  cases kind with
  | numberRegister => exact map_ok_iff.trans registerIndex_ok_iff
  | integer => exact map_ok_iff.trans integerLiteral_ok_iff
  | float => exact map_ok_iff.trans floatLiteral_ok_iff
  | _ => cases hk

theorem meaning_ok_iff {slot : Slot} {t : Token} (hk : slot.accepts t.kind = true) :
    (∃ a, slot.meaning t = .ok a) ↔ slot.Legible t := by
  cases slot with
  | numeric => exact numericOperand_ok_iff hk
  | destination => exact registerIndex_ok_iff
  | faceIndex => exact registerIndex_ok_iff
  | numberRegister =>
    have hkind : t.kind = .numberRegister := by simpa [Slot.accepts] using hk
    simp only [Slot.Legible, hkind]
    exact registerIndex_ok_iff
  | pictureRegister =>
    have hkind : t.kind = .pictureRegister := by simpa [Slot.accepts] using hk
    simp only [Slot.Legible, hkind]
    exact registerIndex_ok_iff
  | identifier =>
    have hkind : t.kind = .identifier := by simpa [Slot.accepts] using hk
    simp [Slot.Legible, Slot.meaning, hkind]
  | text =>
    have hkind : t.kind = .text := by simpa [Slot.accepts] using hk
    simp [Slot.Legible, Slot.meaning, hkind]
  | displayable =>
    obtain ⟨kind, text⟩ := t
    cases kind with
    | text => simp [Slot.Legible, Slot.meaning]
    | pictureRegister => exact map_ok_iff.trans registerIndex_ok_iff
    | numberRegister => exact map_ok_iff.trans (numericOperand_ok_iff rfl)
    | integer => exact map_ok_iff.trans (numericOperand_ok_iff rfl)
    | float => exact map_ok_iff.trans (numericOperand_ok_iff rfl)
    | _ => cases hk

theorem read_ok_iff {slot : Slot} {t : Token} :
    (∃ a, slot.read t = .ok a) ↔ slot.accepts t.kind = true ∧ slot.Legible t := by
  unfold Slot.read
  by_cases hk : slot.accepts t.kind = true
  · rw [if_pos hk, meaning_ok_iff hk]
    simp [hk]
  · simp [hk]

theorem readOperands_ok_iff {slots : List Slot} {ts : List Token} :
    (∃ a, readOperands slots ts = .ok a) ↔
      fits slots ts = true ∧ ∀ p ∈ slots.zip ts, p.1.Legible p.2 := by
  induction slots generalizing ts with
  | nil =>
    cases ts with
    | nil => simp [readOperands, fits]
    | cons t ts => simp [readOperands, fits]
  | cons slot slots ih =>
    cases ts with
    | nil => simp [readOperands, fits]
    | cons t ts =>
      -- the head is read first, and only then the rest
      have hcons : (∃ a, readOperands (slot :: slots) (t :: ts) = .ok a) ↔
          (∃ a, slot.read t = .ok a) ∧ ∃ rest, readOperands slots ts = .ok rest := by
        rw [readOperands]
        cases slot.read t with
        | error e => simp
        | ok a => cases readOperands slots ts <;> simp
      rw [hcons, read_ok_iff, ih]
      simp only [fits, Bool.and_eq_true, List.zip_cons_cons, List.forall_mem_cons]
      constructor
      · rintro ⟨⟨hk, hl⟩, hf, hls⟩
        exact ⟨⟨hk, hf⟩, hl, hls⟩
      · rintro ⟨⟨hk, hf⟩, hl, hls⟩
        exact ⟨⟨hk, hl⟩, hf, hls⟩

/-! ## Lines -/

theorem unlabelled_of_head {ts : List Token} (h : ∀ t ∈ ts.head?, t.isLabel = false) :
    unlabelled ts = ts := by
  cases ts with
  | nil => rfl
  | cons t ts => simp [unlabelled, h t rfl]

theorem decode_command_ok_iff {command : Token} {operands : List Token} {w : Mnemonic}
    (hw : command.mnemonic? = some w) :
    (∃ i, Instruction.decode (command :: operands) = .ok i) ↔
      ∃ a, readOperands w.signature operands = .ok a := by
  rw [decode_cons, hw]
  constructor
  · rintro ⟨i, hi⟩
    dsimp only at hi
    split at hi
    · cases hi
    · split at hi
      · cases hi
      · next a ha => exact ⟨a, ha⟩
  · rintro ⟨a, ha⟩
    have hlen : operands.length = w.arity :=
      (length_of_fits (readOperands_ok_iff.1 ⟨a, ha⟩).1).trans w.length_signature
    exact ⟨w.instruction a, by simp [hlen, ha]⟩

/-- A line can be decoded exactly if it has no label, passes the check, and each operand is legible in
its place. If a line without a label passes the check and cannot be decoded, a register that it names is
not there or a literal is no number. -/
theorem decode_agrees (ts : List Token) :
    ((∃ i, Instruction.decode ts = .ok i) ↔
      (∀ t ∈ ts.head?, t.isLabel = false) ∧ check ts = .ok () ∧ LegibleOperands ts) ∧
    ∀ cause, (∀ t ∈ ts.head?, t.isLabel = false) → check ts = .ok () →
      Instruction.decode ts = .error cause →
      cause.text = "NON-EXISTENT REGISTER" ∨ cause.text = "INVALID NUMERIC LITERAL" := by
  constructor
  · cases ts with
    | nil => exact iff_of_true ⟨.nop, rfl⟩ ⟨nofun, rfl, trivial⟩
    | cons command operands =>
      cases hw : command.mnemonic? with
      | none =>
        refine iff_of_false ?_ ?_
        · rintro ⟨i, hi⟩
          rw [decode_cons, hw] at hi
          cases hi
        · rintro ⟨hlabel, hcheck, -⟩
          rw [check, unlabelled_of_head hlabel] at hcheck
          simp only [hw] at hcheck
          cases hcheck
      | some w =>
        have hlabel : ∀ t ∈ (command :: operands).head?, t.isLabel = false := by
          simpa using isLabel_of_mnemonic hw
        have hcheck : check (command :: operands) = .ok () ↔ fits w.signature operands = true := by
          rw [check_eq_ok_iff, unlabelled_of_head hlabel]
          constructor
          · rintro (hnil | ⟨_, _, w', hline, hw', hf⟩)
            · cases hnil
            · cases hline
              rw [hw] at hw'
              cases hw'
              exact hf
          · intro hf
            exact .inr ⟨command, operands, w, rfl, hw, hf⟩
        have hlegible : LegibleOperands (command :: operands) ↔
            ∀ p ∈ w.signature.zip operands, p.1.Legible p.2 := by
          simp [LegibleOperands, hw]
        rw [decode_command_ok_iff hw, readOperands_ok_iff, hcheck, hlegible]
        exact (and_iff_right hlabel).symm
  · intro cause hlabel hcheck hdecode
    have hoperand : cause.isOperand = true := by
      refine decode_error_of_check hcheck ?_
      rw [unlabelled_of_head hlabel]
      cases ts with
      | nil => cases hdecode
      | cons command operands => exact hdecode
    unfold Cause.isOperand at hoperand
    split at hoperand
    · exact .inl rfl
    · exact .inr rfl
    · cases hoperand

/-- Sixteen is a value but no number register: the line passes the check and is not decoded. -/
theorem decode_agrees_sixteen :
    let line : List Token := [.ofMnemonic .add, ⟨.integer, "16"⟩, ⟨.float, "0.5"⟩, ⟨.integer, "16"⟩]
    check line = .ok () ∧ ¬ LegibleOperands line ∧
      ∃ cause, Instruction.decode line = .error cause ∧
        (cause.text = "NON-EXISTENT REGISTER" ∨ cause.text = "INVALID NUMERIC LITERAL") := by
  intro line
  have hlabel : ∀ t ∈ line.head?, t.isLabel = false := by simp [line, Token.ofMnemonic, Token.isLabel]
  have hcheck : check line = .ok () := rfl
  have hdecode : Instruction.decode line = .error .noSuchRegister := rfl
  obtain ⟨hagree, herror⟩ := decode_agrees line
  refine ⟨hcheck, ?_, .noSuchRegister, hdecode, herror _ hlabel hcheck hdecode⟩
  intro hlegible
  obtain ⟨i, hi⟩ := hagree.2 ⟨hlabel, hcheck, hlegible⟩
  rw [hdecode] at hi
  cases hi

end Quadcopter

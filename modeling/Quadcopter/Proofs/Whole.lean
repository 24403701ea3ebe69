import Quadcopter.Proofs.Effect
import Quadcopter.Proofs.Recompile
import Quadcopter.Proofs.WellFormed

/-!
# Quadcopter.Proofs.Whole

Programs of whole numbers. A double comes into a run by a decimal literal, by `DIV` or by
`MATCH_FACE`, and a run of a program that has none of them never holds one.

* `isWhole_of_decode`: lines without them have instructions without them.
* `Core.Whole`: registers and number stack hold whole numbers. Every instruction of a whole program
  keeps this (`Whole.ran`), so every step and every run does.
* `orders_of_step`: a step gives the vehicle exactly the order of the instruction that it runs.
* `whole_of_run`: what a whole program holds, displays and passes to its vehicle.
-/

namespace Quadcopter

variable {V E : Type}

/-! ## Source and instructions -/

/-- Whether a token brings no double into a run: it is no decimal literal, and neither of the two words
whose result is a double. -/
def Token.isWhole (t : Token) : Bool :=
  t.kind != .float && t.mnemonic? != some .div && t.mnemonic? != some .matchFace

/-- Whether all tokens of a source line are whole. -/
def Line.isWhole (s : String) : Bool := ((Line.parse s).toOption.getD []).all Token.isWhole

def Program.Whole (p : Program) : Prop :=
  ∀ i ts, p.line? i = some ts → ∀ t ∈ ts, t.isWhole = true

def Operand.isWhole : Operand → Bool
  | .register _ => true
  | .literal v => v.isInt

def Shown.isWhole : Shown → Bool
  | .number source => source.isWhole
  | .text _ | .picture _ => true

def Instruction.isWhole : Instruction → Bool
  | .branch _ lhs rhs _ => lhs.isWhole && rhs.isWhole
  | .store source _ | .pushNum source | .move _ source => source.isWhole
  | .arithmetic op lhs rhs _ => op != .div && (lhs.isWhole && rhs.isWhole)
  | .display what => what.isWhole
  | .matchFace .. => false
  | _ => true

def Slot.isWhole : (slot : Slot) → slot.Meaning → Bool
  | .numeric, source => source.isWhole
  | .displayable, what => what.isWhole
  | .numberRegister, _ | .pictureRegister, _ | .identifier, _ | .text, _ | .destination, _
  | .faceIndex, _ => true

def operandsWhole : (slots : List Slot) → Operands slots → Bool
  | [], _ => true
  | slot :: slots, (a, rest) => slot.isWhole a && operandsWhole slots rest

theorem program_whole {lines : List String} {p : Program} (hc : compile lines = .ok p)
    (h : ∀ s ∈ lines, Line.isWhole s = true) : p.Whole := by
  intro i ts hts t ht
  have hi : i < lines.length := by
    have hnone := (p.size_le_iff_line? i).not
    rw [hts, size_compile hc] at hnone
    simpa using hnone
  have hs : lines[i]? = some lines[i] := List.getElem?_eq_getElem hi
  obtain ⟨us, hparse, hline⟩ := line?_compile hc hs
  have hus : ∀ u ∈ us, u.isWhole = true := by
    have hw := h _ (List.getElem_mem hi)
    rw [Line.isWhole, hparse] at hw
    exact List.all_eq_true.1 hw
  rw [hline] at hts
  cases hts
  -- what a line of the program has besides the tokens of its source line is a `NOP`
  cases hu : unlabelled us with
  | nil =>
    rw [hu] at ht
    rw [List.mem_singleton.1 ht]
    decide
  | cons u rest =>
    rw [hu] at ht
    exact hus t (mem_of_mem_unlabelled (hu ▸ ht))

theorem isInt_of_integerLiteral {text : String} {v : Value} (h : integerLiteral text = .ok v) :
    v.isInt = true := by
  unfold integerLiteral at h
  split at h
  · split at h
    · cases h; rfl
    · cases h
  · cases h

theorem isWhole_of_numericOperand {t : Token} {o : Operand} (ht : t.kind ≠ .float)
    (h : numericOperand t = .ok o) : o.isWhole = true := by
  unfold numericOperand at h
  split at h
  · obtain ⟨r, -, rfl⟩ := map_eq_ok h
    rfl
  · next hk => exact absurd hk ht
  · obtain ⟨v, hv, rfl⟩ := map_eq_ok h
    exact isInt_of_integerLiteral hv

theorem isWhole_of_read {slot : Slot} {t : Token} {a : slot.Meaning} (ht : t.kind ≠ .float)
    (h : slot.read t = .ok a) : slot.isWhole a = true := by
  unfold Slot.read at h
  split at h
  · cases slot with
    | numeric => exact isWhole_of_numericOperand ht h
    | displayable =>
      simp only [Slot.meaning] at h
      split at h
      · cases h; rfl
      · obtain ⟨r, -, rfl⟩ := map_eq_ok h
        rfl
      · obtain ⟨o, ho, rfl⟩ := map_eq_ok h
        exact isWhole_of_numericOperand ht ho
    | _ => rfl
  · cases h

theorem operandsWhole_of_readOperands {slots : List Slot} {ts : List Token} {a : Operands slots}
    (ht : ∀ t ∈ ts, t.kind ≠ .float) (h : readOperands slots ts = .ok a) :
    operandsWhole slots a = true := by
  induction slots generalizing ts with
  | nil => rfl
  | cons slot slots ih => cases ts with
    | nil => cases h
    | cons t ts =>
      rw [readOperands] at h
      split at h
      · cases h
      · next x hx =>
        split at h
        · cases h
        · next rest hrest =>
          cases h
          obtain ⟨hhead, htail⟩ := List.forall_mem_cons.1 ht
          simp [operandsWhole, isWhole_of_read hhead hx, ih htail hrest]

theorem isWhole_instruction {w : Mnemonic} (hd : w ≠ .div) (hm : w ≠ .matchFace)
    {a : Operands w.signature} (h : operandsWhole w.signature a = true) :
    (w.instruction a).isWhole = true := by
  have two : ∀ {x y rest : Bool}, (x && (y && rest)) = true → (x && y) = true := by
    intro x y rest hxy
    simp only [Bool.and_eq_true] at hxy ⊢
    exact ⟨hxy.1, hxy.2.1⟩
  -- an instruction has the numbers among its operands, of which there are at most two
  cases w with
  | div => exact absurd rfl hd
  | matchFace => exact absurd rfl hm
  | pushNum | forward | backward | left | right | up | down | rotateCw | rotateCcw | display | store =>
    exact (Bool.and_eq_true_iff.1 h).1
  | branchEq | branchNe | branchGt | branchLt | branchGe | branchLe => exact two h
  | add | sub | mult | idiv | rdiv => exact two h
  | _ => rfl

theorem isWhole_of_decode {ts : List Token} {i : Instruction} (ht : ∀ t ∈ ts, t.isWhole = true)
    (h : Instruction.decode ts = .ok i) : i.isWhole = true := by
  rcases decode_eq_ok h with ⟨rfl, rfl⟩ | ⟨command, operands, w, a, rfl, hw, ha, rfl⟩
  · rfl
  · obtain ⟨hcommand, hoperands⟩ := List.forall_mem_cons.1 ht
    simp only [Token.isWhole, hw, Bool.and_eq_true, bne_iff_ne, ne_eq, Option.some.injEq] at hcommand
    refine isWhole_instruction hcommand.1.2 hcommand.2 (operandsWhole_of_readOperands ?_ ha)
    intro t hmem
    have := hoperands t hmem
    simp only [Token.isWhole, Bool.and_eq_true, bne_iff_ne] at this
    exact this.1.1

/-! ## Values -/

theorem isInt_of_checked {n : Int} {x : Value} (h : Arith.checked n = .ok x) : x.isInt = true := by
  rw [(Arith.checked_eq_ok_iff.1 h).2]
  rfl

theorem isInt_of_apply {op : Arith} {l r x : Value} (hop : op ≠ .div) (hl : l.isInt = true)
    (hr : r.isInt = true) (h : op.apply l r = .ok x) : x.isInt = true := by
  cases l with
  | float y => cases hl
  | int l => cases r with
    | float y => cases hr
    | int r => cases op with
      | add => exact isInt_of_checked h
      | sub => exact isInt_of_checked h
      | mult => exact isInt_of_checked h
      | div => exact absurd rfl hop
      | idiv =>
        simp only [Arith.apply, Arith.floorDivide] at h
        split at h
        · cases h
        · split at h
          · cases h
          · cases h; rfl
      | rdiv =>
        simp only [Arith.apply, Arith.remainder] at h
        split at h
        · cases h
        · split at h
          · cases h
          · cases h; rfl

theorem eq_int_of_isInt {x : Value} (h : x.isInt = true) : ∃ n, x = .int n := by
  cases x with
  | int n => exact ⟨n, rfl⟩
  | float y => cases h

/-- A whole number is written in decimal. -/
theorem render_int (n : Int64) : (Value.int n).render = toString n.toInt := by
  rw [Value.render, Value.intText]
  cases n.toInt with
  | ofNat k => rfl
  | negSucc k =>
    show _ = "-" ++ String.ofList (Nat.toDigits 10 (k + 1))
    rw [← String.toList_inj]
    simp [Decimal.signText, Decimal.natText, Int.negSucc_lt_zero]

/-! ## Cores -/

namespace Core

/-- The number registers and the number stack hold whole numbers only. -/
structure Whole (c : Core) : Prop where
  numbers : ∀ x ∈ c.numbers, x.isInt = true
  stack : ∀ x ∈ c.numberStack.items, x.isInt = true

theorem whole_initial : initial.Whole where
  numbers := by
    intro x hx
    rw [(Vector.mem_replicate.1 hx).2]
    rfl
  stack := nofun

namespace Whole

variable {p : Program} {c d : Core} {i : Instruction}

theorem value (h : c.Whole) {o : Operand} (ho : o.isWhole = true) : (c.value o).isInt = true := by
  cases o with
  | literal v => exact ho
  | register r => exact h.numbers c.numbers[r.val] (Vector.getElem_mem r.isLt)

theorem setNumber (h : c.Whole) (r : NumReg) {x : Value} (hx : x.isInt = true) :
    (c.setNumber r x).Whole := by
  refine ⟨?_, h.stack⟩
  intro y hy
  have hy : y ∈ c.numbers.set r x r.isLt := hy
  rcases Vector.mem_or_eq_of_mem_set hy with hy | rfl
  · exact h.numbers y hy
  · exact hx

/-- What a whole instruction does keeps doubles out. -/
theorem ran (h : c.Whole) (hi : i.isWhole = true) (hr : c.Ran p i d) : d.Whole := by
  cases hr with
  | store source dest => exact h.setNumber dest (h.value hi)
  | copy source dest => exact h.setNumber dest (h.value (o := .register source) rfl)
  | @pushNum source s hs =>
    refine ⟨h.numbers, ?_⟩
    rw [Stack.items_push hs]
    exact List.forall_mem_cons.2 ⟨h.value hi, h.stack⟩
  | @popNum dest x s hs =>
    have hstack := h.stack
    rw [Stack.items_pop hs] at hstack
    obtain ⟨hx, hrest⟩ := List.forall_mem_cons.1 hstack
    exact ⟨(h.setNumber dest hx).numbers, hrest⟩
  | @arithmetic op lhs rhs dest x hx =>
    simp only [Instruction.isWhole, Bool.and_eq_true, bne_iff_ne] at hi
    exact h.setNumber dest (isInt_of_apply hi.1 (h.value hi.2.1) (h.value hi.2.2) hx)
  | unseen hp => exact h.setNumber _ rfl
  | seen detection encoding hp => exact ⟨(h.setNumber _ rfl).numbers, h.stack⟩
  | matchFace x ha hb => cases hi
  | _ => exact ⟨h.numbers, h.stack⟩

end Whole
end Core

/-! ## Runs -/

namespace Machine

section

variable [Vehicle V] [Vision E] {m : Machine V E} {v : V} {i : Instruction}

/-- A whole program, and nothing in the core that is not whole. -/
structure Whole (m : Machine V E) : Prop where
  program : m.program.Whole
  core : m.core.Whole

omit [Vehicle V] [Vision E] in
theorem Whole.fetched (h : m.Whole) (hr : m.Runs v i) : i.isWhole = true := by
  obtain ⟨ts, hts, hf⟩ := fetch_of_lt hr.inside
  exact isWhole_of_decode (h.program _ ts hts) (hf ▸ hr.fetched)

theorem Whole.step (h : m.Whole) (files : Files) : (m.step files).2.Whole := by
  refine ⟨by rw [program_step]; exact h.program, ?_⟩
  have hs := step_spec files m
  generalize (m.step files).1 = event at hs
  generalize (m.step files).2 = m' at hs ⊢
  cases hs with
  | halted runs => exact ⟨h.core.numbers, h.core.stack⟩
  | ran runs ho => exact h.core.ran (h.fetched runs) (Core.ran_of_execute ho)
  | _ => exact h.core

theorem Whole.requests (h : m.Whole) (rs : List (Request E)) : (m.requests rs).Whole :=
  requests_keep (fun _ files hm => hm.step files) (fun _ _ _ _ hm => ⟨hm.program, hm.core⟩) rs h

theorem step_display {files : Files} {source : Operand} (h : m.Runs v (.display (.number source))) :
    (m.step files).1 = .print (m.core.value source).render := by
  rw [step_of_runs files h]
  rfl

end

/-! ## Orders that are given -/

variable [Vehicle V] [Vision E] {m : Machine (Recorded V) E} {r : Recorded V}

theorem result_orders (files : Files) (m : Machine (Recorded V) E) (r : Recorded V) (i : Instruction) :
    ∃ new, (m.result files r i).vehicle.calls = new ++ r.calls ∧
      ∀ o, .perform o ∈ new ↔ m.core.orderOf i = some o := by
  cases hi : m.core.orderOf i with
  | none =>
    obtain ⟨k, hk⟩ := Core.execute_of_no_order files m.looks m.program r m.vision hi
    refine ⟨List.replicate k .frame, ?_, ?_⟩
    · rw [result, hk, Recorded.after_eq, List.reverse_replicate]
    · intro o
      simp [List.mem_replicate]
  | some o =>
    refine ⟨[.perform o], ?_, ?_⟩
    · rcases Core.execute_of_order files m.looks m.program r m.vision hi with ⟨-, d, e, hr⟩ | ⟨-, hr⟩
      · rw [result, hr]; rfl
      · rw [result, hr]; rfl
    · intro o'
      simp [eq_comm]

/-- A step gives the vehicle the order of the instruction that it runs, and no other. -/
theorem orders_of_step (files : Files) (hr : m.contact.vehicle? = some r) :
    ∃ r' new, (m.step files).2.contact.vehicle? = some r' ∧ r'.calls = new ++ r.calls ∧
      ∀ o, .perform o ∈ new ↔ ∃ i, m.Runs r i ∧ m.core.orderOf i = some o := by
  have hlive : ∀ {w}, m.contact = .live w → w = r := by
    intro w hw
    rw [hw] at hr
    exact Option.some.inj hr
  -- a step that runs no instruction makes no call but the last one
  have still : ∀ {last : List Call}, (∀ o, .perform o ∉ last) → (∀ i, ¬ m.Runs r i) →
      ∀ o, .perform o ∈ last ↔ ∃ i, m.Runs r i ∧ m.core.orderOf i = some o := by
    intro last hlast hno o
    refine iff_of_false (hlast o) ?_
    rintro ⟨i, hi, -⟩
    exact hno i hi
  have only : ∀ {i : Instruction}, m.Runs r i → ∀ o,
      m.core.orderOf i = some o ↔ ∃ j, m.Runs r j ∧ m.core.orderOf j = some o := by
    intro i hi o
    constructor
    · exact fun ho => ⟨i, hi, ho⟩
    · rintro ⟨j, hj, ho⟩
      have hsame : Except.ok i = Except.ok j := hi.fetched.symm.trans hj.fetched
      cases hsame
      exact ho
  have hs := step_spec files m
  generalize (m.step files).1 = event at hs
  generalize (m.step files).2 = m' at hs ⊢
  cases hs with
  | idle hidle =>
    refine ⟨r, [], hr, rfl, still nofun ?_⟩
    intro i hi
    simp [isRunning, hi.live, Contact.isLive] at hidle
  | @interrupted w hc hi =>
    cases hlive hc
    refine ⟨_, [.shutdown], rfl, rfl, still (by simp) ?_⟩
    intro i hj
    rw [hj.uninterrupted] at hi
    cases hi
  | @completed w hc hi hp =>
    cases hlive hc
    refine ⟨_, [.shutdown], rfl, rfl, still (by simp) ?_⟩
    intro i hj
    exact Nat.not_le.2 hj.inside hp
  | @unreadable w cause hc hi hp hf =>
    cases hlive hc
    refine ⟨_, [.shutdown], rfl, rfl, still (by simp) ?_⟩
    intro i hj
    rw [hj.fetched] at hf
    cases hf
  | @halted w runs =>
    cases hlive runs.live
    refine ⟨_, [.shutdown], rfl, rfl, ?_⟩
    intro o
    rw [← only runs]
    simp [Core.orderOf]
  | @failed w i cause runs ho =>
    cases hlive runs.live
    obtain ⟨new, hnew, horders⟩ := result_orders files m r i
    refine ⟨_, .shutdown :: new, rfl, congrArg (_ :: ·) hnew, ?_⟩
    intro o
    rw [← only runs, ← horders]
    simp
  | @ran w i event runs ho hne herr =>
    cases hlive runs.live
    obtain ⟨new, hnew, horders⟩ := result_orders files m r i
    refine ⟨_, new, rfl, hnew, ?_⟩
    intro o
    rw [← only runs, horders]

theorem vehicle_requests (rs : List (Request E)) (h : ∃ r, m.contact.vehicle? = some r) :
    ∃ r, (m.requests rs).contact.vehicle? = some r := by
  refine requests_keep (P := fun m' => ∃ r, m'.contact.vehicle? = some r) ?_ (fun _ _ _ _ hm => hm) rs h
  rintro m' files ⟨r, hr⟩
  obtain ⟨r', new, hr', -⟩ := orders_of_step files hr
  exact ⟨r', hr'⟩

end Machine

theorem Core.orderOf_eq_move {c : Core} {i : Instruction} {motion : Motion} {n : Int64} :
    c.orderOf i = some (.move motion n) ↔
      ∃ amount, i = .move motion amount ∧ (c.value amount).truncate = n := by
  constructor
  · intro h
    cases i with
    | move motion' amount => cases h; exact ⟨amount, rfl, rfl⟩
    | takeoff => cases h
    | land => cases h
    | _ => cases h
  · rintro ⟨amount, rfl, rfl⟩
    rfl

variable [Vehicle V] [Vision E]

/-- A run of a program without decimal literals, `DIV` and `MATCH_FACE`, at any point of it: the number
registers and the number stack hold whole numbers, a number that the next step displays is written as the
decimal form of a word, and the motions that the next step asks of the vehicle are those of the instruction
it runs, with just the number that the operand stands for. -/
theorem whole_of_run {lines : List String} {p : Program} (hc : compile lines = .ok p)
    (hw : ∀ s ∈ lines, Line.isWhole s = true) (m : Machine (Recorded V) E) (v : V)
    (rs : List (Request E)) (files : Files) :
    let run := (m.start p (.new v)).2.requests rs
    (∀ x ∈ run.core.numbers, ∃ n, x = .int n) ∧
    (∀ x ∈ run.core.numberStack.items, ∃ n, x = .int n) ∧
    (∀ r source, run.Runs r (.display (.number source)) →
      ∃ n : Int64, run.core.value source = .int n ∧ (run.step files).1 = .print (toString n.toInt)) ∧
    ∃ r r' new, run.contact.vehicle? = some r ∧ (run.step files).2.contact.vehicle? = some r' ∧
      r'.calls = new ++ r.calls ∧
      ∀ motion n, .perform (.move motion n) ∈ new ↔
        ∃ amount, run.Runs r (.move motion amount) ∧ run.core.value amount = .int n := by
  intro run
  have hstart : (m.start p (.new v)).2.Whole := by
    refine ⟨?_, ?_⟩
    · rw [Machine.program_start]
      exact program_whole hc hw
    · rw [Machine.core_start]
      exact Core.whole_initial
  have hrun : run.Whole := hstart.requests rs
  obtain ⟨r, hr⟩ : ∃ r, run.contact.vehicle? = some r := by
    refine Machine.vehicle_requests rs ?_
    rw [Machine.contact_start]
    split
    · exact ⟨_, rfl⟩
    · exact ⟨_, rfl⟩
  obtain ⟨r', new, hr', hnew, horders⟩ := Machine.orders_of_step files hr
  refine ⟨fun x hx => eq_int_of_isInt (hrun.core.numbers x hx),
    fun x hx => eq_int_of_isInt (hrun.core.stack x hx), ?_, r, r', new, hr, hr', hnew, ?_⟩
  · intro w source hd
    obtain ⟨n, hn⟩ := eq_int_of_isInt (hrun.core.value (hrun.fetched hd))
    exact ⟨n, hn, by rw [Machine.step_display hd, hn, render_int]⟩
  · intro motion n
    rw [horders]
    constructor
    · rintro ⟨i, hi, ho⟩
      obtain ⟨amount, rfl, hamount⟩ := Core.orderOf_eq_move.1 ho
      obtain ⟨k, hk⟩ := eq_int_of_isInt (hrun.core.value (hrun.fetched hi))
      rw [hk] at hamount
      cases hamount
      exact ⟨amount, hi, hk⟩
    · rintro ⟨amount, hi, hn⟩
      exact ⟨_, hi, Core.orderOf_eq_move.2 ⟨amount, rfl, by rw [hn]; rfl⟩⟩

/-- Half of seven, rounded down, and a flight by that many. -/
theorem whole_run_half :
    let lines := ["store 7 $r0", "idiv $r0 2 $r1", "forward $r1"]
    let p : Program :=
      ⟨#[⟨none, [.ofMnemonic .store, ⟨.integer, "7"⟩, ⟨.numberRegister, "0"⟩]⟩,
         ⟨none, [.ofMnemonic .idiv, ⟨.numberRegister, "0"⟩, ⟨.integer, "2"⟩, ⟨.numberRegister, "1"⟩]⟩,
         ⟨none, [.ofMnemonic .forward, ⟨.numberRegister, "1"⟩]⟩]⟩
    let run := ((Machine.new 0 Blind.mk).start p (Recorded.new Reckoning.start)).2.requests
      [.execute .empty 2]
    compile lines = .ok p ∧ (∀ s ∈ lines, Line.isWhole s = true) ∧
      (∀ x ∈ run.core.numbers, ∃ n, x = .int n) ∧
      ∃ r', (run.step .empty).2.contact.vehicle? = some r' ∧ .perform (.move .forward 3) ∈ r'.calls := by
  intro lines p run
  have hc : compile lines = .ok p := eq_ok_of_toOption (by decide +kernel)
  have hw : ∀ s ∈ lines, Line.isWhole s = true := by decide +kernel
  obtain ⟨hnumbers, -, -, r, r', new, hr, hr', hnew, hmoves⟩ :=
    whole_of_run hc hw (.new 0 Blind.mk) Reckoning.start [.execute .empty 2] .empty
  refine ⟨hc, hw, hnumbers, r', hr', ?_⟩
  rw [hnew]
  refine List.mem_append_left _ ((hmoves .forward 3).2 ⟨.register ⟨1, by decide⟩, ⟨?_, rfl, ?_, rfl⟩, rfl⟩)
  · cases hr
    rfl
  · decide

end Quadcopter

import Quadcopter.Proofs.Assembly
import Quadcopter.Proofs.Run
import Quadcopter.Proofs.Spelling

/-!
# Quadcopter.Proofs.Insertion

A blank line or a comment put between two source lines. The line holds a `NOP`, and all that stands
behind it moves one line on, labels included. A run of the longer program does what a run of the
shorter one does, except that it takes one step more whenever it comes past the new line.

* `compile_insert`: the longer source compiles, and its program is the shorter one with a `NOP`
  (`Program.Inserted`).
* `execute_moved`, `step_together`, `step_alone`: what one instruction and one step do to machines
  whose addresses are moved (`Machine.Moved`).
* `catch_up`, `keep_up`: whatever one of the runs does in some steps, the other does in some steps.
* `run_insert`: the runs make the same calls, ask the same questions and tell the same.
-/

namespace Quadcopter

variable {V E : Type}

/-! ## Programs -/

namespace Program

/-- Where line `a` stands after a line was put in at `k`. -/
def shift (k a : Nat) : Nat := if a < k then a else a + 1

variable {k a : Nat}

theorem shift_of_lt (h : a < k) : shift k a = a := if_pos h

theorem shift_of_le (h : k ≤ a) : shift k a = a + 1 := if_neg (Nat.not_lt.2 h)

theorem shift_succ (k a : Nat) : shift k a + 1 = shift (k + 1) (a + 1) := by
  unfold shift
  split <;> split <;> omega

/-- The program `q` is `p` with a `NOP` put in at line `k`. -/
structure Inserted (k : Nat) (p q : Program) : Prop where
  inside : k ≤ p.size
  size : q.size = p.size + 1
  nop : q.line? k = some [Token.ofMnemonic .nop]
  line : ∀ i, q.line? (shift k i) = p.line? i
  find : ∀ name, q.find? name = (p.find? name).map (shift k)

theorem inserted_last (p : Program) : Inserted p.size p (p.add []) where
  inside := Nat.le_refl _
  size := size_add p []
  nop := line?_add_size p []
  line i := by
    by_cases h : i < p.size
    · rw [shift_of_lt h, line?_add_of_lt h]
    · have hle : p.size ≤ i := Nat.not_lt.1 h
      have hlast : (p.add []).size ≤ i + 1 := by rw [size_add]; omega
      rw [shift_of_le hle, (size_le_iff_line? _ _).1 hle, (size_le_iff_line? _ _).1 hlast]
  find name := by
    rw [find?_add, if_neg (by simp [labelOf])]
    cases hf : p.find? name with
    | none => rfl
    | some i => simp [shift_of_lt (find?_lt hf)]

namespace Inserted

variable {p q : Program}

theorem add (h : Inserted k p q) (ts : List Token) : Inserted k (p.add ts) (q.add ts) where
  inside := by
    have := h.inside
    rw [size_add]; omega
  size := by rw [size_add, size_add, h.size]
  nop := by
    have hlt : k < q.size := by
      have := h.inside
      rw [h.size]; omega
    rw [line?_add_of_lt hlt, h.nop]
  line i := by
    have hk := h.inside
    rcases Nat.lt_trichotomy i p.size with hi | rfl | hi
    · have hlt : shift k i < q.size := by
        rw [h.size]; unfold shift; split <;> omega
      rw [line?_add_of_lt hlt, line?_add_of_lt hi, h.line]
    · rw [shift_of_le hk, ← h.size, line?_add_size, line?_add_size]
    · have hp : (p.add ts).size ≤ i := by rw [size_add]; omega
      have hq : (q.add ts).size ≤ i + 1 := by rw [size_add, h.size]; omega
      rw [shift_of_le (by omega), (size_le_iff_line? _ _).1 hp, (size_le_iff_line? _ _).1 hq]
  find name := by
    rw [find?_add, find?_add]
    split
    · rw [h.size, Option.map_some, shift_of_le h.inside]
    · exact h.find name

theorem foldl (h : Inserted k p q) (tss : List (List Token)) :
    Inserted k (tss.foldl Program.add p) (tss.foldl Program.add q) := by
  induction tss generalizing p q with
  | nil => exact h
  | cons ts tss ih => exact ih (h.add ts)

theorem lookup (h : Inserted k p q) (name : String) :
    q.lookup name = (p.lookup name).map (shift k) := by
  unfold Program.lookup
  rw [h.find]
  cases p.find? name <;> rfl

end Inserted

theorem inserted_ofLines (before behind : List (List Token)) :
    Inserted before.length (ofLines (before ++ behind)) (ofLines (before ++ [] :: behind)) := by
  have h := (inserted_last (ofLines before)).foldl behind
  rw [size_ofLines] at h
  simpa [ofLines] using h

end Program

open Program (shift Inserted)

theorem parse_of_isBlank {s : String} (h : Line.IsBlank s) : Line.parse s = .ok [] := by
  rw [Line.parse, Line.normalize_of_isBlank h, Token.tokens_nil]
  rfl

/-- Source with a blank line or a comment put in compiles if the source does. -/
theorem compile_insert {before behind : List String} {s : String} {p : Program}
    (hc : compile (before ++ behind) = .ok p) (hs : Line.IsBlank s) :
    ∃ q, compile (before ++ s :: behind) = .ok q ∧ Inserted before.length p q := by
  obtain ⟨tss, hparse, rfl⟩ := compile_eq_ok_iff.1 hc
  -- the parsed lines split where the source does
  obtain ⟨front, back, hfront, hback, rfl⟩ : ∃ front back,
      List.Forall₂ (fun s ts => Line.parse s = .ok ts) before front ∧
      List.Forall₂ (fun s ts => Line.parse s = .ok ts) behind back ∧ tss = front ++ back := by
    refine ⟨tss.take before.length, tss.drop before.length, ?_, ?_, (List.take_append_drop ..).symm⟩
    · simpa using List.forall₂_take before.length hparse
    · simpa using List.forall₂_drop before.length hparse
  refine ⟨.ofLines (front ++ [] :: back), compile_eq_ok_iff.2 ⟨_, ?_, rfl⟩, ?_⟩
  · exact List.rel_append hfront (.cons (parse_of_isBlank hs) hback)
  · rw [hfront.length_eq]
    exact Program.inserted_ofLines front back

/-! ## Cores -/

namespace Stack

variable {α β : Type}

/-- The stack with a function applied to its items. -/
def map (f : α → β) (s : Stack α) : Stack β :=
  ⟨s.items.map f, s.size, by rw [List.length_map, s.size_eq], s.bounded⟩

theorem push_map (f : α → β) (name : StackName) (s : Stack α) (a : α) :
    (s.map f).push name (f a) = (s.push name a).map (map f) := by
  unfold push
  split
  · next h => rw [dif_pos (show s.size < stackCapacity from h)]; rfl
  · next h => rw [dif_neg (show ¬ s.size < stackCapacity from h)]; rfl

theorem pop_map (f : α → β) (name : StackName) (s : Stack α) :
    (s.map f).pop name = (s.pop name).map fun x => (f x.1, x.2.map f) := by
  obtain ⟨items, size, size_eq, bounded⟩ := s
  cases items <;> rfl

end Stack

/-- Address `b` stands for `a` after a line was put in at `k`: it is the shifted address, or that of the
new line itself, where a run comes by on its way to the line behind. -/
def Moved (k a b : Nat) : Prop := b = shift k a ∨ a = k ∧ b = k

theorem moved_zero (k : Nat) : Moved k 0 0 := by
  cases k with
  | zero => exact .inr ⟨rfl, rfl⟩
  | succ k => exact .inl (Program.shift_of_lt (Nat.succ_pos k)).symm

theorem moved_succ (k a : Nat) : Moved k (a + 1) (shift k a + 1) := by
  unfold Moved shift
  split <;> split <;> omega

namespace Core

/-- The core with other addresses. -/
def relocate (k pc returnRegister : Nat) (c : Core) : Core :=
  { c with pc, returnRegister, returnStack := c.returnStack.map (shift k) }

/-- A core `d` that differs from `c` in its addresses only, and there as a line put in at `k` demands. The
return register may hold what it holds at the start, which is the address of no label. -/
structure Moved (k : Nat) (c d : Core) : Prop where
  pc : Quadcopter.Moved k c.pc d.pc
  returnRegister : d.returnRegister = shift k c.returnRegister ∨
    c.returnRegister = 0 ∧ d.returnRegister = 0
  rest : d = c.relocate k d.pc d.returnRegister

section

variable (k pc r : Nat) (c : Core)

@[simp] theorem relocate_value (o : Operand) : (c.relocate k pc r).value o = c.value o := by
  cases o <;> rfl

@[simp] theorem relocate_photo (p : PicReg) : (c.relocate k pc r).photo p = c.photo p := rfl

@[simp] theorem relocate_shown (what : Shown) : (c.relocate k pc r).shown what = c.shown what := by
  cases what <;> simp [shown]

end

/-- Two attempts to go on that fail for the same cause, or give cores of which one is the other moved. -/
def MovedOr (k : Nat) : Except Cause Core → Except Cause Core → Prop
  | .ok c, .ok d => c.Moved k d
  | .error x, .error y => y = x
  | _, _ => False

theorem movedOr_map {α : Type} {k : Nat} (x : Except Cause α) {f g : α → Core}
    (h : ∀ a, (f a).Moved k (g a)) : MovedOr k (x.map f) (x.map g) := by
  cases x with
  | ok a => exact h a
  | error y => exact rfl

end Core

/-- The same result, the core moved. -/
structure Result.Moved (k : Nat) (r s : Result V E) : Prop where
  vehicle : s.vehicle = r.vehicle
  vision : s.vision = r.vision
  outcome : s.outcome = r.outcome
  core : r.core.Moved k s.core

namespace Core

variable {k : Nat} {p q : Program} {c d : Core}

theorem Moved.proceed (h : c.Moved k d) (v : V) (e : E) {next next' : Except Cause Core}
    (hn : MovedOr k next next') : (c.proceed v e next).Moved k (d.proceed v e next') := by
  cases next with
  | ok c' => cases next' with
    | ok d' => exact ⟨rfl, rfl, rfl, hn⟩
    | error y => cases hn
  | error x => cases next' with
    | ok d' => cases hn
    | error y => cases hn; exact ⟨rfl, rfl, rfl, h⟩

theorem Moved.order [Vehicle V] (h : c.Moved k d) (v : V) (e : E) (o : Order) {done done' : Core}
    (hdone : done.Moved k done') (event : Event) :
    (c.order v e o done event).Moved k (d.order v e o done' event) := by
  unfold Core.order
  split
  · exact ⟨rfl, rfl, rfl, hdone⟩
  · exact ⟨rfl, rfl, rfl, h⟩

section Execute

variable [Vehicle V] [Vision E]

theorem jump_moved (hq : Inserted k p q) (label : String) {a r : Nat}
    (hr : r = shift k c.returnRegister ∨ c.returnRegister = 0 ∧ r = 0) :
    MovedOr k (c.jump p label) ((c.relocate k a r).jump q label) := by
  unfold jump
  rw [hq.lookup]
  cases p.lookup label with
  | error x => exact rfl
  | ok b => exact ⟨.inl rfl, hr, rfl⟩

/-- At the same place of both programs an instruction does the same. -/
theorem execute_moved (hq : Inserted k p q) (h : c.Moved k d) (hpc : d.pc = shift k c.pc)
    (files : Files) (looks : Nat) (v : V) (e : E) (i : Instruction) :
    (c.execute files looks p v e i).Moved k (d.execute files looks q v e i) := by
  obtain ⟨-, hr, hd⟩ := h
  rw [hpc] at hd
  generalize d.returnRegister = r at hr hd
  subst hd
  have hc : c.Moved k (c.relocate k (shift k c.pc) r) := ⟨.inl rfl, hr, rfl⟩
  have hnext := moved_succ k c.pc
  cases i with
  | nop => exact ⟨rfl, rfl, rfl, hnext, hr, rfl⟩
  | halt => exact ⟨rfl, rfl, rfl, hnext, hr, rfl⟩
  | jump label => exact hc.proceed v e (jump_moved hq label hr)
  | jumpReturn =>
    refine ⟨rfl, rfl, rfl, ?_, hr, rfl⟩
    rcases hr with hr | ⟨hc0, hr0⟩
    · exact .inl hr
    · simp only [execute, relocate, hc0, hr0]
      exact moved_zero k
  | pushReturn label =>
    refine hc.proceed v e ?_
    unfold pushReturn
    rw [hq.lookup]
    cases p.lookup label with
    | error x => exact rfl
    | ok a =>
      have hpush : (c.relocate k (shift k c.pc) r).returnStack.push .ret (shift k a) =
          (c.returnStack.push .ret a).map (Stack.map (shift k)) := Stack.push_map ..
      simp only [Except.map, hpush]
      cases c.returnStack.push .ret a with
      | error x => exact rfl
      | ok s => exact ⟨hnext, hr, rfl⟩
  | popReturn =>
    refine hc.proceed v e ?_
    unfold popReturn
    have hpop : (c.relocate k (shift k c.pc) r).returnStack.pop .ret =
        (c.returnStack.pop .ret).map fun x => (shift k x.1, x.2.map (shift k)) := Stack.pop_map ..
    rw [hpop]
    cases c.returnStack.pop .ret with
    | error x => exact rfl
    | ok popped => exact ⟨hnext, .inl rfl, rfl⟩
  | branch relation lhs rhs label =>
    refine hc.proceed v e ?_
    simp only [branch, relocate_value]
    split
    · exact jump_moved hq label hr
    · exact ⟨hnext, hr, rfl⟩
  | store source dest =>
    simp only [execute, relocate_value]
    exact ⟨rfl, rfl, rfl, hnext, hr, rfl⟩
  | copy source dest => exact ⟨rfl, rfl, rfl, hnext, hr, rfl⟩
  | copyPic source dest => exact ⟨rfl, rfl, rfl, hnext, hr, rfl⟩
  | pushNum source =>
    simp only [execute, relocate_value]
    exact hc.proceed v e (movedOr_map (c.numberStack.push ..) fun s => ⟨hnext, hr, rfl⟩)
  | pushPic source =>
    exact hc.proceed v e (movedOr_map (c.pictureStack.push ..) fun s => ⟨hnext, hr, rfl⟩)
  | popNum dest =>
    exact hc.proceed v e (movedOr_map (c.numberStack.pop ..) fun s => ⟨hnext, hr, rfl⟩)
  | popPic dest =>
    exact hc.proceed v e (movedOr_map (c.pictureStack.pop ..) fun s => ⟨hnext, hr, rfl⟩)
  | arithmetic op lhs rhs dest =>
    refine hc.proceed v e ?_
    simp only [arithmetic, relocate_value]
    exact movedOr_map _ fun x => ⟨hnext, hr, rfl⟩
  | takeoff => exact hc.order v e _ ⟨hnext, hr, rfl⟩ _
  | land => exact hc.order v e _ ⟨hnext, hr, rfl⟩ _
  | move motion operand =>
    simp only [execute, relocate_value]
    exact hc.order v e _ ⟨hnext, hr, rfl⟩ _
  | display what =>
    simp only [execute, relocate_shown]
    cases c.shown what with
    | error x => exact ⟨rfl, rfl, rfl, hc⟩
    | ok event => exact ⟨rfl, rfl, rfl, hnext, hr, rfl⟩
  | takePic dest =>
    simp only [execute]
    split
    · exact ⟨rfl, rfl, rfl, hnext, hr, rfl⟩
    · exact ⟨rfl, rfl, rfl, hc⟩
  | loadPic file dest =>
    exact hc.proceed v e (movedOr_map _ fun picture => ⟨hnext, hr, rfl⟩)
  | detectFace picture face dest =>
    simp only [execute, relocate_photo]
    cases c.photo picture with
    | error x => exact ⟨rfl, rfl, rfl, hc⟩
    | ok photo =>
      simp only [detect]
      split
      · exact ⟨rfl, rfl, rfl, hnext, hr, rfl⟩
      · exact ⟨rfl, rfl, rfl, hnext, hr, rfl⟩
  | matchFace first second dest =>
    have hfaces : (c.relocate k (shift k c.pc) r).faces = c.faces := rfl
    simp only [execute, likeness, hfaces]
    split
    · exact ⟨rfl, rfl, rfl, hnext, hr, rfl⟩
    · exact ⟨rfl, rfl, rfl, hc⟩

end Execute
end Core

/-! ## Steps -/

namespace Event

/-- Whether an event is told to the host, rather than that the run goes on. -/
def isTold : Event → Bool
  | .running => false
  | _ => true

/-- The event after a line was put in at `k`. Faults count lines from one. -/
def relocate (k : Nat) : Event → Event
  | .error ⟨cause, line⟩ => .error ⟨cause, line.map (shift (k + 1))⟩
  | event => event

theorem isTold_relocate (k : Nat) (event : Event) : (event.relocate k).isTold = event.isTold := by
  cases event <;> rfl

end Event

namespace Machine

/-- A machine `n` that is like `m`, but runs a program with a line put in at `k`. -/
structure Moved (k : Nat) (m n : Machine V E) : Prop where
  program : Inserted k m.program n.program
  core : m.core.Moved k n.core
  frameTimeout : n.frameTimeout = m.frameTimeout
  vision : n.vision = m.vision
  failed : n.failed = m.failed
  interrupted : n.interrupted = m.interrupted
  contact : n.contact = m.contact

variable {k : Nat} {m n : Machine V E}

namespace Moved

theorem size_le_iff (h : m.Moved k n) (hpc : n.core.pc = shift k m.core.pc) :
    n.program.size ≤ n.core.pc ↔ m.program.size ≤ m.core.pc := by
  have := h.program.inside
  rw [hpc, h.program.size]
  unfold shift
  split <;> omega

theorem fetch (h : m.Moved k n) (hpc : n.core.pc = shift k m.core.pc) : n.fetch = m.fetch := by
  unfold Machine.fetch
  rw [hpc, h.program.line]

theorem error_relocate (hpc : n.core.pc = shift k m.core.pc) (cause : Cause) :
    Event.error (cause.inLine (n.core.pc + 1)) =
      (Event.error (cause.inLine (m.core.pc + 1))).relocate k := by
  rw [hpc, Program.shift_succ]
  rfl

theorem start [Vehicle V] {p q : Program} (h : Inserted k p q) (m : Machine V E) (v : V) :
    (m.start q v).1 = (m.start p v).1 ∧ (m.start p v).2.Moved k (m.start q v).2 := by
  have hcore : m.core.reset.Moved k m.core.reset := ⟨moved_zero k, .inr ⟨rfl, rfl⟩, rfl⟩
  unfold Machine.start
  split
  · exact ⟨rfl, h, hcore, rfl, rfl, rfl, rfl, rfl⟩
  · exact ⟨rfl, h, hcore, rfl, rfl, rfl, rfl, rfl⟩

variable [Vehicle V] [Vision E]

theorem result (h : m.Moved k n) (hpc : n.core.pc = shift k m.core.pc) (files : Files) (v : V)
    (i : Instruction) : (m.result files v i).Moved k (n.result files v i) := by
  have hlooks : n.looks = m.looks := by unfold looks; rw [h.frameTimeout]
  unfold Machine.result
  rw [hlooks, h.vision]
  exact Core.execute_moved h.program h.core hpc files m.looks v m.vision i

theorem perform (h : m.Moved k n) (hpc : n.core.pc = shift k m.core.pc) (files : Files) (v : V)
    (i : Instruction) :
    (n.perform files v i).1 = (m.perform files v i).1.relocate k ∧
      (m.perform files v i).2.Moved k (n.perform files v i).2 := by
  have hr := h.result hpc files v i
  cases ho : (m.result files v i).outcome with
  | error cause =>
    rw [perform_error ho, perform_error (hr.outcome.trans ho), hr.vehicle]
    exact ⟨error_relocate hpc cause, h.program, h.core, h.frameTimeout, h.vision, rfl, h.interrupted,
      rfl⟩
  | ok event =>
    obtain ⟨herr, hhalt⟩ := Core.execute_ok ho
    by_cases hs : event = .stopped
    · obtain rfl := hhalt hs
      exact ⟨rfl, h.program, hr.core, h.frameTimeout, h.vision, h.failed, h.interrupted, rfl⟩
    · rw [perform_ok ho hs, perform_ok (hr.outcome.trans ho) hs, hr.vehicle]
      refine ⟨?_, h.program, hr.core, h.frameTimeout, hr.vision, h.failed, h.interrupted, rfl⟩
      cases event with
      | error f => exact absurd rfl (herr f)
      | _ => rfl

/-- Machines at the same line step together. So do machines that do not come to run a line, whatever
line they are at. -/
theorem step_together (h : m.Moved k n) (files : Files)
    (hpc : m.isRunning = true → m.interrupted = false → n.core.pc = shift k m.core.pc) :
    (n.step files).1 = (m.step files).1.relocate k ∧ (m.step files).2.Moved k (n.step files).2 := by
  cases hc : m.contact with
  | live v =>
    have hrun : m.isRunning = true := by rw [isRunning, hc]; rfl
    unfold step
    simp only [h.contact, h.interrupted, hc]
    split
    · exact ⟨rfl, h.program, h.core, h.frameTimeout, h.vision, h.failed, rfl, rfl⟩
    next hi =>
    have hpc := hpc hrun (by simpa using hi)
    simp only [h.size_le_iff hpc]
    split
    · exact ⟨rfl, h.program, h.core, h.frameTimeout, h.vision, h.failed, rfl, rfl⟩
    rw [h.fetch hpc]
    split
    · next cause _ =>
      exact ⟨error_relocate hpc cause, h.program, h.core, h.frameTimeout, h.vision, rfl,
        h.interrupted, rfl⟩
    · next i _ => exact h.perform hpc files v i
  | _ =>
    have hm : m.isRunning = false := by rw [isRunning, hc]; rfl
    have hn : n.isRunning = false := by rw [isRunning, h.contact]; exact hm
    rw [step_of_not_live files hm, step_of_not_live files hn]
    exact ⟨rfl, h⟩

/-- A machine at the line put in goes past it without a word, and is then at the line of the other. -/
theorem step_alone (h : m.Moved k n) (files : Files) (hrun : m.isRunning = true)
    (hi : m.interrupted = false) (hpc : n.core.pc ≠ shift k m.core.pc) :
    (n.step files).1 = .running ∧ m.Moved k (n.step files).2 ∧
      (n.step files).2.core.pc = shift k m.core.pc := by
  obtain ⟨hmk, hnk⟩ : m.core.pc = k ∧ n.core.pc = k := h.core.pc.resolve_left hpc
  obtain ⟨v, hv⟩ : ∃ v, m.contact = .live v := by
    unfold isRunning at hrun
    cases hc : m.contact with
    | live v => exact ⟨v, rfl⟩
    | _ => rw [hc] at hrun; cases hrun
  have hfetch : n.fetch = .ok .nop := by
    unfold Machine.fetch
    rw [hnk, h.program.nop]
    rfl
  have inside : n.core.pc < n.program.size := by
    have := h.program.inside
    rw [h.program.size, hnk]; omega
  have runs : n.Runs v .nop := ⟨h.contact.trans hv, h.interrupted.trans hi, inside, hfetch⟩
  have hshift : n.core.pc + 1 = shift k m.core.pc := by
    rw [hmk, hnk, Program.shift_of_le (Nat.le_refl k)]
  rw [step_of_runs files runs]
  refine ⟨rfl, ⟨h.program, ?_, h.frameTimeout, h.vision, h.failed, h.interrupted, hv.symm⟩, hshift⟩
  exact ⟨.inl hshift, h.core.returnRegister, congrArg Core.next h.core.rest⟩

theorem step_cases (h : m.Moved k n) (files : Files) :
    ((n.step files).1 = (m.step files).1.relocate k ∧ (m.step files).2.Moved k (n.step files).2) ∨
    ((n.step files).1 = .running ∧ m.Moved k (n.step files).2 ∧
      (n.step files).2.core.pc = shift k m.core.pc) := by
  by_cases hpc : m.isRunning = true → m.interrupted = false → n.core.pc = shift k m.core.pc
  · exact .inl (h.step_together files hpc)
  · obtain ⟨hrun, hi, hne⟩ : m.isRunning = true ∧ m.interrupted = false ∧
        n.core.pc ≠ shift k m.core.pc := by simpa using hpc
    exact .inr (h.step_alone files hrun hi hne)

end Moved

/-! ## Runs -/

variable [Vehicle V] [Vision E]

/-- After `i` steps of `m` and `j` steps of `n` the machines are at the same point, and they have told the
same up to the numbers of lines. -/
structure Abreast (k : Nat) (files : Files) (m n : Machine V E) (i j : Nat) : Prop where
  moved : (m.acts (List.replicate i (.step files))).Moved k (n.acts (List.replicate j (.step files)))
  told : (n.events (List.replicate j (.step files))).filter Event.isTold =
    ((m.events (List.replicate i (.step files))).filter Event.isTold).map (Event.relocate k)

section Abreast

variable {files : Files} {i j : Nat}

theorem Abreast.together (h : Abreast k files (m.step files).2 (n.step files).2 i j)
    (he : (n.step files).1 = (m.step files).1.relocate k) : Abreast k files m n (i + 1) (j + 1) := by
  refine ⟨h.moved, ?_⟩
  simp only [List.replicate_succ, events, List.filter_cons, he, Event.isTold_relocate, h.told]
  split <;> rfl

theorem Abreast.alone (h : Abreast k files m (n.step files).2 i j)
    (he : (n.step files).1 = .running) : Abreast k files m n i (j + 1) := by
  refine ⟨h.moved, ?_⟩
  simp only [List.replicate_succ, events, List.filter_cons, he, Event.isTold, h.told]
  rfl

/-- Whatever the run without the line does in some steps, the run with the line does in some steps. -/
theorem Moved.catch_up (h : m.Moved k n) (files : Files) (i : Nat) : ∃ j, Abreast k files m n i j := by
  induction i generalizing m n with
  | zero => exact ⟨0, h, rfl⟩
  | succ i ih =>
    rcases h.step_cases files with ⟨he, hm⟩ | ⟨he, hm, hpc⟩
    · obtain ⟨j, hj⟩ := ih hm
      exact ⟨j + 1, hj.together he⟩
    · -- past the line put in, and then as above
      obtain ⟨he', hm'⟩ := hm.step_together files fun _ _ => hpc
      obtain ⟨j, hj⟩ := ih hm'
      exact ⟨j + 2, (hj.together he').alone he⟩

/-- Whatever the run with the line does in some steps, the run without the line does in some steps. -/
theorem Moved.keep_up (h : m.Moved k n) (files : Files) (j : Nat) : ∃ i, Abreast k files m n i j := by
  induction j generalizing m n with
  | zero => exact ⟨0, h, rfl⟩
  | succ j ih =>
    rcases h.step_cases files with ⟨he, hm⟩ | ⟨he, hm, -⟩
    · obtain ⟨i, hi⟩ := ih hm
      exact ⟨i + 1, hi.together he⟩
    · obtain ⟨i, hi⟩ := ih hm
      exact ⟨i, hi.alone he⟩

end Abreast

/-- The two machines have made the same calls to the vehicle and asked the same questions. -/
def SameCalls (m n : Machine (Recorded V) (Watched E)) : Prop :=
  n.contact.vehicle?.map Recorded.calls = m.contact.vehicle?.map Recorded.calls ∧
    n.vision.questions = m.vision.questions

omit [Vehicle V] [Vision E] in
theorem Moved.sameCalls {m n : Machine (Recorded V) (Watched E)} (h : m.Moved k n) : SameCalls m n :=
  ⟨by rw [h.contact], by rw [h.vision]⟩

/-- Each point of either run is a point of the other, where the same calls have been made and the same
has been told. -/
def SameRun (k : Nat) (files : Files) (m n : Machine (Recorded V) (Watched E)) : Prop :=
  let reach (m : Machine (Recorded V) (Watched E)) i := m.acts (List.replicate i (.step files))
  (∀ i, ∃ j, Abreast k files m n i j ∧ SameCalls (reach m i) (reach n j)) ∧
    ∀ j, ∃ i, Abreast k files m n i j ∧ SameCalls (reach m i) (reach n j)

end Machine

variable [Vehicle V] [Vision E]

/-- A blank line or a comment, put anywhere into source that compiles, changes nothing but addresses and
the numbers of the lines behind it. -/
theorem run_insert {before behind : List String} {s : String} {p : Program}
    (hc : compile (before ++ behind) = .ok p) (hs : Line.IsBlank s)
    (m : Machine (Recorded V) (Watched E)) (v : V) (files : Files) :
    ∃ q, compile (before ++ s :: behind) = .ok q ∧
      (m.start q (.new v)).1 = (m.start p (.new v)).1 ∧
      Machine.SameRun before.length files (m.start p (.new v)).2 (m.start q (.new v)).2 := by
  obtain ⟨q, hq, hins⟩ := compile_insert hc hs
  obtain ⟨hresult, hmoved⟩ := Machine.Moved.start hins m (.new v)
  refine ⟨q, hq, hresult, ?_, ?_⟩
  · intro i
    obtain ⟨j, hj⟩ := hmoved.catch_up files i
    exact ⟨j, hj, hj.moved.sameCalls⟩
  · intro j
    obtain ⟨i, hi⟩ := hmoved.keep_up files j
    exact ⟨i, hi, hi.moved.sameCalls⟩

/-- A comment in front of a program that returns to its start for ever, where no label stands. -/
theorem run_insert_loop :
    let p : Program := ⟨#[⟨none, [.ofMnemonic .jumpReturn]⟩]⟩
    let m : Machine (Recorded Reckoning) (Watched Blind) := .new 0 (.new Blind.mk)
    let v : Recorded Reckoning := .new .start
    compile ["jump_return"] = .ok p ∧ Line.IsBlank "  # again" ∧
      ∃ q, compile ["  # again", "jump_return"] = .ok q ∧ (m.start q v).1 = (m.start p v).1 ∧
        Machine.SameRun 0 .empty (m.start p v).2 (m.start q v).2 := by
  intro p m v
  have hc : compile ([] ++ ["jump_return"]) = .ok p := eq_ok_of_toOption (by decide +kernel)
  have hs : Line.IsBlank "  # again" := by decide +kernel
  exact ⟨hc, hs, run_insert hc hs m .start .empty⟩

end Quadcopter

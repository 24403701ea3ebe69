import Quadcopter.Proofs.Restart

/-!
# Quadcopter.Proofs.Interrupt

Interrupts of a run. An interrupt only leaves a mark that the next step of a live run looks at, and a run
that is not live looks at nothing: the mark can stay behind when the run has ended in its own way, and a
start is what takes it off.

* `Stilled`: what an interrupted run can have become. Each control keeps it (`Stilled.control`), and no
  step of it runs an instruction (`Stilled.not_runs`).
* `interrupt_of_run`: an interrupt ends the run it falls into, before its next instruction, and no other.
-/

namespace Quadcopter

variable {V E : Type}

/-- What a host does with a run, interrupts included. A step looks once whether it is interrupted, so an
interrupt that comes during a step is one before it or after it; in a batch of steps, an interrupt comes
before those steps for which there is a `true`. -/
inductive Control where
  | interrupt
  | step (files : Files)
  | execute (files : Files) (interrupts : List Bool)

namespace Machine

def interruptIf (m : Machine V E) (asked : Bool) : Machine V E := if asked then m.interrupt else m

variable [Vehicle V] [Vision E]

/-- Run a batch of steps amid interrupts, until there is something to tell. -/
def executeAmid (files : Files) : List Bool → Machine V E → Event × Machine V E
  | [], m => (.running, m)
  | asked :: rest, m =>
    match (m.interruptIf asked).step files with
    | (.running, m) => executeAmid files rest m
    | told => told

theorem executeAmid_false (files : Files) (n : Nat) (m : Machine V E) :
    m.executeAmid files (List.replicate n false) = m.execute files n := by
  induction n generalizing m with
  | zero => rfl
  | succ n ih =>
    rw [List.replicate_succ, executeAmid, execute, interruptIf, if_neg Bool.false_ne_true]
    generalize m.step files = told
    obtain ⟨event, m'⟩ := told
    cases event with
    | running => exact ih m'
    | _ => rfl

def control (m : Machine V E) : Control → Machine V E
  | .interrupt => m.interrupt
  | .step files => (m.step files).2
  | .execute files interrupts => (m.executeAmid files interrupts).2

def controls (m : Machine V E) (cs : List Control) : Machine V E := cs.foldl control m

/-- The machine each time that a batch of steps takes one. -/
def steppingAmid (files : Files) : List Bool → Machine V E → List (Machine V E)
  | [], _ => []
  | asked :: rest, m =>
    m.interruptIf asked ::
      match (m.interruptIf asked).step files with
      | (.running, m) => steppingAmid files rest m
      | _ => []

/-- The machine each time that it takes a step. -/
def stepping (m : Machine V E) : List Control → List (Machine V E)
  | [] => []
  | .interrupt :: cs => m.interrupt.stepping cs
  | .step files :: cs => m :: (m.step files).2.stepping cs
  | .execute files interrupts :: cs =>
    m.steppingAmid files interrupts ++ (m.executeAmid files interrupts).2.stepping cs

/-- An interrupt in a batch that has got so far is one between two batches. -/
theorem executeAmid_true {files : Files} {early : List Bool} {m m' : Machine V E} (late : List Bool)
    (h : m.executeAmid files early = (.running, m')) :
    m.executeAmid files (early ++ true :: late) = m'.interrupt.executeAmid files (false :: late) ∧
      m.steppingAmid files (early ++ true :: late) =
        m.steppingAmid files early ++ m'.interrupt.steppingAmid files (false :: late) := by
  induction early generalizing m with
  | nil => cases h; exact ⟨rfl, rfl⟩
  | cons asked rest ih =>
    simp only [List.cons_append, executeAmid, steppingAmid] at h ⊢
    generalize (m.interruptIf asked).step files = told at h ⊢
    obtain ⟨event, next⟩ := told
    cases event with
    | running =>
      obtain ⟨hend, hsteps⟩ := ih h
      exact ⟨hend, congrArg (m.interruptIf asked :: ·) hsteps⟩
    | _ => cases h

theorem executeAmid_eq_acts (files : Files) (interrupts : List Bool) (m : Machine V E) :
    ∃ as : List (Act E), (m.executeAmid files interrupts).2 = m.acts as := by
  induction interrupts generalizing m with
  | nil => exact ⟨[], rfl⟩
  | cons asked rest ih =>
    obtain ⟨early, hearly⟩ : ∃ as : List (Act E), m.interruptIf asked = m.acts as := by
      cases asked
      · exact ⟨[], rfl⟩
      · exact ⟨[.interrupt], rfl⟩
    rw [executeAmid]
    split
    · next m' hm =>
      obtain ⟨as, has⟩ := ih m'
      refine ⟨early ++ .step files :: as, ?_⟩
      rw [has, acts_append, ← hearly, acts_cons, act, hm]
    · next hm =>
      refine ⟨early ++ [.step files], ?_⟩
      rw [acts_append, ← hearly, acts_cons, acts_nil, act]

/-- What every run of steps and interrupts keeps is kept by controls. -/
theorem controls_keep {P : Machine V E → Prop} (hstep : ∀ m files, P m → P (m.step files).2)
    (hset : ∀ (m : Machine V E) interrupted vision frameTimeout, P m →
      P { m with interrupted, vision, frameTimeout })
    {m : Machine V E} (cs : List Control) (h : P m) : P (m.controls cs) := by
  induction cs generalizing m with
  | nil => exact h
  | cons c cs ih =>
    refine ih ?_
    cases c with
    | interrupt => exact acts_keep hstep hset [.interrupt] h
    | step files => exact hstep m files h
    | execute files interrupts =>
      obtain ⟨as, has⟩ := executeAmid_eq_acts files interrupts m
      rw [control, has]
      exact acts_keep hstep hset as h

/-! ## An interrupted run -/

omit [Vision E] in
theorem isRunning_stop (m : Machine V E) : m.stop.isRunning = false := by
  unfold isRunning stop
  cases m.contact <;> rfl

/-- What a machine can have become that was interrupted in some state: it waits for the step that will
stop it, or it is stopped. Whether there is an interrupt pending is open when it is stopped. -/
inductive Stilled (m : Machine V E) : Machine V E → Prop where
  | pending : Stilled m m.interrupt
  | stopped (interrupted : Bool) : Stilled m { m.stop with interrupted }

namespace Stilled

variable {m n : Machine V E}

omit [Vision E] in
theorem interrupt (h : Stilled m n) : Stilled m n.interrupt := by
  cases h with
  | pending => exact .pending
  | stopped b => exact .stopped true

omit [Vision E] in
theorem not_runs (h : Stilled m n) (v : V) (i : Instruction) : ¬ n.Runs v i := by
  intro hr
  cases h with
  | pending => cases hr.uninterrupted
  | stopped b =>
    have hidle := isRunning_stop m
    have hlive : m.stop.contact = .live v := hr.live
    simp [isRunning, hlive, Contact.isLive] at hidle

theorem step_eq (h : Stilled m n) (files : Files) :
    (n.step files).1 = .stopped ∧ Stilled m (n.step files).2 := by
  cases h with
  | pending =>
    cases hc : m.contact with
    | live v =>
      have hs : m.interrupt.step files = (.stopped, { m.stop with interrupted := false }) := by
        simp [step, Machine.interrupt, stop, Contact.close, hc]
      rw [hs]
      exact ⟨rfl, .stopped false⟩
    | none =>
      rw [step_of_not_live files (by simp [isRunning, Machine.interrupt, hc, Contact.isLive])]
      exact ⟨rfl, .pending⟩
    | ended v =>
      rw [step_of_not_live files (by simp [isRunning, Machine.interrupt, hc, Contact.isLive])]
      exact ⟨rfl, .pending⟩
  | stopped b =>
    have hs := step_of_not_live files (m := { m.stop with interrupted := b }) (isRunning_stop m)
    rw [hs]
    exact ⟨rfl, .stopped b⟩

omit [Vision E] in
theorem interruptIf (h : Stilled m n) (asked : Bool) : Stilled m (n.interruptIf asked) := by
  cases asked
  · exact h
  · exact h.interrupt

/-- A batch ends with its first step, if it has one. -/
theorem executeAmid_cons (h : Stilled m n) (files : Files) (asked : Bool) (rest : List Bool) :
    n.executeAmid files (asked :: rest) = (n.interruptIf asked).step files := by
  have hs := ((h.interruptIf asked).step_eq files).1
  rw [executeAmid]
  split
  · next hm => rw [hm] at hs; cases hs
  · rfl

theorem steppingAmid_cons (h : Stilled m n) (files : Files) (asked : Bool) (rest : List Bool) :
    n.steppingAmid files (asked :: rest) = [n.interruptIf asked] := by
  have hs := ((h.interruptIf asked).step_eq files).1
  rw [steppingAmid]
  split
  · next hm => rw [hm] at hs; cases hs
  · rfl

theorem control (h : Stilled m n) (c : Control) : Stilled m (n.control c) := by
  cases c with
  | interrupt => exact h.interrupt
  | step files => exact (h.step_eq files).2
  | execute files interrupts =>
    cases interrupts with
    | nil => exact h
    | cons asked rest =>
      rw [Machine.control, h.executeAmid_cons]
      exact ((h.interruptIf asked).step_eq files).2

theorem controls (h : Stilled m n) (cs : List Control) : Stilled m (n.controls cs) := by
  induction cs generalizing n with
  | nil => exact h
  | cons c cs ih => exact ih (h.control c)

/-- An interrupted run is still one whenever it takes a step. -/
theorem stepping (h : Stilled m n) (cs : List Control) : ∀ n' ∈ n.stepping cs, Stilled m n' := by
  induction cs generalizing n with
  | nil => nofun
  | cons c cs ih =>
    intro n' hn
    have hrest := ih (h.control c) n'
    cases c with
    | interrupt => exact hrest hn
    | step files =>
      rcases List.mem_cons.1 hn with rfl | hn
      · exact h
      · exact hrest hn
    | execute files interrupts =>
      rcases List.mem_append.1 hn with hn | hn
      · cases interrupts with
        | nil => cases hn
        | cons asked rest =>
          rw [h.steppingAmid_cons, List.mem_singleton] at hn
          rw [hn]
          exact h.interruptIf asked
      · exact hrest hn

omit [Vision E] in
/-- As long as contact is live, nothing has happened to the run since it was interrupted. -/
theorem eq_of_live (h : Stilled m n) {v : V} (hv : n.contact = .live v) : n = m.interrupt := by
  cases h with
  | pending => rfl
  | stopped b =>
    have hidle := isRunning_stop m
    have hlive : m.stop.contact = .live v := hv
    simp [isRunning, hlive, Contact.isLive] at hidle

theorem step_of_live (h : Stilled m n) {v : V} (hv : n.contact = .live v) (files : Files) :
    n.step files =
      (.stopped, { n with interrupted := false, contact := .ended (Vehicle.shutdown v) }) := by
  have hn : n.interrupted = true := by
    rw [h.eq_of_live hv]
    rfl
  simp [step, hv, hn]

theorem executeAmid_of_live (h : Stilled m n) {v : V} (hv : n.contact = .live v) (files : Files)
    (asked : Bool) (rest : List Bool) :
    n.executeAmid files (asked :: rest) =
      (.stopped, { n with interrupted := false, contact := .ended (Vehicle.shutdown v) }) := by
  -- a second interrupt changes nothing
  have hi : n.interruptIf asked = n := by
    rw [h.eq_of_live hv]
    cases asked <;> rfl
  rw [h.executeAmid_cons, hi, h.step_of_live hv]

omit [Vision E] in
/-- A start finds nothing of the interrupt. -/
theorem start (h : Stilled m n) (q : Program) (u : V) :
    n.start q u = (new m.frameTimeout m.vision).start q u := by
  have hset : n.frameTimeout = m.frameTimeout ∧ n.vision = m.vision := by
    cases h <;> exact ⟨rfl, rfl⟩
  rw [← hset.1, ← hset.2]
  exact n.start_eq_start_new q u

end Stilled

omit [Vision E] in
theorem interrupted_start (m : Machine V E) (p : Program) (v : V) :
    (m.start p v).2.interrupted = false := by
  unfold start
  dsimp only
  split <;> rfl

omit [Vision E] in
theorem failed_start (m : Machine V E) (p : Program) (v : V) : (m.start p v).2.failed = false := by
  unfold start
  dsimp only
  split <;> rfl

/-- A run that goes on has not failed. -/
theorem failed_step {m : Machine V E} (files : Files) (h : m.isRunning = true → m.failed = false) :
    (m.step files).2.isRunning = true → (m.step files).2.failed = false := by
  have hs := step_spec files m
  generalize (m.step files).1 = event at hs
  generalize (m.step files).2 = m' at hs ⊢
  intro hrun
  cases hs with
  | idle hidle => exact h hrun
  | ran runs ho hne herr => exact h (by simp [isRunning, runs.live, Contact.isLive])
  | _ => cases hrun

theorem failed_controls (m : Machine V E) (p : Program) (v : V) (cs : List Control)
    (h : ((m.start p v).2.controls cs).isRunning = true) :
    ((m.start p v).2.controls cs).failed = false := by
  refine controls_keep (P := fun m' => m'.isRunning = true → m'.failed = false) ?_ ?_ cs ?_ h
  · intro m' files h'
    exact failed_step files h'
  · intro m' _ _ _ h'
    exact h'
  · intro _
    exact failed_start m p v

end Machine

variable [Vehicle V] [Vision E]

/-- Take a run that was started, after any controls, and interrupt it; an interrupt in the middle of a batch
is one between two batches. Whatever is done then, no step runs
an instruction; the machine is as it was, but that its vehicle may have been shut down, once. If contact is
still live, the next step and the next batch stop, and the run has not failed. The next start gives what a
new machine gives, that nobody has interrupted. -/
theorem interrupt_of_run (m₀ : Machine V E) (p : Program) (w : V) (before after : List Control) :
    let m := (m₀.start p w).2.controls before
    let n := m.interrupt.controls after
    (∀ files early late m', m.executeAmid files early = (.running, m') →
      m.executeAmid files (early ++ true :: late) = m'.interrupt.executeAmid files (false :: late) ∧
        m.steppingAmid files (early ++ true :: late) =
          m.steppingAmid files early ++ m'.interrupt.steppingAmid files (false :: late)) ∧
    (∀ n' ∈ m.interrupt.stepping after,
      (∀ v i, ¬ n'.Runs v i) ∧ ∀ files, (n'.step files).1 = .stopped) ∧
    (n = m.interrupt ∨ ∃ interrupted, n = { m.stop with interrupted }) ∧
    (∀ v, n.contact = .live v → n.failed = false ∧ ∀ files asked rest,
      let stopped := { n with interrupted := false, contact := .ended (Vehicle.shutdown v) }
      n.step files = (.stopped, stopped) ∧
        (∀ k, n.execute files (k + 1) = (.stopped, stopped)) ∧
        n.executeAmid files (asked :: rest) = (.stopped, stopped)) ∧
    ∀ (q : Program) (u : V),
      n.start q u = (Machine.new m.frameTimeout m.vision).start q u ∧
        (n.start q u).2.interrupted = false := by
  intro m n
  have hstart : m.Stilled m.interrupt := .pending
  have hn : m.Stilled n := hstart.controls after
  refine ⟨?_, ?_, ?_, ?_, ?_⟩
  · intro files early late m' h
    exact Machine.executeAmid_true late h
  · intro n' hn'
    have still := hstart.stepping after n' hn'
    exact ⟨still.not_runs, fun files => (still.step_eq files).1⟩
  · generalize n = n at hn
    cases hn with
    | pending => exact .inl rfl
    | stopped b => exact .inr ⟨b, rfl⟩
  · intro v hv
    constructor
    · have hm : n = m.interrupt := hn.eq_of_live hv
      have hlive : m.isRunning = true := by
        rw [hm] at hv
        exact congrArg Contact.isLive hv
      rw [hm]
      exact Machine.failed_controls m₀ p w before hlive
    · intro files asked rest stopped
      refine ⟨hn.step_of_live hv files, ?_, hn.executeAmid_of_live hv files asked rest⟩
      intro k
      rw [← Machine.executeAmid_false, List.replicate_succ, hn.executeAmid_of_live hv]
  · intro q u
    exact ⟨hn.start q u, n.interrupted_start q u⟩

/-- A flight that is interrupted in the air, in a batch of steps, and a batch after it. -/
theorem interrupt_in_the_air :
    let p : Program := ⟨#[⟨none, [.ofMnemonic .takeoff]⟩, ⟨none, [.ofMnemonic .land]⟩]⟩
    let m := ((Machine.new 0 Blind.mk).start p Reckoning.start).2.controls [.execute .empty [false, false]]
    let batch : Control := .execute .empty [false, true]
    m.interrupt ∈ m.interrupt.stepping [batch] ∧ (∀ v i, ¬ m.interrupt.Runs v i) ∧
      ∃ v, m.interrupt.contact = .live v ∧ m.interrupt.failed = false ∧
        m.interrupt.step .empty =
          (.stopped, { m.interrupt with interrupted := false, contact := .ended (Vehicle.shutdown v) }) := by
  intro p m batch
  have hmem : m.interrupt ∈ m.interrupt.stepping [batch] := .head _
  obtain ⟨v, hlive⟩ : ∃ v, m.interrupt.contact = .live v := ⟨_, rfl⟩
  obtain ⟨-, hruns, -, -, -⟩ := interrupt_of_run (Machine.new 0 Blind.mk) p Reckoning.start
    [.execute .empty [false, false]] [batch]
  obtain ⟨-, -, -, hstop, -⟩ := interrupt_of_run (Machine.new 0 Blind.mk) p Reckoning.start
    [.execute .empty [false, false]] []
  obtain ⟨hfailed, hstep⟩ := hstop v hlive
  exact ⟨hmem, (hruns _ hmem).1, v, hlive, hfailed, (hstep .empty false []).1⟩

end Quadcopter

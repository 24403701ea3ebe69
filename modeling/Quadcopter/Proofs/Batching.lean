import Quadcopter.Proofs.Failure
import Quadcopter.Proofs.Hosts
import Quadcopter.Proofs.Interrupt
import Quadcopter.Proofs.Wire

/-!
# Quadcopter.Proofs.Batching

A host may ask for one step at a time or for batches of steps; it is told the same.

* `Conversation`: a host and its machine. The host asks until it is told that the run has ended, and may
  change the files with what it does about an event.
* `ask_execute`, `drive_batches`: a batch is some number of single steps, and so are batches in a row.
* `perform_eq`, `finish_eq`: the loop of a host that presents a run and the run of a whole program are
  conversations, one in batches and one step by step.
* `Undisturbed`: a run that loads no picture which the host has put there, or replaced, meanwhile. Then
  both conversations are the same (`drive_steps_eq`).
* `batching_immaterial` puts this together; `own_picture_loaded` is a run that is disturbed.
-/

namespace Quadcopter

variable {V E : Type}

/-- What a host can ask of a machine. -/
abbrev Inquiry (V E : Type) := Files → Machine V E → Event × Machine V E

/-- A host and its machine: what the host was told, and how the run has ended, if it has. -/
structure Conversation (V E : Type) where
  told : List Event := []
  ending : Option (Except Fault Unit) := none
  machine : Machine V E

namespace Conversation

def hear (c : Conversation V E) : Event × Machine V E → Conversation V E
  | (.running, m) => { c with machine := m }
  | (.stopped, m) => { c with ending := some (.ok ()), machine := m }
  | (.error fault, m) => { c with ending := some (.error fault), machine := m }
  | (event, m) => { c with told := c.told ++ [event], machine := m }

/-- Ask the machine for a step or for more, unless the run has ended. The files are those that the host
has left after what it was told. -/
def ask (world : List Event → Files) (c : Conversation V E) (question : Inquiry V E) :
    Conversation V E :=
  if c.ending.isSome then c else c.hear (question (world c.told) c.machine)

def drive (world : List Event → Files) (c : Conversation V E) (questions : List (Inquiry V E)) :
    Conversation V E :=
  questions.foldl (ask world) c

variable [Vehicle V] [Vision E]

/-- So many single steps. -/
def steps (k : Nat) : List (Inquiry V E) := List.replicate k Machine.step

/-- Batches of the given sizes. -/
def batches (sizes : List Nat) : List (Inquiry V E) :=
  sizes.map fun n files m => m.execute files n

/-- The conversation that a start begins. -/
def start (m : Machine V E) (program : Program) (v : V) : Conversation V E :=
  match m.start program v with
  | (.ok (), m) => { machine := m }
  | (.error fault, m) => { ending := some (.error fault), machine := m }

end Conversation

/-! ## Batches and single steps -/

namespace Machine

variable [Vehicle V] [Vision E] {files : Files} {m m' : Machine V E}

theorem execute_of_running (n : Nat) (h : m.step files = (.running, m')) :
    m.execute files (n + 1) = m'.execute files n := by
  rw [execute, h]

theorem execute_of_told (n : Nat) (h : (m.step files).1 ≠ .running) :
    m.execute files (n + 1) = m.step files := by
  rw [execute]
  split
  · next hs =>
    rw [hs] at h
    exact absurd rfl h
  · rfl

/-- A batch ends with the first step that tells something, or with its last step. -/
theorem execute_first (files : Files) (n : Nat) (m : Machine V E) :
    (∃ k, k < n ∧
      (∀ j, j < k → ((m.acts (List.replicate j (.step files))).step files).1 = .running) ∧
      ((m.acts (List.replicate k (.step files))).step files).1 ≠ .running ∧
      m.execute files n = (m.acts (List.replicate k (.step files))).step files) ∨
    (∀ j, j < n → ((m.acts (List.replicate j (.step files))).step files).1 = .running) ∧
      m.execute files n = (.running, m.acts (List.replicate n (.step files))) := by
  induction n generalizing m with
  | zero =>
    refine .inr ⟨?_, rfl⟩
    intro j hj
    exact absurd hj (Nat.not_lt_zero j)
  | succ n ih =>
    obtain ⟨event, m', hs⟩ : ∃ event m', m.step files = (event, m') := ⟨_, _, rfl⟩
    by_cases he : event = .running
    · subst he
      have hafter : ∀ j, m.acts (List.replicate (j + 1) (.step files)) =
          m'.acts (List.replicate j (.step files)) := by
        intro j
        rw [List.replicate_succ, acts_cons, act, hs]
      have hrunning : ∀ k, (∀ j, j < k →
          ((m'.acts (List.replicate j (.step files))).step files).1 = .running) →
          ∀ j, j < k + 1 → ((m.acts (List.replicate j (.step files))).step files).1 = .running := by
        intro k hk j hj
        cases j with
        | zero => rw [List.replicate_zero, acts_nil, hs]
        | succ j =>
          rw [hafter]
          exact hk j (Nat.lt_of_succ_lt_succ hj)
      rw [execute_of_running n hs]
      rcases ih m' with ⟨k, hk, hrun, htold, hend⟩ | ⟨hrun, hend⟩
      · refine .inl ⟨k + 1, Nat.succ_lt_succ hk, hrunning k hrun, ?_, ?_⟩
        · rwa [hafter]
        · rwa [hafter]
      · refine .inr ⟨hrunning n hrun, ?_⟩
        rwa [hafter]
    · refine .inl ⟨0, Nat.succ_pos n, ?_, ?_, ?_⟩
      · intro j hj
        exact absurd hj (Nat.not_lt_zero j)
      · rwa [List.replicate_zero, acts_nil, hs]
      · rw [List.replicate_zero, acts_nil]
        exact execute_of_told n (by rwa [hs])

end Machine

namespace Conversation

variable {world : List Event → Files} {c : Conversation V E}

theorem ask_of_ended (h : c.ending.isSome = true) (question : Inquiry V E) :
    c.ask world question = c := by
  rw [ask, if_pos h]

theorem ask_of_open (h : c.ending = none) (question : Inquiry V E) :
    c.ask world question = c.hear (question (world c.told) c.machine) := by
  rw [ask, h]
  rfl

theorem drive_of_ended (h : c.ending.isSome = true) (questions : List (Inquiry V E)) :
    c.drive world questions = c := by
  induction questions with
  | nil => rfl
  | cons question questions ih =>
    rw [drive, List.foldl_cons, ask_of_ended h]
    exact ih

/-- An answer brings its own machine. -/
theorem hear_machine (c : Conversation V E) (m : Machine V E) (answer : Event × Machine V E) :
    ({ c with machine := m } : Conversation V E).hear answer = c.hear answer := by
  obtain ⟨event, m'⟩ := answer
  cases event <;> rfl

theorem machine_hear (c : Conversation V E) (answer : Event × Machine V E) :
    (c.hear answer).machine = answer.2 := by
  obtain ⟨event, m⟩ := answer
  cases event <;> rfl

theorem hear_told {event : Event} {m : Machine V E} (hr : event ≠ .running) (he : ¬ Host.Ends event) :
    c.hear (event, m) = { c with told := c.told ++ [event], machine := m } := by
  cases event with
  | running => exact absurd rfl hr
  | stopped => exact absurd (.inl rfl) he
  | error fault => exact absurd (.inr ⟨fault, rfl⟩) he
  | _ => rfl

/-- What is told during a run: neither that it goes on nor that it has ended. -/
theorem told_hear (h : ∀ event ∈ c.told, event ≠ .running ∧ ¬ Host.Ends event)
    (answer : Event × Machine V E) :
    ∀ event ∈ (c.hear answer).told, event ≠ .running ∧ ¬ Host.Ends event := by
  obtain ⟨event, m⟩ := answer
  by_cases hr : event = .running
  · subst hr
    exact h
  · by_cases he : Host.Ends event
    · rcases he with rfl | ⟨fault, rfl⟩
      · exact h
      · exact h
    · rw [hear_told hr he]
      intro event' hmem
      rcases List.mem_append.1 hmem with hmem | hmem
      · exact h event' hmem
      · rw [List.mem_singleton.1 hmem]
        exact ⟨hr, he⟩

theorem told_drive (world : List Event → Files)
    (h : ∀ event ∈ c.told, event ≠ .running ∧ ¬ Host.Ends event)
    (questions : List (Inquiry V E)) :
    ∀ event ∈ (c.drive world questions).told, event ≠ .running ∧ ¬ Host.Ends event := by
  induction questions generalizing c with
  | nil => exact h
  | cons question questions ih =>
    refine ih ?_
    rw [ask]
    split
    · exact h
    · exact told_hear h _

theorem drive_cons (question : Inquiry V E) (questions : List (Inquiry V E)) :
    c.drive world (question :: questions) = (c.ask world question).drive world questions := rfl

variable [Vehicle V] [Vision E]

theorem drive_steps_add (j k : Nat) :
    c.drive world (steps (j + k)) = (c.drive world (steps j)).drive world (steps k) := by
  rw [steps, ← List.replicate_append_replicate, drive, List.foldl_append]
  rfl

theorem drive_steps_succ (k : Nat) :
    c.drive world (steps (k + 1)) = (c.drive world (steps k)).ask world Machine.step :=
  drive_steps_add k 1

/-- More steps add nothing once the run has ended. -/
theorem drive_steps_of_ended {j k : Nat} (h : (c.drive world (steps j)).ending.isSome = true)
    (hjk : j ≤ k) : c.drive world (steps k) = c.drive world (steps j) := by
  rw [← Nat.add_sub_cancel' hjk, drive_steps_add, drive_of_ended h]

theorem drive_steps_unique {j k : Nat} (hj : (c.drive world (steps j)).ending.isSome = true)
    (hk : (c.drive world (steps k)).ending.isSome = true) :
    c.drive world (steps j) = c.drive world (steps k) := by
  rcases Nat.le_total j k with hjk | hkj
  · exact (drive_steps_of_ended hj hjk).symm
  · exact drive_steps_of_ended hk hkj

/-- A batch tells what its steps tell one by one. -/
theorem ask_execute (world : List Event → Files) {n : Nat} (hn : 0 < n) (c : Conversation V E) :
    ∃ j, 0 < j ∧ (c.ask world fun files m => m.execute files n) = c.drive world (steps j) := by
  induction n generalizing c with
  | zero => exact absurd hn (Nat.lt_irrefl 0)
  | succ n ih =>
    cases hc : c.ending with
    | some ending =>
      have hended : c.ending.isSome = true := by rw [hc]; rfl
      exact ⟨1, Nat.one_pos, (ask_of_ended hended _).trans (drive_of_ended hended _).symm⟩
    | none =>
      obtain ⟨event, m', hs⟩ : ∃ event m', c.machine.step (world c.told) = (event, m') := ⟨_, _, rfl⟩
      by_cases he : event = .running
      · subst he
        have hnext : c.ask world Machine.step = { c with machine := m' } := by
          rw [ask_of_open hc, hs]
          rfl
        cases n with
        | zero =>
          refine ⟨1, Nat.one_pos, ?_⟩
          rw [ask_of_open hc, Machine.execute_of_running 0 hs]
          exact hnext.symm
        | succ n =>
          -- the rest of the batch finds the files as they were
          obtain ⟨j, -, hj⟩ := ih (Nat.succ_pos n) { c with machine := m' }
          refine ⟨j + 1, Nat.succ_pos j, ?_⟩
          rw [ask_of_open (c := { c with machine := m' }) hc, hear_machine] at hj
          rw [ask_of_open hc, Machine.execute_of_running (n + 1) hs, hj, steps, steps,
            List.replicate_succ, drive_cons, hnext]
      · refine ⟨1, Nat.one_pos, ?_⟩
        rw [ask_of_open hc, Machine.execute_of_told n (by rwa [hs])]
        exact (ask_of_open hc _).symm

theorem drive_batches (world : List Event → Files) {sizes : List Nat} (hpos : ∀ n ∈ sizes, 0 < n)
    (c : Conversation V E) :
    ∃ k, sizes.length ≤ k ∧ c.drive world (batches sizes) = c.drive world (steps k) := by
  induction sizes generalizing c with
  | nil => exact ⟨0, Nat.le_refl 0, rfl⟩
  | cons n sizes ih =>
    obtain ⟨j, hj, hbatch⟩ := ask_execute world (hpos n List.mem_cons_self) c
    obtain ⟨k, hk, hrest⟩ := ih (fun n hn => hpos n (List.mem_cons_of_mem _ hn)) (c.drive world (steps j))
    refine ⟨j + k, ?_, ?_⟩
    · rw [List.length_cons]
      omega
    · rw [batches, List.map_cons, drive_cons, hbatch, drive_steps_add]
      exact hrest

/-- A run that ends after some steps has ended after as many batches. -/
theorem drive_batches_of_ended {sizes : List Nat} (hpos : ∀ n ∈ sizes, 0 < n) {k : Nat}
    (hk : k ≤ sizes.length) (hend : (c.drive world (steps k)).ending.isSome = true) :
    c.drive world (batches sizes) = c.drive world (steps k) := by
  obtain ⟨l, hl, heq⟩ := drive_batches world hpos c
  rw [heq]
  exact drive_steps_of_ended hend (Nat.le_trans hk hl)

/-! ## Runs to the end -/

omit [Vision E] in
theorem start_eq (m : Machine V E) (program : Program) (v : V) :
    (start m program v).told = [] ∧ (start m program v).machine = (m.start program v).2 := by
  unfold start
  split
  · next hm => simp [hm]
  · next hm => simp [hm]

theorem finish_eq (files : Files) (k : Nat) (told : List Event) (m : Machine V E) :
    let c := ({ told, machine := m } : Conversation V E).drive (fun _ => files) (steps k)
    m.finish files k =
      (c.ending.map fun ending => ending.map fun _ => c.machine.core.path, c.machine) := by
  induction k generalizing told m with
  | zero => rfl
  | succ k ih =>
    obtain ⟨event, m', hs⟩ : ∃ event m', m.step files = (event, m') := ⟨_, _, rfl⟩
    have hnext : ({ told, machine := m } : Conversation V E).ask (fun _ => files) Machine.step =
        ({ told, machine := m } : Conversation V E).hear (event, m') := by
      rw [ask_of_open rfl, hs]
    rw [steps, List.replicate_succ, drive_cons, hnext, Machine.finish, hs]
    cases event with
    | running => exact ih told m'
    | stopped =>
      rw [hear, drive_of_ended rfl]
      rfl
    | error fault =>
      rw [hear, drive_of_ended rfl]
      rfl
    | print text => exact ih _ m'
    | «show» photo => exact ih _ m'
    | moved position => exact ih _ m'

theorem runProgram_eq (files : Files) (k : Nat) (m : Machine V E) (program : Program) (v : V) :
    let c := (start m program v).drive (fun _ => files) (steps k)
    m.runProgram files k program v =
      (c.ending.map fun ending => ending.map fun _ => c.machine.core.path, c.machine) := by
  rw [start, Machine.runProgram]
  obtain ⟨result, m', hm⟩ : ∃ result m', m.start program v = (result, m') := ⟨_, _, rfl⟩
  rw [hm]
  cases result with
  | ok u => exact finish_eq files k [] m'
  | error fault =>
    intro c
    have hc : c = { ending := some (.error fault), machine := m' } := drive_of_ended rfl _
    rw [hc]
    rfl

theorem isSome_runProgram (files : Files) (k : Nat) (m : Machine V E) (program : Program) (v : V) :
    (m.runProgram files k program v).1.isSome =
      ((start m program v).drive (fun _ => files) (steps k)).ending.isSome := by
  rw [runProgram_eq, Option.isSome_map]

end Conversation

/-! ## What a run reads -/

section Loads

variable [Vehicle V] [Vision E] {f g : Files}

theorem Core.execute_of_loads {looks : Nat} {program : Program} {c : Core} {v : V} {e : E}
    {i : Instruction}
    (h : ∀ name dest, i = .loadPic name dest → loadEitherCase f name = loadEitherCase g name) :
    c.execute f looks program v e i = c.execute g looks program v e i := by
  cases i with
  | loadPic name dest => rw [Core.execute, h name dest rfl, Core.execute]
  | _ => rfl

/-- A step finds other files only if it loads a picture. -/
theorem Machine.step_of_loads {m : Machine V E}
    (h : ∀ name dest, m.upcoming? = some (.loadPic name dest) →
      loadEitherCase f name = loadEitherCase g name) : m.step f = m.step g := by
  unfold step
  split
  · next v hv =>
    split
    · rfl
    · next hi =>
      split
      · rfl
      · next hsize =>
        split
        · rfl
        · next i hfetch =>
          have hup : m.upcoming? = some i := by
            simp only [Bool.not_eq_true] at hi
            simp only [Nat.not_le] at hsize
            simp [upcoming?, isRunning, hv, Contact.isLive, hi, hsize, hfetch, Except.toOption]
          have hexec : m.core.execute f m.looks m.program v m.vision i =
              m.core.execute g m.looks m.program v m.vision i := by
            refine Core.execute_of_loads ?_
            rintro name dest rfl
            exact h name dest hup
          rw [perform, hexec, perform]
  · rfl

end Loads

namespace Host

open Conversation (steps batches isSome_runProgram)

/-! ## What a host shows -/

/-- What was shown after some events. -/
def staged (options : Options) (s : Stage) (told : List Event) : Stage :=
  told.foldl (fun s event => s.hear options event) s

/-- The files that a host leaves which began with `files` and was told some events. -/
def world (options : Options) (files : Files) (told : List Event) : Files :=
  (staged options ⟨files, #[], 0⟩ told).files

theorem staged_append (options : Options) (s : Stage) (told : List Event) (event : Event) :
    staged options s (told ++ [event]) = (staged options s told).hear options event := by
  simp [staged]

/-- The fault that a run ended with, if it did, is shown last. -/
def concluded (s : Stage) : Option (Except Fault Unit) → Stage
  | some (.error fault) => s.emit (bold fault)
  | _ => s

variable [Vehicle V] [Vision E]

theorem perform_eq (options : Options) (s : Stage) (n : Nat) (told : List Event) {m : Machine V E}
    (hm : m.failed = false) :
    let c := ({ told, machine := m } : Conversation V E).drive
      (fun told => (staged options s told).files) (batches (List.replicate n batch))
    perform options n m (staged options s told) =
      (c.ending.map (·.isOk), c.machine, concluded (staged options s c.told) c.ending) := by
  induction n generalizing told m with
  | zero => rfl
  | succ n ih =>
    obtain ⟨event, m', he⟩ :
        ∃ event m', m.execute (staged options s told).files batch = (event, m') := ⟨_, _, rfl⟩
    have hb : Batch (staged options s told).files m event m' := batch_of_execute he
    have hnext : ({ told, machine := m } : Conversation V E).ask
        (fun told => (staged options s told).files) (fun files m => m.execute files batch) =
        ({ told, machine := m } : Conversation V E).hear (event, m') := by
      rw [Conversation.ask_of_open rfl, he]
    rw [batches, List.replicate_succ, List.map_cons, Conversation.drive_cons, hnext]
    by_cases hends : Ends event
    · rcases hends with rfl | ⟨fault, rfl⟩
      · have hfailed : m'.failed = false := (hb.failed fun _ h => nomatch h).trans hm
        rw [Conversation.hear, Conversation.drive_of_ended rfl, perform_stopped n he, hfailed]
        rfl
      · rw [Conversation.hear, Conversation.drive_of_ended rfl, perform_error n he]
        rfl
    · have hfailed : m'.failed = false :=
        (hb.failed fun fault h => hends (.inr ⟨fault, h⟩)).trans hm
      rw [perform_on n he hends]
      by_cases hr : event = .running
      · subst hr
        exact ih told hfailed
      · rw [Conversation.hear_told hr hends, ← staged_append]
        exact ih (told ++ [event]) hfailed

theorem present_eq (options : Options) (n : Nat) (files : Files) (b : Logbook V E) (program : Program)
    (v : V) :
    let c := (Conversation.start b.machine program v).drive (world options files)
      (batches (List.replicate n batch))
    let p := present options n files b program v
    p.success = c.ending.map (·.isOk) ∧ p.logbook.machine = c.machine ∧
      p.lines.toList = (concluded (staged options ⟨files, #[], 0⟩ c.told) c.ending).lines.toList ++
        if c.ending.isSome && options.telemetry then telemetryLines c.machine else [] := by
  intro c p
  have hfailed := Machine.failed_start b.machine program v
  rcases hm : b.machine.start program v with ⟨fault | u, m⟩
  · have hc : c = { ending := some (.error fault), machine := m } := by
      simp only [c, Conversation.start, hm]
      exact Conversation.drive_of_ended rfl _
    rw [hc]
    cases ht : options.telemetry <;>
      simp [p, present, Logbook.start, hm, ht, concluded, staged, Except.isOk, Except.toBool]
  · rw [hm] at hfailed
    have hc : c = ({ machine := m } : Conversation V E).drive (world options files)
        (batches (List.replicate n batch)) := by
      simp only [c, Conversation.start, hm]
    have hperform : perform options n m ⟨files, #[], 0⟩ = (c.ending.map (·.isOk), c.machine,
        concluded (staged options ⟨files, #[], 0⟩ c.told) c.ending) := by
      rw [hc]
      exact perform_eq options ⟨files, #[], 0⟩ n [] hfailed
    simp only [p, present, Logbook.start, hm, hperform, Option.isSome_map]
    cases c.ending.isSome && options.telemetry <;> simp

theorem isSome_success (options : Options) (n : Nat) (files : Files) (b : Logbook V E)
    (program : Program) (v : V) :
    (present options n files b program v).success.isSome =
      ((Conversation.start b.machine program v).drive (world options files)
        (batches (List.replicate n batch))).ending.isSome := by
  rw [(present_eq options n files b program v).1, Option.isSome_map]

/-- The lines for what a run tells that has shown so many pictures before. A picture is followed by the
name of the file that it was written to, or by why it could not be written, if there is a directory for
pictures. -/
inductive Displayed (options : Options) : Nat → List Event → List String → Prop where
  | nil (shown : Nat) : Displayed options shown [] []
  | moved {shown : Nat} {position : Position} {told : List Event} {lines : List String} :
      Displayed options shown told lines → Displayed options shown (.moved position :: told) lines
  | print {shown : Nat} {text : String} {told : List Event} {lines : List String} :
      Displayed options shown told lines →
      Displayed options shown (.print text :: told) (text :: lines)
  | picture {shown : Nat} {photo : Photo} {told : List Event} {lines : List String} :
      options.showDir = none → Displayed options shown told lines →
      Displayed options shown (.show photo :: told) (photo.picture.render :: lines)
  | saved {shown : Nat} {dir : String} {photo : Photo} {told : List Event} {lines : List String} :
      options.showDir = some dir → Displayed options (shown + 1) told lines →
      Displayed options shown (.show photo :: told)
        (photo.picture.render ::
          ("SAVED " ++ Files.join dir (pictureName (shown + 1) photo.picture)) :: lines)
  | unsaved {shown : Nat} {dir : String} {photo : Photo} {told : List Event} {lines : List String}
      (cause : Cause) :
      options.showDir = some dir → Displayed options (shown + 1) told lines →
      Displayed options shown (.show photo :: told)
        (photo.picture.render :: ("\x1b[1m" ++ Fault.render ⟨cause, none⟩ ++ "\x1b[0m") :: lines)

theorem writePicture_ok {files files' : Files} {dir path : String} {index : Nat} {p : Picture}
    (h : writePicture files dir index p = (.ok path, files')) :
    path = Files.join dir (pictureName index p) := by
  unfold writePicture at h
  split at h
  · cases h
  · dsimp only at h
    split at h
    · cases h
      rfl
    · cases h

theorem picture_of_no_dir {options : Options} (h : options.showDir = none) (s : Stage) (p : Picture) :
    s.picture options p = s.emit p.render := by
  rw [Stage.picture, h]

theorem picture_of_dir {options : Options} {dir : String} (h : options.showDir = some dir) (s : Stage)
    (p : Picture) :
    ∃ files note, s.picture options p = ⟨files, (s.lines.push p.render).push note, s.shown + 1⟩ ∧
      (note = "SAVED " ++ Files.join dir (pictureName (s.shown + 1) p) ∨
        ∃ cause, note = "\x1b[1m" ++ Fault.render ⟨cause, none⟩ ++ "\x1b[0m") := by
  rcases hw : writePicture s.files dir (s.shown + 1) p with ⟨cause | path, files⟩
  · exact ⟨files, bold ⟨cause, none⟩, by simp [Stage.picture, h, Stage.emit, hw], .inr ⟨cause, rfl⟩⟩
  · refine ⟨files, "SAVED " ++ path, by simp [Stage.picture, h, Stage.emit, hw], .inl ?_⟩
    rw [writePicture_ok hw]

theorem displayed_staged (options : Options) {told : List Event}
    (htold : ∀ event ∈ told, event ≠ .running ∧ ¬ Ends event) (s : Stage) :
    ∃ lines, Displayed options s.shown told lines ∧
      (staged options s told).lines.toList = s.lines.toList ++ lines := by
  induction told generalizing s with
  | nil => exact ⟨[], .nil s.shown, (List.append_nil _).symm⟩
  | cons event told ih =>
    obtain ⟨hr, he⟩ := htold event List.mem_cons_self
    obtain ⟨lines, hlines, hshown⟩ :=
      ih (fun event h => htold event (List.mem_cons_of_mem _ h)) (s.hear options event)
    have hcons : staged options s (event :: told) = staged options (s.hear options event) told := rfl
    rw [hcons, hshown]
    cases event with
    | running => exact absurd rfl hr
    | stopped => exact absurd (.inl rfl) he
    | error fault => exact absurd (.inr ⟨fault, rfl⟩) he
    | moved position => exact ⟨lines, .moved hlines, rfl⟩
    | print text => exact ⟨text :: lines, .print hlines, by simp [Stage.hear, Stage.emit]⟩
    | «show» photo =>
      rw [Stage.hear] at hlines ⊢
      cases hdir : options.showDir with
      | none =>
        rw [picture_of_no_dir hdir] at hlines ⊢
        exact ⟨_, .picture hdir hlines, by simp [Stage.emit]⟩
      | some dir =>
        obtain ⟨files, note, hpicture, hnote⟩ := picture_of_dir hdir s photo.picture
        rw [hpicture] at hlines ⊢
        rcases hnote with rfl | ⟨cause, rfl⟩
        · exact ⟨_, .saved hdir hlines, by simp⟩
        · exact ⟨_, .unsaved cause hdir hlines, by simp⟩

/-! ## Runs that are not disturbed -/

/-- Whatever picture a run loads, it gets it as it was before the run: the host has not put it there, or
replaced it, meanwhile. -/
def Undisturbed (options : Options) (files : Files) (c : Conversation V E) : Prop :=
  ∀ k name dest, (c.drive (world options files) (steps k)).machine.upcoming? =
      some (.loadPic name dest) →
    loadEitherCase (world options files (c.drive (world options files) (steps k)).told) name =
      loadEitherCase files name

variable {options : Options} {files : Files} {c : Conversation V E}

theorem Undisturbed.drive_steps_eq (h : Undisturbed options files c) (k : Nat) :
    c.drive (world options files) (steps k) = c.drive (fun _ => files) (steps k) := by
  induction k with
  | zero => rfl
  | succ k ih =>
    rw [Conversation.drive_steps_succ, Conversation.drive_steps_succ, ← ih, Conversation.ask,
      Conversation.ask, Machine.step_of_loads (h k)]

/-- A host without a directory for pictures leaves the files alone. -/
theorem world_of_no_dir (h : options.showDir = none) (told : List Event) :
    world options files told = files := by
  have hstaged : ∀ s : Stage, (staged options s told).files = s.files := by
    induction told with
    | nil => exact fun s => rfl
    | cons event told ih =>
      intro s
      refine (ih (s.hear options event)).trans ?_
      cases event with
      | «show» photo => rw [Stage.hear, picture_of_no_dir h]; rfl
      | _ => rfl
  exact hstaged _

theorem undisturbed_of_no_dir (h : options.showDir = none) : Undisturbed options files c := by
  intro k name dest _
  rw [world_of_no_dir h]

theorem program_drive (world : List Event → Files) (k : Nat) :
    (c.drive world (steps k)).machine.program = c.machine.program := by
  induction k with
  | zero => rfl
  | succ k ih =>
    rw [Conversation.drive_steps_succ, ← ih, Conversation.ask]
    split
    · rfl
    · rw [Conversation.machine_hear, Machine.program_step]

/-- No line of the program loads a picture. -/
def LoadFree (program : Program) : Prop :=
  ∀ i tokens name dest, program.line? i = some tokens →
    Instruction.decode tokens ≠ .ok (.loadPic name dest)

theorem undisturbed_of_loadFree (h : LoadFree c.machine.program) : Undisturbed options files c := by
  intro k name dest hup
  unfold Machine.upcoming? at hup
  split at hup
  · next hgo =>
    rw [Bool.and_eq_true, decide_eq_true_eq] at hgo
    obtain ⟨tokens, hline, hfetch⟩ := Machine.fetch_of_lt hgo.2
    rw [program_drive] at hline
    rw [hfetch] at hup
    have hdecode : Instruction.decode tokens = .ok (.loadPic name dest) := by
      cases hd : Instruction.decode tokens with
      | ok i =>
        rw [hd] at hup
        rw [Option.some.inj hup]
      | error cause =>
        rw [hd] at hup
        cases hup
    exact absurd hdecode (h _ tokens name dest hline)
  · cases hup

/-! ## Both ways to run a program -/

/-- The line for a fault that a run has ended with, between the codes that set bold type and end it. -/
def faultLines : Except Fault (List Position) → List String
  | .ok _ => []
  | .error fault => ["\x1b[1m" ++ fault.render ++ "\x1b[0m"]

theorem lines_concluded (s : Stage) (ending : Except Fault Unit) (path : List Position) :
    (concluded s (some ending)).lines.toList =
      s.lines.toList ++ faultLines (ending.map fun _ => path) := by
  cases ending with
  | ok u => exact (List.append_nil _).symm
  | error fault => exact Array.toList_push

namespace Undisturbed

theorem drive_batches (h : Undisturbed options files c) (n : Nat) :
    ∃ k, n ≤ k ∧ c.drive (world options files) (batches (List.replicate n batch)) =
      c.drive (fun _ => files) (steps k) := by
  have hpos : ∀ size ∈ List.replicate n batch, 0 < size := by
    intro size hsize
    rw [List.eq_of_mem_replicate hsize]
    decide
  obtain ⟨k, hk, hsteps⟩ := Conversation.drive_batches (world options files) hpos c
  rw [List.length_replicate] at hk
  exact ⟨k, hk, hsteps.trans (h.drive_steps_eq k)⟩

/-- Both conversations come to the same end. -/
theorem meet (h : Undisturbed options files c) {n k : Nat}
    (hn : (c.drive (world options files) (batches (List.replicate n batch))).ending.isSome = true)
    (hk : (c.drive (fun _ => files) (steps k)).ending.isSome = true) :
    c.drive (world options files) (batches (List.replicate n batch)) =
      c.drive (fun _ => files) (steps k) := by
  obtain ⟨j, -, hj⟩ := h.drive_batches n
  rw [hj] at hn ⊢
  exact Conversation.drive_steps_unique hn hk

theorem ended_iff (h : Undisturbed options files c) :
    (∃ n, (c.drive (world options files) (batches (List.replicate n batch))).ending.isSome = true) ↔
      ∃ k, (c.drive (fun _ => files) (steps k)).ending.isSome = true := by
  constructor
  · rintro ⟨n, hn⟩
    obtain ⟨k, -, hk⟩ := h.drive_batches n
    exact ⟨k, hk ▸ hn⟩
  · rintro ⟨k, hk⟩
    obtain ⟨j, hkj, hj⟩ := h.drive_batches k
    refine ⟨k, ?_⟩
    rw [hj, Conversation.drive_steps_of_ended hk hkj]
    exact hk

end Undisturbed

/-- A run that has ended, as the host has presented it. -/
theorem presented {b : Logbook V E} {program : Program} {v : V} {n k : Nat} {success : Bool}
    {result : Except Fault (List Position)}
    (h : Undisturbed options files (Conversation.start b.machine program v))
    (hsuccess : (present options n files b program v).success = some success)
    (hresult : (b.machine.runProgram files k program v).1 = some result) :
    let p := present options n files b program v
    let m := (b.machine.runProgram files k program v).2
    success = result.isOk ∧ p.logbook.machine = m ∧
      ∃ lines, Displayed options 0
          ((Conversation.start b.machine program v).drive (fun _ => files) (steps k)).told lines ∧
        p.lines.toList = lines ++ faultLines result ++
          if options.telemetry then telemetryLines m else [] := by
  have hn := isSome_success options n files b program v
  have hk := isSome_runProgram files k b.machine program v
  rw [hsuccess] at hn
  rw [hresult] at hk
  obtain ⟨hended, hmachine, hlines⟩ := present_eq options n files b program v
  rw [h.meet hn.symm hk.symm] at hended hmachine hlines
  rw [Conversation.runProgram_eq] at hresult ⊢
  have hstart : ∀ event ∈ (Conversation.start b.machine program v).told,
      event ≠ .running ∧ ¬ Ends event := by
    simp [(Conversation.start_eq b.machine program v).1]
  obtain ⟨lines, hdisplayed, hstaged⟩ :=
    displayed_staged options (Conversation.told_drive (fun _ => files) hstart (steps k)) ⟨files, #[], 0⟩
  obtain ⟨ending, hending, rfl⟩ := Option.map_eq_some_iff.1 hresult
  rw [hsuccess, hending] at hended
  rw [hending, lines_concluded _ ending, hstaged] at hlines
  refine ⟨?_, hmachine, lines, hdisplayed, hlines⟩
  rw [Option.some.inj hended]
  cases ending <;> rfl

/-- A batch of steps gives the first event among them that is more than that the run goes on, and the
machine right after it; if there is none, the machine after all of them.

So the sizes of the batches that a host asks for do not matter. After any batches it has been told what it
would have been told step by step, and its machine is the same; and if the run ends after some number of
steps, then for this host too, after no more batches than that.

In particular take a program that is presented by a host and the same one run to the end at once, of which
every picture that it loads is as it was before the run; there are no others if the host does not save
pictures, or if the program loads none. Then both end or neither does. If they end, it is presented as a
success exactly if the run gives a path; both machines are the same, with their vehicles, registers and
paths; and the host has shown what the run told, then the fault if there was one, and last the report if it
is wanted. -/
theorem batching_immaterial (V E : Type) [Vehicle V] [Vision E] :
    (∀ (files : Files) (n : Nat) (m : Machine V E),
      let after (k : Nat) := m.acts (List.replicate k (.step files))
      (∃ k, k < n ∧ (∀ j, j < k → ((after j).step files).1 = .running) ∧
        ((after k).step files).1 ≠ .running ∧ m.execute files n = (after k).step files) ∨
      (∀ j, j < n → ((after j).step files).1 = .running) ∧
        m.execute files n = (.running, after n)) ∧
    (∀ (world : List Event → Files) (m : Machine V E) (sizes : List Nat), (∀ n ∈ sizes, 0 < n) →
      let c : Conversation V E := { machine := m }
      (∃ k, sizes.length ≤ k ∧ c.drive world (batches sizes) = c.drive world (steps k)) ∧
      ∀ k, k ≤ sizes.length → (c.drive world (steps k)).ending.isSome = true →
        c.drive world (batches sizes) = c.drive world (steps k)) ∧
    ∀ (options : Options) (files : Files) (b : Logbook V E) (program : Program) (v : V),
      let c := Conversation.start b.machine program v
      let shown (n : Nat) := present options n files b program v
      let ran (k : Nat) := b.machine.runProgram files k program v
      (options.showDir = none ∨ LoadFree program → Undisturbed options files c) ∧
      (Undisturbed options files c →
        ((∃ n, (shown n).success.isSome = true) ↔ ∃ k, (ran k).1.isSome = true) ∧
        ∀ n k success result, (shown n).success = some success → (ran k).1 = some result →
          success = result.isOk ∧ (shown n).logbook.machine = (ran k).2 ∧
          ∃ lines, Displayed options 0 (c.drive (fun _ => files) (steps k)).told lines ∧
            (shown n).lines.toList = lines ++ faultLines result ++
              if options.telemetry then telemetryLines (ran k).2 else []) := by
  refine ⟨Machine.execute_first, ?_, ?_⟩
  · intro world m sizes hpos c
    refine ⟨Conversation.drive_batches world hpos c, ?_⟩
    intro k hk hend
    exact Conversation.drive_batches_of_ended hpos hk hend
  · intro options files b program v c shown ran
    obtain ⟨htold, hmachine⟩ := Conversation.start_eq b.machine program v
    refine ⟨?_, ?_⟩
    · rintro (hdir | hload)
      · exact undisturbed_of_no_dir hdir
      · refine undisturbed_of_loadFree ?_
        rwa [hmachine, Machine.program_start]
    · intro hcalm
      refine ⟨?_, ?_⟩
      · simp only [shown, ran, isSome_success, isSome_runProgram]
        exact hcalm.ended_iff
      · intro n k success result hsuccess hresult
        exact presented hcalm hsuccess hresult

/-- A program that shows a text and then fails, for a host that saves pictures. -/
theorem batching_immaterial_fault :
    let options : Options := { showDir := some "s" }
    let program : Program :=
      ⟨#[⟨none, [.ofMnemonic .display, ⟨.text, "A"⟩]⟩,
         ⟨none, [.ofMnemonic .popNum, ⟨.numberRegister, "0"⟩]⟩]⟩
    let b : Logbook (Recorded Reckoning) Blind := .new (.new 0 .mk)
    let c : Conversation (Recorded Reckoning) Blind :=
      { machine := (b.machine.start program (.new .start)).2 }
    let p := present options 2 .empty b program (.new .start)
    let ran := b.machine.runProgram .empty 2 program (.new .start)
    LoadFree program ∧ p.success = some false ∧ (∃ fault, ran.1 = some (.error fault)) ∧
      p.logbook.machine = ran.2 ∧
      c.drive (fun _ => .empty) (batches [7, 1]) = c.drive (fun _ => .empty) (steps 2) := by
  intro options program b c p ran
  obtain ⟨-, hbatches, hhosts⟩ := batching_immaterial (Recorded Reckoning) Blind
  obtain ⟨hcalm, hsame⟩ := hhosts options .empty b program (.new .start)
  have hload : LoadFree program := by
    intro i tokens name dest hline hdecode
    obtain ⟨entry, hentry, rfl⟩ := Option.map_eq_some_iff.1 hline
    have hi : i < 2 := (Array.getElem?_eq_some_iff.1 hentry).1
    obtain rfl | rfl : i = 0 ∨ i = 1 := by omega
    · cases hentry
      cases hdecode
    · cases hentry
      cases hdecode
  have hsuccess : p.success = some false := by decide +kernel
  obtain ⟨fault, hfault⟩ : ∃ fault, ran.1 = some (.error fault) := ⟨_, rfl⟩
  obtain ⟨-, hmachine, -⟩ := (hsame (hcalm (.inr hload))).2 2 2 false _ hsuccess hfault
  refine ⟨hload, hsuccess, ⟨fault, hfault⟩, hmachine, ?_⟩
  exact (hbatches (fun _ => .empty) c.machine [7, 1] (by decide)).2 2 (by decide) (by decide +kernel)

/-- A run that loads a picture from where the host has just saved it, and shows it again. The run alone
does not find it. The host cannot save it a second time, and shows why. -/
theorem own_picture_loaded :
    let options : Options := { showDir := some "s" }
    let files : Files := { nodes :=
      [(["a.png"], .file (Png.encode (.blank 1 1)).1), (["s"], .directory),
       (["s", "picture-002-ff41d912.png"], .directory)] }
    let program : Program :=
      ⟨#[⟨none, [.ofMnemonic .loadPic, ⟨.text, "A.PNG"⟩, ⟨.pictureRegister, "0"⟩]⟩,
         ⟨none, [.ofMnemonic .display, ⟨.pictureRegister, "0"⟩]⟩,
         ⟨none, [.ofMnemonic .loadPic, ⟨.text, "S/PICTURE-001-FF41D912.PNG"⟩,
           ⟨.pictureRegister, "1"⟩]⟩,
         ⟨none, [.ofMnemonic .display, ⟨.pictureRegister, "1"⟩]⟩]⟩
    let b : Logbook Craft Blind := .new (.new 0 .mk)
    let p := present options 3 files b program (.simulated .start)
    let result := (b.machine.runProgram files 3 program (.simulated .start)).1
    p.success = some true ∧
      p.lines = #["PICTURE 1x1 CRC FF41D912", "SAVED s/picture-001-ff41d912.png",
        "PICTURE 1x1 CRC FF41D912",
        "\x1b[1mSOFTWARE ERROR; UNABLE TO SAVE PICTURE s/picture-002-ff41d912.png: " ++
          "Is a directory (os error 21)\x1b[0m"] ∧
      result.map (·.isOk) = some false ∧
      result.map faultLines =
        some ["\x1b[1mSOFTWARE ERROR IN 3; UNABLE TO LOAD PICTURE S/PICTURE-001-FF41D912.PNG: " ++
          "No such file or directory (os error 2)\x1b[0m"] := by
  decide +kernel

end Host
end Quadcopter

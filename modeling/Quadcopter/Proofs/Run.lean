import Quadcopter.Proofs.Step

/-!
# Quadcopter.Proofs.Run

Runs of a machine. A run is what happens to a machine between two starts: steps, each with the files
that are there at the time, and in between interrupts and changes of the vision backend and of the
frame timeout. `acts_keep` is the one induction over runs.

* `execute_eq_acts`, `finish_eq_acts`: running in batches and running to the end are runs of steps.
* `requests_keep`: what holds after every run also holds if a host asks for whole batches of steps.
* `program_acts`: a run keeps its program.
-/

namespace Quadcopter

variable {V E : Type}

/-- What can happen to a machine during a run. An interrupt can be taken back while it is pending. -/
inductive Act (E : Type) where
  | step (files : Files)
  | interrupt
  | withdraw
  | setVision (vision : E)
  | setTimeout (frameTimeout : Nat)

namespace Machine

variable [Vehicle V] [Vision E]

def act (m : Machine V E) : Act E → Machine V E
  | .step files => (m.step files).2
  | .interrupt => m.interrupt
  | .withdraw => { m with interrupted := false }
  | .setVision vision => { m with vision }
  | .setTimeout frameTimeout => { m with frameTimeout }

def acts (m : Machine V E) (as : List (Act E)) : Machine V E := as.foldl act m

/-- What the steps of a run tell, in order. -/
def events (m : Machine V E) : List (Act E) → List Event
  | [] => []
  | .step files :: as => (m.step files).1 :: events (m.step files).2 as
  | a :: as => events (m.act a) as

omit [Vision E] in
/-- A start makes contact, or ends it at once if the vehicle does not agree. -/
theorem contact_start (m : Machine V E) (p : Program) (v : V) :
    (m.start p v).2.contact =
      if (Vehicle.connect v).1 then .live (Vehicle.connect v).2
      else .ended (Vehicle.shutdown (Vehicle.connect v).2) := by
  unfold start
  dsimp only
  split
  · next hc => rw [hc]; rfl
  · next hc => rw [hc]; rfl

omit [Vision E] in
theorem core_start (m : Machine V E) (p : Program) (v : V) : (m.start p v).2.core = .initial := by
  unfold start
  dsimp only
  split <;> rfl

@[simp] theorem acts_nil (m : Machine V E) : m.acts [] = m := rfl

@[simp] theorem acts_cons (m : Machine V E) (a : Act E) (as : List (Act E)) :
    m.acts (a :: as) = (m.act a).acts as := rfl

theorem acts_append (m : Machine V E) (as bs : List (Act E)) : m.acts (as ++ bs) = (m.acts as).acts bs :=
  List.foldl_append

/-- What a step keeps, and what does not depend on interrupts, vision and timeout, holds after every
run. -/
theorem acts_keep {P : Machine V E → Prop} (hstep : ∀ m files, P m → P (m.step files).2)
    (hset : ∀ (m : Machine V E) interrupted vision frameTimeout, P m →
      P { m with interrupted, vision, frameTimeout })
    {m : Machine V E} (as : List (Act E)) (h : P m) : P (m.acts as) := by
  induction as generalizing m with
  | nil => exact h
  | cons a as ih =>
    refine ih ?_
    cases a with
    | step files => exact hstep m files h
    | interrupt => exact hset m true m.vision m.frameTimeout h
    | withdraw => exact hset m false m.vision m.frameTimeout h
    | setVision vision => exact hset m m.interrupted vision m.frameTimeout h
    | setTimeout frameTimeout => exact hset m m.interrupted m.vision frameTimeout h

theorem execute_eq_acts (files : Files) (n : Nat) (m : Machine V E) :
    ∃ k, (m.execute files n).2 = m.acts (List.replicate k (.step files)) := by
  induction n generalizing m with
  | zero => exact ⟨0, rfl⟩
  | succ n ih =>
    rw [execute]
    split
    · next m' hm =>
      obtain ⟨k, hk⟩ := ih m'
      refine ⟨k + 1, ?_⟩
      rw [hk, List.replicate_succ, acts_cons, act, hm]
    · next hm =>
      refine ⟨1, ?_⟩
      rw [List.replicate_one, acts_cons, act, acts_nil]

theorem finish_eq_acts (files : Files) (n : Nat) (m : Machine V E) :
    ∃ k, (m.finish files n).2 = m.acts (List.replicate k (.step files)) := by
  induction n generalizing m with
  | zero => exact ⟨0, rfl⟩
  | succ n ih =>
    rw [finish]
    split
    · next m' hm => exact ⟨1, by rw [List.replicate_one, acts_cons, act, acts_nil, hm]⟩
    · next f m' hm => exact ⟨1, by rw [List.replicate_one, acts_cons, act, acts_nil, hm]⟩
    · next event m' _ _ hm =>
      obtain ⟨k, hk⟩ := ih m'
      refine ⟨k + 1, ?_⟩
      rw [hk, List.replicate_succ, acts_cons, act, hm]

theorem runProgram_eq_acts (files : Files) (n : Nat) (m : Machine V E) (p : Program) (v : V) :
    ∃ k, (m.runProgram files n p v).2 = (m.start p v).2.acts (List.replicate k (.step files)) := by
  rw [runProgram]
  split
  · next hs => exact ⟨0, by rw [hs]; rfl⟩
  · next hs =>
    rw [hs]
    exact finish_eq_acts files n _

theorem acts_of_no_contact {m : Machine V E} (as : List (Act E)) (h : m.contact = .none) :
    (m.acts as).contact = .none := by
  refine acts_keep (P := fun m' => m'.contact = .none) ?_ (fun _ _ _ _ h' => h') as h
  intro m' files h'
  have idle : m'.isRunning = false := by simp [isRunning, h', Contact.isLive]
  rwa [step_of_not_live files idle]

/-! ## Requests of a host -/

end Machine

/-- What a host asks of a machine during a run: one act, or a batch of steps. -/
inductive Request (E : Type) where
  | act (a : Act E)
  | execute (files : Files) (cycles : Nat)

namespace Machine

variable [Vehicle V] [Vision E]

def request (m : Machine V E) : Request E → Machine V E
  | .act a => m.act a
  | .execute files cycles => (m.execute files cycles).2

def requests (m : Machine V E) (rs : List (Request E)) : Machine V E := rs.foldl request m

/-- The event that a request gives back: steps and batches of steps do. -/
def reply (m : Machine V E) : Request E → Option Event
  | .act (.step files) => some (m.step files).1
  | .act _ => none
  | .execute files cycles => some (m.execute files cycles).1

/-- The events that requests give back, in order. -/
def replies (m : Machine V E) : List (Request E) → List Event
  | [] => []
  | r :: rs => (m.reply r).toList ++ (m.request r).replies rs

theorem requests_keep {P : Machine V E → Prop} (hstep : ∀ m files, P m → P (m.step files).2)
    (hset : ∀ (m : Machine V E) interrupted vision frameTimeout, P m →
      P { m with interrupted, vision, frameTimeout })
    {m : Machine V E} (rs : List (Request E)) (h : P m) : P (m.requests rs) := by
  induction rs generalizing m with
  | nil => exact h
  | cons r rs ih =>
    refine ih ?_
    cases r with
    | act a => exact acts_keep hstep hset [a] h
    | execute files cycles =>
      obtain ⟨k, hk⟩ := execute_eq_acts files cycles m
      rw [request, hk]
      exact acts_keep hstep hset _ h

/-! ## The program of a run -/

theorem program_step (files : Files) (m : Machine V E) : (m.step files).2.program = m.program := by
  have h := step_spec files m
  generalize (m.step files).1 = event at h
  generalize (m.step files).2 = m' at h ⊢
  cases h <;> rfl

theorem program_acts (m : Machine V E) (as : List (Act E)) : (m.acts as).program = m.program := by
  refine acts_keep (P := fun m' => m'.program = m.program) ?_ (fun _ _ _ _ h => h) as rfl
  intro m' files h
  rw [program_step, h]

end Machine
end Quadcopter

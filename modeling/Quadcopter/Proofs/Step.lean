import Quadcopter.Machine.Basic
import Quadcopter.Proofs.Calls
import Quadcopter.Proofs.Compilation

/-!
# Quadcopter.Proofs.Step

What an instruction and a step of the machine can do, said once.

* `execute_of_order`, `execute_of_no_order`: an instruction of flight gives the vehicle its one order,
  and its fate is the vehicle's answer; any other instruction at most looks through the camera.
* `event_of_execute`: an instruction that succeeds tells one event (`eventOf`).
* `execute_error`: an instruction that fails leaves the core and the vision backend as they were, and
  its cause is one of those that the instruction can have (`Blames`).
* `step_spec`: the seven ways a step goes (`Step`), each with the machine after it. Whatever holds
  along a run is derived from these.
-/

namespace Quadcopter

variable {V E : Type}

namespace Cause

/-- Whether a cause can stop an instruction that was decoded. -/
def isRuntime : Cause → Bool
  | .noSuchLabel _ | .integerOverflow | .divideByZero | .stackOverflow _ | .stackUnderflow _
  | .emptyPicture | .emptyFace | .unloadablePicture .. | .manoeuvreRefused | .noFrame => true
  | _ => false

end Cause

/-! ## Causes of failure -/

theorem lookup_error {p : Program} {name : String} {cause : Cause} (h : p.lookup name = .error cause) :
    cause = .noSuchLabel name := by
  unfold Program.lookup at h
  split at h
  · cases h
  · cases h; rfl

theorem load_error {files : Files} {path : String} {cause : Cause}
    (h : Picture.load files path = .error cause) : ∃ why, cause = .unloadablePicture path why := by
  unfold Picture.load at h
  split at h
  · cases h; exact ⟨_, rfl⟩
  · split at h
    · cases h; exact ⟨_, rfl⟩
    · cases h

theorem loadEitherCase_error {files : Files} {name : String} {cause : Cause}
    (h : loadEitherCase files name = .error cause) :
    ∃ why, cause = .unloadablePicture name why := by
  unfold loadEitherCase at h
  split at h
  · cases h
  · next hload =>
    split at h
    · cases h
    · cases h; exact load_error hload

theorem checked_error {n : Int} {cause : Cause} (h : Arith.checked n = .error cause) :
    cause = .integerOverflow := by
  unfold Arith.checked at h
  split at h
  · cases h
  · cases h; rfl

theorem apply_error {op : Arith} {l r : Value} {cause : Cause} (h : op.apply l r = .error cause) :
    cause = .integerOverflow ∨ cause = .divideByZero := by
  cases op with
  | add =>
    simp only [Arith.apply, Arith.sum] at h
    split at h
    · exact .inl (checked_error h)
    · cases h
  | sub =>
    simp only [Arith.apply, Arith.difference] at h
    split at h
    · exact .inl (checked_error h)
    · cases h
  | mult =>
    simp only [Arith.apply, Arith.product] at h
    split at h
    · exact .inl (checked_error h)
    · cases h
  | div =>
    simp only [Arith.apply, Arith.quotient] at h
    split at h
    · cases h; exact .inr rfl
    · cases h
  | idiv =>
    simp only [Arith.apply, Arith.floorDivide] at h
    split at h
    · cases h; exact .inr rfl
    · split at h
      · split at h
        · cases h; exact .inl rfl
        · cases h
      · cases h
  | rdiv =>
    simp only [Arith.apply, Arith.remainder] at h
    split at h
    · cases h; exact .inr rfl
    · split at h
      · split at h
        · cases h; exact .inl rfl
        · cases h
      · cases h

/-- The causes for which an instruction can fail. -/
inductive Instruction.Blames : Instruction → Cause → Prop where
  | jump (label : String) : Blames (.jump label) (.noSuchLabel label)
  | branch (relation : Relation) (lhs rhs : Operand) (label : String) :
      Blames (.branch relation lhs rhs label) (.noSuchLabel label)
  | noReturn (label : String) : Blames (.pushReturn label) (.noSuchLabel label)
  | pushReturn (label : String) : Blames (.pushReturn label) (.stackOverflow .ret)
  | popReturn : Blames .popReturn (.stackUnderflow .ret)
  | pushNum (source : Operand) : Blames (.pushNum source) (.stackOverflow .number)
  | popNum (dest : NumReg) : Blames (.popNum dest) (.stackUnderflow .number)
  | pushPic (source : PicReg) : Blames (.pushPic source) (.stackOverflow .picture)
  | popPic (dest : PicReg) : Blames (.popPic dest) (.stackUnderflow .picture)
  | overflow (op : Arith) (lhs rhs : Operand) (dest : NumReg) :
      Blames (.arithmetic op lhs rhs dest) .integerOverflow
  | byZero (op : Arith) (lhs rhs : Operand) (dest : NumReg) :
      Blames (.arithmetic op lhs rhs dest) .divideByZero
  | takeoff : Blames .takeoff .manoeuvreRefused
  | land : Blames .land .manoeuvreRefused
  | move (motion : Motion) (amount : Operand) : Blames (.move motion amount) .manoeuvreRefused
  | display (what : Shown) : Blames (.display what) .emptyPicture
  | takePic (dest : PicReg) : Blames (.takePic dest) .noFrame
  | loadPic (file : String) (dest : PicReg) (why : Picture.Defect) :
      Blames (.loadPic file dest) (.unloadablePicture file why)
  | detectFace (picture : PicReg) (face : FaceReg) (dest : NumReg) :
      Blames (.detectFace picture face dest) .emptyPicture
  | matchFace (first second : FaceReg) (dest : NumReg) :
      Blames (.matchFace first second dest) .emptyFace

namespace Core

theorem photo_error {c : Core} {p : PicReg} {cause : Cause} (h : c.photo p = .error cause) :
    cause = .emptyPicture := by
  unfold photo at h
  split at h
  · cases h
  · cases h; rfl

theorem jump_error {c : Core} {program : Program} {label : String} {cause : Cause}
    (h : c.jump program label = .error cause) : cause = .noSuchLabel label := by
  unfold jump at h
  split at h
  · next hl => cases h; exact lookup_error hl
  · cases h

theorem pushReturn_error {c : Core} {program : Program} {label : String} {cause : Cause}
    (h : c.pushReturn program label = .error cause) :
    cause = .noSuchLabel label ∨ cause = .stackOverflow .ret := by
  unfold pushReturn at h
  split at h
  · next hl => cases h; exact .inl (lookup_error hl)
  · exact .inr (Stack.push_eq_error_iff.1 (map_eq_error h)).2

theorem branch_error {c : Core} {program : Program} {relation : Relation} {lhs rhs : Operand}
    {label : String} {cause : Cause} (h : c.branch program relation lhs rhs label = .error cause) :
    cause = .noSuchLabel label := by
  unfold branch at h
  split at h
  · exact jump_error h
  · cases h

theorem shown_error {c : Core} {what : Shown} {cause : Cause} (h : c.shown what = .error cause) :
    cause = .emptyPicture := by
  cases what with
  | text s => cases h
  | number source => cases h
  | picture source => exact photo_error (map_eq_error h)

/-! ## Instructions -/

/-- The order that an instruction gives to the vehicle, if it is one of flight. -/
def orderOf (c : Core) : Instruction → Option Order
  | .takeoff => some .takeoff
  | .land => some .land
  | .move motion operand => some (.move motion (c.value operand).truncate)
  | _ => none

/-- The event that an instruction tells if it succeeds. -/
def eventOf (c : Core) : Instruction → Event
  | .halt => .stopped
  | .move motion operand =>
    .moved (c.travel motion (c.value operand).truncate).tracker.position
  | .display what => (c.shown what).toOption.getD .running
  | _ => .running

/-- A failure of an instruction that came before anything was written. -/
structure Spared (c : Core) (e : E) (i : Instruction) (cause : Cause) (r : Result V E) : Prop where
  core : r.core = c
  vision : r.vision = e
  blames : i.Blames cause

theorem Spared.runtime {c : Core} {e : E} {i : Instruction} {cause : Cause} {r : Result V E}
    (h : Spared c e i cause r) : cause.isRuntime = true := by
  cases h.blames <;> rfl

theorem proceed_error {c : Core} {v : V} {e : E} {i : Instruction} {next : Except Cause Core}
    {cause : Cause} (hb : next = .error cause → i.Blames cause)
    (h : (c.proceed v e next).outcome = .error cause) : Spared c e i cause (c.proceed v e next) := by
  cases next with
  | ok d => cases h
  | error x => cases h; exact ⟨rfl, rfl, hb rfl⟩

theorem proceed_vehicle (c : Core) (v : V) (e : E) (next : Except Cause Core) :
    (c.proceed v e next).vehicle = v := by
  cases next <;> rfl

theorem tell_vehicle (c : Core) (v : V) (e : E) (told : Except Cause Event) :
    (c.tell v e told).vehicle = v := by
  cases told <;> rfl

theorem detect_vehicle [Vision E] (c : Core) (v : V) (e : E) (photo : Photo) (face : FaceReg)
    (dest : NumReg) : (c.detect v e photo face dest).vehicle = v := by
  unfold detect
  split <;> rfl

theorem detect_ok [Vision E] (c : Core) (v : V) (e : E) (photo : Photo) (face : FaceReg)
    (dest : NumReg) : (c.detect v e photo face dest).outcome = .ok .running := by
  unfold detect
  split <;> rfl

theorem likeness_vehicle [Vision E] (c : Core) (v : V) (e : E) (first second : FaceReg)
    (dest : NumReg) : (c.likeness v e first second dest).vehicle = v := by
  unfold likeness
  split <;> rfl

theorem likeness_error [Vision E] {c : Core} {v : V} {e : E} {first second : FaceReg} {dest : NumReg}
    {cause : Cause} (h : (c.likeness v e first second dest).outcome = .error cause) :
    Spared c e (.matchFace first second dest) cause (c.likeness v e first second dest) := by
  unfold likeness at h ⊢
  split at h
  · cases h
  · cases h; exact ⟨rfl, rfl, .matchFace first second dest⟩

theorem likeness_ok [Vision E] {c : Core} {v : V} {e : E} {first second : FaceReg} {dest : NumReg}
    {event : Event} (h : (c.likeness v e first second dest).outcome = .ok event) :
    event = .running := by
  unfold likeness at h
  split at h
  · cases h; rfl
  · cases h

theorem order_cases [Vehicle V] (c : Core) (v : V) (e : E) (o : Order) (done : Core)
    (event : Event) :
    ((Vehicle.perform o v).1 = true ∧
      c.order v e o done event = ⟨(Vehicle.perform o v).2, e, done, .ok event⟩) ∨
    ((Vehicle.perform o v).1 = false ∧
      c.order v e o done event = ⟨(Vehicle.perform o v).2, e, c, .error .manoeuvreRefused⟩) := by
  unfold order
  split
  · next w hw => exact .inl ⟨by rw [hw], by rw [hw]⟩
  · next w hw => exact .inr ⟨by rw [hw], by rw [hw]⟩

theorem order_error [Vehicle V] {c : Core} {v : V} {e : E} {i : Instruction} {o : Order} {done : Core}
    {event : Event} {cause : Cause} (hb : i.Blames .manoeuvreRefused)
    (h : (c.order v e o done event).outcome = .error cause) :
    Spared c e i cause (c.order v e o done event) := by
  rcases order_cases c v e o done event with ⟨-, hr⟩ | ⟨-, hr⟩
  · rw [hr] at h; cases h
  · rw [hr] at h ⊢; cases h; exact ⟨rfl, rfl, hb⟩

theorem order_ok [Vehicle V] {c : Core} {v : V} {e : E} {o : Order} {done : Core} {event told : Event}
    (h : (c.order v e o done event).outcome = .ok told) : told = event := by
  rcases order_cases c v e o done event with ⟨-, hr⟩ | ⟨-, hr⟩
  · rw [hr] at h; cases h; rfl
  · rw [hr] at h; cases h

theorem proceed_ok {c : Core} {v : V} {e : E} {next : Except Cause Core} {event : Event}
    (h : (c.proceed v e next).outcome = .ok event) : event = .running := by
  cases next with
  | ok d => cases h; rfl
  | error x => cases h

theorem shown_ok {c : Core} {what : Shown} {event : Event} (h : c.shown what = .ok event) :
    (∃ s, event = .print s) ∨ ∃ photo, event = .show photo := by
  cases what with
  | text s => cases h; exact .inl ⟨_, rfl⟩
  | number source => cases h; exact .inl ⟨_, rfl⟩
  | picture source =>
    simp only [shown] at h
    cases hp : c.photo source with
    | ok photo => rw [hp] at h; cases h; exact .inr ⟨_, rfl⟩
    | error x => rw [hp] at h; cases h

theorem eventOf_display (c : Core) (what : Shown) :
    c.eventOf (.display what) = .running ∨ (∃ s, c.eventOf (.display what) = .print s) ∨
      ∃ photo, c.eventOf (.display what) = .show photo := by
  simp only [eventOf]
  cases hs : c.shown what with
  | error x => exact .inl rfl
  | ok event => exact .inr (shown_ok hs)

section Execute

variable [Vehicle V] [Vision E] {files : Files} {looks : Nat} {program : Program} {c : Core} {v : V}
  {e : E} {i : Instruction}

/-- An instruction that fails has written nothing and asked the vision backend nothing. -/
theorem execute_error {cause : Cause}
    (h : (c.execute files looks program v e i).outcome = .error cause) :
    Spared c e i cause (c.execute files looks program v e i) := by
  -- every instruction gives its new core in one piece, so only the cause is left to be named
  cases i with
  | nop => cases h
  | halt => cases h
  | jump label => exact proceed_error (fun hn => by rw [jump_error hn]; exact .jump label) h
  | jumpReturn => cases h
  | pushReturn label =>
    refine proceed_error (fun hn => ?_) h
    rcases pushReturn_error hn with rfl | rfl
    · exact .noReturn label
    · exact .pushReturn label
  | popReturn =>
    refine proceed_error (fun hn => ?_) h
    rw [(Stack.pop_eq_error_iff.1 (map_eq_error hn)).2]
    exact .popReturn
  | branch relation lhs rhs label =>
    exact proceed_error (fun hn => by rw [branch_error hn]; exact .branch relation lhs rhs label) h
  | store source dest => cases h
  | copy source dest => cases h
  | copyPic source dest => cases h
  | pushNum source =>
    refine proceed_error (fun hn => ?_) h
    rw [(Stack.push_eq_error_iff.1 (map_eq_error hn)).2]
    exact .pushNum source
  | pushPic source =>
    refine proceed_error (fun hn => ?_) h
    rw [(Stack.push_eq_error_iff.1 (map_eq_error hn)).2]
    exact .pushPic source
  | popNum dest =>
    refine proceed_error (fun hn => ?_) h
    rw [(Stack.pop_eq_error_iff.1 (map_eq_error hn)).2]
    exact .popNum dest
  | popPic dest =>
    refine proceed_error (fun hn => ?_) h
    rw [(Stack.pop_eq_error_iff.1 (map_eq_error hn)).2]
    exact .popPic dest
  | arithmetic op lhs rhs dest =>
    refine proceed_error (fun hn => ?_) h
    rcases apply_error (map_eq_error hn) with rfl | rfl
    · exact .overflow op lhs rhs dest
    · exact .byZero op lhs rhs dest
  | takeoff => exact order_error .takeoff h
  | land => exact order_error .land h
  | move motion operand => exact order_error (.move motion operand) h
  | display what =>
    simp only [execute] at h ⊢
    cases hs : c.shown what with
    | ok event => rw [hs] at h; cases h
    | error x =>
      rw [hs] at h
      cases h
      exact ⟨rfl, rfl, by rw [shown_error hs]; exact .display what⟩
  | takePic dest =>
    simp only [execute] at h ⊢
    split at h
    · cases h
    · cases h; exact ⟨rfl, rfl, .takePic dest⟩
  | loadPic name dest =>
    refine proceed_error (fun hn => ?_) h
    obtain ⟨why, rfl⟩ := loadEitherCase_error (map_eq_error hn)
    exact .loadPic name dest why
  | detectFace picture face dest =>
    simp only [execute] at h ⊢
    split at h
    · next hp =>
      cases h
      exact ⟨rfl, rfl, by rw [photo_error hp]; exact .detectFace picture face dest⟩
    · rw [detect_ok] at h; cases h
  | matchFace first second dest => exact likeness_error h

/-- An instruction that succeeds tells its event. -/
theorem event_of_execute {event : Event}
    (h : (c.execute files looks program v e i).outcome = .ok event) : event = c.eventOf i := by
  cases i with
  | halt => cases h; rfl
  | move motion operand => exact order_ok h
  | display what =>
    simp only [execute] at h
    simp only [eventOf]
    cases hs : c.shown what with
    | error x => rw [hs] at h; cases h
    | ok told => rw [hs] at h; cases h; rfl
  | takePic dest =>
    simp only [execute] at h
    split at h
    · cases h; rfl
    · cases h
  | detectFace picture face dest =>
    simp only [execute] at h
    split at h
    · cases h
    · rw [detect_ok] at h; cases h; rfl
  | matchFace first second dest => exact likeness_ok h
  | takeoff => exact order_ok h
  | land => exact order_ok h
  | nop => cases h; rfl
  | jumpReturn => cases h; rfl
  | store source dest => cases h; rfl
  | copy source dest => cases h; rfl
  | copyPic source dest => cases h; rfl
  | _ => exact proceed_ok h

/-- An event told by an instruction that succeeds is no fault, and the run stops at `HALT` only. -/
theorem execute_ok {event : Event}
    (h : (c.execute files looks program v e i).outcome = .ok event) :
    (∀ f, event ≠ .error f) ∧ (event = .stopped → i = .halt) := by
  rw [event_of_execute h]
  cases i with
  | halt => exact ⟨fun f => nofun, fun _ => rfl⟩
  | display what =>
    rcases eventOf_display c what with hr | ⟨s, hs⟩ | ⟨photo, hp⟩
    · rw [hr]; exact ⟨fun f => nofun, nofun⟩
    · rw [hs]; exact ⟨fun f => nofun, nofun⟩
    · rw [hp]; exact ⟨fun f => nofun, nofun⟩
  | _ => exact ⟨fun f => nofun, nofun⟩

theorem execute_eq_order (files : Files) (looks : Nat) (program : Program) (v : V) (e : E) {o : Order}
    (h : c.orderOf i = some o) :
    ∃ done event, c.execute files looks program v e i = c.order v e o done event := by
  cases i <;> cases h <;> exact ⟨_, _, rfl⟩

/-- An instruction of flight gives its order to the vehicle and fails if the vehicle refuses it. -/
theorem execute_of_order (files : Files) (looks : Nat) (program : Program) (v : V) (e : E) {o : Order}
    (h : c.orderOf i = some o) :
    ((Vehicle.perform o v).1 = true ∧ ∃ done event,
      c.execute files looks program v e i = ⟨(Vehicle.perform o v).2, e, done, .ok event⟩) ∨
    ((Vehicle.perform o v).1 = false ∧
      c.execute files looks program v e i =
        ⟨(Vehicle.perform o v).2, e, c, .error .manoeuvreRefused⟩) := by
  obtain ⟨done, event, hi⟩ := execute_eq_order files looks program v e h
  rw [hi]
  rcases order_cases c v e o done event with ⟨hp, hr⟩ | ⟨hp, hr⟩
  · exact .inl ⟨hp, done, event, hr⟩
  · exact .inr ⟨hp, hr⟩

/-- Any other instruction asks the vehicle for nothing but frames. -/
theorem execute_of_no_order (files : Files) (looks : Nat) (program : Program) (v : V) (e : E)
    (h : c.orderOf i = none) :
    ∃ k, (c.execute files looks program v e i).vehicle =
      Vehicle.after (List.replicate k .frame) v := by
  cases i with
  | takeoff => cases h
  | land => cases h
  | move motion operand => cases h
  | takePic dest =>
    obtain ⟨k, hk⟩ := awaitFrame_vehicle looks v
    refine ⟨k, ?_⟩
    rw [← hk, execute]
    split <;> next hf => rw [hf]
  | detectFace picture face dest =>
    refine ⟨0, ?_⟩
    rw [execute]
    split
    · rfl
    · exact detect_vehicle ..
  | matchFace first second dest => exact ⟨0, likeness_vehicle ..⟩
  | display what => exact ⟨0, tell_vehicle ..⟩
  | nop => exact ⟨0, rfl⟩
  | halt => exact ⟨0, rfl⟩
  | jumpReturn => exact ⟨0, rfl⟩
  | store source dest => exact ⟨0, rfl⟩
  | copy source dest => exact ⟨0, rfl⟩
  | copyPic source dest => exact ⟨0, rfl⟩
  | _ => exact ⟨0, proceed_vehicle ..⟩

end Execute

end Core

/-! ## Steps -/

namespace Machine

variable [Vehicle V] [Vision E]

def result (files : Files) (m : Machine V E) (v : V) (i : Instruction) : Result V E :=
  m.core.execute files m.looks m.program v m.vision i

theorem result_calls (files : Files) (m : Machine V E) (v : V) (i : Instruction) :
    ∃ cs : List Call, (∀ c ∈ cs, c.isFlight = true) ∧
      (m.result files v i).vehicle = Vehicle.after cs v := by
  cases ho : m.core.orderOf i with
  | none =>
    obtain ⟨k, hk⟩ := Core.execute_of_no_order files m.looks m.program v m.vision ho
    refine ⟨List.replicate k .frame, ?_, hk⟩
    intro c hc
    rw [List.eq_of_mem_replicate hc]; rfl
  | some o =>
    refine ⟨[.perform o], by simp [Call.isFlight], ?_⟩
    rcases Core.execute_of_order files m.looks m.program v m.vision ho with ⟨-, done, event, hr⟩ | ⟨-, hr⟩
    · rw [result, hr]; rfl
    · rw [result, hr]; rfl

/-- The next step of a machine runs an instruction with its vehicle. -/
structure Runs (m : Machine V E) (v : V) (i : Instruction) : Prop where
  live : m.contact = .live v
  uninterrupted : m.interrupted = false
  inside : m.core.pc < m.program.size
  fetched : m.fetch = .ok i

/-- How a step can go. A run ends in five of these ways, and each of them shuts the vehicle down. -/
inductive Step (files : Files) (m : Machine V E) : Event → Machine V E → Prop where
  | idle : m.isRunning = false → Step files m .stopped m
  | interrupted {v : V} : m.contact = .live v → m.interrupted = true →
      Step files m .stopped
        { m with interrupted := false, contact := .ended (Vehicle.shutdown v) }
  | completed {v : V} : m.contact = .live v → m.interrupted = false → m.program.size ≤ m.core.pc →
      Step files m .stopped { m with contact := .ended (Vehicle.shutdown v) }
  | unreadable {v : V} {cause : Cause} : m.contact = .live v → m.interrupted = false →
      m.core.pc < m.program.size → m.fetch = .error cause →
      Step files m (.error (cause.inLine (m.core.pc + 1)))
        { m with failed := true, contact := .ended (Vehicle.shutdown v) }
  | failed {v : V} {i : Instruction} {cause : Cause} : m.Runs v i →
      (m.result files v i).outcome = .error cause →
      Step files m (.error (cause.inLine (m.core.pc + 1)))
        { m with failed := true, contact := .ended (Vehicle.shutdown (m.result files v i).vehicle) }
  | halted {v : V} : m.Runs v .halt →
      Step files m .stopped { m with core := m.core.next, contact := .ended (Vehicle.shutdown v) }
  | ran {v : V} {i : Instruction} {event : Event} : m.Runs v i →
      (m.result files v i).outcome = .ok event → event ≠ .stopped → (∀ f, event ≠ .error f) →
      Step files m event
        { m with core := (m.result files v i).core, vision := (m.result files v i).vision
                 contact := .live (m.result files v i).vehicle }

theorem perform_error {files : Files} {m : Machine V E} {v : V} {i : Instruction} {cause : Cause}
    (h : (m.result files v i).outcome = .error cause) :
    m.perform files v i = (.error (cause.inLine (m.core.pc + 1)),
      { m with failed := true, contact := .ended (Vehicle.shutdown (m.result files v i).vehicle) }) := by
  have spared := Core.execute_error h
  unfold result at h ⊢
  obtain ⟨hc, hv, -⟩ := spared
  unfold perform
  generalize m.core.execute files m.looks m.program v m.vision i = r at h hc hv ⊢
  obtain ⟨w, e, c, outcome⟩ := r
  cases h; cases hc; cases hv
  rfl

theorem perform_ok {files : Files} {m : Machine V E} {v : V} {i : Instruction} {event : Event}
    (h : (m.result files v i).outcome = .ok event) (hne : event ≠ .stopped) :
    m.perform files v i = (event,
      { m with core := (m.result files v i).core, vision := (m.result files v i).vision
               contact := .live (m.result files v i).vehicle }) := by
  unfold result at h ⊢
  unfold perform
  generalize m.core.execute files m.looks m.program v m.vision i = r at h ⊢
  obtain ⟨w, e, c, outcome⟩ := r
  cases h
  cases event with
  | stopped => exact absurd rfl hne
  | _ => rfl

/-- The next step of a live machine that is not interrupted runs the instruction it fetches. -/
theorem step_of_runs {m : Machine V E} {v : V} {i : Instruction} (files : Files) (h : m.Runs v i) :
    m.step files = m.perform files v i := by
  have hin : ¬ m.program.size ≤ m.core.pc := Nat.not_le.2 h.inside
  simp [step, h.live, h.uninterrupted, hin, h.fetched]

/-- Every step goes in one of the ways of `Step`. -/
theorem step_spec (files : Files) (m : Machine V E) :
    Step files m (m.step files).1 (m.step files).2 := by
  cases hc : m.contact with
  | none =>
    have hs := step_of_not_live files (m := m) (by simp [isRunning, hc, Contact.isLive])
    rw [hs]
    exact .idle (by simp [isRunning, hc, Contact.isLive])
  | ended v =>
    have hs := step_of_not_live files (m := m) (by simp [isRunning, hc, Contact.isLive])
    rw [hs]
    exact .idle (by simp [isRunning, hc, Contact.isLive])
  | live v =>
    by_cases hi : m.interrupted = true
    · have hs : m.step files = (.stopped,
          { m with interrupted := false, contact := .ended (Vehicle.shutdown v) }) := by
        simp [step, hc, hi]
      rw [hs]
      exact .interrupted hc hi
    have hi' : m.interrupted = false := by simpa using hi
    by_cases hp : m.program.size ≤ m.core.pc
    · have hs : m.step files = (.stopped, { m with contact := .ended (Vehicle.shutdown v) }) := by
        simp [step, hc, hi', hp]
      rw [hs]
      exact .completed hc hi' hp
    have hp' : m.core.pc < m.program.size := Nat.not_le.1 hp
    cases hf : m.fetch with
    | error cause =>
      have hs : m.step files = m.fail v cause := by simp [step, hc, hi', hp, hf]
      rw [hs]
      exact .unreadable hc hi' hp' hf
    | ok i =>
      have runs : m.Runs v i := ⟨hc, hi', hp', hf⟩
      rw [step_of_runs files runs]
      cases ho : (m.result files v i).outcome with
      | error cause => rw [perform_error ho]; exact .failed runs ho
      | ok event =>
        obtain ⟨hne, hhalt⟩ := Core.execute_ok ho
        by_cases hs : event = .stopped
        · obtain rfl := hhalt hs
          exact .halted runs
        · rw [perform_ok ho hs]; exact .ran runs ho hs hne

end Machine
end Quadcopter

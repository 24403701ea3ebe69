import Quadcopter.Machine.Craft
import Quadcopter.Proofs.Exchanges
import Quadcopter.Proofs.Run

/-!
# Quadcopter.Proofs.Wire

What a run with a live vehicle sends, from the start until the run has ended.

* `Transmits`: the exchanges of a run that gave some orders.
* `Wired`: the invariant of a run. Everything that can happen keeps it (`Wired.happen`): the steps of
  the run, and pictures and reports that come in meanwhile.
* `wire_of_run`: whenever a run ends, it has sent exactly what `Transmits` says for the orders that its
  instructions gave.
-/

namespace Quadcopter

variable {E : Type}

/-! ## The orders of a run -/

/-- What can happen during a run with a live vehicle. Its camera puts out pictures and its reports
arrive at any time. -/
inductive Happening (E : Type) where
  | act (a : Act E)
  | publish (picture : Picture)
  | report (packet : ByteArray)

def Craft.tune (f : Radio → Radio) : Craft → Craft
  | .live r => .live (f r)
  | c => c

def Contact.tune (f : Radio → Radio) : Contact Craft → Contact Craft
  | .none => .none
  | .ended v => .ended (v.tune f)
  | .live v => .live (v.tune f)

namespace Machine

section Orders

variable {V : Type} {m : Machine V E} {v : V} {i : Instruction}

/-- The instruction that the next step runs, if it runs one. -/
def upcoming? (m : Machine V E) : Option Instruction :=
  if m.isRunning && !m.interrupted && decide (m.core.pc < m.program.size) then m.fetch.toOption
  else none

/-- The order that the next step gives to the vehicle. -/
def order? (m : Machine V E) : Option Order := m.upcoming?.bind m.core.orderOf

theorem order?_of_runs (h : m.Runs v i) : m.order? = m.core.orderOf i := by
  have hi : m.upcoming? = some i := by
    simp [upcoming?, isRunning, h.live, Contact.isLive, h.uninterrupted, h.inside, h.fetched,
      Except.toOption]
  rw [order?, hi]; rfl

end Orders

variable [Vision E]

def happen (m : Machine Craft E) : Happening E → Machine Craft E
  | .act a => m.act a
  | .publish picture => { m with contact := m.contact.tune (·.publish picture) }
  | .report packet => { m with contact := m.contact.tune (·.receiveState packet) }

/-- The order that is given when something happens: that of the instruction which a step runs. -/
def given (m : Machine Craft E) : Happening E → List Order
  | .act (.step _) => m.order?.toList
  | _ => []

/-- The orders that the instructions of a run give, in order. -/
def orders (m : Machine Craft E) : List (Happening E) → List Order
  | [] => []
  | h :: hs => m.given h ++ (m.happen h).orders hs

end Machine

/-! ## What is sent -/

/-- The exchanges of a run with its vehicle, from the start until it has ended, if the run has given
these orders and the vehicle was to be greeted at most so many times. -/
inductive Transmits (attempts : Nat) : List Order → List (String × Bool) → Prop where
  /-- No greeting is acknowledged: nothing else is sent. -/
  | unanswered {j : Nat} : j ≤ attempts → Transmits attempts [] (List.replicate j ("command", false))
  /-- Contact is made. All orders but perhaps the last are sent and acknowledged; the last one is not
  sent if it is out of range. A vehicle that is left in the air is landed. -/
  | contact {j : Nat} {obeyed : List Order} (video : Bool) (refused : Option Order) (landed : Bool) :
      j < attempts → (∀ o ∈ obeyed, o.Permitted) →
      Transmits attempts (obeyed ++ refused.toList)
        (Radio.greeting j video ++ obeyed.map (fun o => (o.wire, true)) ++
          (refused.toList.filter (·.Permitted)).map (fun o => (o.wire, false)) ++
          if Order.airborne obeyed then [("land", landed)] else [])

/-- What holds of the contact of a run that has given these orders. -/
inductive Wired (attempts : Nat) (base : Link) (os : List Order) : Contact Craft → Prop where
  | live {r : Radio} {j : Nat} (video : Bool) : j < attempts → (∀ o ∈ os, o.Permitted) →
      Radio.OnAir base (Order.airborne os)
        (Radio.greeting j video ++ os.map (fun o => (o.wire, true))) r →
      Wired attempts base os (.live (.live r))
  | ended {r : Radio} {sent : List (String × Bool)} : Transmits attempts os sent →
      Radio.OffAir base sent r → Wired attempts base os (.ended (.live r))

theorem Craft.connect_live (r : Radio) :
    Vehicle.connect (Craft.live r) = (r.connect.1, .live r.connect.2) := rfl

theorem Craft.shutdown_live (r : Radio) : Vehicle.shutdown (Craft.live r) = .live r.shutdown := rfl

theorem Craft.perform_live (o : Order) (r : Radio) :
    Vehicle.perform o (Craft.live r) = ((r.perform o).1, .live (r.perform o).2) := rfl

theorem Radio.receiveState_eq (r : Radio) (packet : ByteArray) :
    ∃ state, r.receiveState packet = { r with state } := by
  unfold receiveState
  split
  · split
    · exact ⟨_, rfl⟩
    · exact ⟨r.state, rfl⟩
  · exact ⟨r.state, rfl⟩

theorem after_looks_live (k : Nat) (r : Radio) :
    Vehicle.after (List.replicate k .frame) (Craft.live r) = .live r := by
  induction k with
  | zero => rfl
  | succ k ih => rw [List.replicate_succ, Vehicle.after_cons]; exact ih

namespace Wired

variable {attempts : Nat} {base : Link} {os : List Order} {r : Radio} {v : Craft}

theorem onAir (h : Wired attempts base os (.live v)) :
    ∃ r j video, v = .live r ∧ j < attempts ∧ (∀ o ∈ os, o.Permitted) ∧
      Radio.OnAir base (Order.airborne os)
        (Radio.greeting j video ++ os.map (fun o => (o.wire, true))) r := by
  cases h with
  | live video hj hos hair => exact ⟨_, _, video, rfl, hj, hos, hair⟩

theorem finish (h : Wired attempts base os (.live v)) :
    Wired attempts base os (.ended (Vehicle.shutdown v)) := by
  obtain ⟨r, j, video, rfl, hj, hos, hair⟩ := h.onAir
  obtain ⟨landed, hoff⟩ := hair.shutdown
  have sent := Transmits.contact video none landed hj hos
  rw [Option.toList_none, List.append_nil] at sent
  rw [Craft.shutdown_live]
  refine .ended sent ?_
  simpa [List.append_assoc] using hoff

theorem refuse {o : Order} (h : Wired attempts base os (.live v))
    (ho : (Vehicle.perform o v).1 = false) :
    Wired attempts base (os ++ [o]) (.ended (Vehicle.shutdown (Vehicle.perform o v).2)) := by
  obtain ⟨r, j, video, rfl, hj, hos, hair⟩ := h.onAir
  obtain ⟨landed, hoff⟩ := (hair.refuse (o := o) ho).shutdown
  rw [Craft.perform_live, Craft.shutdown_live]
  refine .ended (Transmits.contact video (some o) landed hj hos) ?_
  by_cases hp : o.Permitted
  · simpa [List.append_assoc, hp] using hoff
  · simpa [List.append_assoc, hp] using hoff

theorem accept {o : Order} (h : Wired attempts base os (.live v))
    (ho : (Vehicle.perform o v).1 = true) :
    Wired attempts base (os ++ [o]) (.live (Vehicle.perform o v).2) := by
  obtain ⟨r, j, video, rfl, hj, hos, hair⟩ := h.onAir
  obtain ⟨hp, hair'⟩ := hair.accept (o := o) ho
  rw [Craft.perform_live]
  refine .live video hj ?_ (by simpa [List.append_assoc] using hair')
  intro o' ho'
  rcases List.mem_append.1 ho' with ho' | ho'
  · exact hos o' ho'
  · rw [List.mem_singleton.1 ho']; exact hp

theorem looks (k : Nat) (h : Wired attempts base os (.live v)) :
    Wired attempts base os (.live (Vehicle.after (List.replicate k .frame) v)) := by
  obtain ⟨r, j, video, rfl, -⟩ := h.onAir
  rwa [after_looks_live]

theorem close {c : Contact Craft} (h : Wired attempts base os c) :
    ∃ r sent, c.close = .ended (.live r) ∧ Transmits attempts os sent ∧
      Radio.OffAir base sent r := by
  cases h with
  | ended hsent hoff => exact ⟨_, _, rfl, hsent, hoff⟩
  | live video hj hos hair =>
    cases finish (.live video hj hos hair) with
    | ended hsent hoff => exact ⟨_, _, rfl, hsent, hoff⟩

variable {m : Machine Craft E}

theorem start (program : Program) (hs : r.socketOpen = false) (hc : r.connected = false)
    (hf : r.flying = false) :
    Wired r.attempts r.link [] (m.start program (.live r)).2.contact := by
  rw [Machine.contact_start, Craft.connect_live]
  rcases r.connect_cases hs hc with ⟨j, hj, ho, hconn, hx⟩ | ⟨j, video, hj, ho, hair⟩
  · rw [ho, Craft.shutdown_live]
    exact .ended (.unanswered hj) (Radio.offAir_shutdown hconn hx)
  · rw [ho]
    rw [hf] at hair
    exact .live video hj nofun (by simpa using hair)

variable [Vision E]

/-- An instruction sends its one order or nothing, and what ends the run if it fails. -/
theorem result (files : Files) (i : Instruction) (h : Wired attempts base os (.live v)) :
    (∀ event, (m.result files v i).outcome = .ok event →
      Wired attempts base (os ++ (m.core.orderOf i).toList) (.live (m.result files v i).vehicle)) ∧
    (∀ cause, (m.result files v i).outcome = .error cause →
      Wired attempts base (os ++ (m.core.orderOf i).toList)
        (.ended (Vehicle.shutdown (m.result files v i).vehicle))) := by
  cases hi : m.core.orderOf i with
  | some o =>
    rcases Core.execute_of_order files m.looks m.program v m.vision hi with
      ⟨ho, done, event, hr⟩ | ⟨ho, hr⟩
    · rw [Machine.result, hr]
      refine ⟨fun _ _ => h.accept ho, ?_⟩
      intro cause herr
      cases herr
    · rw [Machine.result, hr]
      refine ⟨?_, fun _ _ => h.refuse ho⟩
      intro event hok
      cases hok
  | none =>
    obtain ⟨k, hk⟩ := Core.execute_of_no_order files m.looks m.program v m.vision hi
    have hv : (m.result files v i).vehicle = Vehicle.after (List.replicate k .frame) v := hk
    rw [hv, Option.toList_none, List.append_nil]
    exact ⟨fun _ _ => h.looks k, fun _ _ => (h.looks k).finish⟩

theorem step (files : Files) (h : Wired attempts base os m.contact) :
    Wired attempts base (os ++ m.order?.toList) (m.step files).2.contact := by
  have silent : ∀ {c : Contact Craft}, m.order? = none → Wired attempts base os c →
      Wired attempts base (os ++ m.order?.toList) c := by
    intro c hnone hc
    rwa [hnone, Option.toList_none, List.append_nil]
  have hs := m.step_spec files
  generalize (m.step files).1 = event at hs
  generalize (m.step files).2 = m' at hs ⊢
  cases hs with
  | idle hidle => exact silent (by simp [Machine.order?, Machine.upcoming?, hidle]) h
  | interrupted hc hi =>
    rw [hc] at h
    exact silent (by simp [Machine.order?, Machine.upcoming?, hi]) h.finish
  | completed hc hi hp =>
    rw [hc] at h
    exact silent (by simp [Machine.order?, Machine.upcoming?, Nat.not_lt.2 hp]) h.finish
  | unreadable hc hi hp hf =>
    rw [hc] at h
    exact silent (by simp [Machine.order?, Machine.upcoming?, hf, Except.toOption]) h.finish
  | halted runs =>
    rw [runs.live] at h
    exact silent (by rw [Machine.order?_of_runs runs]; rfl) h.finish
  | failed runs ho =>
    rw [runs.live] at h
    rw [Machine.order?_of_runs runs]
    exact (h.result files _).2 _ ho
  | ran runs ho =>
    rw [runs.live] at h
    rw [Machine.order?_of_runs runs]
    exact (h.result files _).1 _ ho

omit [Vision E] in
/-- What comes in for the driver without being asked for sends nothing. -/
theorem tune {f : Radio → Radio} {c : Contact Craft} (h : Wired attempts base os c)
    (hf : ∀ r : Radio, ∃ state frames published, f r = { r with state, frames, published }) :
    Wired attempts base os (c.tune f) := by
  cases h with
  | @live r j video hj hos hair =>
    refine .live video hj hos ?_
    obtain ⟨state, frames, published, hr⟩ := hf r
    rw [hr]
    exact ⟨hair.socketOpen, hair.connected, hair.reachable, hair.flying, hair.carried⟩
  | @ended r sent hsent hair =>
    refine .ended hsent ?_
    obtain ⟨state, frames, published, hr⟩ := hf r
    rw [hr]
    exact ⟨hair.socketOpen, hair.connected, hair.carried⟩

theorem happen (a : Happening E) (h : Wired attempts base os m.contact) :
    Wired attempts base (os ++ m.given a) (m.happen a).contact := by
  have silent : ∀ {c : Contact Craft}, Wired attempts base os c →
      Wired attempts base (os ++ []) c := by
    intro c hc
    rwa [List.append_nil]
  cases a with
  | act a =>
    cases a with
    | step files => exact h.step files
    | interrupt => exact silent h
    | withdraw => exact silent h
    | setVision vision => exact silent h
    | setTimeout frameTimeout => exact silent h
  | publish picture => exact silent (h.tune fun r => ⟨_, _, _, rfl⟩)
  | report packet =>
    refine silent (h.tune fun r => ?_)
    obtain ⟨state, hr⟩ := r.receiveState_eq packet
    exact ⟨state, _, _, hr⟩

end Wired

end Quadcopter

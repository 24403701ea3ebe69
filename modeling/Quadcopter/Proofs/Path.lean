import Quadcopter.Machine.Craft
import Quadcopter.Proofs.Effect
import Quadcopter.Proofs.Run

/-!
# Quadcopter.Proofs.Path

The path of a run is the dead reckoning of exactly the motions that its vehicle has agreed to.

* `Followed`: a vehicle with the motions that it has agreed to.
* `Coupling`: a relation between a vehicle and the flight that a machine reckons for it, kept by each call
  together with its answer. A step keeps it whatever the instruction (`Coupling.step`), and so does a run.
* `path_requests`: a path grows by the positions that the machine tells.
* `path_of_run`: both couplings that matter, that of a vehicle with its noted motions and that of the
  simulator with the machine's own reckoning.
-/

namespace Quadcopter

variable {V E : Type}

/-! ## Flights -/

/-- The motion that is ordered, with its amount. -/
def Order.motion? : Order → Option (Motion × Int64)
  | .move motion amount => some (motion, amount)
  | _ => none

/-- The trail, the last position first, of a vehicle that carries out one more order. -/
def Order.extend (o : Order) (r : Reckoning) (trail : List Position) : List Position :=
  match o with
  | .move motion amount => (r.move motion amount).position :: trail
  | _ => trail

/-- The position that an event tells. -/
def Event.moved? : Event → Option Position
  | .moved position => some position
  | _ => none

namespace Reckoning

/-- The vehicle after motions, one after the other. -/
def fly (r : Reckoning) (motions : List (Motion × Int64)) : Reckoning :=
  motions.foldl (fun r (motion, amount) => r.move motion amount) r

theorem fly_concat (r : Reckoning) (motions : List (Motion × Int64)) (motion : Motion)
    (amount : Int64) : r.fly (motions ++ [(motion, amount)]) = (r.fly motions).move motion amount := by
  simp [fly, List.foldl_append]

/-- The positions of a fresh vehicle before the first motion and after each one. -/
def waypoints (motions : List (Motion × Int64)) : List Position :=
  (List.range (motions.length + 1)).map fun i => (start.fly (motions.take i)).position

theorem waypoints_concat (motions : List (Motion × Int64)) (motion : Motion) (amount : Int64) :
    waypoints (motions ++ [(motion, amount)]) =
      waypoints motions ++ [((start.fly motions).move motion amount).position] := by
  have hbefore : ∀ i ∈ List.range (motions.length + 1),
      (start.fly ((motions ++ [(motion, amount)]).take i)).position =
        (start.fly (motions.take i)).position := by
    intro i hi
    have hle : i ≤ motions.length := Nat.le_of_lt_succ (List.mem_range.1 hi)
    rw [List.take_append_of_le_length hle]
  rw [waypoints, waypoints, List.length_append, List.length_singleton, List.range_succ,
    List.map_append, List.map_congr_left hbefore, List.map_singleton]
  simp [List.take_of_length_le, fly_concat]

/-- Two vehicles at one place that face one way. They may differ in their flags. -/
structure Level (r s : Reckoning) : Prop where
  position : r.position = s.position
  heading : r.heading = s.heading

namespace Level

variable {r s : Reckoning}

theorem move (h : Level r s) (motion : Motion) (amount : Int64) :
    Level (r.move motion amount) (s.move motion amount) := by
  cases motion <;>
    exact ⟨by simp [Reckoning.move, travel, climb, h.position, h.heading],
      by simp [Reckoning.move, travel, climb, h.heading]⟩

theorem obey (h : Level r s) (o : Order) : Level (r.obey o) (s.obey o) := by
  cases o with
  | takeoff | land => exact ⟨h.position, h.heading⟩
  | move motion amount => exact h.move motion amount

end Level
end Reckoning

/-! ## Couplings -/

section Coupling

variable [Vehicle V] {R : V → Reckoning → List Position → Prop}

/-- A relation between a vehicle and the flight that is reckoned for it, kept by every call with its
answer: only an order that the vehicle agrees to is reckoned. -/
structure Coupling (R : V → Reckoning → List Position → Prop) : Prop where
  look : ∀ {v r trail}, R v r trail → R (Vehicle.frame v).2 r trail
  shutdown : ∀ {v r trail}, R v r trail → R (Vehicle.shutdown v) r trail
  refuse : ∀ {v r trail o}, R v r trail → (Vehicle.perform o v).1 = false →
    R (Vehicle.perform o v).2 r trail
  agree : ∀ {v r trail o}, R v r trail → (Vehicle.perform o v).1 = true →
    R (Vehicle.perform o v).2 (r.obey o) (o.extend r trail)

/-- The vehicle of the last contact is in the relation to what the machine has reckoned. -/
def Machine.Coupled (R : V → Reckoning → List Position → Prop) (m : Machine V E) : Prop :=
  ∃ v, m.contact.vehicle? = some v ∧ R v m.core.tracker m.core.trail

/-- An instruction that succeeds has its order reckoned, and no other instruction changes the flight. -/
theorem Core.Ran.flight {p : Program} {c d : Core} {i : Instruction} (h : c.Ran p i d) :
    d.tracker = (c.orderOf i).elim c.tracker c.tracker.obey ∧
      d.trail = (c.orderOf i).elim c.trail fun o => o.extend c.tracker c.trail := by
  cases h <;> exact ⟨rfl, rfl⟩

namespace Coupling

theorem looks (hR : Coupling R) {v : V} {r : Reckoning} {trail : List Position} (h : R v r trail)
    (k : Nat) : R (Vehicle.after (List.replicate k .frame) v) r trail := by
  induction k generalizing v with
  | zero => exact h
  | succ k ih =>
    rw [List.replicate_succ, Vehicle.after_cons]
    exact ih (hR.look h)

variable [Vision E] {m : Machine V E} {v : V}

theorem result (hR : Coupling R) (files : Files) (i : Instruction)
    (h : R v m.core.tracker m.core.trail) :
    R (m.result files v i).vehicle (m.result files v i).core.tracker
      (m.result files v i).core.trail := by
  -- the answer of the vehicle decides what becomes of an order; without one there is nothing to reckon,
  -- and at most its camera was asked for frames
  cases hi : m.core.orderOf i with
  | none =>
    obtain ⟨k, hk⟩ := Core.execute_of_no_order files m.looks m.program v m.vision hi
    have hv : (m.result files v i).vehicle = Vehicle.after (List.replicate k .frame) v := hk
    rw [hv]
    cases ho : (m.result files v i).outcome with
    | error cause =>
      have hc : (m.result files v i).core = m.core := (Core.execute_error ho).core
      rw [hc]
      exact hR.looks h k
    | ok event =>
      obtain ⟨ht, hp⟩ := (Core.ran_of_execute ho).flight
      rw [hi] at ht hp
      rw [Machine.result, ht, hp]
      exact hR.looks h k
  | some o =>
    rcases Core.execute_of_order files m.looks m.program v m.vision hi with
      ⟨ho, done, event, hr⟩ | ⟨ho, hr⟩
    · have hran := Core.ran_of_execute (congrArg Result.outcome hr)
      rw [hr] at hran
      obtain ⟨ht, hp⟩ := hran.flight
      rw [hi] at ht hp
      rw [Machine.result, hr, ht, hp]
      exact hR.agree h ho
    · rw [Machine.result, hr]
      exact hR.refuse h ho

theorem step (hR : Coupling R) (files : Files) (h : m.Coupled R) : (m.step files).2.Coupled R := by
  obtain ⟨v, hv, hv'⟩ := h
  have hlive : ∀ {w}, m.contact = .live w → R w m.core.tracker m.core.trail := by
    intro w hw
    rw [hw] at hv
    cases hv
    exact hv'
  have hs := m.step_spec files
  generalize (m.step files).1 = event at hs
  generalize (m.step files).2 = m' at hs ⊢
  cases hs with
  | idle hidle => exact ⟨v, hv, hv'⟩
  | interrupted hc hi => exact ⟨_, rfl, hR.shutdown (hlive hc)⟩
  | completed hc hi hp => exact ⟨_, rfl, hR.shutdown (hlive hc)⟩
  | unreadable hc hi hp hf => exact ⟨_, rfl, hR.shutdown (hlive hc)⟩
  | halted runs => exact ⟨_, rfl, hR.shutdown (hlive runs.live)⟩
  | @failed w i cause runs ho =>
    have hresult := hR.result files i (hlive runs.live)
    have hc : (m.result files w i).core = m.core := (Core.execute_error ho).core
    rw [hc] at hresult
    exact ⟨_, rfl, hR.shutdown hresult⟩
  | @ran w i event runs ho hne herr => exact ⟨_, rfl, hR.result files i (hlive runs.live)⟩

theorem requests (hR : Coupling R) (rs : List (Request E)) (h : m.Coupled R) :
    (m.requests rs).Coupled R :=
  Machine.requests_keep (fun _ files hm => hR.step files hm) (fun _ _ _ _ hm => hm) rs h

omit [Vision E] in
/-- A start couples a vehicle to a flight that has not begun. -/
theorem start (hR : Coupling R) (m : Machine V E) (p : Program)
    (h : R (Vehicle.connect v).2 .start [.origin]) : (m.start p v).2.Coupled R := by
  rw [Machine.Coupled, Machine.core_start, Machine.contact_start]
  split
  · exact ⟨_, rfl, h⟩
  · exact ⟨_, rfl, hR.shutdown h⟩

end Coupling
end Coupling

/-! ## Positions that are told -/

/-- The position that an instruction tells is the one that it adds to the trail. -/
theorem Core.extend_eventOf (c : Core) (i : Instruction) :
    ((c.orderOf i).elim c.trail fun o => o.extend c.tracker c.trail) =
      (c.eventOf i).moved?.toList ++ c.trail := by
  cases i with
  | display what =>
    rcases c.eventOf_display what with hr | ⟨s, hs⟩ | ⟨photo, hp⟩
    · rw [hr]; rfl
    · rw [hs]; rfl
    · rw [hp]; rfl
  | _ => rfl

namespace Machine

variable [Vehicle V] [Vision E]

theorem path_step (files : Files) (m : Machine V E) :
    (m.step files).2.core.path = m.core.path ++ (m.step files).1.moved?.toList := by
  have silent : ∀ {event : Event}, event.moved? = none →
      m.core.path = m.core.path ++ event.moved?.toList := by
    intro event hnone
    rw [hnone, Option.toList_none, List.append_nil]
  have hs := m.step_spec files
  generalize (m.step files).1 = event at hs ⊢
  generalize (m.step files).2 = m' at hs ⊢
  cases hs with
  | @ran v i _ runs ho hne herr =>
    have htrail : (m.result files v i).core.trail = event.moved?.toList ++ m.core.trail := by
      rw [Core.event_of_execute ho, ← Core.extend_eventOf]
      exact (Core.ran_of_execute ho).flight.2
    -- a trail has its last position first
    rw [Core.path, htrail, List.reverse_append, Core.path]
    cases event.moved? <;> rfl
  | _ => exact silent rfl

theorem path_execute (files : Files) (n : Nat) (m : Machine V E) :
    (m.execute files n).2.core.path = m.core.path ++ (m.execute files n).1.moved?.toList := by
  induction n generalizing m with
  | zero => exact (List.append_nil _).symm
  | succ n ih =>
    have hs := m.path_step files
    rw [execute]
    split
    · next m' hm =>
      rw [hm] at hs
      have hsame : m'.core.path = m.core.path := hs.trans (List.append_nil _)
      rw [ih, hsame]
    · exact hs

theorem path_request (m : Machine V E) (r : Request E) :
    (m.request r).core.path = m.core.path ++ (m.reply r).toList.filterMap Event.moved? := by
  cases r with
  | execute files cycles =>
    rw [request, path_execute, reply]
    cases h : (m.execute files cycles).1.moved? <;> simp [h]
  | act a =>
    cases a with
    | step files =>
      rw [request, act, path_step, reply]
      cases h : (m.step files).1.moved? <;> simp [h]
    | _ => exact (List.append_nil _).symm

/-- The path of a run is the path before it and the positions that the run has told. -/
theorem path_requests (m : Machine V E) (rs : List (Request E)) :
    (m.requests rs).core.path = m.core.path ++ (m.replies rs).filterMap Event.moved? := by
  induction rs generalizing m with
  | nil => exact (List.append_nil _).symm
  | cons r rs ih =>
    have hr := ih (m.request r)
    rw [path_request, List.append_assoc, ← List.filterMap_append] at hr
    exact hr

end Machine

/-! ## Vehicles that are followed -/

/-- A vehicle with the motions that it has agreed to, in order. -/
structure Followed (V : Type) where
  vehicle : V
  motions : List (Motion × Int64)

namespace Followed

variable [Vehicle V]

/-- A vehicle that has not moved. -/
def new (v : V) : Followed V := ⟨v, []⟩

instance : Vehicle (Followed V) where
  connect f := let (ok, v) := Vehicle.connect f.vehicle; (ok, ⟨v, f.motions⟩)
  perform o f :=
    let (ok, v) := Vehicle.perform o f.vehicle
    (ok, ⟨v, if ok then f.motions ++ o.motion?.toList else f.motions⟩)
  frame f := let (frame, v) := Vehicle.frame f.vehicle; (frame, ⟨v, f.motions⟩)
  shutdown f := ⟨Vehicle.shutdown f.vehicle, f.motions⟩
  telemetry f := Vehicle.telemetry f.vehicle

theorem motions_of_agreed {o : Order} {f : Followed V} (h : (Vehicle.perform o f).1 = true) :
    (Vehicle.perform o f).2.motions = f.motions ++ o.motion?.toList := if_pos h

theorem motions_of_refused {o : Order} {f : Followed V} (h : (Vehicle.perform o f).1 = false) :
    (Vehicle.perform o f).2.motions = f.motions := if_neg (by rw [Bool.not_eq_true]; exact h)

/-- What is reckoned for a vehicle is what a fresh one would do with the motions that were noted. -/
structure Reckoned (f : Followed V) (r : Reckoning) (trail : List Position) : Prop where
  level : r.Level (Reckoning.start.fly f.motions)
  trail : trail.reverse = Reckoning.waypoints f.motions

omit [Vehicle V] in
theorem reckoned_of_motions {f f' : Followed V} {r : Reckoning} {trail : List Position}
    (h : f.Reckoned r trail) (hm : f'.motions = f.motions) : f'.Reckoned r trail := by
  constructor
  · rw [hm]; exact h.level
  · rw [hm]; exact h.trail

theorem coupling : Coupling (Reckoned (V := V)) where
  look h := reckoned_of_motions h rfl
  shutdown h := reckoned_of_motions h rfl
  refuse h ho := reckoned_of_motions h (motions_of_refused ho)
  agree {f r trail o} h ho := by
    have hm := motions_of_agreed ho
    cases o with
    | takeoff | land =>
      refine reckoned_of_motions (f := f) ⟨⟨h.level.position, h.level.heading⟩, h.trail⟩ ?_
      rw [hm]
      exact List.append_nil _
    | move motion amount =>
      have hlevel := h.level.move motion amount
      constructor
      · rw [hm, Order.motion?, Option.toList_some, Reckoning.fly_concat]
        exact hlevel
      · rw [hm, Order.motion?, Option.toList_some, Reckoning.waypoints_concat, ← h.trail,
          ← hlevel.position]
        exact List.reverse_cons

end Followed

/-! ## The simulator -/

/-- The simulator is where the machine takes it to be. -/
def Craft.Simulates (v : Craft) (r : Reckoning) (_ : List Position) : Prop :=
  ∃ s, v = .simulated s ∧ s.Level r

theorem Craft.coupling_simulates : Coupling Craft.Simulates where
  look := by
    rintro _ r trail ⟨s, rfl, h⟩
    exact ⟨s, rfl, h⟩
  shutdown := by
    rintro _ r trail ⟨s, rfl, h⟩
    exact ⟨_, rfl, h.position, h.heading⟩
  refuse := by
    rintro _ r trail o ⟨s, rfl, h⟩ ho
    cases ho
  agree := by
    rintro _ r trail o ⟨s, rfl, h⟩ _
    exact ⟨_, rfl, h.obey o⟩

/-- At every point of a run, if `motions` are those that the vehicle has agreed to since the start, the path
holds the positions of a fresh vehicle before and after each of them, the machine takes the vehicle to be
where a fresh one would be after all of them, and the positions told so far are the path behind its start.
The simulator itself is at every point where the machine takes it to be. -/
theorem path_of_run [Vehicle V] [Vision E] (p : Program) (rs : List (Request E)) :
    (∀ (m : Machine (Followed V) E) (v : V),
      let started := (m.start p (.new v)).2
      let core := (started.requests rs).core
      ∃ f, (started.requests rs).contact.vehicle? = some f ∧
        core.path.length = f.motions.length + 1 ∧
        (∀ i ≤ f.motions.length,
          core.path[i]? = some (Reckoning.start.fly (f.motions.take i)).position) ∧
        core.tracker.position = (Reckoning.start.fly f.motions).position ∧
        core.tracker.heading = (Reckoning.start.fly f.motions).heading ∧
        (started.replies rs).filterMap Event.moved? = core.path.tail) ∧
    ∀ m : Machine Craft E,
      let run := (m.start p (.simulated .start)).2.requests rs
      ∃ s, run.contact.vehicle? = some (.simulated s) ∧ s.position = run.core.tracker.position ∧
        s.heading = run.core.tracker.heading := by
  constructor
  · intro m v started core
    have hstart : started.Coupled Followed.Reckoned :=
      Followed.coupling.start m p ⟨⟨rfl, rfl⟩, rfl⟩
    obtain ⟨f, hf, hlevel, htrail⟩ := Followed.coupling.requests rs hstart
    have hpath : core.path = Reckoning.waypoints f.motions := htrail
    refine ⟨f, hf, ?_, ?_, hlevel.position, hlevel.heading, ?_⟩
    · simp [hpath, Reckoning.waypoints]
    · intro i hi
      simp [hpath, Reckoning.waypoints, Nat.lt_succ_of_le hi]
    · have htold := started.path_requests rs
      have horigin : started.core.path = [.origin] := by rw [Machine.core_start]; rfl
      rw [horigin] at htold
      rw [htold]
      rfl
  · intro m run
    have hstart : (m.start p (.simulated .start)).2.Coupled Craft.Simulates :=
      Craft.coupling_simulates.start m p ⟨_, rfl, rfl, rfl⟩
    obtain ⟨_, hv, s, rfl, hlevel⟩ := Craft.coupling_simulates.requests rs hstart
    exact ⟨s, hv, hlevel.position, hlevel.heading⟩

end Quadcopter

import Mathlib.Data.List.Forall2
import Quadcopter.Machine.Logbook
import Quadcopter.Proofs.Run

/-!
# Quadcopter.Proofs.Lifecycle

The calls that vehicles receive from a machine, whatever a host does with it.

* `Lifecycle`: the calls of a vehicle, from the start that hands it over until contact has ended.
* `flown_step`, `flown_acts`: a step and a run make their calls along a lifecycle.
* `Accounted`: every vehicle handed over is in its own contact, and all contacts but the machine's are
  ended. Each deed of a host keeps this (`Accounted.carryOut`).
* `calls_of_history`: a vehicle is connected once, is flown only if that succeeds, and is shut down
  once, as soon as it is not run any more.
-/

namespace Quadcopter

variable {V E : Type}

/-- The calls of a vehicle that agrees to a contact or does not, while a machine runs it or does not:
one `connect`, calls of flight if the vehicle agreed, and one `shutdown` when it is not run. -/
def Lifecycle (agreed running : Bool) (calls : List Call) : Prop :=
  ∃ flight : List Call, (∀ c ∈ flight, c.isFlight = true) ∧
    (agreed = false → flight = [] ∧ running = false) ∧
    calls = .connect :: flight ++ if running then [] else [.shutdown]

namespace Lifecycle

variable {agreed : Bool} {cs new : List Call}

theorem extend (h : Lifecycle agreed true cs) (hnew : ∀ c ∈ new, c.isFlight = true) :
    Lifecycle agreed true (cs ++ new) := by
  obtain ⟨flight, hf, hagreed, rfl⟩ := h
  refine ⟨flight ++ new, ?_, ?_, by simp⟩
  · intro c hc
    rcases List.mem_append.1 hc with hc | hc
    · exact hf c hc
    · exact hnew c hc
  · intro ha
    cases (hagreed ha).2

theorem finish (h : Lifecycle agreed true cs) : Lifecycle agreed false (cs ++ [.shutdown]) := by
  obtain ⟨flight, hf, hagreed, rfl⟩ := h
  refine ⟨flight, hf, ?_, by simp⟩
  intro ha
  cases (hagreed ha).2

end Lifecycle

section Flown

variable [Vehicle V] {v w : V} {cs new : List Call}

/-- A contact that came about by calls to a vehicle. -/
structure Flown (v : V) (cs : List Call) (c : Contact V) : Prop where
  lifecycle : Lifecycle (Vehicle.connect v).1 c.isLive cs
  vehicle : c.vehicle? = some (Vehicle.after cs v)

namespace Flown

theorem start (m : Machine V E) (p : Program) (v : V) :
    ∃ cs, Flown v cs (m.start p v).2.contact := by
  rw [Machine.contact_start]
  cases hc : (Vehicle.connect v).1 with
  | true => exact ⟨[.connect], ⟨[], nofun, by simp [hc], by simp [Contact.isLive]⟩, rfl⟩
  | false => exact ⟨[.connect, .shutdown], ⟨[], nofun, fun _ => ⟨rfl, rfl⟩, rfl⟩, rfl⟩

theorem eq_after (h : Flown v cs (.live w)) : w = Vehicle.after cs v := by
  simpa [Contact.vehicle?] using h.vehicle

theorem extend (h : Flown v cs (.live w)) (hnew : ∀ c ∈ new, c.isFlight = true) :
    Flown v (cs ++ new) (.live (Vehicle.after new w)) := by
  rw [h.eq_after]
  exact ⟨h.lifecycle.extend hnew, by simp [Contact.vehicle?]⟩

theorem finish (h : Flown v cs (.live w)) :
    Flown v (cs ++ [.shutdown]) (.ended (Vehicle.shutdown w)) := by
  rw [h.eq_after]
  exact ⟨h.lifecycle.finish, by simp [Contact.vehicle?, Vehicle.call]⟩

theorem close {c : Contact V} (h : Flown v cs c) :
    ∃ w cs', c.close = .ended w ∧ Flown v cs' (.ended w) := by
  cases c with
  | none => cases h.vehicle
  | ended w => exact ⟨w, cs, rfl, h⟩
  | live w => exact ⟨_, _, rfl, h.finish⟩

end Flown

/-! ## Runs -/

namespace Machine

variable [Vision E] {m : Machine V E}

theorem flown_step (files : Files) (h : Flown v cs m.contact) :
    ∃ cs', Flown v cs' (m.step files).2.contact := by
  have hs := step_spec files m
  generalize (m.step files).1 = event at hs
  generalize (m.step files).2 = m' at hs ⊢
  cases hs with
  | idle hidle => exact ⟨cs, h⟩
  | interrupted hc hi => rw [hc] at h; exact ⟨_, h.finish⟩
  | completed hc hi hp => rw [hc] at h; exact ⟨_, h.finish⟩
  | unreadable hc hi hp hf => rw [hc] at h; exact ⟨_, h.finish⟩
  | halted runs => rw [runs.live] at h; exact ⟨_, h.finish⟩
  | @failed w i cause runs ho =>
    rw [runs.live] at h
    obtain ⟨calls, hcalls, hw⟩ := result_calls files m w i
    rw [hw]
    exact ⟨_, (h.extend hcalls).finish⟩
  | @ran w i event runs ho hne herr =>
    rw [runs.live] at h
    obtain ⟨calls, hcalls, hw⟩ := result_calls files m w i
    rw [hw]
    exact ⟨_, h.extend hcalls⟩

theorem flown_acts (as : List (Act E)) (h : ∃ cs, Flown v cs m.contact) :
    ∃ cs, Flown v cs (m.acts as).contact := by
  refine acts_keep (P := fun m' => ∃ cs, Flown v cs m'.contact) ?_ (fun _ _ _ _ h' => h') as h
  rintro m' files ⟨cs, h'⟩
  exact flown_step files h'

end Machine
end Flown

/-! ## Histories -/

/-- What a host can do with a machine, letting go of it apart. -/
inductive Deed (V E : Type) where
  | start (program : Program) (v : V)
  | runProgram (files : Files) (steps : Nat) (program : Program) (v : V)
  | execute (files : Files) (cycles : Nat)
  | act (a : Act E)
  | reset

namespace Deed

def vehicle? : Deed V E → Option V
  | .start _ v | .runProgram _ _ _ v => some v
  | _ => none

/-- The same deed with a vehicle that keeps its calls. -/
def recorded [Vehicle V] : Deed V E → Deed (Recorded V) E
  | .start program v => .start program (.new v)
  | .runProgram files steps program v => .runProgram files steps program (.new v)
  | .execute files cycles => .execute files cycles
  | .act a => .act a
  | .reset => .reset

theorem vehicle?_recorded [Vehicle V] (d : Deed V E) :
    d.recorded.vehicle? = d.vehicle?.map Recorded.new := by
  cases d <;> rfl

end Deed

def handed (ds : List (Deed V E)) : List V := ds.filterMap Deed.vehicle?

theorem handed_cons (d : Deed V E) (ds : List (Deed V E)) :
    handed (d :: ds) = d.vehicle?.toList ++ handed ds := by
  cases d <;> rfl

theorem handed_recorded [Vehicle V] (ds : List (Deed V E)) :
    handed (ds.map Deed.recorded) = (handed ds).map Recorded.new := by
  simp only [handed, List.filterMap_map, List.map_filterMap]
  congr
  funext d
  exact d.vehicle?_recorded

/-- The contact, unless none was made. -/
def Contact.made : Contact V → List (Contact V)
  | .none => []
  | c => [c]

theorem Contact.made_of_vehicle {c : Contact V} {v : V} (h : c.vehicle? = some v) : c.made = [c] := by
  cases c with
  | none => cases h
  | ended w => rfl
  | live w => rfl

namespace Logbook

/-- All contacts in order. Only the last of them can be live. -/
def contacts (b : Logbook V E) : List (Contact V) :=
  b.past.toList.map .ended ++ b.machine.contact.made

variable [Vehicle V]

theorem toList_vehicles {b : Logbook V E} {w : V} (h : b.machine.contact.close = .ended w) :
    b.vehicles.toList = b.past.toList ++ [w] := by
  simp [vehicles, Machine.stop, h, Contact.vehicle?]

variable [Vision E]

def carryOut (b : Logbook V E) : Deed V E → Logbook V E
  | .start program v => (b.start program v).2
  | .runProgram files steps program v =>
    ⟨(b.machine.runProgram files steps program v).2, b.vehicles⟩
  | .execute files cycles => { b with machine := (b.machine.execute files cycles).2 }
  | .act a => { b with machine := b.machine.act a }
  | .reset => b.reset

def history (b : Logbook V E) (ds : List (Deed V E)) : Logbook V E := ds.foldl carryOut b

end Logbook

section Accounted

variable [Vehicle V] {vs : List V} {b : Logbook V E}

/-- Every vehicle handed over so far is in its own contact: the machine is in contact with the last one
or with none, and is done with all others. -/
inductive Accounted : List V → Logbook V E → Prop where
  | idle {vs : List V} {b : Logbook V E} :
      List.Forall₂ (fun v w => ∃ cs, Flown v cs (.ended w)) vs b.past.toList →
      b.machine.contact = .none → Accounted vs b
  | present {vs : List V} {v : V} {cs : List Call} {b : Logbook V E} :
      List.Forall₂ (fun v w => ∃ cs, Flown v cs (.ended w)) vs b.past.toList →
      Flown v cs b.machine.contact → Accounted (vs ++ [v]) b

namespace Accounted

theorem contacts (h : Accounted vs b) :
    List.Forall₂ (fun v c => ∃ cs, Flown v cs c) vs b.contacts := by
  cases h with
  | idle hpast hc =>
    rw [Logbook.contacts, hc, Contact.made, List.append_nil]
    exact List.forall₂_map_right_iff.2 hpast
  | present hpast hf =>
    rw [Logbook.contacts, Contact.made_of_vehicle hf.vehicle]
    exact List.rel_append (List.forall₂_map_right_iff.2 hpast) (.cons ⟨_, hf⟩ .nil)

theorem vehicles (h : Accounted vs b) :
    List.Forall₂ (fun v w => ∃ cs, Flown v cs (.ended w)) vs b.vehicles.toList := by
  cases h with
  | idle hpast hc =>
    simpa [Logbook.vehicles, Machine.stop, hc, Contact.close, Contact.vehicle?] using hpast
  | present hpast hf =>
    obtain ⟨w, cs, hw, hended⟩ := hf.close
    rw [Logbook.toList_vehicles hw]
    exact List.rel_append hpast (.cons ⟨_, hended⟩ .nil)

theorem start (h : Accounted vs b) (program : Program) (v : V) :
    Accounted (vs ++ [v]) (b.start program v).2 := by
  obtain ⟨cs, hcs⟩ := Flown.start b.machine program v
  exact .present h.vehicles hcs

theorem reset (h : Accounted vs b) : Accounted vs b.reset := .idle h.vehicles rfl

variable [Vision E]

theorem acts {m : Machine V E} {past : Array V} (h : Accounted vs ⟨m, past⟩) (as : List (Act E)) :
    Accounted vs ⟨m.acts as, past⟩ := by
  cases h with
  | idle hpast hc => exact .idle hpast (Machine.acts_of_no_contact as hc)
  | present hpast hf =>
    obtain ⟨cs, hcs⟩ := Machine.flown_acts as ⟨_, hf⟩
    exact .present hpast hcs

theorem carryOut (h : Accounted vs b) (d : Deed V E) :
    Accounted (vs ++ d.vehicle?.toList) (b.carryOut d) := by
  cases d with
  | start program v => exact h.start program v
  | runProgram files steps program v =>
    obtain ⟨k, hk⟩ := Machine.runProgram_eq_acts files steps b.machine program v
    simp only [Logbook.carryOut, hk]
    exact (h.start program v).acts _
  | execute files cycles =>
    obtain ⟨k, hk⟩ := Machine.execute_eq_acts files cycles b.machine
    simp only [Logbook.carryOut, hk, Deed.vehicle?, Option.toList_none, List.append_nil]
    exact h.acts _
  | act a =>
    simp only [Deed.vehicle?, Option.toList_none, List.append_nil]
    exact h.acts [a]
  | reset =>
    simp only [Deed.vehicle?, Option.toList_none, List.append_nil]
    exact h.reset

theorem history (h : Accounted vs b) (ds : List (Deed V E)) :
    Accounted (vs ++ handed ds) (b.history ds) := by
  induction ds generalizing vs b with
  | nil => simpa [handed, Logbook.history] using h
  | cons d ds ih =>
    have hd := ih (h.carryOut d)
    rwa [List.append_assoc, ← handed_cons] at hd

end Accounted
end Accounted

/-- The calls that a recorded vehicle has are those of its contact. -/
theorem Flown.recorded [Vehicle V] {v : V} {cs : List Call} {c : Contact (Recorded V)}
    {r : Recorded V} (h : Flown (.new v) cs c) (hr : c.vehicle? = some r) :
    Lifecycle (Vehicle.connect v).1 c.isLive r.calls.reverse := by
  obtain rfl : Vehicle.after cs (.new v) = r := Option.some.inj (h.vehicle.symm.trans hr)
  rw [Recorded.calls_after_new, List.reverse_reverse]
  exact h.lifecycle

/-- Whatever a host does with a machine, every vehicle that it hands over has exactly the calls of a
lifecycle: it is not shut down as long as its contact is live, and it is shut down as soon as its
contact is ended. When the host lets go of the machine, all of them are shut down. -/
theorem calls_of_history [Vehicle V] [Vision E] (frameTimeout : Nat) (vision : E)
    (ds : List (Deed V E)) :
    let b := (Logbook.new (Machine.new frameTimeout vision)).history (ds.map Deed.recorded)
    List.Forall₂ (fun v c => ∃ r, c.vehicle? = some r ∧
        Lifecycle (Vehicle.connect v).1 c.isLive r.calls.reverse)
      (handed ds) b.contacts ∧
    List.Forall₂ (fun v r => Lifecycle (Vehicle.connect v).1 false r.calls.reverse)
      (handed ds) b.vehicles.toList := by
  intro b
  have start : Accounted [] (Logbook.new (Machine.new frameTimeout vision : Machine (Recorded V) E)) :=
    .idle .nil rfl
  -- the vehicles of the recorded deeds are those of `ds`, none of which has received a call
  have h : Accounted ((handed ds).map Recorded.new) b := by
    have hds := start.history (ds.map Deed.recorded)
    rwa [List.nil_append, handed_recorded] at hds
  refine ⟨(List.forall₂_map_left_iff.1 h.contacts).imp ?_,
    (List.forall₂_map_left_iff.1 h.vehicles).imp ?_⟩
  · rintro v c ⟨cs, hf⟩
    exact ⟨_, hf.vehicle, hf.recorded hf.vehicle⟩
  · rintro v r ⟨cs, hf⟩
    exact hf.recorded rfl

end Quadcopter

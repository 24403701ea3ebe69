import Quadcopter.Proofs.Calls
import Quadcopter.Proofs.Exchanges

/-!
# Quadcopter.Proofs.Landing

What ending contact does to a vehicle that has taken off.

* `Watch`: what an onlooker knows who sees the answers to the calls: whether contact was made, and which
  orders were carried out since contact was last ended.
* `Agrees`: the driver's flags say of the vehicle what the watch says. Every call keeps that
  (`Agrees.call`).
* `lands_in_contact`: so a vehicle that flies is landed if contact was made.
* `aloft_without_contact`: it is left flying if the driver never got an answer to its greeting, although
  its order to take off was carried out.
-/

namespace Quadcopter

/-- What the answers to some calls tell. -/
structure Watch where
  contact : Bool := false
  /-- The orders that were carried out, in order. -/
  obeyed : List Order := []

namespace Radio

/-- Watch one more call. -/
def see (r : Radio) (w : Watch) : Call → Watch
  | .connect => { w with contact := w.contact || r.connect.1 }
  | .perform o => if (r.perform o).1 then { w with obeyed := w.obeyed ++ [o] } else w
  | .frame => w
  | .shutdown => {}

def watch : List Call → Radio → Watch → Watch
  | [], _, w => w
  | c :: cs, r, w => watch cs (Vehicle.call c r) (r.see w c)

/-! ## What the operations do to the flags -/

@[simp] theorem command_reachable (r : Radio) (text : String) :
    (r.command text).2.link.reachable = r.link.reachable := by
  simp only [command, send, Link.transmit]
  split
  · split <;> rfl
  · rfl

/-- Greeting makes contact exactly if it is answered, and changes no other flag. -/
theorem greet_flags (n : Nat) (r : Radio) :
    (greet n r).2.connected = (r.connected || (greet n r).1) ∧ (greet n r).2.flying = r.flying ∧
      (greet n r).2.link.reachable = r.link.reachable := by
  induction n generalizing r with
  | zero => simp [greet]
  | succ n ih =>
    rw [greet_succ]
    split
    · simp
    · simpa using ih (r.command "command").2

theorem connect_flags (r : Radio) :
    r.connect.2.connected = (r.connected || r.connect.1) ∧ r.connect.2.flying = r.flying ∧
      r.connect.2.link.reachable = r.link.reachable := by
  unfold connect
  split
  · simp
  · exact greet_flags r.attempts { r with socketOpen := true }

/-! ## The invariant -/

/-- The driver knows whether there is contact, and takes a vehicle to fly that does. -/
structure Agrees (w : Watch) (r : Radio) : Prop where
  connected : r.connected = w.contact
  airborne : Order.airborne w.obeyed = true → r.flying = true ∧ r.link.reachable = true

namespace Agrees

variable {w : Watch} {r : Radio}

theorem connect (h : Agrees w r) : Agrees (r.see w .connect) r.connect.2 := by
  obtain ⟨hc, hf, hr⟩ := r.connect_flags
  refine ⟨?_, ?_⟩
  · rw [hc, h.connected]
    rfl
  · intro hair
    rw [hf, hr]
    exact h.airborne hair

theorem command (h : Agrees w r) (text : String) : Agrees w (r.command text).2 := by
  refine ⟨?_, ?_⟩
  · simpa using h.connected
  · simpa using h.airborne

theorem perform (h : Agrees w r) (o : Order) : Agrees (r.see w (.perform o)) (r.perform o).2 := by
  have hc := h.command o.text
  by_cases ho : o.Permitted
  · rw [see, perform_of_permitted ho]
    cases hok : (r.command o.text).1 with
    | false => exact ⟨hc.connected, by simpa using h.airborne⟩
    | true =>
      refine ⟨hc.connected, ?_⟩
      intro hair
      -- an order that was acknowledged shows that the link works
      refine ⟨?_, by simpa using reachable_of_acknowledged hok⟩
      rw [if_pos rfl, Order.airborne_concat] at hair
      rw [if_pos rfl]
      cases o with
      | takeoff => rfl
      | land => cases hair
      | move motion amount => exact (h.airborne hair).1
  · rw [see, perform_of_not_permitted ho]
    exact h

/-- Without contact there is nothing to watch. -/
theorem idle (hc : r.connected = false) : Agrees {} r := by
  refine ⟨hc, ?_⟩
  intro hair
  cases hair

theorem call (h : Agrees w r) (c : Call) : Agrees (r.see w c) (Vehicle.call c r) := by
  cases c with
  | connect => exact h.connect
  | perform o => exact h.perform o
  | frame => exact h
  | shutdown => exact .idle rfl

theorem after (h : Agrees w r) (calls : List Call) :
    Agrees (r.watch calls w) (Vehicle.after calls r) := by
  induction calls generalizing w r with
  | nil => exact h
  | cons c calls ih => exact ih (h.call c)

end Agrees

theorem heard_command {r : Radio} (hs : r.socketOpen = true) (hr : r.link.reachable = true)
    (text : String) : (r.command text).2.link.heard = r.link.heard.push text := by
  simp [command, send, hs, Link.transmit, hr]

end Radio

/-! ## Ending contact -/

/-- Any calls are made to a driver, and the last order to take off or to land that was carried out since
contact last ended was one to take off. When contact is ended now, or the driver is let go, then the
vehicle is told to land exactly if it had answered a greeting. -/
theorem lands_in_contact (attempts : Nat) (logging addressesFree anyAddress : Bool) (link : Link)
    (calls : List Call) :
    let start := { Radio.new attempts logging addressesFree link with anyAddress }
    let r := Vehicle.after calls start
    let w := start.watch calls {}
    r.socketOpen = true → Order.airborne w.obeyed = true →
      r.shutdown.link.heard.toList =
          r.link.heard.toList ++ (if w.contact then ["land"] else []) ∧
        r.shutdown.socketOpen = false ∧ r.release = r.shutdown := by
  intro start r w hs hair
  have hw : Radio.Agrees w r := (Radio.Agrees.idle rfl).after calls
  obtain ⟨hflying, hreachable⟩ := hw.airborne hair
  refine ⟨?_, rfl, ?_⟩
  · have hland : r.shutdown.link = r.landIfFlying.link := rfl
    rw [hland, Radio.landIfFlying, hw.connected, hflying, Bool.and_true]
    split
    · rw [Radio.heard_command hs hreachable, Array.toList_push]
    · rw [List.append_nil]
  · rw [Radio.release, hs, Bool.true_or, if_pos rfl]

/-- Contact is made, and the vehicle takes off. -/
theorem lands_in_contact_ok :
    let start := { Radio.new 1 true true (.scripted []) with anyAddress := false }
    let r := Vehicle.after [.connect, .perform .takeoff] start
    r.socketOpen = true ∧ Order.airborne (start.watch [.connect, .perform .takeoff] {}).obeyed = true ∧
      r.shutdown.link.heard.toList = ["command", "streamon", "takeoff", "land"] := by
  have hland := lands_in_contact 1 true true false (.scripted []) [.connect, .perform .takeoff]
    (by decide +kernel) (by decide +kernel)
  refine ⟨by decide +kernel, by decide +kernel, ?_⟩
  exact hland.1.trans (by decide +kernel)

/-- The vehicle does not answer the greeting, then takes off, and is not told to land when contact is
ended. -/
theorem aloft_without_contact :
    let start := Radio.new 1 true true (.scripted [none])
    let r := Vehicle.after [.connect, .perform .takeoff] start
    r.socketOpen = true ∧ Order.airborne (start.watch [.connect, .perform .takeoff] {}).obeyed = true ∧
      r.shutdown.link.heard.toList = ["command", "takeoff"] ∧
      r.release.link.heard.toList = ["command", "takeoff"] := by
  decide +kernel

end Quadcopter

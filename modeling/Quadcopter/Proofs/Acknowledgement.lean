import Quadcopter.Radio.Basic

/-!
# Quadcopter.Proofs.Acknowledgement

Whose answer a driver gets. Commands and answers carry no number, and an answer may come when the driver has
long given up waiting for it. All that keeps such an answer from the next command is that the mailbox is
emptied before a command is sent.

* `Air`: a driver, which may be in the middle of sending, its mailbox, and the replies in flight. The moves
  of the driver, of the vehicle and of the receiver come in any order.
* `Sound`: where the replies that can still be taken come from. Each move keeps it (`Sound.move`).
* `late_reply_acknowledges`: a reply that was in flight when the mailbox was emptied acknowledges a later
  command.
* `answer_of_send`: no other reply does.
-/

namespace Quadcopter

theorem Mailbox.waitTake_none {α : Type} (m : Mailbox α) : m.waitTake none = m.take := by
  obtain ⟨letter⟩ := m
  cases letter <;> rfl

namespace Air

/-- Where the driver is with a command. Once it has emptied its mailbox, `inFlight` are the replies that
were in flight at that moment. -/
inductive Phase where
  | idle
  | cleared (command : String) (inFlight : List Delivery)
  | waiting (command : String) (inFlight : List Delivery)

/-- A send that has returned. -/
structure Returned where
  /-- How many commands had been heard before this one. -/
  number : Nat
  command : String
  inFlight : List Delivery
  answer : Option String

/-- What can happen next. -/
inductive Move where
  /-- The driver begins to send a command: it empties its mailbox. -/
  | begin (command : String)
  /-- The command is sent. The vehicle's answer, if there is one, is in flight from now on. -/
  | transmit
  /-- The command cannot be sent. -/
  | refuse
  /-- The receiver gets one of the replies in flight and puts it into the mailbox. -/
  | deliver (i : Nat)
  /-- The driver wakes up: it takes what is in its mailbox, or the time is over. -/
  | wake

end Air

/-- A driver, its mailbox for responses, and what is between it and the vehicle. -/
structure Air where
  radio : Radio
  /-- What the vehicle answers to the command that is heard after so many others. -/
  answers : Nat → Option ByteArray
  flight : List Delivery
  mailbox : Mailbox Delivery
  phase : Air.Phase
  /-- The sends that have returned, in order. -/
  returned : List Air.Returned

namespace Air

def new (radio : Radio) (answers : Nat → Option ByteArray) : Air :=
  { radio, answers, flight := [], mailbox := .empty, phase := .idle, returned := [] }

/-- Send a command that can be sent or not, and wait; `taken` is what the mailbox has at the end. -/
def attempt (a : Air) (command : String) (reachable : Bool) (taken : Option Delivery) :
    Option String × Radio :=
  let link := { a.radio.link with reachable, arrivals := fun _ => taken.toList }
  { a.radio with link }.send command

def conclude (a : Air) (command : String) (inFlight : List Delivery) (reachable : Bool)
    (taken : Option Delivery) : Air :=
  let (answer, radio) := a.attempt command reachable taken
  { a with
    radio
    phase := .idle
    returned := a.returned ++ [⟨a.radio.link.heard.size, command, inFlight, answer⟩] }

/-- A move that is not possible changes nothing. -/
def move (a : Air) : Move → Air
  | .begin command =>
    match a.phase with
    | .idle =>
      if a.radio.socketOpen then
        { a with mailbox := a.mailbox.take.2, phase := .cleared command a.flight }
      else a.conclude command a.flight false none
    | _ => a
  | .transmit =>
    match a.phase with
    | .cleared command inFlight =>
      let number := a.radio.link.heard.size
      { a with
        flight := a.flight ++ ((a.answers number).map (Delivery.mk number)).toList
        phase := .waiting command inFlight }
    | _ => a
  | .refuse =>
    match a.phase with
    | .cleared command inFlight => a.conclude command inFlight false none
    | _ => a
  | .deliver i =>
    match a.flight[i]? with
    | some d => { a with flight := a.flight.eraseIdx i, mailbox := a.mailbox.put d }
    | none => a
  | .wake =>
    match a.phase with
    | .waiting command inFlight =>
      let (taken, mailbox) := a.mailbox.waitTake none
      { a with mailbox }.conclude command inFlight true taken
    | _ => a

def run (a : Air) (moves : List Move) : Air := moves.foldl move a

/-- What a send has returned is the vehicle's answer to that command. -/
def Returned.Own (answers : Nat → Option ByteArray) (s : Returned) : Prop :=
  ∀ r, s.answer = some r → ∃ datagram, answers s.number = some datagram ∧ r = answerText datagram

/-- What a send has returned is the vehicle's answer to that command, or to an earlier one whose reply
was in flight when the mailbox was emptied. -/
def Returned.OwnOrLate (answers : Nat → Option ByteArray) (s : Returned) : Prop :=
  ∀ r, s.answer = some r → ∃ d : Delivery, answers d.command = some d.datagram ∧
    r = answerText d.datagram ∧ (d.command = s.number ∨ d ∈ s.inFlight ∧ d.command < s.number)

theorem Returned.OwnOrLate.own {answers : Nat → Option ByteArray} {s : Returned}
    (h : s.OwnOrLate answers) (hs : s.inFlight = []) : s.Own answers := by
  intro r hr
  obtain ⟨d, hd, rfl, hown | ⟨hlate, -⟩⟩ := h r hr
  · exact ⟨d.datagram, hown ▸ hd, rfl⟩
  · rw [hs] at hlate
    cases hlate

/-! ## Where replies come from -/

/-- A reply that can be taken in the phase that the driver is in, or later. -/
def Takable (a : Air) (d : Delivery) : Prop :=
  a.answers d.command = some d.datagram ∧
    match a.phase with
    | .idle => d.command < a.radio.link.heard.size
    | .cleared _ inFlight => d ∈ inFlight ∧ d.command < a.radio.link.heard.size
    | .waiting _ inFlight =>
      d.command = a.radio.link.heard.size ∨ d ∈ inFlight ∧ d.command < a.radio.link.heard.size

structure Sound (a : Air) : Prop where
  flight : ∀ d ∈ a.flight, a.Takable d
  mailbox : ∀ d, a.mailbox.letter = some d → a.Takable d
  socket : a.phase ≠ .idle → a.radio.socketOpen = true
  returned : ∀ s ∈ a.returned, s.OwnOrLate a.answers

variable {a : Air}

theorem Takable.le {d : Delivery} (h : a.Takable d) : d.command ≤ a.radio.link.heard.size := by
  unfold Takable at h
  split at h <;> omega

/-! ## Moves -/

theorem attempt_refused (command : String) :
    (a.attempt command false none).1 = none ∧
      (a.attempt command false none).2.link.heard = a.radio.link.heard := by
  by_cases h : a.radio.socketOpen = true
  · simp [attempt, Radio.send, Link.transmit, h]
  · simp [attempt, Radio.send, h]

theorem attempt_sent (command : String) (taken : Option Delivery) (h : a.radio.socketOpen = true) :
    (a.attempt command true taken).1 = taken.map (fun d => answerText d.datagram) ∧
      (a.attempt command true taken).2.link.heard = a.radio.link.heard.push command := by
  simp [attempt, Radio.send, Link.transmit, h]

namespace Sound

theorem new (radio : Radio) (answers : Nat → Option ByteArray) : (new radio answers).Sound where
  flight := nofun
  mailbox := nofun
  socket h := absurd rfl h
  returned := nofun

/-- A send returns. What may still come in answers a command that has been heard. -/
theorem conclude (h : a.Sound) (command : String) (inFlight : List Delivery) (reachable : Bool)
    (taken : Option Delivery)
    (hheard : ∀ d, a.Takable d →
      d.command < (a.attempt command reachable taken).2.link.heard.size)
    (hanswer : Returned.OwnOrLate a.answers ⟨a.radio.link.heard.size, command, inFlight,
      (a.attempt command reachable taken).1⟩) :
    (a.conclude command inFlight reachable taken).Sound where
  flight d hd := ⟨(h.flight d hd).1, hheard d (h.flight d hd)⟩
  mailbox d hd := ⟨(h.mailbox d hd).1, hheard d (h.mailbox d hd)⟩
  socket hidle := absurd rfl hidle
  returned s hs := by
    rcases List.mem_append.1 hs with hs | hs
    · exact h.returned s hs
    · rw [List.mem_singleton.1 hs]
      exact hanswer

theorem conclude_refused (h : a.Sound) (command : String) (inFlight : List Delivery)
    (hheard : ∀ d, a.Takable d → d.command < a.radio.link.heard.size) :
    (a.conclude command inFlight false none).Sound := by
  obtain ⟨hanswer, hlink⟩ := a.attempt_refused command
  refine h.conclude command inFlight false none ?_ ?_
  · rwa [hlink]
  · intro r hr
    rw [hanswer] at hr
    cases hr

theorem begin (h : a.Sound) (command : String) : (a.move (.begin command)).Sound := by
  simp only [Air.move]
  split
  · next hidle =>
    have hheard : ∀ d, a.Takable d → d.command < a.radio.link.heard.size := by
      intro d hd
      unfold Takable at hd
      rw [hidle] at hd
      exact hd.2
    split
    · next hopen =>
      refine ⟨?_, nofun, fun _ => hopen, h.returned⟩
      intro d hd
      exact ⟨(h.flight d hd).1, hd, hheard d (h.flight d hd)⟩
    · exact h.conclude_refused command a.flight hheard
  · exact h

theorem transmit (h : a.Sound) : (a.move .transmit).Sound := by
  simp only [Air.move]
  split
  · next command inFlight hphase =>
    -- what was in flight when the mailbox was emptied is so still
    have late : ∀ d, a.Takable d → a.answers d.command = some d.datagram ∧
        d ∈ inFlight ∧ d.command < a.radio.link.heard.size := by
      intro d hd
      unfold Takable at hd
      rwa [hphase] at hd
    refine ⟨?_, ?_, fun _ => h.socket (by simp [hphase]), h.returned⟩
    · intro d hd
      rcases List.mem_append.1 hd with hd | hd
      · exact ⟨(late d (h.flight d hd)).1, .inr (late d (h.flight d hd)).2⟩
      · rw [Option.mem_toList, Option.map_eq_some_iff] at hd
        obtain ⟨datagram, hdatagram, rfl⟩ := hd
        exact ⟨hdatagram, .inl rfl⟩
    · intro d hd
      exact ⟨(late d (h.mailbox d hd)).1, .inr (late d (h.mailbox d hd)).2⟩
  · exact h

theorem refuse (h : a.Sound) : (a.move .refuse).Sound := by
  simp only [Air.move]
  split
  · next command inFlight hphase =>
    refine h.conclude_refused command inFlight ?_
    intro d hd
    unfold Takable at hd
    rw [hphase] at hd
    exact hd.2.2
  · exact h

theorem deliver (h : a.Sound) (i : Nat) : (a.move (.deliver i)).Sound := by
  simp only [Air.move]
  split
  · next d hd =>
    refine ⟨?_, ?_, h.socket, h.returned⟩
    · intro d' hd'
      exact h.flight d' (List.mem_of_mem_eraseIdx hd')
    · intro d' hd'
      cases hd'
      exact h.flight d (List.mem_of_getElem? hd)
  · exact h

theorem wake (h : a.Sound) : (a.move .wake).Sound := by
  simp only [Air.move]
  split
  · next command inFlight hphase =>
    have hopen : a.radio.socketOpen = true := h.socket (by simp [hphase])
    rw [Mailbox.waitTake_none]
    let b : Air := { a with mailbox := .empty }
    have hb : b.Sound := ⟨h.flight, nofun, h.socket, h.returned⟩
    obtain ⟨hanswer, hlink⟩ := b.attempt_sent command a.mailbox.letter hopen
    refine hb.conclude command inFlight true a.mailbox.letter ?_ ?_
    · intro d hd
      rw [hlink, Array.size_push]
      exact Nat.lt_succ_of_le hd.le
    · intro r hr
      rw [hanswer, Option.map_eq_some_iff] at hr
      obtain ⟨d, hletter, rfl⟩ := hr
      have hd : a.Takable d := h.mailbox d hletter
      unfold Takable at hd
      rw [hphase] at hd
      exact ⟨d, hd.1, rfl, hd.2⟩
  · exact h

theorem move (h : a.Sound) (m : Move) : (a.move m).Sound := by
  cases m with
  | begin command => exact h.begin command
  | transmit => exact h.transmit
  | refuse => exact h.refuse
  | deliver i => exact h.deliver i
  | wake => exact h.wake

theorem run (h : a.Sound) (moves : List Move) : (a.run moves).Sound := by
  induction moves generalizing a with
  | nil => exact h
  | cons m moves ih => exact ih (h.move m)

end Sound

theorem answers_move (a : Air) (m : Move) : (a.move m).answers = a.answers := by
  cases m with
  | begin command =>
    simp only [move]
    split
    · split <;> rfl
    · rfl
  | _ =>
    simp only [move]
    split <;> rfl

theorem answers_run (a : Air) (moves : List Move) : (a.run moves).answers = a.answers := by
  induction moves generalizing a with
  | nil => rfl
  | cons m moves ih => exact (ih (a.move m)).trans (a.answers_move m)

end Air

/-- A reply that comes after its command has been given up, and after the mailbox has been emptied for the
next one, acknowledges that one: the vehicle has answered `takeoff` late and `land` not at all. -/
theorem late_reply_acknowledges :
    let radio : Radio := { Radio.new 1 false true .dead with socketOpen := true }
    let answers : Nat → Option ByteArray := fun k => if k = 0 then some "ok".toUTF8 else none
    let moves : List Air.Move :=
      [.begin "takeoff", .transmit, .wake, .begin "land", .transmit, .deliver 0, .wake]
    let a := (Air.new radio answers).run moves
    a.returned.map (fun s => (s.number, s.command, s.answer)) =
        [(0, "takeoff", none), (1, "land", some "ok")] ∧
      answers 1 = none ∧ ¬ ∀ s ∈ a.returned, s.Own answers := by
  intro radio answers moves a
  have hreturned : a.returned.map (fun s => (s.number, s.command, s.answer)) =
      [(0, "takeoff", none), (1, "land", some "ok")] := by
    decide +kernel
  refine ⟨hreturned, rfl, fun h => ?_⟩
  have hland : (1, "land", some "ok") ∈ a.returned.map (fun s => (s.number, s.command, s.answer)) := by
    simp [hreturned]
  obtain ⟨s, hs, hsend⟩ := List.mem_map.1 hland
  obtain ⟨hnumber, -, hanswer⟩ : s.number = 1 ∧ s.command = "land" ∧ s.answer = some "ok" := by
    simpa using hsend
  obtain ⟨datagram, hdatagram, -⟩ := h s hs "ok" hanswer
  rw [hnumber] at hdatagram
  cases hdatagram

/-- However the moves come, what a send has returned is the vehicle's answer to that command, or to an
earlier one whose reply was in flight when the mailbox was emptied. With no reply in flight at that moment,
it is the answer to that command. -/
theorem answer_of_send (radio : Radio) (answers : Nat → Option ByteArray) (moves : List Air.Move) :
    ∀ s ∈ ((Air.new radio answers).run moves).returned,
      s.OwnOrLate answers ∧ (s.inFlight = [] → s.Own answers) := by
  intro s hs
  have hsound : ((Air.new radio answers).run moves).Sound := (Air.Sound.new radio answers).run moves
  have h : s.OwnOrLate answers := by
    have hs' := hsound.returned s hs
    rwa [Air.answers_run] at hs'
  exact ⟨h, h.own⟩

/-- A vehicle that does not answer the first command and answers the second one in time. -/
theorem answer_of_second_send :
    let radio : Radio := { Radio.new 1 false true .dead with socketOpen := true }
    let answers : Nat → Option ByteArray := fun k => if k = 1 then some "ok".toUTF8 else none
    let moves : List Air.Move :=
      [.begin "command", .transmit, .wake, .begin "command", .transmit, .deliver 0, .wake]
    ∃ s ∈ ((Air.new radio answers).run moves).returned,
      s.inFlight = [] ∧ s.answer = some "ok" ∧
        ∃ datagram, answers s.number = some datagram ∧ "ok" = answerText datagram := by
  intro radio answers moves
  have hsecond : ((Air.new radio answers).run moves).returned[1]?.map
      (fun s => (s.inFlight.length, s.answer)) = some (0, some "ok") := by
    decide +kernel
  obtain ⟨s, hs, hsend⟩ := Option.map_eq_some_iff.1 hsecond
  obtain ⟨hlength, hanswer⟩ : s.inFlight.length = 0 ∧ s.answer = some "ok" := by simpa using hsend
  have hnone : s.inFlight = [] := List.eq_nil_of_length_eq_zero hlength
  have hmem : s ∈ ((Air.new radio answers).run moves).returned := List.mem_of_getElem? hs
  exact ⟨s, hmem, hnone, hanswer, (answer_of_send radio answers moves s hmem).2 hnone "ok" hanswer⟩

end Quadcopter

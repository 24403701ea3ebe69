import Quadcopter.Proofs.Calls
import Quadcopter.Proofs.Exchanges

/-!
# Quadcopter.Proofs.CommandLog

The logs that a driver writes, for a vehicle that answers each command at once or never.

* `Responds`: what is logged for an answer.
* `Kept`: the invariant of a driver that keeps a log. What it has written and what it will still write
  are together the commands that were sent, each with its response. Every call keeps it (`Kept.call`).
* `log_of_calls`: so the logs of a driver that is let go are complete, and an order is carried out
  exactly if its logged response is `ok`.
-/

namespace Quadcopter

/-- The response that is logged for an answer, or for none. -/
inductive Responds : Option ByteArray → String → Prop where
  | timedOut : Responds none "TIMED OUT"
  | text {d : ByteArray} {s : String} : String.fromUTF8? (d.extract 0 1024) = some s →
      Responds (some d) (String.ofList (Text.trim s.toList))
  | noText {d : ByteArray} : String.fromUTF8? (d.extract 0 1024) = none →
      Responds (some d) "DECODE ERROR"

namespace Radio

/-- What is logged for the command that is sent after `k` others. -/
def response (answer : Nat → Option ByteArray) (k : Nat) : String :=
  ((answer k).map answerText).getD timedOut

theorem responds_response (answer : Nat → Option ByteArray) (k : Nat) :
    Responds (answer k) (response answer k) := by
  unfold response
  cases answer k with
  | none => exact .timedOut
  | some d =>
    simp only [Option.map_some, Option.getD_some, answerText, received, datagramBytes]
    split
    · next hs => exact .text hs
    · next hs => exact .noText hs

/-- The log of some commands, if all were sent. -/
def transcript (answer : Nat → Option ByteArray) (heard : List String) : List Exchange :=
  heard.zipIdx.map fun c => ⟨c.1, response answer c.2⟩

theorem transcript_append (answer : Nat → Option ByteArray) (heard : List String) (c : String) :
    transcript answer (heard ++ [c]) =
      transcript answer heard ++ [⟨c, response answer heard.length⟩] := by
  simp [transcript, List.zipIdx_append]

theorem getElem?_transcript (answer : Nat → Option ByteArray) (heard : List String) (k : Nat) :
    (transcript answer heard)[k]? = heard[k]?.map fun c => ⟨c, response answer k⟩ := by
  cases h : heard[k]? <;> simp [transcript, h]

/-- All exchanges that were logged, also those of the log that is not written yet. -/
def record (r : Radio) : List Exchange := r.written.toList.flatMap Array.toList ++ r.log.toList

/-! ## The invariant -/

/-- A driver that keeps a log, and has sent `past` before anything else. -/
structure Kept (answer : Nat → Option ByteArray) (past : List String) (r : Radio) : Prop where
  logging : r.logging = true
  link : r.link = { Link.prompt answer with heard := r.link.heard }
  past : past <+: r.link.heard.toList
  record : r.record = transcript answer r.link.heard.toList
  nonempty : ∀ log ∈ r.written, log ≠ #[]
  closed : r.socketOpen = false → r.log = #[] ∧ r.connected = false

variable {answer : Nat → Option ByteArray} {past : List String} {r : Radio}

/-- Sending over a prompt link: the answer, and what is logged. -/
theorem send_of_open (hs : r.socketOpen = true)
    (hl : r.link = { Link.prompt answer with heard := r.link.heard }) (text : String) :
    r.send text =
      ((answer r.link.heard.size).map answerText,
        { r with
          link := { Link.prompt answer with heard := r.link.heard.push text }
          log := r.log.push ⟨text, response answer r.link.heard.size⟩ }) := by
  have ht : r.link.transmit text = ((answer r.link.heard.size).map (Delivery.mk r.link.heard.size),
      { Link.prompt answer with heard := r.link.heard.push text }) := by
    rw [hl]
    exact Link.transmit_prompt answer r.link.heard text
  simp only [send, hs, ht, if_true, Option.map_map]
  rfl

theorem send_of_closed (hs : r.socketOpen = false) (text : String) : r.send text = (none, r) := by
  simp [send, hs]

theorem command_eq (r : Radio) (text : String) :
    r.command text = ((r.send text).1 == some "ok", (r.send text).2) := rfl

theorem command_ok_iff (hs : r.socketOpen = true)
    (hl : r.link = { Link.prompt answer with heard := r.link.heard }) (text : String) :
    (r.command text).1 = true ↔ response answer r.link.heard.size = "ok" := by
  rw [command_eq, send_of_open hs hl]
  have htimed : timedOut ≠ "ok" := by decide
  cases ha : answer r.link.heard.size with
  | none => simp [response, ha, htimed]
  | some d => simp [response, ha]

namespace Kept

theorem send (h : Kept answer past r) (text : String) : Kept answer past (r.send text).2 := by
  cases hs : r.socketOpen with
  | false => rwa [send_of_closed hs]
  | true =>
    rw [send_of_open hs h.link]
    refine ⟨h.logging, rfl, ?_, ?_, h.nonempty, ?_⟩
    · rw [Array.toList_push]
      exact h.past.trans (List.prefix_append _ _)
    · have hrecord := h.record
      simp only [Radio.record] at hrecord ⊢
      rw [Array.toList_push, Array.toList_push, ← List.append_assoc, hrecord, transcript_append,
        Array.length_toList]
    · intro hclosed
      rw [hs] at hclosed
      cases hclosed

theorem command (h : Kept answer past r) (text : String) : Kept answer past (r.command text).2 :=
  h.send text

theorem setFlying (h : Kept answer past r) (flying : Bool) : Kept answer past { r with flying } :=
  ⟨h.logging, h.link, h.past, h.record, h.nonempty, h.closed⟩

theorem setConnected (h : Kept answer past r) (hs : r.socketOpen = true) :
    Kept answer past { r with connected := true } := by
  refine ⟨h.logging, h.link, h.past, h.record, h.nonempty, ?_⟩
  intro hclosed
  rw [hs] at hclosed
  cases hclosed

theorem openSocket (h : Kept answer past r) : Kept answer past { r with socketOpen := true } := by
  refine ⟨h.logging, h.link, h.past, h.record, h.nonempty, ?_⟩
  intro hclosed
  cases hclosed

theorem greet (n : Nat) (h : Kept answer past r) (hs : r.socketOpen = true) :
    Kept answer past (greet n r).2 := by
  induction n generalizing r with
  | zero => exact h
  | succ n ih =>
    have hc := h.command "command"
    have hsc : (r.command "command").2.socketOpen = true := by simpa using hs
    rw [greet_succ]
    split
    · exact (hc.setConnected hsc).command "streamon"
    · exact ih hc hsc

theorem connect (h : Kept answer past r) : Kept answer past r.connect.2 := by
  unfold Radio.connect
  split
  · exact h
  · exact h.openSocket.greet _ rfl

theorem perform (h : Kept answer past r) (o : Order) : Kept answer past (r.perform o).2 := by
  by_cases ho : o.Permitted
  · rw [perform_of_permitted ho]
    exact (h.command o.text).setFlying _
  · rw [perform_of_not_permitted ho]
    exact h

theorem landIfFlying (h : Kept answer past r) : Kept answer past r.landIfFlying := by
  unfold Radio.landIfFlying
  split
  · exact (h.command "land").setFlying false
  · exact h

/-- Closing the socket moves the log to those that were written, unless it is empty. -/
theorem close (h : Kept answer past r) :
    Kept answer past { r with socketOpen := false, connected := false }.writeLog := by
  have hrecord := h.record
  simp only [Radio.record] at hrecord
  refine ⟨h.logging, h.link, h.past, ?_, ?_, fun _ => ⟨rfl, rfl⟩⟩
  · by_cases hlog : r.log = #[]
    · simpa [writeLog, Radio.record, h.logging, hlog] using hrecord
    · simpa [writeLog, Radio.record, h.logging, hlog] using hrecord
  · intro log hmem
    by_cases hlog : r.log = #[]
    · exact h.nonempty log (by simpa [writeLog, h.logging, hlog] using hmem)
    · have hmem' : log ∈ r.written ∨ log = r.log := by
        simpa [writeLog, h.logging, hlog] using hmem
      rcases hmem' with hmem' | rfl
      · exact h.nonempty log hmem'
      · exact hlog

theorem shutdown (h : Kept answer past r) : Kept answer past r.shutdown := h.landIfFlying.close

theorem call (h : Kept answer past r) (c : Call) : Kept answer past (Vehicle.call c r) := by
  cases c with
  | connect => exact h.connect
  | perform o => exact h.perform o
  | frame => exact h
  | shutdown => exact h.shutdown

theorem after (h : Kept answer past r) (calls : List Call) :
    Kept answer past (Vehicle.after calls r) := by
  induction calls generalizing r with
  | nil => exact h
  | cons c calls ih => exact ih (h.call c)

/-- A driver that is let go has nothing left to log. -/
theorem release (h : Kept answer past r) :
    Kept answer past r.release ∧ r.release.log = #[] := by
  unfold Radio.release
  split
  · exact ⟨h.shutdown, rfl⟩
  · next hidle =>
    have hs : r.socketOpen = false := by simp_all
    exact ⟨h, (h.closed hs).1⟩

end Kept

/-! ## Orders -/

/-- An order that cannot be sent is refused, and nothing has happened. -/
theorem perform_unsent {o : Order} (h : ¬ (r.socketOpen = true ∧ o.Permitted)) :
    r.perform o = (false, r) := by
  by_cases ho : o.Permitted
  · have hs : r.socketOpen = false := by simpa [ho] using h
    rw [perform_of_permitted ho, command_eq, send_of_closed hs]
    rfl
  · exact perform_of_not_permitted ho r

/-- An order that is sent adds its command to what was sent before. -/
theorem Kept.order (h : Kept answer past r) {o : Order} (hs : r.socketOpen = true) (ho : o.Permitted) :
    Kept answer (r.link.heard.toList ++ [o.text]) (r.perform o).2 := by
  have hk := h.perform o
  refine ⟨hk.logging, hk.link, ?_, hk.record, hk.nonempty, hk.closed⟩
  have hheard : (r.perform o).2.link.heard = r.link.heard.push o.text := by
    rw [perform_of_permitted ho, command_eq, send_of_open hs h.link]
  refine ⟨[], ?_⟩
  rw [List.append_nil, hheard, Array.toList_push]

end Radio

/-! ## The lines of a log -/

section Lines

variable (sentAt : Nat → TimeOfDay)

/-- The lines of one exchange, with its number. -/
def entryLines (x : Exchange × Nat) : List String :=
  ["Message[" ++ toString x.2 ++ "]: " ++ (sentAt x.2).render ++ " " ++ x.1.command,
   "Response[" ++ toString x.2 ++ "]: " ++ x.1.response]

theorem length_entryLines (es : List Exchange) (n : Nat) :
    ((es.zipIdx n).flatMap (entryLines sentAt)).length = 2 * es.length := by
  induction es generalizing n with
  | nil => rfl
  | cons e es ih =>
    rw [List.zipIdx_cons, List.flatMap_cons, List.length_append, ih, List.length_cons]
    simp only [entryLines, List.length_cons, List.length_nil]
    omega

/-- The entry that is `i` places behind the one with the number `n`. -/
theorem getElem?_entryLines (es : List Exchange) (n i : Nat) {e : Exchange} (h : es[i]? = some e) :
    ((es.zipIdx n).flatMap (entryLines sentAt))[2 * i]? =
        some ("Message[" ++ toString (n + i) ++ "]: " ++ (sentAt (n + i)).render ++ " " ++ e.command) ∧
      ((es.zipIdx n).flatMap (entryLines sentAt))[2 * i + 1]? =
        some ("Response[" ++ toString (n + i) ++ "]: " ++ e.response) := by
  induction es generalizing n i with
  | nil => simp at h
  | cons e' es ih =>
    rw [List.zipIdx_cons, List.flatMap_cons]
    cases i with
    | zero =>
      obtain rfl : e' = e := by simpa using h
      exact ⟨rfl, rfl⟩
    | succ i =>
      obtain ⟨hmessage, hresponse⟩ := ih (n + 1) i (by simpa using h)
      rw [Nat.add_right_comm n 1 i] at hmessage hresponse
      exact ⟨hmessage, hresponse⟩

/-- The lines of a log: two for each exchange, numbered from zero. -/
structure Numbered (log : Array Exchange) (lines : List String) : Prop where
  length : lines.length = 2 * log.size
  message : ∀ (i : Nat) (e : Exchange), log[i]? = some e →
    lines[2 * i]? = some ("Message[" ++ toString i ++ "]: " ++ (sentAt i).render ++ " " ++ e.command)
  response : ∀ (i : Nat) (e : Exchange), log[i]? = some e →
    lines[2 * i + 1]? = some ("Response[" ++ toString i ++ "]: " ++ e.response)

theorem numbered_logLines (log : Array Exchange) : Numbered sentAt log (logLines sentAt log) := by
  have hentry : ∀ (i : Nat) (e : Exchange), log[i]? = some e → log.toList[i]? = some e := by simp
  refine ⟨length_entryLines sentAt log.toList 0, ?_, ?_⟩
  · intro i e he
    have hlines := (getElem?_entryLines sentAt log.toList 0 i (hentry i e he)).1
    rwa [Nat.zero_add] at hlines
  · intro i e he
    have hlines := (getElem?_entryLines sentAt log.toList 0 i (hentry i e he)).2
    rwa [Nat.zero_add] at hlines

end Lines

/-! ## Whole conversations -/

/-- Any calls are made to a driver that logs, and then it is let go. The logs that were written hold the
commands that were sent, in order and each once, with the responses to them; none is empty. An order
that can be sent is carried out exactly if its logged response is `ok`, and any other is refused and
leaves no trace. -/
theorem log_of_calls (attempts : Nat) (addressesFree anyAddress : Bool)
    (answer : Nat → Option ByteArray) (calls : List Call) :
    let start := { Radio.new attempts true addressesFree (.prompt answer) with anyAddress }
    let last := (Vehicle.after calls start).release
    let logged := last.written.toList.flatMap Array.toList
    logged.map Exchange.command = last.link.heard.toList ∧
    (∀ (k : Nat) (e : Exchange), logged[k]? = some e → Responds (answer k) e.response) ∧
    (∀ log ∈ last.written, log ≠ #[] ∧
      ∀ sentAt : Nat → TimeOfDay, Numbered sentAt log (logLines sentAt log)) ∧
    ∀ before o rest, calls = before ++ .perform o :: rest →
      let r := Vehicle.after before start
      if r.socketOpen = true ∧ o.Permitted then
        ∃ response, logged[r.link.heard.size]? = some ⟨o.text, response⟩ ∧
          ((r.perform o).1 = true ↔ response = "ok")
      else r.perform o = (false, r) := by
  intro start last logged
  have hstart : Radio.Kept answer [] start :=
    ⟨rfl, rfl, List.nil_prefix, rfl, fun log hlog => by simp [start, Radio.new] at hlog,
      fun _ => ⟨rfl, rfl⟩⟩
  have hlogged : ∀ past, Radio.Kept answer past last → last.log = #[] →
      logged = Radio.transcript answer last.link.heard.toList := by
    intro past hlast hempty
    have hrecord := hlast.record
    rwa [Radio.record, hempty, List.append_nil] at hrecord
  obtain ⟨hlast, hempty⟩ := (hstart.after calls).release
  have htranscript := hlogged [] hlast hempty
  refine ⟨?_, ?_, ?_, ?_⟩
  · rw [htranscript]
    apply List.ext_getElem?
    intro k
    rw [List.getElem?_map, Radio.getElem?_transcript, Option.map_map]
    exact Option.map_id'
  · intro k e he
    rw [htranscript, Radio.getElem?_transcript, Option.map_eq_some_iff] at he
    obtain ⟨c, -, rfl⟩ := he
    exact Radio.responds_response answer k
  · intro log hlog
    exact ⟨hlast.nonempty log hlog, fun sentAt => numbered_logLines sentAt log⟩
  · intro before o rest hcalls r
    split
    · next hsent =>
      have hr : Radio.Kept answer [] r := hstart.after before
      -- what is sent after the order stands behind its command
      have hrest : last = (Vehicle.after rest (r.perform o).2).release := by
        simp only [last, hcalls, Vehicle.after_append, Vehicle.after_cons]
        rfl
      have hpast := ((hr.order hsent.1 hsent.2).after rest).release.1.past
      rw [← hrest] at hpast
      have hplace : last.link.heard.toList[r.link.heard.size]? = some o.text := by
        have hend := List.prefix_iff_getElem?.1 hpast r.link.heard.size (by simp)
        simpa using hend
      refine ⟨Radio.response answer r.link.heard.size, ?_, ?_⟩
      · rw [htranscript, Radio.getElem?_transcript, hplace]
        rfl
      · rw [Radio.perform_of_permitted hsent.2]
        exact Radio.command_ok_iff hsent.1 hr.link o.text
    · next hunsent => exact Radio.perform_unsent hunsent

end Quadcopter

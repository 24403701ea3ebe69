import Quadcopter.Radio.Basic

/-!
# Quadcopter.Proofs.Exchanges

What a driver sends, and which of it is acknowledged.

* `saysOk`: which answers count. They are those that the driver reads as `ok` (`answerText_eq_ok_iff`).
* `Link.exchanges`: the commands that went over a link, each with whether the vehicle's answer was
  `ok`. `Link.Carried` says what was added to them.
* `Order.wire`, `Order.Permitted`: how each order is worded on the way, and which of them are sent at
  all. The driver words them so (`Order.wire_eq_text`) and sends these (`Order.permitted_move_iff`).
* `greet_cases`: greeting ends with the first answer, or without one when the attempts are used up.
* `OnAir`: a driver in contact, and what was sent so far. Each of its operations adds its own command
  and no other (`OnAir.accept`, `OnAir.refuse`, `OnAir.shutdown`).
-/

namespace Quadcopter

/-- Whether an answer says `ok`, perhaps between white space. Only its first 1024 bytes count. -/
def saysOk (datagram : ByteArray) : Bool :=
  (String.fromUTF8? (datagram.extract 0 1024)).any fun s =>
    let t := s.toList.dropWhile (·.toNat ∈ Text.blankPoints)
    t.take 2 == ['o', 'k'] && (t.drop 2).all (·.toNat ∈ Text.blankPoints)

theorem trimEnd_eq_ok_iff {s : List Char} :
    Text.trimEnd s = ['o', 'k'] ↔ s.take 2 = ['o', 'k'] ∧ ∀ c ∈ s.drop 2, Text.isBlank c = true := by
  constructor
  · intro h
    obtain ⟨t, hs, ht⟩ := Text.trimEnd_append s
    rw [hs, h]
    exact ⟨rfl, by simpa using ht⟩
  · rintro ⟨htake, hdrop⟩
    rw [← List.take_append_drop 2 s, htake, Text.trimEnd_of_isBlank hdrop]
    rfl

theorem answerText_eq_ok_iff {datagram : ByteArray} :
    answerText datagram = "ok" ↔ saysOk datagram = true := by
  have hblank : (fun c : Char => decide (c.toNat ∈ Text.blankPoints)) = Text.isBlank := by
    funext c
    rw [Bool.eq_iff_iff, decide_eq_true_iff, Text.isBlank_iff]
  unfold answerText saysOk received datagramBytes
  split
  · next s hs =>
    rw [hs, Option.any_some, ← String.toList_inj, String.toList_ofList, hblank]
    simpa [Text.trim, Text.trimStart] using trimEnd_eq_ok_iff
  · next hs => simp [hs]

namespace Link

/-- Whether the answer to the command that is heard after `k` others is `ok`. -/
def acknowledges (l : Link) (k : Nat) : Bool := (l.arrivals k).head?.any fun d => saysOk d.datagram

theorem acknowledges_iff {l : Link} {k : Nat} :
    l.acknowledges k = true ↔ ∃ d, (l.arrivals k).head? = some d ∧ answerText d.datagram = "ok" := by
  cases h : (l.arrivals k).head? <;> simp [acknowledges, h, answerText_eq_ok_iff]

/-- The commands heard so far, in order, each with whether it was acknowledged. -/
def exchanges (l : Link) : List (String × Bool) :=
  l.heard.toList.zipIdx.map fun (command, k) => (command, l.acknowledges k)

/-- What a link has carried since it was `base`: the answers are the same, and `sent` was added to the
exchanges. -/
structure Carried (base : Link) (sent : List (String × Bool)) (l : Link) : Prop where
  reachable : l.reachable = base.reachable
  arrivals : l.arrivals = base.arrivals
  exchanges : l.exchanges = base.exchanges ++ sent

namespace Carried

variable {base l : Link} {sent : List (String × Bool)}

theorem refl (l : Link) : l.Carried [] l := ⟨rfl, rfl, by simp⟩

theorem transmit (h : base.Carried sent l) (hr : l.reachable = true) (command : String) :
    base.Carried (sent ++ [(command, l.acknowledges l.heard.size)]) (l.transmit command).2 := by
  have hl : (l.transmit command).2 = { l with heard := l.heard.push command } := by
    simp [Link.transmit, hr]
  rw [hl]
  refine ⟨h.reachable, h.arrivals, ?_⟩
  rw [← List.append_assoc, ← h.exchanges]
  simp [Link.exchanges, acknowledges, List.zipIdx_append]

end Carried

end Link

namespace Order

/-- The command that an order is sent as. -/
def wire : Order → String
  | .takeoff => "takeoff"
  | .land => "land"
  | .move .forward amount => "forward " ++ toString amount.toInt
  | .move .backward amount => "back " ++ toString amount.toInt
  | .move .left amount => "left " ++ toString amount.toInt
  | .move .right amount => "right " ++ toString amount.toInt
  | .move .up amount => "up " ++ toString amount.toInt
  | .move .down amount => "down " ++ toString amount.toInt
  | .move .rotateCw amount => "cw " ++ toString amount.toInt
  | .move .rotateCcw amount => "ccw " ++ toString amount.toInt

theorem wire_eq_text (o : Order) : o.wire = o.text := by
  cases o with
  | takeoff => rfl
  | land => rfl
  | move motion amount => cases motion <;> simp [wire, text, Motion.word]

/-- The orders that are sent: a distance has from 20 to 500 centimetres, an angle from 1 to 360
degrees. -/
def Permitted : Order → Prop
  | .takeoff | .land => True
  | .move .rotateCw amount | .move .rotateCcw amount => 1 ≤ amount.toInt ∧ amount.toInt ≤ 360
  | .move .forward amount | .move .backward amount | .move .left amount | .move .right amount
  | .move .up amount | .move .down amount => 20 ≤ amount.toInt ∧ amount.toInt ≤ 500

theorem permitted_move_iff {motion : Motion} {amount : Int64} :
    (Order.move motion amount).Permitted ↔ Radio.inRange motion amount = true := by
  cases motion <;> simp [Permitted, Radio.inRange, Motion.isTurn, Int64.le_iff_toInt_le]

instance : DecidablePred Permitted
  | .takeoff | .land => .isTrue trivial
  | .move motion amount => decidable_of_iff (Radio.inRange motion amount = true) permitted_move_iff.symm

/-- Whether a vehicle flies that has carried out some orders, and no others: the last order to take off
or to land was one to take off. -/
def airborne (os : List Order) : Bool :=
  (os.filter fun o => o == .takeoff || o == .land).getLast? == some .takeoff

@[simp] theorem airborne_nil : airborne [] = false := rfl

@[simp] theorem airborne_takeoff (os : List Order) : airborne (os ++ [.takeoff]) = true := by
  simp [airborne]

@[simp] theorem airborne_land (os : List Order) : airborne (os ++ [.land]) = false := by
  simp [airborne]

@[simp] theorem airborne_move (os : List Order) (motion : Motion) (amount : Int64) :
    airborne (os ++ [.move motion amount]) = airborne os := by
  simp [airborne]

/-- Whether a vehicle flies that has carried out an order, given whether it flew before. -/
def flies (flying : Bool) : Order → Bool
  | .takeoff => true
  | .land => false
  | .move .. => flying

theorem airborne_concat (os : List Order) (o : Order) :
    airborne (os ++ [o]) = o.flies (airborne os) := by
  cases o <;> simp [flies]

end Order

namespace Radio

/-! ## Commands -/

section Command

variable (r : Radio) (text : String)

@[simp] theorem command_socketOpen : (r.command text).2.socketOpen = r.socketOpen := by
  simp only [command, send]
  split <;> rfl

@[simp] theorem command_connected : (r.command text).2.connected = r.connected := by
  simp only [command, send]
  split <;> rfl

@[simp] theorem command_flying : (r.command text).2.flying = r.flying := by
  simp only [command, send]
  split <;> rfl

end Command

variable {r : Radio} {base : Link} {sent : List (String × Bool)}

/-- A command that can be sent is heard once, and is carried out if it is acknowledged. -/
theorem carried_command (hs : r.socketOpen = true) (hr : r.link.reachable = true)
    (h : base.Carried sent r.link) (text : String) :
    base.Carried (sent ++ [(text, (r.command text).1)]) (r.command text).2.link := by
  have answer : (r.command text).1 = r.link.acknowledges r.link.heard.size := by
    rw [Bool.eq_iff_iff, Link.acknowledges_iff]
    simp [command, send, hs, Link.transmit, hr]
  have hl : (r.command text).2.link = (r.link.transmit text).2 := by simp [command, send, hs]
  rw [answer, hl]
  exact h.transmit hr text

theorem command_unreachable (hr : r.link.reachable = false) (text : String) :
    (r.command text).1 = false ∧ (r.command text).2.link = r.link := by
  by_cases hs : r.socketOpen = true
  · simp [command, send, hs, Link.transmit, hr]
  · simp [command, send, hs]

theorem reachable_of_acknowledged {text : String} (h : (r.command text).1 = true) :
    r.link.reachable = true := by
  cases hr : r.link.reachable with
  | true => rfl
  | false => rw [(command_unreachable hr text).1] at h; cases h

theorem carried_unacknowledged (hs : r.socketOpen = true) (h : base.Carried sent r.link)
    {text : String} (hno : (r.command text).1 = false) :
    ∃ i, i ≤ 1 ∧ base.Carried (sent ++ List.replicate i (text, false)) (r.command text).2.link := by
  cases hr : r.link.reachable with
  | true =>
    have hc := carried_command hs hr h text
    rw [hno] at hc
    exact ⟨1, Nat.le_refl 1, hc⟩
  | false =>
    refine ⟨0, Nat.zero_le 1, ?_⟩
    rwa [(command_unreachable hr text).2, List.replicate_zero, List.append_nil]

/-- An order that is sent is carried out if its command is acknowledged, and only then it counts. -/
theorem perform_of_permitted {o : Order} (ho : o.Permitted) (r : Radio) :
    r.perform o = ((r.command o.text).1,
      { (r.command o.text).2 with
        flying := if (r.command o.text).1 then o.flies r.flying else r.flying }) := by
  have hflying := command_flying r o.text
  cases o with
  | takeoff =>
    rcases hw : r.command Order.takeoff.text with ⟨_ | _, w⟩
    · rw [hw] at hflying
      simp [perform, hw, ← hflying]
    · simp [perform, hw, Order.flies]
  | land =>
    rcases hw : r.command Order.land.text with ⟨_ | _, w⟩
    · rw [hw] at hflying
      simp [perform, hw, ← hflying]
    · simp [perform, hw, Order.flies]
  | move motion amount =>
    rw [perform, if_pos (Order.permitted_move_iff.1 ho), Order.flies, ite_self, ← hflying]

theorem perform_of_not_permitted {o : Order} (ho : ¬ o.Permitted) (r : Radio) :
    r.perform o = (false, r) := by
  cases o with
  | takeoff => exact absurd trivial ho
  | land => exact absurd trivial ho
  | move motion amount => rw [perform, if_neg fun hin => ho (Order.permitted_move_iff.2 hin)]

/-! ## Contact -/

/-- A driver in contact with its vehicle: whether it takes it to fly, and what was sent since the link
was `base`. -/
structure OnAir (base : Link) (flying : Bool) (sent : List (String × Bool)) (r : Radio) : Prop where
  socketOpen : r.socketOpen = true
  connected : r.connected = true
  reachable : r.link.reachable = true
  flying : r.flying = flying
  carried : base.Carried sent r.link

theorem OnAir.command {flying : Bool} (h : OnAir base flying sent r) (text : String) :
    OnAir base flying (sent ++ [(text, (r.command text).1)]) (r.command text).2 where
  socketOpen := by simpa using h.socketOpen
  connected := by simpa using h.connected
  reachable := by
    have hc := carried_command h.socketOpen h.reachable h.carried text
    rw [hc.reachable, ← h.carried.reachable, h.reachable]
  flying := by simpa using h.flying
  carried := carried_command h.socketOpen h.reachable h.carried text

/-- What is sent until contact is made: `j` greetings that are not acknowledged, one that is, and the
request for video, whatever the answer to that. -/
def greeting (j : Nat) (video : Bool) : List (String × Bool) :=
  List.replicate j ("command", false) ++ [("command", true), ("streamon", video)]

theorem greeting_add (i j : Nat) (video : Bool) :
    List.replicate i ("command", false) ++ greeting j video = greeting (i + j) video := by
  rw [greeting, greeting, ← List.append_assoc, List.replicate_append_replicate]

theorem greet_succ (n : Nat) (r : Radio) :
    greet (n + 1) r = if (r.command "command").1
      then (true, ({ (r.command "command").2 with connected := true }.command "streamon").2)
      else greet n (r.command "command").2 := by
  rw [greet]
  split
  · next hc => rw [hc]; rfl
  · next hc => rw [hc]; rfl

theorem onAir_of_greeted (hs : r.socketOpen = true) (h : base.Carried sent r.link)
    (hok : (r.command "command").1 = true) :
    ∃ video, OnAir base r.flying (sent ++ greeting 0 video)
      ({ (r.command "command").2 with connected := true }.command "streamon").2 := by
  have hr := reachable_of_acknowledged hok
  have hc := carried_command hs hr h "command"
  rw [hok] at hc
  have greeted : OnAir base r.flying (sent ++ [("command", true)])
      { (r.command "command").2 with connected := true } := by
    refine ⟨by simpa using hs, rfl, ?_, by simp, hc⟩
    rw [hc.reachable, ← h.reachable, hr]
  have video := greeted.command "streamon"
  rw [List.append_assoc] at video
  exact ⟨_, video⟩

/-- Greeting goes on until it is acknowledged or the attempts are used up. -/
theorem greet_cases (n : Nat) (hs : r.socketOpen = true) (h : base.Carried sent r.link) :
    (∃ j, j ≤ n ∧ (greet n r).1 = false ∧ (greet n r).2.connected = r.connected ∧
      base.Carried (sent ++ List.replicate j ("command", false)) (greet n r).2.link) ∨
    (∃ j video, j < n ∧ (greet n r).1 = true ∧
      OnAir base r.flying (sent ++ greeting j video) (greet n r).2) := by
  induction n generalizing r sent with
  | zero => exact .inl ⟨0, Nat.le_refl 0, rfl, rfl, by simpa [greet] using h⟩
  | succ n ih =>
    rw [greet_succ]
    cases hok : (r.command "command").1 with
    | true =>
      obtain ⟨video, hair⟩ := onAir_of_greeted hs h hok
      exact .inr ⟨0, video, Nat.succ_pos n, rfl, hair⟩
    | false =>
      -- `i` is zero for a greeting that could not be sent: then the vehicle has heard nothing
      obtain ⟨i, hi, hx⟩ := carried_unacknowledged hs h hok
      have hs' : (r.command "command").2.socketOpen = true := by simpa using hs
      rcases ih hs' hx with ⟨j, hj, ho, hc, hy⟩ | ⟨j, video, hj, ho, hair⟩
      · refine .inl ⟨i + j, by omega, ho, by simpa using hc, ?_⟩
        rwa [List.append_assoc, List.replicate_append_replicate] at hy
      · refine .inr ⟨i + j, video, by omega, ho, ?_⟩
        rwa [List.append_assoc, greeting_add, command_flying] at hair

namespace OnAir

variable {flying : Bool}

theorem setFlying (h : OnAir base flying sent r) (b : Bool) :
    OnAir base b sent { r with flying := b } :=
  ⟨h.socketOpen, h.connected, h.reachable, rfl, h.carried⟩

/-- An order that is carried out is one that is sent, and it was sent and acknowledged. -/
theorem accept {os : List Order} {o : Order} (h : OnAir base (Order.airborne os) sent r)
    (ho : (perform o r).1 = true) :
    o.Permitted ∧
      OnAir base (Order.airborne (os ++ [o])) (sent ++ [(o.wire, true)]) (perform o r).2 := by
  by_cases hp : o.Permitted
  · have hc := (h.command o.text).setFlying (o.flies r.flying)
    rw [perform_of_permitted hp] at ho ⊢
    dsimp only at ho
    rw [ho] at hc
    rw [ho, if_pos rfl, Order.airborne_concat, ← h.flying, Order.wire_eq_text]
    exact ⟨hp, hc⟩
  · rw [perform_of_not_permitted hp] at ho
    cases ho

/-- An order that is refused was sent if it is one that is sent, and was not acknowledged. -/
theorem refuse {o : Order} (h : OnAir base flying sent r) (ho : (perform o r).1 = false) :
    OnAir base flying (sent ++ if o.Permitted then [(o.wire, false)] else []) (perform o r).2 := by
  by_cases hp : o.Permitted
  · have hc := (h.command o.text).setFlying r.flying
    rw [perform_of_permitted hp] at ho ⊢
    dsimp only at ho
    rw [ho] at hc
    rw [ho, if_pos hp, if_neg Bool.false_ne_true, Order.wire_eq_text, ← h.flying]
    exact hc
  · rw [perform_of_not_permitted hp, if_neg hp, List.append_nil]
    exact h

end OnAir

/-- Connecting a driver that has no contact is greeting the vehicle, unless its addresses are taken. -/
theorem connect_cases (hs : r.socketOpen = false) (hc : r.connected = false) :
    (∃ j, j ≤ r.attempts ∧ r.connect.1 = false ∧ r.connect.2.connected = false ∧
      r.link.Carried (List.replicate j ("command", false)) r.connect.2.link) ∨
    (∃ j video, j < r.attempts ∧ r.connect.1 = true ∧
      OnAir r.link r.flying (greeting j video) r.connect.2) := by
  cases ha : r.addressesFree with
  | false =>
    have hr : r.connect = (false, r) := by simp [connect, ha]
    rw [hr]
    exact .inl ⟨0, Nat.zero_le _, rfl, hc, .refl r.link⟩
  | true =>
    have hr : r.connect = greet r.attempts { r with socketOpen := true } := by simp [connect, hs, ha]
    have hopen : ({ r with socketOpen := true } : Radio).socketOpen = true := rfl
    rw [hr]
    rcases greet_cases r.attempts hopen (.refl r.link) with ⟨j, hj, ho, hconn, hx⟩ | hair
    · exact .inl ⟨j, hj, ho, hconn.trans hc, hx⟩
    · exact .inr hair

/-- A driver that has ended contact, and what was sent since the link was `base`. -/
structure OffAir (base : Link) (sent : List (String × Bool)) (r : Radio) : Prop where
  socketOpen : r.socketOpen = false
  connected : r.connected = false
  carried : base.Carried sent r.link

theorem OffAir.release (h : OffAir base sent r) : r.release = r := by
  simp [Radio.release, h.socketOpen, h.connected]

/-- Shutting down lands a vehicle that is taken to fly, and sends nothing else. -/
theorem OnAir.shutdown {flying : Bool} (h : OnAir base flying sent r) :
    ∃ landed, OffAir base (sent ++ if flying then [("land", landed)] else []) r.shutdown := by
  refine ⟨(r.command "land").1, rfl, rfl, ?_⟩
  cases hf : flying with
  | true =>
    simpa [Radio.shutdown, writeLog, landIfFlying, h.connected, h.flying, hf] using
      (h.command "land").carried
  | false => simpa [Radio.shutdown, writeLog, landIfFlying, h.flying, hf] using h.carried

theorem offAir_shutdown (hc : r.connected = false) (h : base.Carried sent r.link) :
    OffAir base sent r.shutdown := by
  refine ⟨rfl, rfl, ?_⟩
  simpa [shutdown, writeLog, landIfFlying, hc] using h

end Radio
end Quadcopter

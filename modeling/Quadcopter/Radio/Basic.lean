import Quadcopter.Flight.Vehicle
import Quadcopter.Radio.Link
import Quadcopter.Radio.Mailbox

/-!
# Quadcopter.Radio.Basic

The driver of a vehicle that is steered by text commands. It opens its socket, greets the vehicle until
it answers, and sends one command for each order; the vehicle has done what it was told if it answers
`ok`. Every exchange is logged, and the log is written when contact ends. A vehicle that is known to fly
is landed first.
-/

namespace Quadcopter

/-- A command and what came of it. -/
structure Exchange where
  command : String
  response : String
  deriving DecidableEq, Repr

structure Radio where
  /-- How often the vehicle is greeted before giving up. -/
  attempts : Nat
  logging : Bool
  /-- Whether the addresses that the driver needs are free. -/
  addressesFree : Bool
  /-- Whether any address will do, so that the socket can be opened anew while it is open. -/
  anyAddress : Bool := false
  link : Link
  socketOpen : Bool
  connected : Bool
  flying : Bool
  /-- The exchanges since the last log was written, in order. -/
  log : Array Exchange
  /-- The logs that were written, in order. -/
  written : Array (Array Exchange)
  state : Mailbox Telemetry
  frames : Mailbox (Nat × Picture)
  published : Nat

namespace Radio

def new (attempts : Nat) (logging addressesFree : Bool) (link : Link) : Radio :=
  { attempts, logging, addressesFree, link, socketOpen := false, connected := false, flying := false,
    log := #[], written := #[], state := .empty, frames := .empty, published := 0 }

def timedOut : String := "TIMED OUT"

/-- Send a command and wait for the answer. Without a socket nothing is sent or logged. -/
def send (r : Radio) (command : String) : Option String × Radio :=
  if r.socketOpen then
    let (reply, link) := r.link.transmit command
    let answer := reply.map fun r => answerText r.datagram
    (answer, { r with link, log := r.log.push ⟨command, answer.getD timedOut⟩ })
  else (none, r)

def command (r : Radio) (text : String) : Bool × Radio :=
  let (answer, r) := r.send text
  (answer == some "ok", r)

/-- Greet the vehicle up to so many times. Once it answers, ask it for its video. -/
def greet : Nat → Radio → Bool × Radio
  | 0, r => (false, r)
  | n + 1, r =>
    match r.command "command" with
    | (true, r) => (true, ({ r with connected := true }.command "streamon").2)
    | (false, r) => greet n r

/-- Open the socket and greet the vehicle. A socket that is open already keeps its address, which is
then not free. -/
def connect (r : Radio) : Bool × Radio :=
  if r.socketOpen && !r.anyAddress || !r.addressesFree then (false, r)
  else greet r.attempts { r with socketOpen := true }

/-- The amounts within which a motion is sent. -/
def inRange (motion : Motion) (amount : Int64) : Bool :=
  if motion.isTurn then 1 ≤ amount && amount ≤ 360 else 20 ≤ amount && amount ≤ 500

/-- Carry out an order. A motion out of range is refused without being sent. -/
def perform (o : Order) (r : Radio) : Bool × Radio :=
  match o with
  | .takeoff =>
    match r.command o.text with
    | (true, r) => (true, { r with flying := true })
    | refused => refused
  | .land =>
    match r.command o.text with
    | (true, r) => (true, { r with flying := false })
    | refused => refused
  | .move motion amount => if inRange motion amount then r.command o.text else (false, r)

def landIfFlying (r : Radio) : Radio :=
  if r.connected && r.flying then { (r.command "land").2 with flying := false } else r

def writeLog (r : Radio) : Radio :=
  { r with
    log := #[]
    written := if r.logging && !r.log.isEmpty then r.written.push r.log else r.written }

/-- End contact: land, close the socket, write the log. -/
def shutdown (r : Radio) : Radio :=
  { r.landIfFlying with socketOpen := false, connected := false }.writeLog

/-- Let go of the driver, ending contact if it has not been ended. -/
def release (r : Radio) : Radio := if r.socketOpen || r.connected then r.shutdown else r

/-- A telemetry packet arrives. One that is no text is passed over. -/
def receiveState (r : Radio) (packet : ByteArray) : Radio :=
  if r.socketOpen then
    match String.fromUTF8? (received packet) with
    | some s => { r with state := r.state.put (.ofPacket s) }
    | none => r
  else r

def publish (r : Radio) (p : Picture) : Radio :=
  { r with frames := r.frames.put (r.published, p), published := r.published + 1 }

instance : Vehicle Radio where
  connect := connect
  perform := perform
  frame r := (r.frames.latest.map fun (n, p) => .published n p, r)
  shutdown := shutdown
  telemetry r := r.state.latest.getD .empty

end Radio

/-- A time of day. There is room for a leap second. -/
structure TimeOfDay where
  hour : Fin 24
  minute : Fin 60
  second : Fin 61
  millisecond : Fin 1000
  deriving DecidableEq, Repr

def TimeOfDay.render (t : TimeOfDay) : String :=
  String.ofList (Decimal.paddedNat 2 t.hour ++ ':' :: Decimal.paddedNat 2 t.minute ++
    ':' :: Decimal.paddedNat 2 t.second ++ '.' :: Decimal.paddedNat 3 t.millisecond)

/-- The numbered lines of a log, if its commands were sent at these times. -/
def logLines (sentAt : Nat → TimeOfDay) (log : Array Exchange) : List String :=
  log.toList.zipIdx.flatMap fun (e, i) =>
    ["Message[" ++ toString i ++ "]: " ++ (sentAt i).render ++ " " ++ e.command,
     "Response[" ++ toString i ++ "]: " ++ e.response]

end Quadcopter

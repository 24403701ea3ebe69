import Quadcopter.Text.Blank

/-!
# Quadcopter.Radio.Link

The air between a driver and its vehicle. The vehicle hears the commands that reach it and answers
each with a datagram or not at all. An answer may be late: it reaches the driver while the driver waits
for the answer to a later command. Which replies come in during which wait depends only on how many
commands were heard before. What comes in at another time is thrown away before the next command.
-/

namespace Quadcopter

structure Delivery where
  /-- The command that it answers, counted from zero. -/
  command : Nat
  datagram : ByteArray

/-- The air, and the vehicle at its other end. -/
structure Link where
  reachable : Bool
  /-- The replies that come in, in order, while the driver waits for the answer to a command that was
  heard after so many others. -/
  arrivals : Nat → List Delivery
  /-- The commands heard so far, in order. -/
  heard : Array String

namespace Link

def dead : Link := ⟨false, fun _ => [], #[]⟩

instance : Inhabited Link := ⟨dead⟩

/-- The link to a vehicle that answers each command at once or never. -/
def prompt (answer : Nat → Option ByteArray) : Link :=
  ⟨true, fun k => ((answer k).map (Delivery.mk k)).toList, #[]⟩

/-- The link to a vehicle that answers at once from a list, and with `ok` when the list is at its
end. -/
def scripted (replies : List (Option ByteArray)) : Link :=
  prompt fun k => replies.getD k (some "ok".toUTF8)

/-- Send a command and wait for a reply. The first one to come in is taken, whatever it answers. -/
def transmit (l : Link) (command : String) : Option Delivery × Link :=
  if l.reachable then ((l.arrivals l.heard.size).head?, { l with heard := l.heard.push command })
  else (none, l)

/-- A prompt link gives the answer to the command that was sent. -/
theorem transmit_prompt (answer : Nat → Option ByteArray) (heard : Array String) (c : String) :
    ({ prompt answer with heard } : Link).transmit c =
      ((answer heard.size).map (Delivery.mk heard.size),
        { prompt answer with heard := heard.push c }) := by
  cases h : answer heard.size <;> simp [transmit, prompt, h]

end Link

def datagramBytes : Nat := 1024

/-- A datagram as it is received: what is too long is cut off. -/
def received (datagram : ByteArray) : ByteArray := datagram.extract 0 datagramBytes

def answerText (datagram : ByteArray) : String :=
  match String.fromUTF8? (received datagram) with
  | some s => String.ofList (Text.trim s.toList)
  | none => "DECODE ERROR"

end Quadcopter

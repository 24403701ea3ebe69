import Quadcopter.Flight.Vehicle

/-!
# Quadcopter.Flight.Rehearsal

A vehicle for rehearsing what can go wrong: a reckoned vehicle that refuses what its script tells it
to, and whose camera shows the frames of the script, one for each look.
-/

namespace Quadcopter

/-- When a rehearsed vehicle refuses, and what its camera shows. -/
structure Script where
  refuseConnect : Bool := false
  refused : List String := []
  /-- The order that is refused, counted from one. -/
  failAt : Option Nat := none
  /-- What the camera shows at each look, or nothing said and it shows what a simulator's does. -/
  frames : Option (List (Option Picture)) := none

/-- A rehearsed vehicle: its script, how many orders and looks there were, and where it is. -/
structure Rehearsal where
  script : Script
  orders : Nat := 0
  looks : Nat := 0
  craft : Reckoning := .start

/-- The word of an order, without its amount. -/
def Order.word : Order → String
  | .takeoff => "takeoff"
  | .land => "land"
  | .move motion _ => motion.word

namespace Rehearsal

def refuses (r : Rehearsal) (o : Order) : Bool :=
  r.script.refused.contains o.word || r.script.failAt == some (r.orders + 1)

def look (r : Rehearsal) : Option Frame :=
  match r.script.frames with
  | none => some (.fresh simulatedFrame)
  | some frames => (frames[r.looks]?.join).map (.published r.looks)

instance : Vehicle Rehearsal where
  connect r :=
    if r.script.refuseConnect then (false, r)
    else (true, { r with craft := { r.craft with connected := true } })
  perform o r :=
    if r.refuses o then (false, { r with orders := r.orders + 1 })
    else (true, { r with orders := r.orders + 1, craft := r.craft.obey o })
  frame r := (r.look, { r with looks := r.looks + 1 })
  shutdown r := { r with craft := { r.craft with connected := false, flying := false } }
  telemetry r := r.craft.telemetry

end Rehearsal
end Quadcopter

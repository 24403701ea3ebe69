import Quadcopter.Flight.Rehearsal
import Quadcopter.Radio.Basic

/-!
# Quadcopter.Machine.Craft

The vehicles that a run can choose from: the simulator, a rehearsal that keeps its calls, and a live
vehicle steered by radio.
-/

namespace Quadcopter

inductive Craft where
  | simulated (v : Reckoning)
  | rehearsed (v : Recorded Rehearsal)
  | live (v : Radio)

instance : Vehicle Craft where
  connect
    | .simulated v => (Vehicle.connect v).map id .simulated
    | .rehearsed v => (Vehicle.connect v).map id .rehearsed
    | .live v => (Vehicle.connect v).map id .live
  perform o
    | .simulated v => (Vehicle.perform o v).map id .simulated
    | .rehearsed v => (Vehicle.perform o v).map id .rehearsed
    | .live v => (Vehicle.perform o v).map id .live
  frame
    | .simulated v => (Vehicle.frame v).map id .simulated
    | .rehearsed v => (Vehicle.frame v).map id .rehearsed
    | .live v => (Vehicle.frame v).map id .live
  shutdown
    | .simulated v => .simulated (Vehicle.shutdown v)
    | .rehearsed v => .rehearsed (Vehicle.shutdown v)
    | .live v => .live (Vehicle.shutdown v)
  telemetry
    | .simulated v => Vehicle.telemetry v
    | .rehearsed v => Vehicle.telemetry v
    | .live v => Vehicle.telemetry v

end Quadcopter

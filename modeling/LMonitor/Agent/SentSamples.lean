import LMonitor.Agent.AgentSamples
import LMonitor.Agent.FrameBoundaries

namespace LMonitor.Transmission
open Library MetricsSerializer MetricsDeserializer Link

/-- These are the payloads of the samples that the agent took. -/
def sampled (trace : List Action) : List Bytes :=
  trace.filterMap fun
    | .sample payload _ _ _ => some payload
    | _ => none

/-- A call that has not returned still carries its payload. -/
def carried : AgentPart → List Bytes
  | .sending call _ => [call.payload]
  | _ => []

end LMonitor.Transmission

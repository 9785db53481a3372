import LMonitor.Library.Machine
import LMonitor.Model.Clock
import LMonitor.Network.TcpClient
import LMonitor.Protocol.FrameCodec

namespace LMonitor
open Library

/-- A call of `sendAll` hands one frame to a connection that already holds some bytes. -/
structure SendCall where
  connection : Nat
  payload : Bytes
  frame : Bytes
  before : Bytes

/-- This record keeps the bytes of the connection when the call returned its result. -/
structure FinishedCall extends SendCall where
  after : Bytes
  complete : Bool

/-- The agent collects its next sample, is inside `sendAll`, or left its loop. -/
inductive AgentPart where
  | sampling
  | sending (call : SendCall) (totalSent : Nat)
  | ended

/-- This is what the loop of the agent keeps for its transmissions. -/
structure Transmission where
  client : TcpClient
  reconnectDelay : Int
  nextReconnectTime : Int
  part : AgentPart
  log : List Bytes
  calls : List FinishedCall

namespace Transmission
open TcpClient

/-- The delays of the backoff count seconds. -/
def maxReconnectDelay : Int := 30

def construct (serverIp : Bytes) (serverPort : Nat) (now : Int) : Transmission where
  client := TcpClient.construct serverIp serverPort
  reconnectDelay := 1
  nextReconnectTime := now
  part := .sampling
  log := []
  calls := []

/-- The agent attempts a connection when the time of its backoff is over. -/
def reconnect (reconnectNow : Int) (result : ConnectResult) (s : Transmission) : Transmission :=
  if ¬ s.client.isConnected ∧ s.nextReconnectTime ≤ reconnectNow then
    let s := { s with log := s.log ++ [ascii "Attempting to connect to monitoring server"] }
    match s.client.connectToServer result with
    | (true, client) =>
        { s with client := client, reconnectDelay := 1, nextReconnectTime := reconnectNow }
    | (false, client) =>
        { s with
          client := client
          log := s.log ++ [ascii "Next monitoring server reconnect attempt in " ++
            decimalInt s.reconnectDelay ++ ascii " second(s)"]
          nextReconnectTime := reconnectNow + s.reconnectDelay * nanosecondsPerSecond
          reconnectDelay := min (s.reconnectDelay * 2) maxReconnectDelay }
  else s

/-- A returned call is recorded, and a failed one schedules the next attempt. -/
def afterPass (call : SendCall) (now : Int) (progress : SendAll) (s : Transmission) :
    Transmission :=
  match progress with
  | .sending totalSent => { s with part := .sending call totalSent }
  | .returned complete =>
      let s := { s with
        part := .sampling
        calls := s.calls ++ [⟨call, s.client.written call.connection, complete⟩] }
      if complete then s
      else
        { s with
          reconnectDelay := 1
          nextReconnectTime := now + 1 * nanosecondsPerSecond
          log := s.log ++
            [ascii "Metrics transmission failed; reconnect scheduled in 1 second"] }

/-- The agent hands the frame over when it has a connection. -/
def transmit (payload frame : Bytes) (now : Int) (s : Transmission) : Transmission :=
  match s.client.socketFd with
  | none => s
  | some connection =>
      afterPass ⟨connection, payload, frame, s.client.written connection⟩ now
        (s.client.sendAll frame) s

/-- A sample is taken, one `send` call returns, or the running flag is cleared. -/
inductive Action where
  | sample (payload : Bytes) (reconnectNow : Int) (result : ConnectResult) (now : Int)
  | send (result : SendResult) (now : Int)
  | stop

/-- The destructor of the client closes its connection when the loop ends. -/
def leave (s : Transmission) : Transmission :=
  { s with part := .ended, client := s.client.disconnect }

/-- An oversized payload throws out of the loop. -/
def step (s : Transmission) : Action → Option Transmission
  | .sample payload reconnectNow result now =>
      match s.part with
      | .sampling =>
          match FrameCodec.encode payload with
          | .error _ => some s.leave
          | .ok frame => some ((s.reconnect reconnectNow result).transmit payload frame now)
      | _ => none
  | .send result now =>
      match s.part with
      | .sending call totalSent =>
          if result.Possible (call.frame.length - totalSent) then
            let (progress, client) := s.client.sendPass call.frame totalSent result
            some (afterPass call now progress { s with client := client })
          else none
      | _ => none
  | .stop =>
      match s.part with
      | .sampling => some s.leave
      | _ => none

end Transmission
end LMonitor

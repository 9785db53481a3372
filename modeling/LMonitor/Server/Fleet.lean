import LMonitor.Agent.SentSamples
import LMonitor.Server.ClientSessions
import LMonitor.Server.Reception
import LMonitor.Server.SampleOrder

namespace LMonitor
open Library FrameCodec MetricsSerializer MetricsDeserializer TcpServer Transmission Link Reception
variable {D : Type} [DoubleText D]

/-- Agents send their samples to one server, and every session is one connection of an agent. TCP
hands the session a prefix of the bytes that the agent wrote there, and the worker pool accepts or
refuses each delivered message until all threads are at rest. -/
structure Fleet (D : Type) [DoubleText D] where
  server : Sessions.ClientRun
  agent : Nat → AgentRun
  samples : Nat → List (SystemMetrics D)
  serialized : ∀ number, sampled (agent number).trace = (samples number).map serialize
  source : Nat → Nat × Nat
  distinct : ∀ first < server.sessions.count, ∀ second < server.sessions.count,
    source first = source second → first = second
  ordered : ∀ session, server.sessions.stream session <+:
    (agent (source session).1).final.client.written (source session).2
  reception : FinishedReception D
  handed : reception.messages = server.final.server.delivered

namespace Fleet

/-- The agent wrote these bytes on the connection of the session. -/
def written (f : Fleet D) (session : Nat) : Bytes :=
  (f.agent (f.source session).1).final.client.written (f.source session).2

/-- The parser makes this of the text of a sample. -/
def received (metrics : SystemMetrics D) : Option (SystemMetrics D) :=
  (deserialize (serialize metrics)).toOption

/-- A session delivered these samples, with the answers of the pool. -/
structure Delivers (f : Fleet D) (sent : List (SystemMetrics D))
    (answers : List ((Nat × Bytes) × Bool)) (session : Nat)
    (outcome : List (SystemMetrics D × Bool)) : Prop where
  part : outcome.map Prod.fst <+: sent
  whole : f.server.sessions.stream session = f.written session → outcome.map Prod.fst = sent
  answers : ∀ answer, (answered answer answers).filter (fun message => message.1 = session) =
    (answered answer outcome).map fun metrics => (session, serialize metrics)

section Reconnected

def loadText (hostname : String) (cpu : Nat) : Bytes :=
  serialize (Ingest.loadSample (ascii hostname) cpu)

/-- The second client arrives before the first one breaks and comes back under its old number. -/
def clientTrace : List ClientAction :=
  [.accept [.accepted ⟨5, some (ascii "10.0.0.1"), 4000, 0, true⟩, .failed .eagain],
    .event 0 epollIn [.received (frame (loadText "a" 10) ++ (frame (loadText "a" 20)).take 3),
      .failed .eagain],
    .accept [.accepted ⟨6, some (ascii "10.0.0.2"), 4000, 1, true⟩, .failed .eagain],
    .event 1 epollIn [.received (frame (loadText "b" 40)), .failed .eagain],
    .event 0 epollIn [.received []],
    .accept [.accepted ⟨5, some (ascii "10.0.0.1"), 4001, 0, true⟩, .failed .eagain],
    .event 0 epollIn [.received (frame (loadText "a" 30)), .failed .eagain]]

theorem clientTrace_run : (run clientStep (starting true) clientTrace).isSome = true := by
  decide +kernel

def loadServer : Sessions.ClientRun where
  callbackRegistered := true
  trace := clientTrace
  final := (run clientStep (starting true) clientTrace).get clientTrace_run
  reached := (Option.some_get clientTrace_run).symm

def loadStart : Reception Int 1 :=
  Reception.start 1 1 (Stores.construct 120 5 (Double.ofNat 80) (Double.ofNat 90))
    loadServer.final.server.delivered

end Reconnected

end Fleet
end LMonitor

import LMonitor.Library.Decimal
import LMonitor.Server.Connections

namespace LMonitor.Acceptor
open Library TcpServer

/-- An accepted client has a descriptor and an address, and `inet_ntop` may fail to print the
address. The last two members tell where the new object goes and whether epoll registers it. -/
structure NewClient where
  clientFd : Nat
  clientIp : Option Bytes
  clientPort : UInt16
  this : Address
  registered : Bool

/-- A call of `accept4` returns a client or fails with an error number. -/
inductive AcceptResult where
  | accepted (client : NewClient)
  | failed (errno : Errno)

/-- The acceptor closes the client that it cannot hand to a callback. -/
def handOver (callbackRegistered : Bool) (client : NewClient) (s : ServerState) : ServerState :=
  match client.clientIp with
  | none => { s with closes := s.closes ++ [(client.clientFd : Int)] }
  | some clientIp =>
      let clientName := clientIp ++ ascii ":" ++ decimal client.clientPort.toNat
      if callbackRegistered then
        newConnectionCallback client.this client.registered client.clientFd clientName s
      else { s with closes := s.closes ++ [(client.clientFd : Int)] }

variable {S : Type}

/-- The accept loop serves one result of `accept4` in each pass and stops at a lasting error. -/
def handleAccept (serve : NewClient → S → Option S) : List AcceptResult → S → Option S
  | [], s => some s
  | .accepted client :: results, s => (serve client s).bind (handleAccept serve results)
  | .failed .eintr :: results, s => handleAccept serve results s
  | .failed .eagain :: _, s => some s
  | .failed .other :: _, s => some s

/-- What every client keeps, the accept loop keeps. -/
theorem handleAccept_invariant (serve : NewClient → S → Option S) (Invariant : S → Prop)
    (kept : ∀ client s next, serve client s = some next → Invariant s → Invariant next)
    {results : List AcceptResult} {s after : S}
    (served : handleAccept serve results s = some after) (known : Invariant s) :
    Invariant after := by
  induction results generalizing s with
  | nil => exact Option.some.inj served ▸ known
  | cons result results ih =>
      match result with
      | .accepted client =>
          obtain ⟨next, taken, rest⟩ := Option.bind_eq_some_iff.mp served
          exact ih rest (kept client s next taken known)
      | .failed .eintr => exact ih served known
      | .failed .eagain => exact Option.some.inj served ▸ known
      | .failed .other => exact Option.some.inj served ▸ known

/-- Two accept loops stay related while each client keeps them related. -/
theorem handleAccept_simulates {T : Type} (serve : NewClient → S → Option S)
    (other : NewClient → T → Option T) (Related : S → T → Prop)
    (simulates : ∀ client s t next, serve client s = some next → Related s t →
      ∃ after, other client t = some after ∧ Related next after)
    {results : List AcceptResult} {s final : S} {t : T}
    (served : handleAccept serve results s = some final) (related : Related s t) :
    ∃ after, handleAccept other results t = some after ∧ Related final after := by
  induction results generalizing s t with
  | nil => exact ⟨t, rfl, Option.some.inj served ▸ related⟩
  | cons result results ih =>
      match result with
      | .accepted client =>
          obtain ⟨next, taken, rest⟩ := Option.bind_eq_some_iff.mp served
          obtain ⟨middle, followed, known⟩ := simulates client s t next taken related
          obtain ⟨after, reached, last⟩ := ih rest known
          exact ⟨after, Option.bind_eq_some_iff.mpr ⟨middle, followed, reached⟩, last⟩
      | .failed .eintr => exact ih served related
      | .failed .eagain => exact ⟨t, rfl, Option.some.inj served ▸ related⟩
      | .failed .other => exact ⟨t, rfl, Option.some.inj served ▸ related⟩

end LMonitor.Acceptor

import LMonitor.Library.Decimal
import Mathlib.Logic.Function.Basic

namespace LMonitor

/-- The kernel numbers the connections and keeps the bytes that were written on each of them. -/
structure TcpClient where
  serverIp : Bytes
  serverPort : Nat
  socketFd : Option Nat
  opened : Nat
  written : Nat → Bytes
  log : List Bytes

namespace TcpClient

def construct (serverIp : Bytes) (serverPort : Nat) : TcpClient :=
  ⟨serverIp, serverPort, none, 0, fun _ => [], []⟩

def isConnected (client : TcpClient) : Bool := client.socketFd.isSome

def disconnect (client : TcpClient) : TcpClient := { client with socketFd := none }

def logLine (text : Bytes) (client : TcpClient) : TcpClient :=
  { client with log := client.log ++ [text] }

/-- This is the address of the server in the log lines. -/
def server (client : TcpClient) : Bytes :=
  client.serverIp ++ ascii ":" ++ decimal client.serverPort

/-- The system calls of one connection attempt fail at one of three places. -/
inductive ConnectResult where
  | socketFailed
  | invalidAddress
  | connectFailed (reason : Bytes)
  | established

def connectToServer (result : ConnectResult) (client : TcpClient) : Bool × TcpClient :=
  if client.isConnected then (true, client)
  else
    match result with
    | .socketFailed =>
        (false, client.logLine
          (ascii "TCP socket creation failed: " ++ ascii "Failed to create TCP socket"))
    | .invalidAddress =>
        (false, client.logLine
          (ascii "Invalid monitoring server IP address: " ++ client.serverIp))
    | .connectFailed reason =>
        (false, client.logLine
          (ascii "Failed to connect to monitoring server " ++ client.server ++ ascii ": " ++ reason))
    | .established =>
        let client := { client with socketFd := some client.opened, opened := client.opened + 1 }
        (true, client.logLine (ascii "Connected to monitoring server " ++ client.server))

/-- A `send` call writes some bytes, returns zero, is interrupted or fails. -/
inductive SendResult where
  | sent (count : Nat)
  | zero
  | interrupted
  | failed (reason : Bytes)

/-- The kernel writes at least one byte and at most those that it gets. -/
def SendResult.Possible (remaining : Nat) : SendResult → Prop
  | .sent count => 0 < count ∧ count ≤ remaining
  | .zero | .interrupted | .failed _ => True

instance (remaining : Nat) : DecidablePred (SendResult.Possible remaining)
  | .sent _ => inferInstanceAs (Decidable (_ ∧ _))
  | .zero | .interrupted | .failed _ => inferInstanceAs (Decidable True)

def write (bytes : Bytes) (client : TcpClient) : TcpClient :=
  match client.socketFd with
  | none => client
  | some connection =>
      { client with
        written := Function.update client.written connection
          (client.written connection ++ bytes) }

theorem write_connected {client : TcpClient} {connection : Nat}
    (connected : client.socketFd = some connection) (bytes : Bytes) :
    client.write bytes = { client with
      written := Function.update client.written connection
        (client.written connection ++ bytes) } := by
  simp only [write, connected]

/-- The loop of `sendAll` stands before its next `send` call, or the function has returned. -/
inductive SendAll where
  | sending (totalSent : Nat)
  | returned (complete : Bool)

def loopHead (data : Bytes) (totalSent : Nat) : SendAll :=
  if totalSent < data.length then .sending totalSent else .returned true

def sendAll (data : Bytes) (client : TcpClient) : SendAll :=
  if client.isConnected then loopHead data 0 else .returned false

/-- The function reaches its first `send` call with a connection and some bytes. -/
theorem sendAll_starts {client : TcpClient} {connection : Nat} {data : Bytes}
    (connected : client.socketFd = some connection) (nonempty : 0 < data.length) :
    client.sendAll data = .sending 0 := by
  simp only [sendAll, isConnected, connected, Option.isSome_some, if_true, loopHead,
    if_pos nonempty]

/-- One pass of the loop reacts to the result of its `send` call. -/
def sendPass (data : Bytes) (totalSent : Nat) (result : SendResult) (client : TcpClient) :
    SendAll × TcpClient :=
  match result with
  | .sent count =>
      (loopHead data (totalSent + count), client.write ((data.drop totalSent).take count))
  | .zero =>
      (.returned false,
        (client.logLine (ascii "TCP connection closed while sending metrics")).disconnect)
  | .interrupted => (.sending totalSent, client)
  | .failed reason =>
      (.returned false,
        (client.logLine (ascii "Failed to send metrics to monitoring server " ++ client.server ++
          ascii ": " ++ reason)).disconnect)

/-- A pass writes the next bytes, waits, or gives its connection up. -/
theorem sendPass_cases {data : Bytes} {totalSent : Nat} {result : SendResult}
    {client : TcpClient} (possible : result.Possible (data.length - totalSent)) :
    (∃ count, 0 < count ∧ totalSent + count ≤ data.length ∧
      sendPass data totalSent result client =
        (loopHead data (totalSent + count), client.write ((data.drop totalSent).take count))) ∨
    sendPass data totalSent result client = (.sending totalSent, client) ∨
    ∃ line, sendPass data totalSent result client =
      (.returned false, (client.logLine line).disconnect) := by
  cases result with
  | sent count =>
      obtain ⟨positive, most⟩ := possible
      exact .inl ⟨count, positive, by omega, rfl⟩
  | zero => exact .inr (.inr ⟨_, rfl⟩)
  | interrupted => exact .inr (.inl rfl)
  | failed reason => exact .inr (.inr ⟨_, rfl⟩)

/-- An attempt changes the connection only if it establishes a new one. -/
theorem connectToServer_cases (result : ConnectResult) (client : TcpClient)
    (disconnected : client.socketFd = none) :
    (∃ line, connectToServer result client = (false, client.logLine line)) ∨
    ∃ line, connectToServer result client =
      (true, { client with
        socketFd := some client.opened
        opened := client.opened + 1
        log := client.log ++ [line] }) := by
  have fresh : ¬ client.isConnected = true := by simp [isConnected, disconnected]
  simp only [connectToServer, if_neg fresh]
  cases result with
  | socketFailed | invalidAddress | connectFailed => exact .inl ⟨_, rfl⟩
  | established => exact .inr ⟨_, rfl⟩

end TcpClient
end LMonitor

import LMonitor.Network.TcpConnection

namespace LMonitor.TcpServer

/-- The server starts without connections. -/
def initial : ServerState where
  heap _ := TcpConnection.construct (-1) []
  freed _ := true
  connections := ∅
  closes := []
  delivered := []
  dangling := []

/-- This is the object that the server builds for an accepted client. -/
def acceptedConnection (clientFd : Int) (clientName : Bytes) : TcpConnection :=
  { TcpConnection.construct clientFd clientName with
    messageCallback := true
    closeCallback := true }

/-- The new object lives at its address. -/
def allocate (this : Address) (connection : TcpConnection) (s : ServerState) : ServerState :=
  { s with
    heap := Function.update s.heap this connection
    freed := Function.update s.freed this false }

/-- A refused epoll registration makes the constructor throw, and the callback closes the client. -/
def newConnectionCallback (this : Address) (registered : Bool) (clientFd : Int)
    (clientName : Bytes) (s : ServerState) : ServerState :=
  if registered then
    let s := allocate this (acceptedConnection clientFd clientName) s
    -- `emplace` keeps an entry that is already there and drops the new object.
    match s.connections.lookup clientFd with
    | some _ => TcpConnection.destroy this s
    | none => { s with connections := s.connections.insert clientFd this }
  else { s with closes := s.closes ++ [clientFd] }

/-- The server accepted a client under a free descriptor. -/
def accept (this : Address) (clientFd : Int) (clientName : Bytes) (s : ServerState) : ServerState :=
  newConnectionCallback this true clientFd clientName s

end LMonitor.TcpServer

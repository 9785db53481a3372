import LMonitor.Library.Bytes
import Mathlib.Data.List.AList

namespace LMonitor

def epollIn : UInt32 := 0x001

def epollErr : UInt32 := 0x008

def epollHup : UInt32 := 0x010

def epollRdHup : UInt32 := 0x2000

/-- A channel callback runs one of the handlers that the connection constructor installs. -/
inductive Handler where
  | handleRead
  | handleClose
  | handleError
  deriving DecidableEq

/-- A channel joins a descriptor to its registered events and its three callbacks. -/
structure Channel where
  fd : Int
  events : UInt32
  readCallback : Option Handler
  closeCallback : Option Handler
  errorCallback : Option Handler

/-- The two flags tell whether the server installed its message and close callbacks. -/
structure TcpConnection where
  fd : Int
  clientName : Bytes
  channel : Channel
  pendingData : Bytes
  messageCallback : Bool
  closeCallback : Bool
  closing : Bool

/-- These are the members of a connection and of the channel inside it. -/
inductive Member where
  | eventLoop
  | fd
  | clientName
  | channelFd
  | readCallback
  | channelCloseCallback
  | errorCallback
  | pendingData
  | messageCallback
  | closeCallback
  | closing
  deriving DecidableEq

/-- A step reads a member, writes a member or calls `recv` for the connection. -/
inductive Use where
  | read (member : Member)
  | write (member : Member)
  | recv
  deriving DecidableEq

/-- An address names one connection object. -/
abbrev Address := Nat

/-- The state keeps every object ever built, since a dangling pointer still reaches its memory. -/
structure ServerState where
  heap : Address → TcpConnection
  freed : Address → Bool
  connections : AList fun _ : Int => Address
  closes : List Int
  delivered : List (Bytes × Bytes)
  dangling : List (Address × Use)

namespace ServerState

/-- A use of an object after its lifetime is recorded. -/
def use (this : Address) (action : Use) (s : ServerState) : ServerState :=
  if s.freed this then { s with dangling := s.dangling ++ [(this, action)] } else s

def modify (this : Address) (change : TcpConnection → TcpConnection) (s : ServerState) :
    ServerState :=
  { s with heap := Function.update s.heap this (change (s.heap this)) }

/-- A write uses the member and changes the object. -/
def write (this : Address) (member : Member) (change : TcpConnection → TcpConnection)
    (s : ServerState) : ServerState :=
  (s.use this (.write member)).modify this change

variable (this : Address) (action : Use) (member : Member)
  (change : TcpConnection → TcpConnection) (s : ServerState)

@[simp] theorem use_heap : (s.use this action).heap = s.heap := by
  unfold use
  split <;> rfl

@[simp] theorem use_freed : (s.use this action).freed = s.freed := by
  unfold use
  split <;> rfl

@[simp] theorem use_connections : (s.use this action).connections = s.connections := by
  unfold use
  split <;> rfl

@[simp] theorem use_closes : (s.use this action).closes = s.closes := by
  unfold use
  split <;> rfl

@[simp] theorem use_delivered : (s.use this action).delivered = s.delivered := by
  unfold use
  split <;> rfl

/-- A live object takes every use without a record. -/
theorem use_alive (alive : s.freed this = false) : s.use this action = s := by
  simp [use, alive]

/-- A use of freed memory dangles. -/
theorem use_dead (dead : s.freed this = true) :
    (s.use this action).dangling = s.dangling ++ [(this, action)] := by
  simp [use, dead]

theorem use_dangling : s.dangling <+: (s.use this action).dangling := by
  unfold use
  split
  · exact List.prefix_append _ _
  · exact List.prefix_rfl

@[simp] theorem modify_heap : (s.modify this change).heap this = change (s.heap this) := by
  simp [modify]

@[simp] theorem modify_freed : (s.modify this change).freed = s.freed := rfl

@[simp] theorem modify_connections : (s.modify this change).connections = s.connections := rfl

@[simp] theorem modify_delivered : (s.modify this change).delivered = s.delivered := rfl

@[simp] theorem modify_dangling : (s.modify this change).dangling = s.dangling := rfl

@[simp] theorem write_heap :
    (s.write this member change).heap this = change (s.heap this) := by
  simp [write]

@[simp] theorem write_delivered : (s.write this member change).delivered = s.delivered := by
  simp [write]

/-- A change of a live object touches nothing else. -/
theorem write_alive (alive : s.freed this = false) :
    s.write this member change = s.modify this change := by
  rw [write, s.use_alive this _ alive]

theorem write_dangling : s.dangling <+: (s.write this member change).dangling := by
  simpa [write] using s.use_dangling this (.write member)

end ServerState
end LMonitor

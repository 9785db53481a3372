import LMonitor.Library.Loop
import LMonitor.Network.ConnectionMemory
import LMonitor.Protocol.FrameCodec

namespace LMonitor
open Library

/-- A `recv` call returns bytes, none at the end of the stream, or fails with an error number. -/
inductive Errno where
  | eintr
  | eagain
  | other
  deriving DecidableEq

inductive RecvResult where
  | received (bytes : Bytes)
  | failed (errno : Errno)
  deriving DecidableEq

namespace TcpConnection

/-- The constructor installs its three handlers in the channel. -/
def construct (fd : Int) (clientName : Bytes) : TcpConnection where
  fd := fd
  clientName := clientName
  channel := ⟨fd, epollIn ||| epollRdHup, some .handleRead, some .handleClose, some .handleError⟩
  pendingData := []
  messageCallback := false
  closeCallback := false
  closing := false

/-- The destructor leaves epoll, closes the descriptor and ends the lifetime. -/
def destroy (this : Address) (s : ServerState) : ServerState :=
  let s := (s.use this (.read .eventLoop)).use this (.read .channelFd)
  let s := s.use this (.read .fd)
  let s := if 0 ≤ (s.heap this).fd then
      { s with closes := s.closes ++ [(s.heap this).fd] }.write this .fd
        fun connection => { connection with fd := -1 }
    else s
  { s with freed := Function.update s.freed this true }

/-- The close callback of the server erases the table entry, which owns the object. -/
def closeCallbackOfServer (fd : Int) (s : ServerState) : ServerState :=
  match s.connections.lookup fd with
  | none => s
  | some owned => { destroy owned s with connections := s.connections.erase fd }

def requestClose (this : Address) (s : ServerState) : ServerState :=
  let s := s.use this (.read .closing)
  if (s.heap this).closing then s
  else
    let s := s.write this .closing fun connection => { connection with closing := true }
    let s := s.use this (.read .closeCallback)
    if (s.heap this).closeCallback then
      let s := s.use this (.read .fd)
      closeCallbackOfServer (s.heap this).fd s
    else s.use this (.read .clientName)

/-- The message callback receives the client name and one payload. -/
def deliver (this : Address) (message : Bytes) (s : ServerState) : ServerState :=
  let s := s.use this (.read .messageCallback)
  if (s.heap this).messageCallback then
    let s := s.use this (.read .clientName)
    { s with delivered := s.delivered ++ [((s.heap this).clientName, message)] }
  else s

/-- One pass decodes one frame from the pending bytes. -/
def processPass (this : Address) (s : ServerState) : Pass ServerState ServerState :=
  let s := s.use this (.read .pendingData)
  let call := FrameCodec.tryDecode (s.heap this).pendingData []
  match call.result with
  | .ok false => .leave s
  | .error _ => .leave (requestClose this (s.use this (.read .clientName)))
  | .ok true =>
      let s := s.write this .pendingData fun connection =>
        { connection with pendingData := call.buffer }
      .again (deliver this call.payload s)

@[simp] theorem deliver_heap (this : Address) (message : Bytes) (s : ServerState) :
    (deliver this message s).heap = s.heap := by
  simp only [deliver]
  split <;> simp

/-- Each frame shortens the pending bytes, which ends the loop. -/
def processLoop (this : Address) : Loop ServerState ServerState where
  body := processPass this
  measure s := (s.heap this).pendingData.length
  decreases s next pass := by
    rcases FrameCodec.tryDecode_cases (s.heap this).pendingData [] with
      ⟨_, call⟩ | ⟨_, _, call⟩ | ⟨_, _, _, call⟩ | ⟨body, rest, _, split, call⟩
    · simp [processPass, call] at pass
    · simp [processPass, call] at pass
    · simp [processPass, call] at pass
    · simp only [processPass, ServerState.use_heap, call, Pass.again.injEq] at pass
      rw [← pass, deliver_heap, ServerState.write_heap, split]
      simp only [FrameCodec.headerSize, List.length_append, FrameCodec.frame_length]
      omega

def processPendingData (this : Address) (s : ServerState) : ServerState :=
  (processLoop this).run s

def appendPending (this : Address) (chunk : Bytes) (s : ServerState) : ServerState :=
  s.write this .pendingData fun connection =>
    { connection with pendingData := connection.pendingData ++ chunk }

/-- One received chunk joins the pending bytes before they are processed. -/
def receiveChunk (this : Address) (chunk : Bytes) (s : ServerState) : ServerState :=
  processPendingData this (appendPending this chunk s)

/-- The read loop consumes one result of `recv` in each pass. -/
def readLoop (this : Address) : List RecvResult → ServerState → ServerState
  | [], s => (s.use this (.read .fd)).use this .recv
  | result :: results, s =>
      let s := (s.use this (.read .fd)).use this .recv
      match result with
      | .received [] => requestClose this s
      | .received (byte :: bytes) => readLoop this results (receiveChunk this (byte :: bytes) s)
      | .failed .eintr => readLoop this results s
      | .failed .eagain => s
      | .failed .other =>
          requestClose this ((s.use this (.read .clientName)).use this (.read .fd))

def handleRead (this : Address) (results : List RecvResult) (s : ServerState) : ServerState :=
  let s := s.use this (.read .closing)
  if (s.heap this).closing then s else readLoop this results s

def handleClose (this : Address) (s : ServerState) : ServerState := requestClose this s

def handleError (this : Address) (s : ServerState) : ServerState :=
  let s := s.use this (.read .closing)
  if (s.heap this).closing then s
  else requestClose this ((s.use this (.read .clientName)).use this (.read .fd))

end TcpConnection
end LMonitor

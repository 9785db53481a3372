import LMonitor.Network.TcpConnection

namespace LMonitor.Channel
open TcpConnection

/-- A handler of the connection runs, and only the read handler calls `recv`. -/
def dispatch (this : Address) (results : List RecvResult) (s : ServerState) :
    Handler → ServerState
  | .handleRead => handleRead this results s
  | .handleClose => handleClose this s
  | .handleError => handleError this s

/-- The channel reads one callback member and calls what it holds. -/
def fire (this : Address) (member : Member) (callback : Channel → Option Handler)
    (results : List RecvResult) (s : ServerState) : ServerState :=
  let s := s.use this (.read member)
  match callback (s.heap this).channel with
  | some handler => dispatch this results s handler
  | none => s

/-- The channel serves the error bit, the read bit and the close bits in this order. -/
def handleEvent (this : Address) (revents : UInt32) (results : List RecvResult)
    (s : ServerState) : ServerState :=
  let s := if revents &&& epollErr ≠ 0 then
      fire this .errorCallback Channel.errorCallback results s else s
  let s := if revents &&& epollIn ≠ 0 then
      fire this .readCallback Channel.readCallback results s else s
  if revents &&& (epollHup ||| epollRdHup) ≠ 0 then
    fire this .channelCloseCallback Channel.closeCallback results s else s

end LMonitor.Channel

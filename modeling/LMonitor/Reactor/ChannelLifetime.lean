import LMonitor.Network.TcpConnectionLaw
import LMonitor.Reactor.Channel
import LMonitor.Server.Connections

namespace LMonitor
open Library FrameCodec TcpServer

namespace TcpConnection

/-- A step never removes a recorded use. -/
theorem destroy_extends (owned : Address) (s : ServerState) :
    s.dangling <+: (destroy owned s).dangling := by
  let looked :=
    ((s.use owned (.read .eventLoop)).use owned (.read .channelFd)).use owned (.read .fd)
  have used : s.dangling <+: looked.dangling :=
    ((s.use_dangling owned (.read .eventLoop)).trans
      (ServerState.use_dangling owned (.read .channelFd) _)).trans
      (ServerState.use_dangling owned (.read .fd) _)
  have reset := ServerState.write_dangling owned .fd
    (fun connection => { connection with fd := -1 })
    { looked with closes := looked.closes ++ [(looked.heap owned).fd] }
  simp only [destroy]
  split
  · exact used.trans reset
  · exact used

/-- The close callback forgets no dangling use. -/
theorem closeCallbackOfServer_extends (fd : Int) (s : ServerState) :
    s.dangling <+: (closeCallbackOfServer fd s).dangling := by
  unfold closeCallbackOfServer
  split
  · exact List.prefix_rfl
  · exact destroy_extends _ s

theorem requestClose_extends (this : Address) (s : ServerState) :
    s.dangling <+: (requestClose this s).dangling := by
  have first := s.use_dangling this (.read .closing)
  simp only [requestClose]
  split
  · exact first
  · have marked := first.trans (ServerState.write_dangling this .closing
      (fun connection => { connection with closing := true }) _)
    have looked := marked.trans (ServerState.use_dangling this (.read .closeCallback) _)
    split
    · exact (looked.trans (ServerState.use_dangling this (.read .fd) _)).trans
        (closeCallbackOfServer_extends _ _)
    · exact looked.trans (ServerState.use_dangling this (.read .clientName) _)

theorem deliver_extends (this : Address) (message : Bytes) (s : ServerState) :
    s.dangling <+: (deliver this message s).dangling := by
  have first := s.use_dangling this (.read .messageCallback)
  simp only [deliver]
  split
  · exact first.trans (ServerState.use_dangling this (.read .clientName) _)
  · exact first

theorem process_extends (this : Address) (s : ServerState) :
    s.dangling <+: (processPendingData this s).dangling := by
  generalize bytes : (s.heap this).pendingData = buffer
  have looked := s.use_dangling this (.read .pendingData)
  induction buffer using Decoder.drain.induct decoder generalizing s with
  | case1 buffer decision =>
      rw [process_wait (bytes.symm ▸ decision)]
      exact looked
  | case2 buffer decision =>
      rw [process_reject (bytes.symm ▸ decision)]
      exact (looked.trans (ServerState.use_dangling this (.read .clientName) _)).trans
        (requestClose_extends _ _)
  | case3 buffer body rest decision ih =>
      rw [process_item (bytes.symm ▸ decision)]
      have stored := looked.trans (ServerState.write_dangling this .pendingData
        (fun connection => { connection with pendingData := rest }) _)
      exact (stored.trans (deliver_extends this body _)).trans
        (ih (delivered this body rest s) (by simp [delivered]) (ServerState.use_dangling _ _ _))

theorem receiveChunk_extends (this : Address) (chunk : Bytes) (s : ServerState) :
    s.dangling <+: (receiveChunk this chunk s).dangling :=
  (ServerState.write_dangling this .pendingData _ s).trans (process_extends this _)

/-- Each pass of the read loop first calls `recv`. -/
def askRecv (this : Address) (s : ServerState) : ServerState :=
  (s.use this (.read .fd)).use this .recv

theorem askRecv_extends (this : Address) (s : ServerState) :
    s.dangling <+: (askRecv this s).dangling :=
  (s.use_dangling this (.read .fd)).trans (ServerState.use_dangling this .recv _)

/-- The loop over the reads first asks for the descriptor. -/
theorem readLoop_extends_ask (this : Address) (results : List RecvResult) (s : ServerState) :
    (askRecv this s).dangling <+: (readLoop this results s).dangling := by
  induction results generalizing s with
  | nil => exact List.prefix_rfl
  | cons result results ih =>
      match result with
      | .received [] => exact requestClose_extends this _
      | .received (byte :: bytes) =>
          exact (receiveChunk_extends this (byte :: bytes) (askRecv this s)).trans
            ((askRecv_extends this _).trans (ih _))
      | .failed .eintr => exact (askRecv_extends this (askRecv this s)).trans (ih _)
      | .failed .eagain => exact List.prefix_rfl
      | .failed .other =>
          exact ((ServerState.use_dangling this (.read .clientName) _).trans
            (ServerState.use_dangling this (.read .fd) _)).trans (requestClose_extends this _)

theorem handleRead_extends (this : Address) (results : List RecvResult) (s : ServerState) :
    s.dangling <+: (handleRead this results s).dangling := by
  have first := s.use_dangling this (.read .closing)
  simp only [handleRead]
  split
  · exact first
  · exact (first.trans (askRecv_extends this _)).trans (readLoop_extends_ask this results _)

theorem handleError_extends (this : Address) (s : ServerState) :
    s.dangling <+: (handleError this s).dangling := by
  have first := s.use_dangling this (.read .closing)
  simp only [handleError]
  split
  · exact first
  · exact ((first.trans (ServerState.use_dangling this (.read .clientName) _)).trans
      (ServerState.use_dangling this (.read .fd) _)).trans (requestClose_extends this _)

/-- A live connection is open, and the table owns it under its descriptor. -/
structure Live (this : Address) (fd : Int) (clientName pending : Bytes) (s : ServerState) : Prop where
  alive : s.freed this = false
  object : s.heap this = { acceptedConnection fd clientName with pendingData := pending }
  owned : s.connections.lookup fd = some this

/-- An accepted connection is live when its descriptor was free. -/
theorem accept_live (this : Address) (fd : Int) (clientName : Bytes) (s : ServerState)
    (free : s.connections.lookup fd = none) :
    Live this fd clientName [] (accept this fd clientName s) := by
  simp only [accept, newConnectionCallback, if_true]
  have vacant : (allocate this (acceptedConnection fd clientName) s).connections.lookup fd = none :=
    free
  rw [vacant]
  constructor <;> simp [allocate, acceptedConnection, construct]

/-- The step ended the lifetime of the object and used it only before that. -/
structure ClosedCleanly (this : Address) (s after : ServerState) : Prop where
  dead : after.freed this = true
  clean : after.dangling = s.dangling

section Live
variable {this : Address} {fd : Int} {clientName pending : Bytes} {s : ServerState}

@[simp] theorem Live.use (live : Live this fd clientName pending s) (action : Use) :
    s.use this action = s := s.use_alive this action live.alive

theorem Live.modify (live : Live this fd clientName pending s) (more : Bytes) :
    Live this fd clientName more (s.modify this fun connection =>
      { connection with pendingData := more }) := by
  constructor
  · simpa using live.alive
  · simp [live.object]
  · simpa using live.owned

/-- A live object is destroyed without a dangling use. -/
theorem destroy_alive {this : Address} {s : ServerState} (alive : s.freed this = false) :
    ClosedCleanly this s (destroy this s) := by
  constructor
  · simp [destroy]
  · simp only [destroy, s.use_alive this _ alive]
    split <;> simp [ServerState.write, ServerState.use, alive]

/-- A live object closes without a dangling use. -/
theorem Live.requestClose (live : Live this fd clientName pending s) :
    ClosedCleanly this s (requestClose this s) := by
  have marked : (s.modify this fun connection => { connection with closing := true }).freed this =
      false := live.alive
  have owned : (s.modify this fun connection =>
      { connection with closing := true }).connections.lookup fd = some this := live.owned
  have steps : TcpConnection.requestClose this s = closeCallbackOfServer fd
      (s.modify this fun connection => { connection with closing := true }) := by
    simp [TcpConnection.requestClose, s.use_alive this _ live.alive,
      s.write_alive this _ _ live.alive, ServerState.use_alive this _ _ marked, live.object,
      acceptedConnection, construct]
  rw [steps, closeCallbackOfServer, owned]
  exact ⟨(destroy_alive marked).dead, (destroy_alive marked).clean⟩

/-- Pending bytes without an invalid frame leave the connection live. -/
theorem Live.process (live : Live this fd clientName pending s) :
    if (decoder.drain pending).rejected then ClosedCleanly this s (processPendingData this s)
    else Live this fd clientName (decoder.drain pending).rest (processPendingData this s) ∧
      (processPendingData this s).dangling = s.dangling := by
  have bytes : (s.heap this).pendingData = pending := by rw [live.object]
  induction pending using Decoder.drain.induct decoder generalizing s with
  | case1 buffer decision =>
      rw [decoder.drain_wait decision, process_wait (bytes.symm ▸ decision), live.use]
      exact ⟨live, rfl⟩
  | case2 buffer decision =>
      rw [decoder.drain_reject decision, process_reject (bytes.symm ▸ decision), live.use, live.use]
      exact live.requestClose
  | case3 buffer body rest decision ih =>
      rw [decoder.drain_item decision, process_item (bytes.symm ▸ decision)]
      have stored : delivered this body rest s = { s.modify this fun connection =>
          { connection with pendingData := rest } with
          delivered := s.delivered ++ [(clientName, body)] } := by
        simp [delivered, deliver, s.write_alive this _ _ live.alive,
          ServerState.use_alive this _ _ (live.modify rest).alive, s.use_alive this _ live.alive,
          live.object, acceptedConnection, construct]
      have next : Live this fd clientName rest (delivered this body rest s) := by
        rw [stored]
        exact ⟨(live.modify rest).alive, (live.modify rest).object, (live.modify rest).owned⟩
      have final := ih next (by rw [next.object])
      have same : (delivered this body rest s).dangling = s.dangling := by rw [stored]; rfl
      split at final
      · rename_i rejected
        rw [if_pos rejected]
        exact ⟨final.dead, final.clean.trans same⟩
      · rename_i accepted
        rw [if_neg accepted]
        exact ⟨final.1, final.2.trans same⟩

/-- A chunk joins the pending bytes and is then processed. -/
theorem Live.receiveChunk (live : Live this fd clientName pending s) (chunk : Bytes) :
    if (decoder.drain (pending ++ chunk)).rejected then
      ClosedCleanly this s (receiveChunk this chunk s)
    else
      Live this fd clientName (decoder.drain (pending ++ chunk)).rest (receiveChunk this chunk s) ∧
      (receiveChunk this chunk s).dangling = s.dangling := by
  have appended : appendPending this chunk s = s.modify this fun connection =>
      { connection with pendingData := pending ++ chunk } := by
    rw [appendPending, s.write_alive this _ _ live.alive]
    simp only [ServerState.modify, live.object]
  have processed := (live.modify (pending ++ chunk)).process
  rw [← appended] at processed
  have same : (appendPending this chunk s).dangling = s.dangling := by rw [appended]; rfl
  split at processed
  · rename_i rejected
    rw [if_pos rejected]
    exact ⟨processed.dead, processed.clean.trans same⟩
  · rename_i accepted
    rw [if_neg accepted]
    exact ⟨processed.1, processed.2.trans same⟩

end Live

/-- These bytes arrive before the read loop leaves. -/
def readBytes : List RecvResult → Bytes
  | .received (byte :: bytes) :: results => byte :: bytes ++ readBytes results
  | .failed .eintr :: results => readBytes results
  | _ => []

/-- The read loop ends with a close request at the end of the stream and at a hard error. -/
def readCloses : List RecvResult → Bool
  | [] => false
  | .received [] :: _ => true
  | .received (_ :: _) :: results => readCloses results
  | .failed .eintr :: results => readCloses results
  | .failed .eagain :: _ => false
  | .failed .other :: _ => true

/-- The received bytes complete the header of an oversized frame. -/
def BringsInvalidFrame (pending : Bytes) (results : List RecvResult) : Prop :=
  readBytes results ≠ [] ∧ (decoder.drain (pending ++ readBytes results)).rejected = true

instance (pending : Bytes) (results : List RecvResult) :
    Decidable (BringsInvalidFrame pending results) := inferInstanceAs (Decidable (_ ∧ _))

/-- Drained bytes bring an invalid frame exactly when the later bytes do. -/
theorem bringsInvalidFrame_drained {pending chunk : Bytes} (results : List RecvResult)
    (accepted : (decoder.drain (pending ++ chunk)).rejected = false) :
    BringsInvalidFrame (decoder.drain (pending ++ chunk)).rest results ↔
      (decoder.drain (pending ++ (chunk ++ readBytes results))).rejected = true := by
  have waits := decoder.drain_stops (pending ++ chunk)
  rw [if_neg (by simp [accepted])] at waits
  rw [← List.append_assoc, decoder.drain_append (pending ++ chunk)]
  simp only [BringsInvalidFrame, Drained.andThen, and_iff_right_iff_imp]
  intro rejected empty
  rw [empty, List.append_nil, decoder.drain_wait waits] at rejected
  contradiction

/-- A read of a destroyed object dangles. -/
theorem askRecv_dead {this : Address} {s : ServerState} (dead : s.freed this = true) :
    s.dangling ++ [(this, .read .fd)] <+: (askRecv this s).dangling := by
  rw [← s.use_dead this _ dead]
  exact ServerState.use_dangling this .recv _

/-- The read loop goes on with a freed object, closes it as its last act or leaves it live. -/
inductive ReadOutcome (this : Address) (fd : Int) (clientName pending : Bytes)
    (results : List RecvResult) (s after : ServerState) : Prop where
  | dangles (invalid : BringsInvalidFrame pending results)
      (recorded : s.dangling ++ [(this, .read .fd)] <+: after.dangling)
  | closes (valid : ¬ BringsInvalidFrame pending results) (ends : readCloses results = true)
      (cleanly : ClosedCleanly this s after)
  | stays (valid : ¬ BringsInvalidFrame pending results) (goesOn : readCloses results = false)
      (live : ∃ rest, Live this fd clientName rest after) (clean : after.dangling = s.dangling)

/-- The read loop uses a freed object as soon as it goes on after an invalid frame. -/
theorem Live.readLoop {this : Address} {fd : Int} {clientName pending : Bytes} {s : ServerState}
    (live : Live this fd clientName pending s) (results : List RecvResult) :
    ReadOutcome this fd clientName pending results s (readLoop this results s) := by
  induction results generalizing pending s with
  | nil =>
      have asked : TcpConnection.readLoop this [] s = s := by
        rw [TcpConnection.readLoop, live.use, live.use]
      rw [asked]
      exact .stays (by simp [BringsInvalidFrame, readBytes]) rfl ⟨pending, live⟩ rfl
  | cons result results ih =>
      match result with
      | .received [] =>
          rw [TcpConnection.readLoop, live.use, live.use]
          exact .closes (by simp [BringsInvalidFrame, readBytes]) rfl live.requestClose
      | .received (byte :: bytes) =>
          rw [TcpConnection.readLoop, live.use, live.use]
          have received := live.receiveChunk (byte :: bytes)
          have whole : BringsInvalidFrame pending (.received (byte :: bytes) :: results) ↔
              (decoder.drain (pending ++ (byte :: bytes ++ readBytes results))).rejected = true := by
            simp [BringsInvalidFrame, readBytes]
          by_cases rejected : (decoder.drain (pending ++ (byte :: bytes))).rejected = true
          · -- The object is gone, but the loop asks for more bytes.
            rw [if_pos rejected] at received
            have later := decoder.drain_rejected_append _ (readBytes results) rejected
            refine .dangles (whole.mpr (by rw [← List.append_assoc, later])) ?_
            rw [← received.clean]
            exact (askRecv_dead received.dead).trans (readLoop_extends_ask this results _)
          · rw [if_neg rejected] at received
            have same := whole.trans (bringsInvalidFrame_drained results
              (Bool.eq_false_iff.mpr rejected)).symm
            cases ih received.1 with
            | dangles invalid recorded =>
                exact .dangles (same.mpr invalid) (received.2 ▸ recorded)
            | closes valid ends cleanly =>
                exact .closes (mt same.mp valid) ends
                  ⟨cleanly.dead, cleanly.clean.trans received.2⟩
            | stays valid goesOn live clean =>
                exact .stays (mt same.mp valid) goesOn live (clean.trans received.2)
      | .failed .eintr =>
          rw [TcpConnection.readLoop, live.use, live.use]
          cases ih live with
          | dangles invalid recorded => exact .dangles invalid recorded
          | closes valid ends cleanly => exact .closes valid ends cleanly
          | stays valid goesOn live clean => exact .stays valid goesOn live clean
      | .failed .eagain =>
          rw [TcpConnection.readLoop, live.use, live.use]
          exact .stays (by simp [BringsInvalidFrame, readBytes]) rfl ⟨pending, live⟩ rfl
      | .failed .other =>
          rw [TcpConnection.readLoop, live.use, live.use, live.use, live.use]
          exact .closes (by simp [BringsInvalidFrame, readBytes]) rfl live.requestClose

theorem Live.handleRead {this : Address} {fd : Int} {clientName pending : Bytes} {s : ServerState}
    (live : Live this fd clientName pending s) (results : List RecvResult) :
    handleRead this results s = TcpConnection.readLoop this results s := by
  simp [TcpConnection.handleRead, s.use_alive this _ live.alive, live.object, acceptedConnection,
    construct]

theorem Live.handleError {this : Address} {fd : Int} {clientName pending : Bytes} {s : ServerState}
    (live : Live this fd clientName pending s) :
    handleError this s = TcpConnection.requestClose this s := by
  simp [TcpConnection.handleError, s.use_alive this _ live.alive, live.object, acceptedConnection,
    construct]

end TcpConnection

open TcpConnection

namespace Channel

theorem dispatch_extends (this : Address) (results : List RecvResult) (s : ServerState)
    (handler : Handler) : s.dangling <+: (dispatch this results s handler).dangling := by
  cases handler with
  | handleRead => exact handleRead_extends this results s
  | handleClose => exact requestClose_extends this s
  | handleError => exact handleError_extends this s

theorem fire_extends (this : Address) (member : Member) (callback : Channel → Option Handler)
    (results : List RecvResult) (s : ServerState) :
    (s.use this (.read member)).dangling <+: (fire this member callback results s).dangling := by
  simp only [fire]
  split
  · exact dispatch_extends this results _ _
  · exact List.prefix_rfl

/-- A freed channel cannot fire without a dangling read. -/
theorem fire_freed {this : Address} {s : ServerState} (dead : s.freed this = true)
    (member : Member) (callback : Channel → Option Handler) (results : List RecvResult) :
    s.dangling ++ [(this, .read member)] <+: (fire this member callback results s).dangling := by
  have recorded := fire_extends this member callback results s
  rwa [s.use_dead this _ dead] at recorded

section Live
variable {this : Address} {fd : Int} {clientName pending : Bytes} {s : ServerState}

theorem fire_error (live : Live this fd clientName pending s) (results : List RecvResult) :
    fire this .errorCallback Channel.errorCallback results s = requestClose this s := by
  simp only [fire, s.use_alive this _ live.alive, live.object]
  exact live.handleError

theorem fire_read (live : Live this fd clientName pending s) (results : List RecvResult) :
    fire this .readCallback Channel.readCallback results s = readLoop this results s := by
  simp only [fire, s.use_alive this _ live.alive, live.object]
  exact live.handleRead results

theorem fire_close (live : Live this fd clientName pending s) (results : List RecvResult) :
    fire this .channelCloseCallback Channel.closeCallback results s = requestClose this s := by
  simp only [fire, s.use_alive this _ live.alive, live.object]
  rfl

end Live

/-- The close request is the last thing that the dispatch does. -/
def CloseIsLast (revents : UInt32) (pending : Bytes) (results : List RecvResult) : Prop :=
  if revents &&& epollErr ≠ 0 then
    revents &&& epollIn = 0 ∧ revents &&& (epollHup ||| epollRdHup) = 0
  else if revents &&& epollIn ≠ 0 then
    ¬ BringsInvalidFrame pending results ∧
      (readCloses results = true → revents &&& (epollHup ||| epollRdHup) = 0)
  else True

/-- A prefix that ends in a new record shows a dangling use. -/
theorem extended_ne {first second : List (Address × Use)} {record : Address × Use}
    (grown : first ++ [record] <+: second) : second ≠ first := by
  rintro rfl
  have lengths := grown.length_le
  rw [List.length_append, List.length_singleton] at lengths
  omega

/-- The close bits fire the last callback, which removes no record. -/
theorem hangup_extends (this : Address) (hangs : Prop) [Decidable hangs]
    (results : List RecvResult) (s : ServerState) :
    s.dangling <+:
      (if hangs then fire this .channelCloseCallback Channel.closeCallback results s
        else s).dangling := by
  split
  · exact (ServerState.use_dangling _ _ _).trans (fire_extends _ _ _ _ _)
  · exact List.prefix_rfl

/-- After a clean close the close bits may not be set. -/
theorem hangup_iff {this : Address} {s after : ServerState}
    (closed : ClosedCleanly this s after) (hangs : Prop) [Decidable hangs]
    (results : List RecvResult) :
    (if hangs then fire this .channelCloseCallback Channel.closeCallback results after
        else after).dangling = s.dangling ↔ ¬ hangs := by
  by_cases set : hangs
  · simp only [set, if_true, not_true_eq_false, iff_false]
    apply extended_ne
    rw [← closed.clean]
    exact fire_freed closed.dead .channelCloseCallback Channel.closeCallback results
  · simp only [set, if_false, not_false_eq_true, iff_true]
    exact closed.clean

/-- A dispatch uses no member after the erase exactly when its close request comes last. -/
theorem handleEvent_dangling_iff (this : Address) (fd : Int) (clientName pending : Bytes)
    (s : ServerState) (live : Live this fd clientName pending s) (revents : UInt32)
    (results : List RecvResult) :
    (handleEvent this revents results s).dangling = s.dangling ↔
      CloseIsLast revents pending results := by
  unfold handleEvent CloseIsLast
  by_cases err : revents &&& epollErr ≠ 0
  · -- The error handler closes first, so every later callback read dangles.
    simp only [if_pos err, fire_error live]
    have closed := live.requestClose
    by_cases readable : revents &&& epollIn ≠ 0
    · simp only [if_pos readable, readable, false_and, iff_false]
      apply extended_ne
      rw [← closed.clean]
      exact (fire_freed closed.dead .readCallback Channel.readCallback results).trans
        (hangup_extends _ _ _ _)
    · simp only [not_not.mp readable, true_and]
      exact (hangup_iff closed _ results).trans not_not
  · simp only [if_neg err]
    by_cases readable : revents &&& epollIn ≠ 0
    · simp only [if_pos readable, fire_read live]
      cases live.readLoop results with
      | dangles invalid recorded =>
          simp only [invalid, not_true_eq_false, false_and, iff_false]
          exact extended_ne (recorded.trans (hangup_extends _ _ _ _))
      | closes valid ends cleanly =>
          simp only [valid, not_false_eq_true, ends, forall_const, true_and]
          exact (hangup_iff cleanly _ results).trans not_not
      | stays valid goesOn live clean =>
          obtain ⟨rest, live⟩ := live
          simp only [valid, not_false_eq_true, goesOn, Bool.false_eq_true, false_implies,
            and_self, iff_true]
          split
          · rw [fire_close live]
            exact live.requestClose.clean.trans clean
          · exact clean
    · simp only [if_neg readable, iff_true]
      split
      · rw [fire_close live]
        exact live.requestClose.clean
      · rfl

/-- The peer closes after half a header, and the channel has nothing more to dispatch. -/
theorem handleEvent_dangling_iff_eof :
    (handleEvent 0 epollIn [.received [0, 0], .received []]
        (accept 0 5 (ascii "10.0.0.1:4000") initial)).dangling =
        (accept 0 5 (ascii "10.0.0.1:4000") initial).dangling ↔
      CloseIsLast epollIn [] [.received [0, 0], .received []] :=
  handleEvent_dangling_iff 0 5 (ascii "10.0.0.1:4000") [] _
    (accept_live 0 5 (ascii "10.0.0.1:4000") initial rfl) epollIn _

/-- An oversized header frees the connection, and the read loop calls `recv` for it again. -/
theorem handleEvent_invalid_frame_dangles :
    (handleEvent 0 epollIn [.received [255, 255, 255, 255]]
      (accept 0 5 (ascii "10.0.0.1:4000") initial)).dangling =
        [(0, .read .fd), (0, .recv)] := by
  decide

end Channel
end LMonitor

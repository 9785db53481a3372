import LMonitor.Network.ConnectionEffects
import LMonitor.Reactor.ChannelLifetime

namespace LMonitor
open Library FrameCodec TcpServer

namespace TcpConnection
variable {this : Address} {fd : Int} {clientName pending : Bytes} {s : ServerState}

/-- A request to close marks the object. -/
theorem requestClose_closing (this : Address) (s : ServerState) :
    ((requestClose this s).heap this).closing = true := by
  obtain ⟨fd, object⟩ := requestClose_heap this s
  rw [object]

/-- The drain of these bytes decides what a live connection delivers, holds and survives. -/
structure HasRead (this : Address) (fd : Int) (clientName : Bytes) (drained : Drained UInt8 Bytes)
    (ends : Prop) (s after : ServerState) : Prop where
  messages : after.delivered =
    s.delivered ++ drained.items.map fun message => (clientName, message)
  closed : drained.rejected = true ∨ ends →
    after.freed this = true ∧ (after.heap this).closing = true
  live : drained.rejected = false → ¬ ends → Live this fd clientName drained.rest after

/-- The drain of the remaining bytes follows the drain of the first ones. -/
theorem HasRead.trans {first : Bytes} {rest : Bytes} {ends : Prop} {middle after : ServerState}
    (chunk : HasRead this fd clientName (decoder.drain first) False s middle)
    (later : HasRead this fd clientName
      (decoder.drain ((decoder.drain first).rest ++ rest)) ends middle after) :
    HasRead this fd clientName (decoder.drain (first ++ rest)) ends s after := by
  rw [decoder.drain_append]
  constructor
  · rw [later.messages, chunk.messages]
    simp [Drained.andThen]
  · exact later.closed
  · exact later.live

/-- What an accepted drain leaves holds no further item. -/
theorem live_waits (accepted : (decoder.drain pending).rejected = false) :
    decoder.drain (decoder.drain pending).rest = ⟨[], (decoder.drain pending).rest, false⟩ := by
  have stopped := decoder.drain_stops pending
  rw [if_neg (by simp [accepted])] at stopped
  exact decoder.drain_wait stopped

/-- A chunk delivers the frames that it completes. -/
theorem Live.delivers (live : Live this fd clientName pending s) (chunk : Bytes) :
    (TcpConnection.receiveChunk this chunk s).delivered = s.delivered ++
      (decoder.drain (pending ++ chunk)).items.map fun message => (clientName, message) := by
  have drained := (process_drains this (appendPending this chunk s)).messages
  rw [TcpConnection.receiveChunk, drained]
  simp [appendPending, live.object, acceptedConnection, construct]

/-- The rest of a chunk stays pending. -/
theorem Live.holds (live : Live this fd clientName pending s) (chunk : Bytes) :
    ((TcpConnection.receiveChunk this chunk s).heap this).pendingData =
        (decoder.drain (pending ++ chunk)).rest ∧
      ((TcpConnection.receiveChunk this chunk s).heap this).closing =
        (decoder.drain (pending ++ chunk)).rejected := by
  obtain ⟨final, object⟩ := (process_drains this (appendPending this chunk s)).heap
  rw [TcpConnection.receiveChunk, object]
  simp [appendPending, live.object, acceptedConnection, construct]

/-- A rejecting object delivers nothing and stays freed while the loop goes on. -/
theorem readLoop_rejecting (results : List RecvResult)
    (rejects : verdict (s.heap this).pendingData = .reject)
    (closing : (s.heap this).closing = true) :
    (readLoop this results s).delivered = s.delivered ∧
      (readLoop this results s).freed = s.freed ∧
      ((readLoop this results s).heap this).closing = true := by
  have untouched := (readLoop_effect this results s).closing closing
  refine ⟨?_, untouched.freed, untouched.closing.trans closing⟩
  clear untouched
  induction results generalizing s with
  | nil => simp [readLoop]
  | cons result results ih =>
      cases result with
      | received bytes =>
          cases bytes with
          | nil => simp [readLoop]
          | cons byte bytes =>
              have extended : verdict ((s.heap this).pendingData ++ byte :: bytes) = .reject :=
                decoder.reject_append _ (byte :: bytes) rejects
              have refused : verdict ((appendPending this (byte :: bytes)
                  ((s.use this (.read .fd)).use this .recv)).heap this).pendingData = .reject := by
                simpa [appendPending] using extended
              have received := process_reject refused
              obtain ⟨fd, object⟩ := requestClose_heap this
                (((appendPending this (byte :: bytes)
                  ((s.use this (.read .fd)).use this .recv)).use this (.read .pendingData)).use this
                    (.read .clientName))
              rw [readLoop, receiveChunk, received, ih]
              · simp [appendPending]
              · rw [object]
                simpa using refused
              · rw [object]
      | failed errno =>
          cases errno with
          | eintr =>
              rw [readLoop, ih]
              · simp
              · simpa using rejects
              · simpa using closing
          | eagain => simp [readLoop]
          | other => simp [readLoop]

/-- The read loop delivers the frames of its bytes, and an invalid frame, a hard error or the end
of the stream frees the object. -/
theorem Live.hasRead (live : Live this fd clientName pending s)
    (waits : decoder.drain pending = ⟨[], pending, false⟩) (results : List RecvResult) :
    HasRead this fd clientName (decoder.drain (pending ++ readBytes results))
      (readCloses results = true) s (TcpConnection.readLoop this results s) := by
  induction results generalizing pending s with
  | nil =>
      rw [readBytes, List.append_nil, waits, TcpConnection.readLoop, live.use, live.use]
      · exact ⟨by simp, by simp [readCloses], fun _ _ => live⟩
      · simp
      · simp
  | cons result results ih =>
      cases result with
      | received bytes =>
          cases bytes with
          | nil =>
              rw [TcpConnection.readLoop, live.use, live.use, readBytes, List.append_nil, waits]
              · exact ⟨by simp, fun _ => ⟨live.requestClose.dead, requestClose_closing this s⟩,
                  by simp [readCloses]⟩
              · simp
              · simp
          | cons byte bytes =>
              rw [TcpConnection.readLoop, live.use, live.use, readBytes, ← List.append_assoc]
              have chunk := live.receiveChunk (byte :: bytes)
              have messages := live.delivers (byte :: bytes)
              by_cases rejected : (decoder.drain (pending ++ byte :: bytes)).rejected = true
              · rw [if_pos rejected] at chunk
                have stopped := decoder.drain_stops (pending ++ byte :: bytes)
                rw [if_pos rejected] at stopped
                obtain ⟨pendingData, closing⟩ := live.holds (byte :: bytes)
                obtain ⟨same, freed, still⟩ := readLoop_rejecting results
                  (pendingData.symm ▸ stopped) (closing.trans rejected)
                rw [decoder.drain_rejected_append _ _ rejected]
                exact ⟨same.trans messages, fun _ => ⟨freed.symm ▸ chunk.dead, still⟩, by simp⟩
              · rw [if_neg rejected] at chunk
                have accepted := Bool.eq_false_iff.mpr rejected
                have later := ih chunk.1 (live_waits accepted)
                exact HasRead.trans ⟨messages, fun bad => absurd (bad.resolve_right id) rejected,
                  fun _ _ => chunk.1⟩ later
      | failed errno =>
          cases errno with
          | eintr =>
              rw [TcpConnection.readLoop, live.use, live.use]
              exact ih live waits
          | eagain =>
              rw [TcpConnection.readLoop, live.use, live.use, readBytes, List.append_nil, waits]
              · exact ⟨by simp, by simp [readCloses], fun _ _ => live⟩
              · simp
              · simp
          | other =>
              rw [TcpConnection.readLoop, live.use, live.use, live.use, live.use, readBytes,
                List.append_nil, waits]
              · exact ⟨by simp, fun _ => ⟨live.requestClose.dead, requestClose_closing this s⟩,
                  by simp [readCloses]⟩
              · simp
              · simp

end TcpConnection

namespace Channel
open TcpConnection

/-- The error bit closes the connection before anything is read. -/
def eventBytes (revents : UInt32) (results : List RecvResult) : Bytes :=
  if revents &&& epollErr ≠ 0 then []
  else if revents &&& epollIn ≠ 0 then readBytes results
  else []

def eventCloses (revents : UInt32) (results : List RecvResult) : Bool :=
  decide (revents &&& epollErr ≠ 0) ||
    (decide (revents &&& epollIn ≠ 0) && readCloses results) ||
    decide (revents &&& (epollHup ||| epollRdHup) ≠ 0)

variable {this : Address} {fd : Int} {clientName pending : Bytes} {s : ServerState}

/-- A closing object delivers nothing. -/
theorem fire_closing (closing : (s.heap this).closing = true) (member : Member)
    (callback : Channel → Option Handler) (results : List RecvResult) :
    (fire this member callback results s).delivered = s.delivered ∧
      (fire this member callback results s).freed = s.freed ∧
      ((fire this member callback results s).heap this).closing = true := by
  have untouched := (fire_effect this member callback results s).closing closing
  refine ⟨?_, untouched.freed, untouched.closing.trans closing⟩
  simp only [fire]
  split
  · rename_i handler _
    cases handler with
    | handleRead => simp [dispatch, handleRead, closing]
    | handleClose => simp [dispatch, handleClose]
    | handleError => simp [dispatch, handleError, closing]
  · simp

/-- A callback of a closing object delivers nothing. -/
theorem optional_closing (closing : (s.heap this).closing = true) (bit : Prop) [Decidable bit]
    (member : Member) (callback : Channel → Option Handler) (results : List RecvResult) :
    (if bit then fire this member callback results s else s).delivered = s.delivered ∧
      (if bit then fire this member callback results s else s).freed = s.freed ∧
      ((if bit then fire this member callback results s else s).heap this).closing = true := by
  split
  · exact fire_closing closing member callback results
  · exact ⟨rfl, rfl, closing⟩

/-- The close bits free an object that is still live and change nothing else. -/
theorem hangup_hasRead {drained : Drained UInt8 Bytes} {ends : Prop} {after : ServerState}
    (reading : HasRead this fd clientName drained ends s after) (hangs : Prop) [Decidable hangs]
    (results : List RecvResult) :
    HasRead this fd clientName drained (ends ∨ hangs) s
      (if hangs then fire this .channelCloseCallback Channel.closeCallback results after
        else after) := by
  by_cases done : drained.rejected = true ∨ ends
  · have dead := reading.closed done
    have last := optional_closing dead.2 hangs .channelCloseCallback Channel.closeCallback results
    refine ⟨last.1.trans reading.messages, fun _ => ⟨last.2.1 ▸ dead.1, last.2.2⟩, ?_⟩
    intro accepted goesOn
    rcases done with rejected | ended
    · rw [accepted] at rejected
      cases rejected
    · exact absurd (.inl ended) goesOn
  · push Not at done
    have alive := reading.live (Bool.eq_false_iff.mpr done.1) done.2
    by_cases hangs : hangs
    · rw [if_pos hangs, fire_close alive]
      refine ⟨(requestClose_delivered this after).trans reading.messages,
        fun _ => ⟨alive.requestClose.dead, requestClose_closing this after⟩, ?_⟩
      intro _ goesOn
      exact absurd (.inr hangs) goesOn
    · rw [if_neg hangs]
      refine ⟨reading.messages, fun bad => ?_, fun accepted goesOn => alive⟩
      rcases bad with rejected | ended | hung
      · exact absurd rejected done.1
      · exact absurd ended done.2
      · exact absurd hung hangs

/-- A dispatch delivers the frames of its bytes, and every reason to close frees the object. -/
theorem handleEvent_hasRead (live : Live this fd clientName pending s)
    (waits : decoder.drain pending = ⟨[], pending, false⟩) (revents : UInt32)
    (results : List RecvResult) :
    HasRead this fd clientName (decoder.drain (pending ++ eventBytes revents results))
      (eventCloses revents results = true) s (handleEvent this revents results s) := by
  unfold handleEvent eventBytes eventCloses
  by_cases err : revents &&& epollErr ≠ 0
  · simp only [if_pos err, fire_error live, List.append_nil, waits]
    have first := optional_closing (requestClose_closing this s) (revents &&& epollIn ≠ 0)
      .readCallback Channel.readCallback results
    have last := optional_closing first.2.2 (revents &&& (epollHup ||| epollRdHup) ≠ 0)
      .channelCloseCallback Channel.closeCallback results
    refine ⟨?_, fun _ => ⟨?_, last.2.2⟩, fun _ goesOn => absurd (by simp [err]) goesOn⟩
    · rw [last.1, first.1]
      simp
    · rw [last.2.1, first.2.1]
      exact live.requestClose.dead
  · simp only [err, decide_false, Bool.false_or, Bool.or_eq_true, Bool.and_eq_true,
      decide_eq_true_eq]
    have reading : HasRead this fd clientName
        (decoder.drain (pending ++ if revents &&& epollIn ≠ 0 then readBytes results else []))
        (revents &&& epollIn ≠ 0 ∧ readCloses results = true) s
        (if revents &&& epollIn ≠ 0 then
          fire this .readCallback Channel.readCallback results s else s) := by
      by_cases readable : revents &&& epollIn ≠ 0
      · simp only [fire_read live, readable, not_false_eq_true, true_and, ne_eq]
        exact live.hasRead waits results
      · simp only [if_neg readable, List.append_nil, waits]
        exact ⟨by simp, fun bad => by simp [readable] at bad, fun _ _ => live⟩
    exact hangup_hasRead reading _ results

end Channel
end LMonitor

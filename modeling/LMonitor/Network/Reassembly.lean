import LMonitor.Network.TcpConnectionLaw
import LMonitor.Server.Connections

namespace LMonitor.TcpConnection
open Library FrameCodec TcpServer

/-- An accepted connection starts with no pending bytes and with both callbacks. -/
theorem accept_heap (this : Address) (clientFd : Int) (clientName : Bytes) (s : ServerState) :
    ∃ fd, (accept this clientFd clientName s).heap this =
      { acceptedConnection clientFd clientName with fd := fd } := by
  simp only [accept, newConnectionCallback, if_true]
  split
  · obtain ⟨fd, final⟩ := destroy_heap this this
      (allocate this (acceptedConnection clientFd clientName) s)
    exact ⟨fd, by simpa [allocate] using final⟩
  · exact ⟨clientFd, by simp [allocate, acceptedConnection, construct]⟩

/-- This is the state after an accepted connection received the given chunks. -/
def stream (this : Address) (clientFd : Int) (clientName : Bytes) (s : ServerState)
    (cuts : List Bytes) : ServerState :=
  receive this cuts (accept this clientFd clientName s)

section Stream
variable (this : Address) (clientFd : Int) (clientName : Bytes) (s : ServerState)

/-- The delivered messages are the items of the one-shot drain. -/
theorem stream_messages (cuts : List Bytes) :
    (stream this clientFd clientName s cuts).delivered =
      (accept this clientFd clientName s).delivered ++
        (decoder.drain cuts.flatten).items.map fun message => (clientName, message) := by
  obtain ⟨fd, object⟩ := accept_heap this clientFd clientName s
  have drained := receive_drains this (accept this clientFd clientName s) cuts (by rw [object]; rfl)
  rw [stream, drained.messages, object]
  rfl

/-- The object holds the undecoded rest and the rejection of the one-shot drain. -/
theorem stream_object (cuts : List Bytes) :
    ((stream this clientFd clientName s cuts).heap this).pendingData =
        (decoder.drain cuts.flatten).rest ∧
      ((stream this clientFd clientName s cuts).heap this).closing =
        (decoder.drain cuts.flatten).rejected := by
  obtain ⟨fd, object⟩ := accept_heap this clientFd clientName s
  have drained := receive_drains this (accept this clientFd clientName s) cuts (by rw [object]; rfl)
  obtain ⟨final, contents⟩ := drained.heap
  rw [stream, contents, object]
  exact ⟨rfl, rfl⟩

/-- The loop returns after each chunk. -/
theorem stream_terminates (cuts : List Bytes) (chunk : Bytes) :
    ∃ passes, iterate (processPass this) passes
      (appendPending this chunk (stream this clientFd clientName s cuts)) =
        some (stream this clientFd clientName s (cuts ++ [chunk])) := by
  refine ⟨_, ((processLoop this).iterate_run _ _ (Nat.lt_succ_self _)).trans ?_⟩
  simp only [stream, receive, List.foldl_append, List.foldl_cons, List.foldl_nil]
  rfl

end Stream

/-- The encoder turns a list of legal payloads into their frames. -/
theorem mapM_encode {payloads frames : List Bytes} (encoded : payloads.mapM encode = .ok frames) :
    (∀ payload ∈ payloads, payload.length ≤ maxFrameSize) ∧ frames = payloads.map frame := by
  induction payloads generalizing frames with
  | nil =>
      simp only [List.mapM_nil, pure, Except.pure, Except.ok.injEq] at encoded
      simp [← encoded]
  | cons payload payloads ih =>
      rw [List.mapM_cons] at encoded
      cases first : encode payload with
      | error text => simp [first, bind, Except.bind] at encoded
      | ok bytes =>
          cases others : payloads.mapM encode with
          | error text => simp [first, others, bind, Except.bind] at encoded
          | ok rest =>
              simp only [first, others, bind, Except.bind, pure, Except.pure, Except.ok.injEq]
                at encoded
              obtain ⟨fits, rfl⟩ := encode_ok_iff.mp first
              obtain ⟨allFit, rfl⟩ := ih others
              exact ⟨by simpa using ⟨fits, allFit⟩, by simp [← encoded]⟩

/-- Encoded payloads drain in their order before the tail does. -/
theorem drain_frames {payloads frames : List Bytes} (encoded : payloads.mapM encode = .ok frames)
    (tail : Bytes) :
    decoder.drain (frames.flatten ++ tail) =
      ⟨payloads ++ (decoder.drain tail).items, (decoder.drain tail).rest,
        (decoder.drain tail).rejected⟩ := by
  obtain ⟨fits, rfl⟩ := mapM_encode encoded
  exact decoder.drain_items frame payloads tail fun payload member rest =>
    verdict_frame (fits payload member) rest

/-- The pending bytes are an incomplete header or a strict prefix of a legal frame. -/
theorem stream_pending (this : Address) (clientFd : Int) (clientName : Bytes) (s : ServerState)
    (cuts : List Bytes)
    (accepted : ((stream this clientFd clientName s cuts).heap this).closing = false) :
    let pending := ((stream this clientFd clientName s cuts).heap this).pendingData
    (pending.length < headerSize ∨
        ∃ bytes, LegalFrame bytes ∧ pending <+: bytes ∧ pending ≠ bytes) ∧
      pending.length ≤ headerSize + maxFrameSize - 1 := by
  obtain ⟨rest, rejected⟩ := stream_object this clientFd clientName s cuts
  rw [rejected] at accepted
  have stopped := decoder.drain_stops cuts.flatten
  rw [if_neg (by simp [accepted])] at stopped
  dsimp only
  rw [rest]
  constructor
  · by_cases short : (decoder.drain cuts.flatten).rest.length < headerSize
    · exact .inl short
    · exact .inr (waiting_extends stopped (Nat.not_lt.mp short))
  · have waits := verdict_wait_iff.mp stopped
    unfold headerSize maxFrameSize at *
    omega

/-- TCP segmentation does not change what a connection receives. -/
theorem reassembly (this : Address) (clientFd : Int) (clientName : Bytes) (s : ServerState) :
    let before := (accept this clientFd clientName s).delivered
    let after := stream this clientFd clientName s
    (∀ cuts chunk, ∃ passes,
      iterate (processPass this) passes (appendPending this chunk (after cuts)) =
        some (after (cuts ++ [chunk]))) ∧
    (∀ first second : List Bytes, first.flatten = second.flatten →
      (after first).delivered = (after second).delivered ∧
        ((after first).heap this).closing = ((after second).heap this).closing) ∧
    (∀ (cuts payloads frames : List Bytes) (tail legal : Bytes),
      payloads.mapM encode = .ok frames → LegalFrame legal → tail <+: legal → tail ≠ legal →
      cuts.flatten = frames.flatten ++ tail →
        (after cuts).delivered = before ++ payloads.map (fun message => (clientName, message)) ∧
          ((after cuts).heap this).pendingData = tail ∧
          ((after cuts).heap this).closing = false) ∧
    (∀ (cuts payloads frames : List Bytes) (header later : Bytes),
      payloads.mapM encode = .ok frames → header.length = headerSize →
      maxFrameSize < (ntohl header).toNat →
      cuts.flatten = frames.flatten ++ header ++ later →
        (after cuts).delivered = before ++ payloads.map (fun message => (clientName, message)) ∧
          ((after cuts).heap this).closing = true) ∧
    (∀ cuts, ((after cuts).heap this).closing = false →
      let pending := ((after cuts).heap this).pendingData
      (pending.length < headerSize ∨
          ∃ bytes, LegalFrame bytes ∧ pending <+: bytes ∧ pending ≠ bytes) ∧
        pending.length ≤ headerSize + maxFrameSize - 1) := by
  intro before after
  refine ⟨stream_terminates this clientFd clientName s, ?_, ?_, ?_,
    stream_pending this clientFd clientName s⟩
  · intro first second same
    rw [stream_messages, stream_messages, (stream_object _ _ _ _ first).2,
      (stream_object _ _ _ _ second).2, same]
    exact ⟨rfl, rfl⟩
  · intro cuts payloads frames tail legal encoded isLegal front strict whole
    have waits := decoder.drain_wait (prefix_waits isLegal front strict)
    have drained := drain_frames encoded tail
    rw [waits, List.append_nil] at drained
    rw [stream_messages, (stream_object _ _ _ _ cuts).1, (stream_object _ _ _ _ cuts).2, whole,
      drained]
    exact ⟨rfl, rfl, rfl⟩
  · intro cuts payloads frames header later encoded four oversize whole
    have complete : announced (header ++ later) = (ntohl header).toNat := by
      rw [announced_append (Nat.le_of_eq four.symm), announced, ← four, List.take_length]
    have hostile : verdict (header ++ later) = .reject := verdict_reject_iff.mpr
      ⟨by rw [List.length_append]; omega, by rw [complete]; exact oversize⟩
    have rejects := decoder.drain_reject hostile
    have drained := drain_frames encoded (header ++ later)
    rw [rejects, List.append_nil, ← List.append_assoc] at drained
    rw [stream_messages, (stream_object _ _ _ _ cuts).2, whole, drained]
    exact ⟨rfl, rfl⟩

/-- One byte 255 waits although no legal frame starts with it. -/
theorem hostile_byte_pending :
    let after := stream 0 5 (ascii "10.0.0.1:4000") initial [[255]]
    (after.heap 0).closing = false ∧ (after.heap 0).pendingData = [255] ∧
      ¬ ∃ bytes, LegalFrame bytes ∧ (after.heap 0).pendingData <+: bytes ∧
        (after.heap 0).pendingData ≠ bytes := by
  have incomplete : verdict [255] = .wait := verdict_wait_iff.mpr (.inl (by decide))
  have waits : decoder.drain [255] = ⟨[], [255], false⟩ := decoder.drain_wait incomplete
  have object := stream_object 0 5 (ascii "10.0.0.1:4000") initial [[255]]
  change _ = (decoder.drain [255]).rest ∧ _ = (decoder.drain [255]).rejected at object
  rw [waits] at object
  refine ⟨object.2, object.1, ?_⟩
  rw [object.1]
  intro given
  obtain ⟨bytes, legal, front, -⟩ := given
  obtain ⟨payload, fits, rfl⟩ := legalFrame_iff.mp legal
  have top := List.prefix_iff_eq_take.mp front
  simp only [frame, htonl, List.length_singleton, List.cons_append, List.take_succ_cons,
    List.take_zero, List.cons.injEq, and_true, ← UInt8.toNat_inj, Nat.toUInt8, UInt8.toNat_ofNat',
    UInt32.toNat_ofNat'] at top
  unfold maxFrameSize at fits
  have : (255 : UInt8).toNat = 255 := rfl
  omega

end LMonitor.TcpConnection

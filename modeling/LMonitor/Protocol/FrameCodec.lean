import LMonitor.Library.Bytes
import LMonitor.Library.Incremental

namespace LMonitor.FrameCodec
open Library

/-- The length prefix has the size of `uint32_t`. -/
def headerSize : Nat := 4

def maxFrameSize : Nat := 1024 * 1024

/-- The codec writes a four-byte length in network order before the payload. -/
def encode (payload : Bytes) : Except Bytes Bytes :=
  if payload.length > maxFrameSize then
    .error (ascii "Frame payload exceeds maximum size")
  else
    let payloadLength := UInt32.ofNat payload.length
    .ok (htonl payloadLength ++ payload)

/-- A call leaves its two reference arguments and returns a flag or an exception. -/
structure DecodeCall where
  buffer : Bytes
  payload : Bytes
  result : Except Bytes Bool
  deriving DecidableEq

/-- One call takes one complete frame from the front of the buffer. -/
def tryDecode (buffer payload : Bytes) : DecodeCall :=
  if buffer.length < headerSize then
    ⟨buffer, payload, .ok false⟩
  else
    let payloadLength := (ntohl (buffer.take headerSize)).toNat
    if payloadLength > maxFrameSize then
      ⟨buffer, payload, .error (ascii "Received frame exceeds maximum size")⟩
    else
      let completeFrameSize := headerSize + payloadLength
      if buffer.length < completeFrameSize then
        ⟨buffer, payload, .ok false⟩
      else
        ⟨buffer.drop completeFrameSize, (buffer.drop headerSize).take payloadLength, .ok true⟩

example : tryDecode [0, 0, 0, 2, 104, 105, 0] [] = ⟨[0], [104, 105], .ok true⟩ := by decide

/-- The header announces the length of the payload. -/
def announced (buffer : Bytes) : Nat := (ntohl (buffer.take headerSize)).toNat

/-- A frame is what the encoder writes for a payload within the limit. -/
def frame (payload : Bytes) : Bytes := htonl (UInt32.ofNat payload.length) ++ payload

/-- A legal frame is a possible result of the encoder. -/
def LegalFrame (bytes : Bytes) : Prop := ∃ payload, encode payload = .ok bytes

@[simp] theorem frame_length (payload : Bytes) :
    (frame payload).length = headerSize + payload.length := by
  simp [frame, headerSize]

theorem frame_length_pos (payload : Bytes) : 0 < (frame payload).length := by
  rw [frame_length]
  exact Nat.lt_add_right _ (by decide)

theorem encode_eq_frame {payload : Bytes} (fits : payload.length ≤ maxFrameSize) :
    encode payload = .ok (frame payload) := by
  rw [encode, if_neg (by omega), frame]

theorem encode_ok_iff {payload bytes : Bytes} :
    encode payload = .ok bytes ↔ payload.length ≤ maxFrameSize ∧ bytes = frame payload := by
  by_cases fits : payload.length ≤ maxFrameSize
  · simp [encode_eq_frame fits, fits, eq_comm]
  · simp [encode, fits, Nat.lt_of_not_le fits]

/-- The legal frames are those of the payloads that fit. -/
theorem legalFrame_iff {bytes : Bytes} :
    LegalFrame bytes ↔ ∃ payload, payload.length ≤ maxFrameSize ∧ bytes = frame payload := by
  simp only [LegalFrame, encode_ok_iff]

/-- Later bytes do not change a complete header. -/
theorem announced_append {buffer : Bytes} (complete : headerSize ≤ buffer.length) (more : Bytes) :
    announced (buffer ++ more) = announced buffer := by
  rw [announced, List.take_append_of_le_length complete, announced]

theorem announced_frame {payload : Bytes} (fits : payload.length ≤ maxFrameSize) (more : Bytes) :
    announced (frame payload ++ more) = payload.length := by
  rw [announced_append (by simp)]
  have small : payload.length < 2 ^ 32 := by unfold maxFrameSize at fits; omega
  have header : (frame payload).take headerSize = htonl (UInt32.ofNat payload.length) := by
    rw [frame, List.take_append_of_le_length (by simp [headerSize])]
    exact List.take_of_length_le (by simp [headerSize])
  rw [announced, header, ntohl_htonl, UInt32.toNat_ofNat', Nat.mod_eq_of_lt small]

/-- A buffer that starts with the announced bytes is a frame and a rest. -/
theorem frame_split {buffer : Bytes} (complete : headerSize + announced buffer ≤ buffer.length) :
    buffer = frame ((buffer.drop headerSize).take (announced buffer)) ++
      buffer.drop (headerSize + announced buffer) := by
  have bodyLength :
      ((buffer.drop headerSize).take (announced buffer)).length = announced buffer := by
    simp only [List.length_take, List.length_drop]
    omega
  have header : htonl (UInt32.ofNat (announced buffer)) = buffer.take headerSize := by
    rw [announced, UInt32.ofNat_toNat]
    apply htonl_ntohl
    rw [List.length_take]
    exact Nat.min_eq_left (by omega)
  rw [frame, bodyLength, header, List.append_assoc, ← List.drop_drop, List.take_append_drop,
    List.take_append_drop]

/-- A part of the header decodes to nothing. -/
theorem tryDecode_short {buffer : Bytes} (short : buffer.length < headerSize) (payload : Bytes) :
    tryDecode buffer payload = ⟨buffer, payload, .ok false⟩ := by
  rw [tryDecode, if_pos short]

/-- A length that is too large is an error. -/
theorem tryDecode_oversize {buffer : Bytes} (complete : headerSize ≤ buffer.length)
    (oversize : maxFrameSize < announced buffer) (payload : Bytes) :
    tryDecode buffer payload =
      ⟨buffer, payload, .error (ascii "Received frame exceeds maximum size")⟩ := by
  unfold announced at oversize
  simp only [tryDecode, Nat.not_lt.mpr complete, if_false, oversize, if_true]

/-- A part of the payload decodes to nothing. -/
theorem tryDecode_partial {buffer : Bytes} (complete : headerSize ≤ buffer.length)
    (legal : announced buffer ≤ maxFrameSize)
    (body : buffer.length < headerSize + announced buffer) (payload : Bytes) :
    tryDecode buffer payload = ⟨buffer, payload, .ok false⟩ := by
  unfold announced at legal body
  simp only [tryDecode, Nat.not_lt.mpr complete, if_false, Nat.not_lt.mpr legal, body, if_true]

/-- A frame at the front of the buffer is taken whole. -/
theorem tryDecode_frame {body : Bytes} (fits : body.length ≤ maxFrameSize) (rest payload : Bytes) :
    tryDecode (frame body ++ rest) payload = ⟨rest, body, .ok true⟩ := by
  have length := announced_frame fits rest
  have complete : ¬ (frame body ++ rest).length < headerSize := by simp; omega
  have whole : ¬ (frame body ++ rest).length < headerSize + body.length := by simp
  have start : (frame body ++ rest).drop headerSize = body ++ rest := by
    rw [frame, List.append_assoc]
    exact List.drop_left' rfl
  rw [tryDecode, if_neg complete]
  change (if announced (frame body ++ rest) > maxFrameSize then _ else
    if (frame body ++ rest).length < headerSize + announced (frame body ++ rest) then _ else _) = _
  rw [length, if_neg (by omega), if_neg whole]
  change DecodeCall.mk ((frame body ++ rest).drop (headerSize + announced (frame body ++ rest)))
    (((frame body ++ rest).drop headerSize).take (announced (frame body ++ rest))) _ = _
  rw [length, ← List.drop_drop, start, List.drop_left, List.take_left]

/-- The four outcomes of a call cover every buffer. -/
theorem tryDecode_cases (buffer payload : Bytes) :
    (buffer.length < headerSize ∧ tryDecode buffer payload = ⟨buffer, payload, .ok false⟩) ∨
    (headerSize ≤ buffer.length ∧ maxFrameSize < announced buffer ∧ tryDecode buffer payload =
      ⟨buffer, payload, .error (ascii "Received frame exceeds maximum size")⟩) ∨
    (headerSize ≤ buffer.length ∧ announced buffer ≤ maxFrameSize ∧
      buffer.length < headerSize + announced buffer ∧
      tryDecode buffer payload = ⟨buffer, payload, .ok false⟩) ∨
    (∃ body rest, body.length ≤ maxFrameSize ∧ buffer = frame body ++ rest ∧
      tryDecode buffer payload = ⟨rest, body, .ok true⟩) := by
  by_cases short : buffer.length < headerSize
  · exact .inl ⟨short, tryDecode_short short payload⟩
  have complete := Nat.not_lt.mp short
  by_cases oversize : maxFrameSize < announced buffer
  · exact .inr (.inl ⟨complete, oversize, tryDecode_oversize complete oversize payload⟩)
  have legal := Nat.not_lt.mp oversize
  by_cases missing : buffer.length < headerSize + announced buffer
  · exact .inr (.inr (.inl ⟨complete, legal, missing,
      tryDecode_partial complete legal missing payload⟩))
  have split := frame_split (Nat.not_lt.mp missing)
  have fits : ((buffer.drop headerSize).take (announced buffer)).length ≤ maxFrameSize := by
    rw [List.length_take]
    omega
  refine .inr (.inr (.inr ⟨_, _, fits, split, ?_⟩))
  conv_lhs => rw [split]
  exact tryDecode_frame fits _ payload

/-- The incremental view of a call forgets the texts of its exceptions. -/
def verdict (buffer : Bytes) : Verdict UInt8 Bytes :=
  let call := tryDecode buffer []
  match call.result with
  | .ok false => .wait
  | .error _ => .reject
  | .ok true => .item call.payload call.buffer

/-- A frame at the front is an item. -/
theorem verdict_frame {body : Bytes} (fits : body.length ≤ maxFrameSize) (rest : Bytes) :
    verdict (frame body ++ rest) = .item body rest := by
  simp [verdict, tryDecode_frame fits]

/-- An item is a frame at the front. -/
theorem verdict_item {buffer body rest : Bytes} (decision : verdict buffer = .item body rest) :
    body.length ≤ maxFrameSize ∧ buffer = frame body ++ rest := by
  rcases tryDecode_cases buffer [] with
    ⟨_, call⟩ | ⟨_, _, call⟩ | ⟨_, _, _, call⟩ | ⟨_, _, fits, split, call⟩
  · simp [verdict, call] at decision
  · simp [verdict, call] at decision
  · simp [verdict, call] at decision
  · simp only [verdict, call, Verdict.item.injEq] at decision
    obtain ⟨rfl, rfl⟩ := decision
    exact ⟨fits, split⟩

/-- The decoder rejects exactly the buffers with a complete oversized header. -/
theorem verdict_reject_iff {buffer : Bytes} :
    verdict buffer = .reject ↔ headerSize ≤ buffer.length ∧ maxFrameSize < announced buffer := by
  rcases tryDecode_cases buffer [] with
    ⟨short, call⟩ | ⟨complete, oversize, call⟩ | ⟨_, legal, _, call⟩ |
      ⟨body, rest, fits, split, call⟩
  · simp only [verdict, call, reduceCtorEq, false_iff]
    omega
  · simp [verdict, call, complete, oversize]
  · simp only [verdict, call, reduceCtorEq, false_iff]
    omega
  · simp only [verdict, call, reduceCtorEq, false_iff]
    rw [split, announced_frame fits]
    omega

/-- The decoder waits for the rest of a header or for the rest of a legal body. -/
theorem verdict_wait_iff {buffer : Bytes} :
    verdict buffer = .wait ↔ buffer.length < headerSize ∨
      announced buffer ≤ maxFrameSize ∧ buffer.length < headerSize + announced buffer := by
  rcases tryDecode_cases buffer [] with
    ⟨short, call⟩ | ⟨complete, oversize, call⟩ | ⟨_, legal, missing, call⟩ |
      ⟨body, rest, fits, split, call⟩
  · simp [verdict, call, short]
  · simp only [verdict, call, reduceCtorEq, false_iff]
    omega
  · simp [verdict, call, legal, missing]
  · simp only [verdict, call, reduceCtorEq, false_iff]
    rw [split, announced_frame fits, List.length_append, frame_length]
    omega

/-- The frame codec is an incremental decoder. -/
def decoder : Decoder UInt8 Bytes where
  verdict := verdict
  item_shorter buffer body rest decision := by
    rw [(verdict_item decision).2, List.length_append, frame_length]
    unfold headerSize
    omega
  reject_append buffer more decision := by
    rw [verdict_reject_iff] at decision ⊢
    rw [announced_append decision.1, List.length_append]
    exact ⟨by omega, decision.2⟩
  item_append buffer more body rest decision := by
    obtain ⟨fits, split⟩ := verdict_item decision
    rw [split, List.append_assoc]
    exact verdict_frame fits (rest ++ more)

/-- A waiting buffer whose header is complete is a strict prefix of a legal frame. -/
theorem waiting_extends {buffer : Bytes} (decision : verdict buffer = .wait)
    (complete : headerSize ≤ buffer.length) :
    ∃ bytes, LegalFrame bytes ∧ buffer <+: bytes ∧ buffer ≠ bytes := by
  rcases verdict_wait_iff.mp decision with short | ⟨legal, missing⟩
  · omega
  -- The missing body bytes may have any value.
  let padding := List.replicate (headerSize + announced buffer - buffer.length) (0 : UInt8)
  have whole : (buffer ++ padding).length = headerSize + announced buffer := by
    simp only [padding, List.length_append, List.length_replicate]
    omega
  have header := announced_append complete padding
  have split := @frame_split (buffer ++ padding) (by omega)
  rw [header, ← whole, List.drop_length, List.append_nil] at split
  have fits : (((buffer ++ padding).drop headerSize).take (announced buffer)).length ≤
      maxFrameSize := by
    rw [List.length_take]
    omega
  refine ⟨buffer ++ padding, legalFrame_iff.mpr ⟨_, fits, split⟩, List.prefix_append _ _, ?_⟩
  intro same
  have lengths := congrArg List.length same
  omega

/-- A strict prefix of a legal frame waits. -/
theorem prefix_waits {buffer bytes : Bytes} (legal : LegalFrame bytes) (front : buffer <+: bytes)
    (strict : buffer ≠ bytes) : verdict buffer = .wait := by
  obtain ⟨payload, fits, rfl⟩ := legalFrame_iff.mp legal
  obtain ⟨missing, whole⟩ := front
  rw [verdict_wait_iff]
  by_cases short : buffer.length < headerSize
  · exact .inl short
  have header := announced_append (Nat.not_lt.mp short) missing
  rw [whole, ← List.append_nil (frame payload), announced_frame fits] at header
  have nonempty : 0 < missing.length := by
    rw [List.length_pos_iff]
    rintro rfl
    exact strict (by simpa using whole)
  have lengths := congrArg List.length whole
  rw [List.length_append, frame_length] at lengths
  exact .inr ⟨by omega, by omega⟩

end LMonitor.FrameCodec

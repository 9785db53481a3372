import LMonitor.Protocol.FrameCodec
import Mathlib.Data.List.Basic

namespace LMonitor.FrameCodec
open Library

/-- The first byte of a big-endian number is the most significant one. -/
def bigEndian (bytes : Bytes) : Nat := bytes.foldl (fun value byte => 256 * value + byte.toNat) 0

/-- A complete header announces its big-endian value. -/
theorem announced_eq_bigEndian {buffer : Bytes} (complete : headerSize ≤ buffer.length) :
    announced buffer = bigEndian (buffer.take headerSize) := by
  have four : (buffer.take headerSize).length = 4 := by
    rw [List.length_take]
    exact Nat.min_eq_left complete
  obtain ⟨a, b, c, d, header⟩ := List.length_eq_four.mp four
  rw [announced, ntohl, bigEndian, UInt32.toNat_ofNat', header]
  have := a.toNat_lt
  have := b.toNat_lt
  have := c.toNat_lt
  have := d.toNat_lt
  simp only [List.foldl_cons, List.foldl_nil]
  omega

/-- The header announces more than a frame may have. -/
def Oversize (buffer : Bytes) : Prop :=
  headerSize ≤ buffer.length ∧ maxFrameSize < bigEndian (buffer.take headerSize)

/-- The buffer starts with the encoding of a payload. -/
def StartsWithFrame (buffer body rest : Bytes) : Prop :=
  body.length ≤ maxFrameSize ∧ ∃ bytes, encode body = .ok bytes ∧ buffer = bytes ++ rest

/-- A buffer starts with a frame exactly if it is one with a legal length and a rest. -/
theorem startsWithFrame_iff {buffer body rest : Bytes} :
    StartsWithFrame buffer body rest ↔
      body.length ≤ maxFrameSize ∧ buffer = frame body ++ rest := by
  simp only [StartsWithFrame, encode_ok_iff]
  constructor
  · rintro ⟨fits, bytes, ⟨_, rfl⟩, whole⟩
    exact ⟨fits, whole⟩
  · rintro ⟨fits, whole⟩
    exact ⟨fits, frame body, ⟨fits, rfl⟩, whole⟩

/-- A buffer starts with at most one frame. -/
theorem startsWithFrame_unique {buffer body rest other others : Bytes}
    (first : StartsWithFrame buffer body rest) (second : StartsWithFrame buffer other others) :
    body = other ∧ rest = others := by
  obtain ⟨fits, whole⟩ := startsWithFrame_iff.mp first
  obtain ⟨otherFits, otherWhole⟩ := startsWithFrame_iff.mp second
  have call := tryDecode_frame fits rest []
  rw [← whole, otherWhole, tryDecode_frame otherFits] at call
  simp only [DecodeCall.mk.injEq, and_true] at call
  exact ⟨call.2.symm, call.1.symm⟩

/-- A buffer that starts with a frame announces no illegal length. -/
theorem not_oversize_of_frame {buffer body rest : Bytes}
    (starts : StartsWithFrame buffer body rest) : ¬ Oversize buffer := by
  obtain ⟨fits, rfl⟩ := startsWithFrame_iff.mp starts
  rintro ⟨complete, large⟩
  rw [← announced_eq_bigEndian complete, announced_frame fits] at large
  omega

/-- A call takes a frame from the front of the buffer, throws for an oversized header or waits, and
the last two leave both arguments alone. -/
theorem tryDecode_outcomes (buffer payload : Bytes) :
    (∃ body rest, StartsWithFrame buffer body rest ∧
      tryDecode buffer payload = ⟨rest, body, .ok true⟩) ∨
    (Oversize buffer ∧ tryDecode buffer payload =
      ⟨buffer, payload, .error (ascii "Received frame exceeds maximum size")⟩) ∨
    ((∀ body rest, ¬ StartsWithFrame buffer body rest) ∧ ¬ Oversize buffer ∧
      tryDecode buffer payload = ⟨buffer, payload, .ok false⟩) := by
  have waits (call : tryDecode buffer payload = ⟨buffer, payload, .ok false⟩) :
      ∀ body rest, ¬ StartsWithFrame buffer body rest := by
    intro body rest starts
    obtain ⟨fits, whole⟩ := startsWithFrame_iff.mp starts
    rw [whole, tryDecode_frame fits] at call
    simp at call
  rcases tryDecode_cases buffer payload with
    ⟨short, call⟩ | ⟨complete, oversize, call⟩ | ⟨complete, legal, _, call⟩ |
      ⟨body, rest, fits, whole, call⟩
  · refine .inr (.inr ⟨waits call, ?_, call⟩)
    rintro ⟨complete, _⟩
    omega
  · rw [announced_eq_bigEndian complete] at oversize
    exact .inr (.inl ⟨⟨complete, oversize⟩, call⟩)
  · refine .inr (.inr ⟨waits call, ?_, call⟩)
    rintro ⟨_, large⟩
    rw [announced_eq_bigEndian complete] at legal
    omega
  · exact .inl ⟨body, rest, startsWithFrame_iff.mpr ⟨fits, whole⟩, call⟩

/-- Only a payload that is too long is refused. -/
theorem encode_error_iff (body : Bytes) :
    (∃ message, encode body = .error message) ↔ maxFrameSize < body.length := by
  by_cases fits : body.length ≤ maxFrameSize
  · simp [encode_eq_frame fits, Nat.not_lt.mpr fits]
  · simp [encode, Nat.lt_of_not_le fits]

/-- The decoder takes exactly the frames of the encoder, it throws exactly for an oversized header,
it returns false otherwise, and it changes nothing in the last two cases. The encoder throws
exactly for a payload that is too long. -/
theorem codec_exact (buffer payload : Bytes) :
    (∀ body rest, tryDecode buffer payload = ⟨rest, body, .ok true⟩ ↔
      StartsWithFrame buffer body rest) ∧
    ((∃ message, (tryDecode buffer payload).result = .error message) ↔ Oversize buffer) ∧
    ((tryDecode buffer payload).result = .ok false ↔
      (∀ body rest, ¬ StartsWithFrame buffer body rest) ∧ ¬ Oversize buffer) ∧
    ((tryDecode buffer payload).result ≠ .ok true →
      (tryDecode buffer payload).buffer = buffer ∧
        (tryDecode buffer payload).payload = payload) ∧
    (∀ body, (∃ message, encode body = .error message) ↔ maxFrameSize < body.length) := by
  rcases tryDecode_outcomes buffer payload with
    ⟨body, rest, starts, call⟩ | ⟨oversize, call⟩ | ⟨noFrame, fits, call⟩
  · have legal := not_oversize_of_frame starts
    refine ⟨?_, by simp [call, legal], ?_, by simp [call], encode_error_iff⟩
    · intro other others
      rw [call]
      constructor
      · intro same
        simp only [DecodeCall.mk.injEq, and_true] at same
        obtain ⟨rfl, rfl⟩ := same
        exact starts
      · intro second
        obtain ⟨rfl, rfl⟩ := startsWithFrame_unique starts second
        rfl
    · rw [call]
      exact iff_of_false (by simp) fun none => none.1 body rest starts
  · refine ⟨?_, by simp [call, oversize], by simp [call, oversize], by simp [call],
      encode_error_iff⟩
    intro other others
    simp only [call, DecodeCall.mk.injEq, reduceCtorEq, and_false, false_iff]
    exact fun starts => not_oversize_of_frame starts oversize
  · refine ⟨?_, by simp [call, fits], by simp [call, fits, noFrame], by simp [call],
      encode_error_iff⟩
    intro other others
    simp [call, noFrame other others]

end LMonitor.FrameCodec

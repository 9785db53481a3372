import Mathlib.Data.List.Basic
import Mathlib.Tactic.Common

namespace LMonitor.Library

/-- A decoder looks at its buffer and waits, rejects it or takes one item from the front. -/
inductive Verdict (A B : Type) where
  | wait
  | reject
  | item (value : B) (rest : List A)

/-- More input changes neither a rejection nor an item that the buffer already holds. -/
structure Decoder (A B : Type) where
  verdict : List A → Verdict A B
  item_shorter : ∀ buffer value rest, verdict buffer = .item value rest →
    rest.length < buffer.length
  reject_append : ∀ buffer more, verdict buffer = .reject → verdict (buffer ++ more) = .reject
  item_append : ∀ buffer more value rest, verdict buffer = .item value rest →
    verdict (buffer ++ more) = .item value (rest ++ more)

/-- This record keeps the items of a drained buffer, the bytes it still holds and its rejection. -/
structure Drained (A B : Type) where
  items : List B
  rest : List A
  rejected : Bool

/-- The items of two successive drains follow each other. -/
def Drained.andThen {A B : Type} (first second : Drained A B) : Drained A B :=
  ⟨first.items ++ second.items, second.rest, second.rejected⟩

namespace Decoder
variable {A B : Type} (decoder : Decoder A B)

/-- Before the last element of an item arrives, the decoder waits for it. -/
theorem waits_before_end {buffer more : List A} {value : B}
    (decision : decoder.verdict (buffer ++ more) = .item value []) (nonempty : more ≠ []) :
    decoder.verdict buffer = .wait := by
  cases early : decoder.verdict buffer with
  | wait => rfl
  | reject =>
      rw [decoder.reject_append buffer more early] at decision
      cases decision
  | item other rest =>
      rw [decoder.item_append buffer more other rest early] at decision
      obtain ⟨_, nothing⟩ := (Verdict.item.injEq ..).mp decision
      exact absurd (List.append_eq_nil_iff.mp nothing).2 nonempty

/-- The drain takes items until the decoder waits or rejects. -/
def drain (buffer : List A) : Drained A B :=
  match _decision : decoder.verdict buffer with
  | .wait => ⟨[], buffer, false⟩
  | .reject => ⟨[], buffer, true⟩
  | .item value rest =>
      let later := drain rest
      ⟨value :: later.items, later.rest, later.rejected⟩
termination_by buffer.length
decreasing_by exact decoder.item_shorter buffer value rest _decision

/-- A buffer without a complete item stays as it is. -/
theorem drain_wait {buffer : List A} (decision : decoder.verdict buffer = .wait) :
    decoder.drain buffer = ⟨[], buffer, false⟩ := by
  rw [drain]
  split <;> simp_all

/-- A rejected buffer is given up. -/
theorem drain_reject {buffer : List A} (decision : decoder.verdict buffer = .reject) :
    decoder.drain buffer = ⟨[], buffer, true⟩ := by
  rw [drain]
  split <;> simp_all

/-- An item is taken off the front of the buffer. -/
theorem drain_item {buffer rest : List A} {value : B}
    (decision : decoder.verdict buffer = .item value rest) :
    decoder.drain buffer = ⟨value :: (decoder.drain rest).items, (decoder.drain rest).rest,
      (decoder.drain rest).rejected⟩ := by
  rw [drain]
  split <;> simp_all

/-- The drain stops at a buffer on which the decoder waits or rejects. -/
theorem drain_stops (buffer : List A) :
    decoder.verdict (decoder.drain buffer).rest =
      if (decoder.drain buffer).rejected then .reject else .wait := by
  induction buffer using drain.induct decoder with
  | case1 buffer decision => simp [decoder.drain_wait decision, decision]
  | case2 buffer decision => simp [decoder.drain_reject decision, decision]
  | case3 buffer value rest decision ih => simpa [decoder.drain_item decision] using ih

/-- Input that arrives later extends the drain of the input that came first. -/
theorem drain_append (buffer more : List A) :
    decoder.drain (buffer ++ more) =
      (decoder.drain buffer).andThen (decoder.drain ((decoder.drain buffer).rest ++ more)) := by
  induction buffer using drain.induct decoder with
  | case1 buffer decision => simp [decoder.drain_wait decision, Drained.andThen]
  | case2 buffer decision =>
      have extended := decoder.reject_append buffer more decision
      simp [decoder.drain_reject decision, decoder.drain_reject extended, Drained.andThen]
  | case3 buffer value rest decision ih =>
      have extended := decoder.item_append buffer more value rest decision
      rw [decoder.drain_item extended, ih, decoder.drain_item decision]
      simp [Drained.andThen]

/-- A rejected drain takes no item from any later input. -/
theorem drain_rejected_append (buffer more : List A)
    (rejected : (decoder.drain buffer).rejected = true) :
    decoder.drain (buffer ++ more) =
      ⟨(decoder.drain buffer).items, (decoder.drain buffer).rest ++ more, true⟩ := by
  have stopped := decoder.drain_stops buffer
  rw [if_pos rejected] at stopped
  have extended := decoder.reject_append _ more stopped
  rw [decoder.drain_append, decoder.drain_reject extended]
  simp [Drained.andThen]

/-- A sequence of encoded items drains to these items and then to the drain of the tail. -/
theorem drain_items (encode : B → List A) (values : List B) (tail : List A)
    (decodes : ∀ value ∈ values, ∀ rest,
      decoder.verdict (encode value ++ rest) = .item value rest) :
    decoder.drain ((values.map encode).flatten ++ tail) =
      ⟨values ++ (decoder.drain tail).items, (decoder.drain tail).rest,
        (decoder.drain tail).rejected⟩ := by
  induction values with
  | nil => rfl
  | cons value values ih =>
      have first := decodes value (by simp) ((values.map encode).flatten ++ tail)
      have others := ih fun value member => decodes value (by simp [member])
      rw [List.map_cons, List.flatten_cons, List.append_assoc, decoder.drain_item first, others]
      rfl

end Decoder
end LMonitor.Library

import LMonitor.Library.Machine
import Mathlib.Data.List.DropRight
import Mathlib.Logic.Function.Basic
import Mathlib.Order.Lattice

namespace LMonitor.Library

/-- A window over a log needs only its own content for its next content. -/
theorem rtake_snoc_rtake {A : Type} (log : List A) (entry : A) (room : Nat) :
    (log.rtake room ++ [entry]).rtake room = (log ++ [entry]).rtake room := by
  cases room with
  | zero => simp
  | succ room =>
      rw [List.rtake_concat_succ, List.rtake_concat_succ]
      simp [List.rtake_eq_reverse_take_reverse, List.take_take]

theorem rtake_one {A : Type} (log : List A) : log.rtake 1 = log.getLast?.toList := by
  rcases List.eq_nil_or_concat log with rfl | ⟨front, last, rfl⟩
  · rfl
  · rw [List.concat_eq_append, List.rtake_concat_succ]
    simp

/-- Each caller takes a stamp from a clock and appends it to a shared log at a later time. -/
structure StampedLog (Caller Stamp : Type) where
  clock : Stamp
  pending : Caller → Option Stamp
  log : List Stamp

namespace StampedLog
variable {Caller Stamp : Type} [DecidableEq Caller] [LinearOrder Stamp]

inductive Action (Caller Stamp : Type) where
  | tick (stamp : Stamp)
  | read (caller : Caller) (stamp : Stamp)
  | append (caller : Caller)

/-- The clock never goes back, and a caller without a stamp appends nothing. -/
def step (s : StampedLog Caller Stamp) : Action Caller Stamp → Option (StampedLog Caller Stamp)
  | .tick stamp => if s.clock ≤ stamp then some { s with clock := stamp } else none
  | .read caller stamp =>
      if s.clock ≤ stamp ∧ s.pending caller = none then
        some { s with
          clock := stamp
          pending := Function.update s.pending caller (some stamp) }
      else none
  | .append caller =>
      match s.pending caller with
      | none => some s
      | some stamp =>
          some { s with
            pending := Function.update s.pending caller none
            log := s.log ++ [stamp] }

def start (clock : Stamp) : StampedLog Caller Stamp := ⟨clock, fun _ => none, []⟩

/-- The caller that appends has the oldest of the pending stamps. -/
def InTurn (s : StampedLog Caller Stamp) : Action Caller Stamp → Prop
  | .append caller => ∀ stamp other older, s.pending caller = some stamp →
      s.pending other = some older → stamp ≤ older
  | _ => True

/-- The log is sorted, and its stamps are not newer than the pending ones. -/
structure Ordered (s : StampedLog Caller Stamp) : Prop where
  sorted : s.log.Pairwise fun earlier later => earlier ≤ later
  clock : ∀ caller stamp, s.pending caller = some stamp → stamp ≤ s.clock
  written : ∀ stamp ∈ s.log, stamp ≤ s.clock
  pending : ∀ stamp ∈ s.log, ∀ caller newer, s.pending caller = some newer → stamp ≤ newer

omit [DecidableEq Caller] in
theorem ordered_start (clock : Stamp) : Ordered (start clock : StampedLog Caller Stamp) :=
  ⟨List.Pairwise.nil, by simp [start], by simp [start], by simp [start]⟩

omit [DecidableEq Caller] in
/-- A clock that goes forward keeps the order. -/
theorem Ordered.tick {s : StampedLog Caller Stamp} (ordered : Ordered s) {stamp : Stamp}
    (forward : s.clock ≤ stamp) : Ordered { s with clock := stamp } where
  sorted := ordered.sorted
  clock caller old waits := (ordered.clock caller old waits).trans forward
  written old member := (ordered.written old member).trans forward
  pending := ordered.pending

/-- A new stamp is not older than anything before it. -/
theorem Ordered.read {s : StampedLog Caller Stamp} (ordered : Ordered s) {stamp : Stamp}
    (forward : s.clock ≤ stamp) (caller : Caller) :
    Ordered { s with
      clock := stamp
      pending := Function.update s.pending caller (some stamp) } where
  sorted := ordered.sorted
  clock other old waits := by
    simp only [Function.update_apply] at waits
    split at waits
    · exact (Option.some.inj waits).symm.le
    · exact (ordered.clock other old waits).trans forward
  written old member := (ordered.written old member).trans forward
  pending old member other newer waits := by
    simp only [Function.update_apply] at waits
    split at waits
    · exact (Option.some.inj waits) ▸ (ordered.written old member).trans forward
    · exact ordered.pending old member other newer waits

/-- The oldest pending stamp moves to the end of the log. -/
theorem Ordered.append {s : StampedLog Caller Stamp} (ordered : Ordered s) {caller : Caller}
    {stamp : Stamp} (own : s.pending caller = some stamp)
    (oldest : ∀ other older, s.pending other = some older → stamp ≤ older) :
    Ordered { s with
      pending := Function.update s.pending caller none
      log := s.log ++ [stamp] } := by
  have rest (other : Caller) (newer : Stamp)
      (still : Function.update s.pending caller none other = some newer) :
      s.pending other = some newer := by
    rw [Function.update_apply] at still
    split at still
    · cases still
    · exact still
  constructor
  · apply List.pairwise_append.mpr
    refine ⟨ordered.sorted, List.pairwise_singleton _ _, ?_⟩
    intro old member new single
    obtain rfl := List.mem_singleton.mp single
    exact ordered.pending old member caller new own
  · intro other newer still
    exact ordered.clock other newer (rest other newer still)
  · intro old member
    rcases List.mem_append.mp member with earlier | single
    · exact ordered.written old earlier
    · obtain rfl := List.mem_singleton.mp single
      exact ordered.clock caller old own
  · intro old member other newer still
    rcases List.mem_append.mp member with earlier | single
    · exact ordered.pending old earlier other newer (rest other newer still)
    · obtain rfl := List.mem_singleton.mp single
      exact oldest other newer (rest other newer still)

/-- A caller whose turn it is keeps the log sorted. -/
theorem ordered_step {s next : StampedLog Caller Stamp} {action : Action Caller Stamp}
    (taken : step s action = some next) (inTurn : InTurn s action) (ordered : Ordered s) :
    Ordered next := by
  cases action with
  | tick stamp =>
      simp only [step, Option.ite_none_right_eq_some, Option.some.injEq] at taken
      obtain ⟨forward, rfl⟩ := taken
      exact ordered.tick forward
  | read caller stamp =>
      simp only [step, Option.ite_none_right_eq_some, Option.some.injEq] at taken
      obtain ⟨⟨forward, _⟩, rfl⟩ := taken
      exact ordered.read forward caller
  | append caller =>
      simp only [step] at taken
      split at taken
      · obtain rfl := Option.some.inj taken
        exact ordered
      · rename_i stamp own
        obtain rfl := Option.some.inj taken
        exact ordered.append own fun other older => inTurn stamp other older own

/-- A run in which each caller waits for its turn has a sorted log. -/
theorem sorted_of_inTurn {clock : Stamp} {trace : List (Action Caller Stamp)}
    {final : StampedLog Caller Stamp} (reached : run step (start clock) trace = some final)
    (inTurn : StepsMeet step InTurn (start clock) trace) :
    final.log.Pairwise fun earlier later => earlier ≤ later :=
  (run_invariant_of_meets step Ordered (fun _ _ _ => ordered_step) reached inTurn
    (ordered_start clock)).sorted

/-- A step keeps the log and the pending stamp of a caller, or it moves the stamp to the log. -/
theorem step_pending {s next : StampedLog Caller Stamp} {action : Action Caller Stamp}
    (taken : step s action = some next) :
    ∃ written : Option Stamp, next.log = s.log ++ written.toList ∧
      ∀ caller stamp, s.pending caller = some stamp →
        next.pending caller = some stamp ∨ written = some stamp := by
  cases action with
  | tick stamp =>
      simp only [step, Option.ite_none_right_eq_some, Option.some.injEq] at taken
      obtain ⟨_, rfl⟩ := taken
      exact ⟨none, by simp, fun _ _ waits => .inl waits⟩
  | read caller stamp =>
      simp only [step, Option.ite_none_right_eq_some, Option.some.injEq] at taken
      obtain ⟨⟨_, free⟩, rfl⟩ := taken
      refine ⟨none, by simp, fun other old waits => .inl ?_⟩
      have different : other ≠ caller := by
        rintro rfl
        rw [free] at waits
        cases waits
      simpa [Function.update_of_ne different] using waits
  | append caller =>
      simp only [step] at taken
      split at taken
      · obtain rfl := Option.some.inj taken
        exact ⟨none, by simp, fun _ _ waits => .inl waits⟩
      · rename_i stamp own
        obtain rfl := Option.some.inj taken
        refine ⟨some stamp, rfl, fun other old waits => ?_⟩
        by_cases same : other = caller
        · subst same
          exact .inr (own.symm.trans waits)
        · exact .inl (by simpa [Function.update_of_ne same] using waits)

/-- A stamp that waits stays with its caller or enters the log. -/
theorem run_pending {s final : StampedLog Caller Stamp} {trace : List (Action Caller Stamp)}
    (reached : run step s trace = some final) :
    ∃ more, final.log = s.log ++ more ∧ ∀ caller stamp, s.pending caller = some stamp →
      final.pending caller = some stamp ∨ stamp ∈ more := by
  induction trace generalizing s with
  | nil =>
      obtain rfl := Option.some.inj reached
      exact ⟨[], by simp, fun _ _ waits => .inl waits⟩
  | cons action trace ih =>
      obtain ⟨next, taken, rest⟩ := (run_cons_eq_some step).mp reached
      obtain ⟨written, grown, moved⟩ := step_pending taken
      obtain ⟨more, finalGrown, finalMoved⟩ := ih rest
      refine ⟨written.toList ++ more, by rw [finalGrown, grown, List.append_assoc], ?_⟩
      intro caller stamp waits
      rcases moved caller stamp waits with still | now
      · exact (finalMoved caller stamp still).imp_right (List.mem_append_right _)
      · exact .inr (List.mem_append_left more (by simp [now]))

/-- An overtaken caller leaves an unsorted log behind. -/
theorem inTurn_of_sorted {clock : Stamp} {trace : List (Action Caller Stamp)}
    {final : StampedLog Caller Stamp} (reached : run step (start clock) trace = some final)
    (complete : ∀ caller, final.pending caller = none)
    (sorted : final.log.Pairwise fun earlier later => earlier ≤ later) :
    StepsMeet step InTurn (start clock) trace := by
  intro past action s part before
  cases action with
  | tick | read => trivial
  | append caller =>
      intro stamp other older own waits
      by_contra overtaken
      obtain ⟨rest, rfl⟩ := part
      rw [List.append_assoc] at reached
      obtain ⟨middle, first, last⟩ := run_split step reached
      obtain rfl := Option.some.inj (before.symm.trans first)
      obtain ⟨next, taken, after⟩ := (run_cons_eq_some step).mp last
      simp only [step, own, Option.some.injEq] at taken
      subst taken
      have different : other ≠ caller := by
        rintro rfl
        rw [own] at waits
        exact overtaken (Option.some.inj waits).le
      obtain ⟨more, grown, moved⟩ := run_pending after
      have late : older ∈ more := by
        rcases moved other older (by simpa [different] using waits) with still | written
        · rw [complete other] at still
          cases still
        · exact written
      rw [grown] at sorted
      exact overtaken ((List.pairwise_append.mp sorted).2.2 stamp (by simp) older late)

end StampedLog
end LMonitor.Library

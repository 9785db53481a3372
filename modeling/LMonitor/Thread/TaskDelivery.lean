import LMonitor.Thread.PoolSchedule
import Mathlib.Data.List.Nodup

namespace LMonitor
open Library
namespace PoolSchedule
variable {Call : Type} {threadCount : Nat}

def RunBy (s : PoolSchedule Call threadCount) (call : Call) (worker : Fin threadCount) : Prop :=
  s.pool.workers worker = .running call

/-- A thread that changed the state under the mutex has yet to notify the condition. -/
def NotificationDue (s : PoolSchedule Call threadCount) : Prop :=
  (∃ call, s.submits call = .notifying) ∨ s.stopCall = .notifying

/-- All workers wait although a task is queued or the pool stops. -/
def Stranded (s : PoolSchedule Call threadCount) : Prop :=
  (s.pool.tasks ≠ [] ∨ s.pool.stopping = true) ∧ (∀ worker, s.blocked worker = true) ∧
    ¬ s.NotificationDue

/-- An accepted task is queued, run by one worker or finished. -/
def InOnePlace (s : PoolSchedule Call threadCount) (call : Call) : Prop :=
  (call ∈ s.pool.tasks ∧ (∀ worker, ¬ s.RunBy call worker) ∧ call ∉ s.finished) ∨
  (call ∉ s.pool.tasks ∧ (∃! worker, s.RunBy call worker) ∧ call ∉ s.finished) ∨
  (call ∉ s.pool.tasks ∧ (∀ worker, ¬ s.RunBy call worker) ∧ call ∈ s.finished)

/-- The queue stays in its bound, and the tasks pass through it in their order. -/
structure Queued (s : PoolSchedule Call threadCount) : Prop where
  bounded : s.pool.tasks.length ≤ s.pool.maxQueueSize
  ordered : s.accepted = s.taken ++ s.pool.tasks
  distinct : s.accepted.Nodup
  submitted : ∀ call, call ∈ s.accepted ↔
    s.submits call = .notifying ∨ s.submits call = .returned true

/-- Each taken task is run by one worker until it finishes. -/
structure Worked (s : PoolSchedule Call threadCount) : Prop where
  taken : ∀ call, call ∈ s.taken ↔ (∃ worker, s.RunBy call worker) ∨ call ∈ s.finished
  unfinished : ∀ call worker, s.RunBy call worker → call ∉ s.finished
  finishedOnce : s.finished.Nodup
  single : ∀ call worker other, s.RunBy call worker → s.RunBy call other → worker = other

/-- A stop call drains the queue before it returns. -/
structure Stopped (s : PoolSchedule Call threadCount) : Prop where
  stopping : s.stopCall = .idle ↔ s.pool.stopping = false
  drained : ∀ worker, s.pool.workers worker = .exited →
    s.pool.stopping = true ∧ s.pool.tasks = []
  started : s.stopCall ≠ .returned → s.workers = List.finRange threadCount
  joined : ∀ rest, s.stopCall = .joining rest →
    ∀ worker, worker ∉ rest → s.pool.workers worker = .exited
  cleared : s.stopCall = .returned →
    s.workers = [] ∧ ∀ worker, s.pool.workers worker = .exited

/-- Some worker is awake while there is work, unless a notification is due. -/
def Awake (s : PoolSchedule Call threadCount) : Prop :=
  (s.pool.tasks ≠ [] ∨ s.pool.stopping = true) →
    (∃ worker, s.blocked worker = false) ∨ s.NotificationDue

/-- A step that changes neither the running tasks nor the history keeps the law. -/
theorem Worked.frame {s next : PoolSchedule Call threadCount} (worked : Worked s)
    (run : ∀ call worker, next.RunBy call worker ↔ s.RunBy call worker)
    (taken : next.taken = s.taken) (finished : next.finished = s.finished) : Worked next := by
  constructor
  · simpa only [run, taken, finished] using worked.taken
  · simpa only [run, finished] using worked.unfinished
  · simpa only [finished] using worked.finishedOnce
  · simpa only [run] using worked.single

/-- The taken task moves from the queue to its worker. -/
theorem Worked.took {s : PoolSchedule Call threadCount} (worked : Worked s) (queued : Queued s)
    {worker : Fin threadCount} {call : Call} {tasks : List Call}
    (waiting : s.pool.workers worker = .waiting) (front : s.pool.tasks = call :: tasks) :
    Worked { s with
      pool := ({ s.pool with tasks := tasks }).setWorker worker (.running call)
      taken := s.taken ++ [call] } := by
  have new : call ∉ s.taken := by
    have distinct := queued.distinct
    rw [queued.ordered, front] at distinct
    intro old
    exact (List.nodup_append.mp distinct).2.2 call old call List.mem_cons_self rfl
  have known := worked.taken call
  have run (other : Call) (which : Fin threadCount) :
      RunBy { s with
        pool := ({ s.pool with tasks := tasks }).setWorker worker (.running call)
        taken := s.taken ++ [call] } other which ↔
          (which = worker ∧ call = other) ∨ s.RunBy other which := by
    simp only [RunBy, ThreadPool.setWorker_running, WorkerState.running.injEq]
    by_cases same : which = worker
    · simp [same, waiting]
    · simp [same]
  constructor
  · intro other
    have before := worked.taken other
    simp only [run, List.mem_append, List.mem_singleton]
    grind
  · intro other which
    have before := worked.unfinished other which
    simp only [run]
    grind
  · exact worked.finishedOnce
  · intro other first second
    have before := worked.single other first second
    simp only [run]
    grind

/-- A finished task leaves its worker for good, whether it returned or threw. -/
theorem Worked.finished {s : PoolSchedule Call threadCount} (worked : Worked s)
    {worker : Fin threadCount} {call : Call} (outcome : Outcome)
    (running : s.pool.workers worker = .running call) :
    Worked (s.finish worker call outcome) := by
  have run (other : Call) (which : Fin threadCount) :
      RunBy (s.finish worker call outcome) other which ↔ which ≠ worker ∧ s.RunBy other which := by
    simp only [RunBy, finish, ThreadPool.setWorker_running, reduceCtorEq, and_false, false_or]
  have history : (s.finish worker call outcome).finished = s.finished ++ [call] := rfl
  have alone (other : Call) (ran : s.RunBy other worker) : other = call :=
    (WorkerState.running.inj (running.symm.trans ran)).symm
  have unfinished := worked.unfinished call worker running
  constructor
  · intro other
    have before := worked.taken other
    have ran : s.RunBy call worker := running
    change other ∈ s.taken ↔ _
    simp only [run, history, List.mem_append, List.mem_singleton]
    grind
  · intro other which
    have before := worked.unfinished other which
    have single := worked.single other which worker
    simp only [run, history, List.mem_append, List.mem_singleton]
    grind [RunBy]
  · rw [history, ← List.concat_eq_append]
    exact List.Nodup.concat unfinished worked.finishedOnce
  · intro other first second
    simp only [run]
    intro ran alike
    exact worked.single other first second ran.2 alike.2

/-- A step outside the stop call and the exits keeps the law while its queue allows it. -/
theorem Stopped.frame {s next : PoolSchedule Call threadCount} (stopped : Stopped s)
    (stopCall : next.stopCall = s.stopCall) (stopping : next.pool.stopping = s.pool.stopping)
    (workers : next.workers = s.workers)
    (exits : ∀ worker, next.pool.workers worker = .exited ↔ s.pool.workers worker = .exited)
    (tasks : s.pool.tasks = [] → next.pool.tasks ≠ [] → s.pool.stopping = false) :
    Stopped next := by
  constructor
  · simpa only [stopCall, stopping] using stopped.stopping
  · intro worker exited
    obtain ⟨flag, empty⟩ := stopped.drained worker ((exits worker).mp exited)
    refine ⟨stopping.trans flag, ?_⟩
    by_contra filled
    exact Bool.false_ne_true ((tasks empty filled).symm.trans flag)
  · simpa only [stopCall, workers] using stopped.started
  · simpa only [stopCall, exits] using stopped.joined
  · simpa only [stopCall, workers, exits] using stopped.cleared

/-- The stop call raises the flag before it joins a worker. -/
theorem Stopped.raised {s : PoolSchedule Call threadCount} (stopped : Stopped s)
    (fresh : s.stopCall = .idle) :
    Stopped { s with pool := { s.pool with stopping := true }, stopCall := .notifying } := by
  constructor
  · simp
  · intro worker exited
    exact ⟨rfl, (stopped.drained worker exited).2⟩
  · intro _
    exact stopped.started (by simp [fresh])
  · intro rest later
    cases later
  · intro later
    cases later

/-- The stop call joins every worker that the constructor started. -/
theorem Stopped.notified {s : PoolSchedule Call threadCount} (stopped : Stopped s)
    (due : s.stopCall = .notifying) :
    Stopped { s with blocked := fun _ => false, stopCall := .joining s.workers } := by
  have begun : s.stopCall ≠ .returned := by simp [due]
  have flag := stopped.stopping
  constructor
  · simpa [due] using flag
  · exact stopped.drained
  · intro _
    exact stopped.started begun
  · intro rest joining worker outside
    obtain rfl := StopCall.joining.inj joining
    rw [stopped.started begun] at outside
    exact absurd (List.mem_finRange worker) outside
  · intro later
    cases later

/-- A worker that exited can be joined. -/
theorem Stopped.joinedOne {s : PoolSchedule Call threadCount} (stopped : Stopped s)
    {worker : Fin threadCount} {rest : List (Fin threadCount)}
    (next : s.stopCall = .joining (worker :: rest)) (exited : s.pool.workers worker = .exited) :
    Stopped { s with stopCall := .joining rest } := by
  have flag := stopped.stopping
  constructor
  · simpa [next] using flag
  · exact stopped.drained
  · intro _
    exact stopped.started (by simp [next])
  · intro remaining joining other outside
    obtain rfl := StopCall.joining.inj joining
    by_cases same : other = worker
    · rw [same]
      exact exited
    · exact stopped.joined _ next other (by simp [same, outside])
  · intro later
    cases later

/-- All workers left their loops when the last one is joined. -/
theorem Stopped.joinedAll {s : PoolSchedule Call threadCount} (stopped : Stopped s)
    (all : s.stopCall = .joining []) : Stopped { s with workers := [], stopCall := .returned } := by
  have flag := stopped.stopping
  constructor
  · simpa [all] using flag
  · exact stopped.drained
  · intro later
    exact absurd rfl later
  · intro rest joining
    cases joining
  · intro _
    exact ⟨rfl, fun worker => stopped.joined [] all worker List.not_mem_nil⟩

/-- A worker leaves its loop only with an empty queue. -/
theorem Stopped.exits {s : PoolSchedule Call threadCount} (stopped : Stopped s)
    (worker : Fin threadCount) (empty : s.pool.tasks = []) (stopping : s.pool.stopping = true) :
    Stopped { s with pool := s.pool.setWorker worker .exited } := by
  have exits (other : Fin threadCount) :
      (s.pool.setWorker worker .exited).workers other = .exited ↔
        other = worker ∨ s.pool.workers other = .exited := by
    by_cases same : other = worker <;> simp [ThreadPool.setWorker, same]
  constructor
  · exact stopped.stopping
  · intro _ _
    exact ⟨stopping, empty⟩
  · exact stopped.started
  · intro rest joining other outside
    exact (exits other).mpr (.inr (stopped.joined rest joining other outside))
  · intro returned
    obtain ⟨none, all⟩ := stopped.cleared returned
    exact ⟨none, fun other => (exits other).mpr (.inr (all other))⟩

/-- A step that keeps the work, the sleepers and the notifications keeps the law. -/
theorem Awake.frame {s next : PoolSchedule Call threadCount} (awake : Awake s)
    (tasks : next.pool.tasks = s.pool.tasks) (stopping : next.pool.stopping = s.pool.stopping)
    (blocked : next.blocked = s.blocked) (due : s.NotificationDue → next.NotificationDue) :
    Awake next := by
  intro work
  rw [tasks, stopping] at work
  rw [blocked]
  exact (awake work).imp_right due

/-- The calls still owe their notifications when the stop call owes none. -/
theorem NotificationDue.elsewhere {s next : PoolSchedule Call threadCount}
    (submits : next.submits = s.submits) (later : s.stopCall ≠ .notifying)
    (due : s.NotificationDue) : next.NotificationDue := by
  obtain call | stop := due
  · apply Or.inl
    rw [submits]
    exact call
  · exact absurd stop later

/-- These laws hold in every state that a pool reaches. -/
structure Delivering (s : PoolSchedule Call threadCount) : Prop where
  queued : Queued s
  worked : Worked s
  stopped : Stopped s
  awake : Awake s

/-- A pool with a thread starts empty. -/
theorem construct_eq_ok {maxQueueSize : Nat} {s : PoolSchedule Call threadCount}
    (constructed : construct threadCount maxQueueSize = .ok s) :
    0 < threadCount ∧ s.pool.maxQueueSize = maxQueueSize ∧ Delivering s := by
  simp only [construct] at constructed
  split at constructed
  · cases constructed
  · split at constructed
    · cases constructed
    · rename_i positive _
      obtain rfl := Except.ok.inj constructed
      refine ⟨by omega, rfl, ?_, ?_, ?_, ?_⟩
      · exact ⟨Nat.zero_le _, rfl, List.nodup_nil, by simp⟩
      · constructor <;> simp [RunBy, ThreadPool.construct]
      · constructor <;> simp [ThreadPool.construct]
      · intro work
        simp [ThreadPool.construct] at work

/-- An accepted task is in one place. -/
theorem Delivering.inOnePlace {s : PoolSchedule Call threadCount} (delivering : Delivering s)
    {call : Call} (accepted : call ∈ s.accepted) : s.InOnePlace call := by
  have distinct := delivering.queued.distinct
  rw [delivering.queued.ordered] at accepted distinct
  have apart := (List.nodup_append.mp distinct).2.2
  have known := delivering.worked.taken call
  by_cases queued : call ∈ s.pool.tasks
  · have waiting : call ∉ s.taken := by
      intro taken
      exact apart call taken call queued rfl
    have untouched := mt known.mpr waiting
    push Not at untouched
    exact .inl ⟨queued, untouched⟩
  · have taken : call ∈ s.taken := (List.mem_append.mp accepted).resolve_right queued
    obtain ⟨worker, running⟩ | finished := known.mp taken
    · have unfinished := delivering.worked.unfinished call worker running
      refine .inr (.inl ⟨queued, ⟨worker, running, ?_⟩, unfinished⟩)
      intro other alike
      exact delivering.worked.single call other worker alike running
    · refine .inr (.inr ⟨queued, ?_, finished⟩)
      intro worker running
      exact delivering.worked.unfinished call worker running finished

/-- A refused task is never taken. -/
theorem Delivering.refused {s : PoolSchedule Call threadCount} (delivering : Delivering s)
    {call : Call} (refused : s.submits call = .returned false) : call ∉ s.taken := by
  intro taken
  have accepted : call ∈ s.accepted := by
    rw [delivering.queued.ordered]
    exact List.mem_append_left _ taken
  simpa [refused] using (delivering.queued.submitted call).mp accepted

/-- All workers left an empty queue, hence no task is left over. -/
theorem Delivering.drained {s : PoolSchedule Call threadCount} (delivering : Delivering s)
    (positive : 0 < threadCount) (returned : s.stopCall = .returned) :
    (∀ call ∈ s.accepted, call ∈ s.finished) ∧ s.workers = [] ∧
      ∀ worker, s.pool.workers worker = .exited := by
  obtain ⟨none, exited⟩ := delivering.stopped.cleared returned
  have empty := (delivering.stopped.drained ⟨0, positive⟩ (exited _)).2
  refine ⟨?_, none, exited⟩
  intro call accepted
  rw [delivering.queued.ordered, empty, List.append_nil] at accepted
  obtain ⟨worker, running⟩ | finished := (delivering.worked.taken call).mp accepted
  · rw [RunBy, exited worker] at running
    cases running
  · exact finished

variable [DecidableEq Call]

/-- A call that changes its state without a push keeps its place in the history. -/
theorem Queued.resubmit {s : PoolSchedule Call threadCount} (queued : Queued s) {call : Call}
    {state : SubmitCall}
    (same : call ∈ s.accepted ↔ state = .notifying ∨ state = .returned true) :
    Queued (s.setSubmit call state) where
  bounded := queued.bounded
  ordered := queued.ordered
  distinct := queued.distinct
  submitted other := by
    by_cases this : other = call
    · subst this
      simpa [setSubmit] using same
    · simpa [setSubmit, this] using queued.submitted other

/-- Every step keeps the queue in order. -/
theorem Queued.moved {s next : PoolSchedule Call threadCount} (queued : Queued s)
    (moved : Moved s next) : Queued next := by
  cases moved with
  | refused call fresh =>
      apply queued.resubmit
      simpa [fresh] using queued.submitted call
  | pushed call fresh accepting room =>
      have new : call ∉ s.accepted := by
        intro old
        simpa [fresh] using (queued.submitted call).mp old
      constructor
      · change (s.pool.tasks ++ [call]).length ≤ s.pool.maxQueueSize
        rw [List.length_append, List.length_singleton]
        omega
      · change s.accepted ++ [call] = s.taken ++ (s.pool.tasks ++ [call])
        rw [queued.ordered, List.append_assoc]
      · change (s.accepted ++ [call]).Nodup
        rw [← List.concat_eq_append]
        exact List.Nodup.concat new queued.distinct
      · intro other
        have known := queued.submitted other
        by_cases this : other = call
        · simp [setSubmit, this]
        · simpa [setSubmit, this] using known
  | notified call due awake =>
      apply queued.resubmit
      simpa [due] using queued.submitted call
  | woke call due worker =>
      have resubmitted : Queued (s.setSubmit call (.returned true)) := by
        apply queued.resubmit
        simpa [due] using queued.submitted call
      exact ⟨resubmitted.bounded, resubmitted.ordered, resubmitted.distinct,
        resubmitted.submitted⟩
  | took worker call tasks awake waiting front =>
      constructor
      · have bounded := queued.bounded
        rw [front, List.length_cons] at bounded
        exact Nat.le_of_succ_le bounded
      · change s.accepted = s.taken ++ [call] ++ tasks
        rw [queued.ordered, front, List.append_assoc, List.singleton_append]
      · exact queued.distinct
      · exact queued.submitted
  | stopped | alreadyStopped | allNotified | joined | cleared | left | slept | finished
  | unblocked => exact ⟨queued.bounded, queued.ordered, queued.distinct, queued.submitted⟩

/-- Every step keeps account of the taken tasks. -/
theorem Worked.moved {s next : PoolSchedule Call threadCount} (worked : Worked s)
    (queued : Queued s) (moved : Moved s next) : Worked next := by
  cases moved with
  | took worker call tasks awake waiting front => exact worked.took queued waiting front
  | finished worker call outcome running => exact worked.finished outcome running
  | left worker waiting empty stopping =>
      refine worked.frame ?_ rfl rfl
      intro call other
      simp only [RunBy, ThreadPool.setWorker_running, reduceCtorEq, and_false, false_or]
      by_cases same : other = worker
      · simp [same, waiting]
      · simp [same]
  | refused | pushed | notified | woke | stopped | alreadyStopped | allNotified | joined
  | cleared | slept | unblocked => exact worked.frame (fun _ _ => Iff.rfl) rfl rfl

/-- A worker that leaves has seen the flag and the empty queue, and no task follows. -/
theorem Stopped.moved {s next : PoolSchedule Call threadCount} (stopped : Stopped s)
    (moved : Moved s next) : Stopped next := by
  cases moved with
  | refused | notified | woke | slept | unblocked =>
      exact stopped.frame rfl rfl rfl (fun _ => Iff.rfl) fun empty filled => absurd empty filled
  | pushed call fresh accepting room =>
      exact stopped.frame rfl rfl rfl (fun _ => Iff.rfl) fun _ _ => accepting
  | stopped fresh running => exact stopped.raised fresh
  | alreadyStopped fresh stopping =>
      rw [stopped.stopping.mp fresh] at stopping
      cases stopping
  | allNotified due => exact stopped.notified due
  | joined worker rest next exited => exact stopped.joinedOne next exited
  | cleared all => exact stopped.joinedAll all
  | took worker call tasks awake waiting front =>
      refine stopped.frame rfl rfl rfl ?_ ?_
      · intro other
        by_cases same : other = worker <;> simp [ThreadPool.setWorker, same, waiting]
      · intro empty
        rw [front] at empty
        cases empty
  | left worker waiting empty stopping => exact stopped.exits worker empty stopping
  | finished worker call outcome running =>
      refine stopped.frame rfl rfl rfl ?_ ?_
      · intro other
        by_cases same : other = worker <;> simp [finish, ThreadPool.setWorker, same, running]
      · intro empty filled
        exact absurd empty filled

/-- Each notification wakes a worker, and a worker sleeps only without work. -/
theorem Awake.moved {s next : PoolSchedule Call threadCount} (awake : Awake s)
    (positive : 0 < threadCount) (moved : Moved s next) : Awake next := by
  cases moved with
  | refused call fresh =>
      refine awake.frame rfl rfl rfl ?_
      intro due
      apply due.imp_left
      intro ⟨other, notifying⟩
      have distinct : other ≠ call := by
        intro same
        rw [same, fresh] at notifying
        cases notifying
      exact ⟨other, by simp [setSubmit, distinct, notifying]⟩
  | pushed call fresh accepting room =>
      intro _
      exact .inr (.inl ⟨call, by simp [setSubmit]⟩)
  | notified call due everyone =>
      intro _
      exact .inl ⟨⟨0, positive⟩, everyone _⟩
  | woke call due worker | unblocked worker =>
      intro _
      exact .inl ⟨worker, by simp [unblock]⟩
  | stopped fresh running =>
      intro _
      exact .inr (.inr rfl)
  | alreadyStopped fresh stopping =>
      exact awake.frame rfl rfl rfl (.elsewhere rfl (by simp [fresh]))
  | allNotified due =>
      intro _
      exact .inl ⟨⟨0, positive⟩, rfl⟩
  | joined worker rest next exited =>
      exact awake.frame rfl rfl rfl (.elsewhere rfl (by simp [next]))
  | cleared all => exact awake.frame rfl rfl rfl (.elsewhere rfl (by simp [all]))
  | took worker call tasks ready waiting front =>
      intro _
      exact .inl ⟨worker, ready⟩
  | left | finished => exact awake.frame rfl rfl rfl id
  | slept worker empty running =>
      intro work
      obtain filled | stopping := work
      · exact absurd empty filled
      · rw [running] at stopping
        cases stopping

/-- Every step keeps the delivery. -/
theorem Delivering.moved {s next : PoolSchedule Call threadCount} (delivering : Delivering s)
    (positive : 0 < threadCount) (moved : Moved s next) : Delivering next where
  queued := delivering.queued.moved moved
  worked := delivering.worked.moved delivering.queued moved
  stopped := delivering.stopped.moved moved
  awake := delivering.awake.moved positive moved

/-- The bound of the queue never changes. -/
theorem Moved.maxQueueSize {s next : PoolSchedule Call threadCount} (moved : Moved s next) :
    next.pool.maxQueueSize = s.pool.maxQueueSize := by
  cases moved <;> rfl

/-- A call that returned keeps its result. -/
theorem Moved.returned {s next : PoolSchedule Call threadCount} (moved : Moved s next)
    {call : Call} {accepted : Bool} (returned : s.submits call = .returned accepted) :
    next.submits call = .returned accepted := by
  cases moved with
  | refused other fresh | pushed other fresh | notified other fresh | woke other fresh =>
      have distinct : call ≠ other := by
        intro same
        rw [same, fresh] at returned
        cases returned
      simpa [setSubmit, unblock, distinct] using returned
  | stopped | alreadyStopped | allNotified | joined | cleared | took | left | slept | finished
  | unblocked => exact returned

/-- The constructor succeeds, and then threads take any steps in any order. -/
structure PoolRun (Call : Type) [DecidableEq Call] (threadCount maxQueueSize : Nat) where
  start : PoolSchedule Call threadCount
  constructed : construct threadCount maxQueueSize = .ok start
  trace : List (Action Call threadCount)
  final : PoolSchedule Call threadCount
  reached : run step start trace = some final

namespace PoolRun
variable {maxQueueSize : Nat}

/-- The call returned its result at some moment of the run. -/
def Returned (r : PoolRun Call threadCount maxQueueSize) (call : Call) (accepted : Bool) : Prop :=
  ∃ past rest middle, r.trace = past ++ rest ∧ run step r.start past = some middle ∧
    middle.submits call = .returned accepted

/-- What a submission returned stays its result. -/
theorem returned_final {r : PoolRun Call threadCount maxQueueSize} {call : Call}
    {accepted : Bool} (returned : r.Returned call accepted) :
    r.final.submits call = .returned accepted := by
  obtain ⟨past, rest, middle, trace, before, result⟩ := returned
  have later := run_rest step (trace ▸ r.reached) before
  apply run_invariant step (fun s => s.submits call = .returned accepted) ?_ later result
  intro s action next taken known
  exact (step_moved taken).returned known

/-- The pool delivers at the end of every run. -/
theorem delivering (r : PoolRun Call threadCount maxQueueSize) :
    Delivering r.final ∧ r.final.pool.maxQueueSize = maxQueueSize := by
  obtain ⟨positive, bound, start⟩ := construct_eq_ok r.constructed
  apply run_invariant step (fun s => Delivering s ∧ s.pool.maxQueueSize = maxQueueSize) ?_
    r.reached ⟨start, bound⟩
  intro s action next taken known
  have moved := step_moved taken
  exact ⟨known.1.moved positive moved, moved.maxQueueSize.trans known.2⟩

end PoolRun

/-- The pool runs every accepted task once and in order, and it never strands one. -/
theorem delivery {maxQueueSize : Nat} (r : PoolRun Call threadCount maxQueueSize) :
    r.final.pool.tasks.length ≤ maxQueueSize ∧
    (∀ call, r.Returned call true → r.final.InOnePlace call) ∧ r.final.taken.Nodup ∧
    r.final.accepted = r.final.taken ++ r.final.pool.tasks ∧
    (∀ call, r.Returned call false → call ∉ r.final.taken) ∧
    ¬ r.final.Stranded ∧
    (r.final.stopCall = .returned →
      (∀ call ∈ r.final.accepted, call ∈ r.final.finished) ∧ r.final.workers = [] ∧
        ∀ worker, r.final.pool.workers worker = .exited) := by
  obtain ⟨delivering, bound⟩ := r.delivering
  have positive := (construct_eq_ok r.constructed).1
  have queued := delivering.queued
  refine ⟨?_, ?_, ?_, queued.ordered, ?_, ?_, delivering.drained positive⟩
  · have bounded := queued.bounded
    omega
  · intro call returned
    apply delivering.inOnePlace
    exact (queued.submitted call).mpr (.inr (PoolRun.returned_final returned))
  · have distinct := queued.distinct
    rw [queued.ordered] at distinct
    exact (List.nodup_append.mp distinct).1
  · intro call returned
    exact delivering.refused (PoolRun.returned_final returned)
  · intro ⟨work, asleep, silent⟩
    obtain ⟨worker, awake⟩ | due := delivering.awake work
    · rw [asleep worker] at awake
      cases awake
    · exact silent due

/-- The only worker survives a task that throws, sleeps, and leaves after the stop. -/
example : ((construct 1 1).toOption.bind fun start : PoolSchedule Bool 1 =>
    run step start [.check 0, .trySubmit true false, .trySubmit false false,
      .notifyOne true (some 0), .check 0, .finish 0 .threwUnknown, .check 0, .stop, .notifyAll,
      .check 0, .join, .clear]).map (fun s => (s.stopCall, s.finished, s.submits false)) =
    some (.returned, [true], .returned false) := by decide

end PoolSchedule
end LMonitor

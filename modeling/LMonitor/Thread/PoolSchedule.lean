import LMonitor.Library.Machine
import LMonitor.Model.Outcome
import LMonitor.Thread.ThreadPool

namespace LMonitor
open Library

/-- A call of `trySubmit` has not begun, still has to notify a worker, or has returned. -/
inductive SubmitCall where
  | idle
  | notifying
  | returned (accepted : Bool)
  deriving DecidableEq

/-- The stop still has to notify the workers, joins the rest of them, or has returned. -/
inductive StopCall (threadCount : Nat) where
  | idle
  | notifying
  | joining (rest : List (Fin threadCount))
  | returned
  deriving DecidableEq

/-- Each task carries the call that submits it, and the last three fields record its way. -/
structure PoolSchedule (Call : Type) (threadCount : Nat) where
  pool : ThreadPool Call Call threadCount
  workers : List (Fin threadCount)
  blocked : Fin threadCount → Bool
  submits : Call → SubmitCall
  stopCall : StopCall threadCount
  log : List Bytes
  accepted : List Call
  taken : List Call
  finished : List Call

namespace PoolSchedule
variable {Call : Type} [DecidableEq Call] {threadCount : Nat}

/-- Every worker thread starts at the head of its loop. -/
def construct (threadCount maxQueueSize : Nat) :
    Except Bytes (PoolSchedule Call threadCount) :=
  if threadCount = 0 then .error (ascii "ThreadPool thread count must be greater than 0")
  else if maxQueueSize = 0 then .error (ascii "ThreadPool max queue size must be greater than 0")
  else .ok {
    pool := ThreadPool.construct threadCount maxQueueSize
    workers := List.finRange threadCount
    blocked := fun _ => false
    submits := fun _ => .idle
    stopCall := .idle
    log := []
    accepted := []
    taken := []
    finished := [] }

/-- Each critical section of the mutex is one action, and the notifications come after it. -/
inductive Action (Call : Type) (threadCount : Nat) where
  | trySubmit (call : Call) (empty : Bool)
  | notifyOne (call : Call) (woken : Option (Fin threadCount))
  | stop
  | notifyAll
  | join
  | clear
  | check (worker : Fin threadCount)
  | finish (worker : Fin threadCount) (outcome : Outcome)
  | wakeSpuriously (worker : Fin threadCount)

def setSubmit (call : Call) (state : SubmitCall) (s : PoolSchedule Call threadCount) :
    PoolSchedule Call threadCount :=
  { s with submits := Function.update s.submits call state }

def unblock (worker : Fin threadCount) (s : PoolSchedule Call threadCount) :
    PoolSchedule Call threadCount :=
  { s with blocked := Function.update s.blocked worker false }

/-- An empty function object is refused before the lock. -/
def trySubmit (call : Call) (empty : Bool) (s : PoolSchedule Call threadCount) :
    PoolSchedule Call threadCount :=
  if empty then s.setSubmit call (.returned false)
  else
    match s.pool.trySubmit call with
    | (true, pool) =>
        { s.setSubmit call .notifying with pool := pool, accepted := s.accepted ++ [call] }
    | (false, _) => s.setSubmit call (.returned false)

/-- One blocked worker wakes up, and the notification is lost if there is none. -/
def notifyOne (call : Call) (woken : Option (Fin threadCount))
    (s : PoolSchedule Call threadCount) : Option (PoolSchedule Call threadCount) :=
  match woken with
  | some worker =>
      if s.blocked worker then some ((s.setSubmit call (.returned true)).unblock worker) else none
  | none =>
      if ∀ worker, s.blocked worker = false then some (s.setSubmit call (.returned true))
      else none

def stop (s : PoolSchedule Call threadCount) : PoolSchedule Call threadCount :=
  if s.pool.stopping then { s with stopCall := .returned }
  else { s with pool := { s.pool with stopping := true }, stopCall := .notifying }

/-- The worker holds the mutex while it tests the predicate and takes a task. -/
def check (worker : Fin threadCount) (s : PoolSchedule Call threadCount) :
    PoolSchedule Call threadCount :=
  match s.pool.take worker id with
  | some pool => { s with pool := pool, taken := s.taken ++ s.pool.tasks.take 1 }
  | none => { s with blocked := Function.update s.blocked worker true }

def finish (worker : Fin threadCount) (call : Call) (outcome : Outcome)
    (s : PoolSchedule Call threadCount) : PoolSchedule Call threadCount :=
  { s with
    pool := s.pool.setWorker worker .waiting
    log := s.log ++ outcome.errorLines (ascii "ThreadPool task")
    finished := s.finished ++ [call] }

def step (s : PoolSchedule Call threadCount) :
    Action Call threadCount → Option (PoolSchedule Call threadCount)
  | .trySubmit call empty =>
      if s.submits call = .idle then some (s.trySubmit call empty) else none
  | .notifyOne call woken =>
      if s.submits call = .notifying then s.notifyOne call woken else none
  | .stop => if s.stopCall = .idle then some s.stop else none
  | .notifyAll =>
      if s.stopCall = .notifying then
        some { s with blocked := fun _ => false, stopCall := .joining s.workers }
      else none
  | .join =>
      match s.stopCall with
      | .joining (worker :: rest) =>
          match s.pool.workers worker with
          | .exited => some { s with stopCall := .joining rest }
          | _ => none
      | _ => none
  | .clear =>
      if s.stopCall = .joining [] then some { s with workers := [], stopCall := .returned }
      else none
  | .check worker =>
      if s.blocked worker then none
      else
        match s.pool.workers worker with
        | .waiting => some (s.check worker)
        | _ => none
  | .finish worker outcome =>
      match s.pool.workers worker with
      | .running call => some (s.finish worker call outcome)
      | _ => none
  | .wakeSpuriously worker => if s.blocked worker then some (s.unblock worker) else none

/-- These are the possible effects of one step, each with what held before it. -/
inductive Moved (s : PoolSchedule Call threadCount) : PoolSchedule Call threadCount → Prop where
  | refused (call : Call) (fresh : s.submits call = .idle) :
      Moved s (s.setSubmit call (.returned false))
  | pushed (call : Call) (fresh : s.submits call = .idle) (accepting : s.pool.stopping = false)
      (room : s.pool.tasks.length < s.pool.maxQueueSize) :
      Moved s { s.setSubmit call .notifying with
        pool := { s.pool with tasks := s.pool.tasks ++ [call] }
        accepted := s.accepted ++ [call] }
  | notified (call : Call) (due : s.submits call = .notifying)
      (awake : ∀ worker, s.blocked worker = false) :
      Moved s (s.setSubmit call (.returned true))
  | woke (call : Call) (due : s.submits call = .notifying) (worker : Fin threadCount) :
      Moved s ((s.setSubmit call (.returned true)).unblock worker)
  | stopped (fresh : s.stopCall = .idle) (running : s.pool.stopping = false) :
      Moved s { s with pool := { s.pool with stopping := true }, stopCall := .notifying }
  | alreadyStopped (fresh : s.stopCall = .idle) (stopping : s.pool.stopping = true) :
      Moved s { s with stopCall := .returned }
  | allNotified (due : s.stopCall = .notifying) :
      Moved s { s with blocked := fun _ => false, stopCall := .joining s.workers }
  | joined (worker : Fin threadCount) (rest : List (Fin threadCount))
      (next : s.stopCall = .joining (worker :: rest)) (exited : s.pool.workers worker = .exited) :
      Moved s { s with stopCall := .joining rest }
  | cleared (all : s.stopCall = .joining []) :
      Moved s { s with workers := [], stopCall := .returned }
  | took (worker : Fin threadCount) (call : Call) (tasks : List Call)
      (awake : s.blocked worker = false) (waiting : s.pool.workers worker = .waiting)
      (front : s.pool.tasks = call :: tasks) :
      Moved s { s with
        pool := ({ s.pool with tasks := tasks }).setWorker worker (.running call)
        taken := s.taken ++ [call] }
  | left (worker : Fin threadCount) (waiting : s.pool.workers worker = .waiting)
      (empty : s.pool.tasks = []) (stopping : s.pool.stopping = true) :
      Moved s { s with pool := s.pool.setWorker worker .exited }
  | slept (worker : Fin threadCount) (empty : s.pool.tasks = [])
      (running : s.pool.stopping = false) :
      Moved s { s with blocked := Function.update s.blocked worker true }
  | finished (worker : Fin threadCount) (call : Call) (outcome : Outcome)
      (running : s.pool.workers worker = .running call) : Moved s (s.finish worker call outcome)
  | unblocked (worker : Fin threadCount) : Moved s (s.unblock worker)

/-- Each outcome of a submission is one of the listed steps. -/
theorem trySubmit_moved (s : PoolSchedule Call threadCount) (call : Call) (empty : Bool)
    (fresh : s.submits call = .idle) : Moved s (s.trySubmit call empty) := by
  cases empty with
  | true => exact .refused call fresh
  | false =>
      simp only [trySubmit, Bool.false_eq_true, if_false]
      split
      · rename_i pool accepted
        obtain ⟨accepting, room, rfl⟩ := ThreadPool.trySubmit_accepted accepted
        exact .pushed call fresh accepting room
      · exact .refused call fresh

/-- Each notification is one of the listed steps. -/
theorem notifyOne_moved {s next : PoolSchedule Call threadCount} {call : Call}
    {woken : Option (Fin threadCount)} (due : s.submits call = .notifying)
    (taken : s.notifyOne call woken = some next) : Moved s next := by
  cases woken with
  | some worker =>
      simp only [notifyOne, Option.ite_none_right_eq_some, Option.some.injEq] at taken
      obtain ⟨_, rfl⟩ := taken
      exact .woke call due worker
  | none =>
      simp only [notifyOne, Option.ite_none_right_eq_some, Option.some.injEq] at taken
      obtain ⟨awake, rfl⟩ := taken
      exact .notified call due awake

theorem stop_moved (s : PoolSchedule Call threadCount) (fresh : s.stopCall = .idle) :
    Moved s s.stop := by
  simp only [stop]
  split
  · rename_i stopping
    exact .alreadyStopped fresh stopping
  · rename_i running
    exact .stopped fresh (by simpa using running)

/-- Each check of a worker is one of the listed steps. -/
theorem check_moved (s : PoolSchedule Call threadCount) {worker : Fin threadCount}
    (awake : s.blocked worker = false) (waiting : s.pool.workers worker = .waiting) :
    Moved s (s.check worker) := by
  simp only [check]
  split
  · rename_i pool took
    obtain ⟨call, tasks, _, front, rfl⟩ | ⟨_, empty, stopping, rfl⟩ := ThreadPool.take_cases took
    · rw [front]
      exact .took worker call tasks awake waiting front
    · rw [empty, List.take_nil, List.append_nil]
      exact .left worker waiting empty stopping
  · rename_i refused
    obtain ⟨empty, running⟩ := ThreadPool.take_eq_none waiting refused
    exact .slept worker empty running

/-- Every step has one of the effects. -/
theorem step_moved {s next : PoolSchedule Call threadCount} {action : Action Call threadCount}
    (taken : step s action = some next) : Moved s next := by
  cases action with
  | trySubmit call empty =>
      simp only [step, Option.ite_none_right_eq_some, Option.some.injEq] at taken
      obtain ⟨fresh, rfl⟩ := taken
      exact trySubmit_moved s call empty fresh
  | notifyOne call woken =>
      simp only [step, Option.ite_none_right_eq_some] at taken
      exact notifyOne_moved taken.1 taken.2
  | stop =>
      simp only [step, Option.ite_none_right_eq_some, Option.some.injEq] at taken
      obtain ⟨fresh, rfl⟩ := taken
      exact stop_moved s fresh
  | notifyAll =>
      simp only [step, Option.ite_none_right_eq_some, Option.some.injEq] at taken
      obtain ⟨due, rfl⟩ := taken
      exact .allNotified due
  | join =>
      simp only [step] at taken
      split at taken
      · rename_i worker rest joining
        split at taken
        · rename_i exited
          obtain rfl := Option.some.inj taken
          exact .joined worker rest joining exited
        · cases taken
      · cases taken
  | clear =>
      simp only [step, Option.ite_none_right_eq_some, Option.some.injEq] at taken
      obtain ⟨all, rfl⟩ := taken
      exact .cleared all
  | check worker =>
      simp only [step, Option.ite_none_left_eq_some, Bool.not_eq_true] at taken
      obtain ⟨awake, taken⟩ := taken
      split at taken
      · rename_i waiting
        obtain rfl := Option.some.inj taken
        exact check_moved s awake waiting
      · cases taken
  | finish worker outcome =>
      simp only [step] at taken
      split at taken
      · rename_i call running
        obtain rfl := Option.some.inj taken
        exact .finished worker call outcome running
      · cases taken
  | wakeSpuriously worker =>
      simp only [step, Option.ite_none_right_eq_some, Option.some.injEq] at taken
      obtain ⟨_, rfl⟩ := taken
      exact .unblocked worker

end PoolSchedule
end LMonitor

import Mathlib.Logic.Function.Basic

namespace LMonitor

/-- A worker thread waits for a task, runs the rest of one, or left its loop. -/
inductive WorkerState (Job : Type) where
  | waiting
  | running (job : Job)
  | exited

instance {Job : Type} : (state : WorkerState Job) → Decidable (state = .waiting)
  | .waiting => isTrue rfl
  | .running _ => isFalse nofun
  | .exited => isFalse nofun

/-- The pool shares one queue of tasks between its threads. -/
structure ThreadPool (Task Job : Type) (threadCount : Nat) where
  tasks : List Task
  maxQueueSize : Nat
  stopping : Bool
  workers : Fin threadCount → WorkerState Job

namespace ThreadPool
variable {Task Job : Type} {threadCount : Nat}

def construct (threadCount maxQueueSize : Nat) : ThreadPool Task Job threadCount :=
  ⟨[], maxQueueSize, false, fun _ => .waiting⟩

/-- The pool refuses tasks after its stop and while its queue is full. -/
def trySubmit (task : Task) (pool : ThreadPool Task Job threadCount) :
    Bool × ThreadPool Task Job threadCount :=
  if pool.stopping then (false, pool)
  else if pool.maxQueueSize ≤ pool.tasks.length then (false, pool)
  else (true, { pool with tasks := pool.tasks ++ [task] })

def setWorker (worker : Fin threadCount) (state : WorkerState Job)
    (pool : ThreadPool Task Job threadCount) : ThreadPool Task Job threadCount :=
  { pool with workers := Function.update pool.workers worker state }

/-- A waiting worker takes the oldest task or leaves once the pool stops. -/
def take (worker : Fin threadCount) (start : Task → Job)
    (pool : ThreadPool Task Job threadCount) : Option (ThreadPool Task Job threadCount) :=
  match pool.workers worker, pool.tasks with
  | .waiting, task :: tasks =>
      some ({ pool with tasks := tasks }.setWorker worker (.running (start task)))
  | .waiting, [] => if pool.stopping then some (pool.setWorker worker .exited) else none
  | _, _ => none

/-- A change of one worker leaves the jobs of the others alone. -/
theorem setWorker_running {worker other : Fin threadCount} {state : WorkerState Job} {job : Job}
    {pool : ThreadPool Task Job threadCount} :
    (pool.setWorker worker state).workers other = .running job ↔
      (other = worker ∧ state = .running job) ∨
        (other ≠ worker ∧ pool.workers other = .running job) := by
  by_cases same : other = worker <;> simp [setWorker, same]

/-- An accepted task stands at the end of a queue that had room for it. -/
theorem trySubmit_accepted {task : Task} {pool next : ThreadPool Task Job threadCount}
    (accepted : pool.trySubmit task = (true, next)) :
    pool.stopping = false ∧ pool.tasks.length < pool.maxQueueSize ∧
      next = { pool with tasks := pool.tasks ++ [task] } := by
  simp only [trySubmit] at accepted
  split at accepted
  · cases accepted
  · rename_i accepting
    split at accepted
    · cases accepted
    · rename_i room
      exact ⟨by simpa using accepting, by omega, (Prod.mk.inj accepted).2.symm⟩

/-- A refused task leaves the pool as it is. -/
theorem trySubmit_refused {task : Task} {pool next : ThreadPool Task Job threadCount}
    (refused : pool.trySubmit task = (false, next)) : next = pool := by
  simp only [trySubmit] at refused
  split at refused
  · exact (Prod.mk.inj refused).2.symm
  · split at refused
    · exact (Prod.mk.inj refused).2.symm
    · cases refused

/-- A worker takes the front of the queue or leaves an empty queue after the stop. -/
theorem take_cases {worker : Fin threadCount} {start : Task → Job}
    {pool next : ThreadPool Task Job threadCount} (taken : pool.take worker start = some next) :
    (∃ task tasks, pool.workers worker = .waiting ∧ pool.tasks = task :: tasks ∧
      next = { pool with tasks := tasks }.setWorker worker (.running (start task))) ∨
    (pool.workers worker = .waiting ∧ pool.tasks = [] ∧ pool.stopping = true ∧
      next = pool.setWorker worker .exited) := by
  simp only [take] at taken
  split at taken
  · rename_i task tasks waiting front
    exact .inl ⟨task, tasks, waiting, front, (Option.some.inj taken).symm⟩
  · rename_i waiting empty
    split at taken
    · rename_i stopping
      exact .inr ⟨waiting, empty, stopping, (Option.some.inj taken).symm⟩
    · cases taken
  · cases taken

/-- A worker that can neither take a task nor leave finds an empty queue in a running pool. -/
theorem take_eq_none {worker : Fin threadCount} {start : Task → Job}
    {pool : ThreadPool Task Job threadCount} (waiting : pool.workers worker = .waiting)
    (refused : pool.take worker start = none) : pool.tasks = [] ∧ pool.stopping = false := by
  cases queue : pool.tasks with
  | nil =>
      simp only [take, waiting, queue, ite_eq_right_iff, reduceCtorEq, imp_false] at refused
      exact ⟨rfl, by simpa using refused⟩
  | cons task tasks => simp [take, waiting, queue] at refused

end ThreadPool
end LMonitor

import LMonitor.Server.ExactlyOnce

namespace LMonitor
open Library
variable {D : Type} [DoubleText D]

/-- The reactor thread still has to deliver these messages under the names of their clients. It
remembers for each delivered message whether the pool accepted it. -/
structure Reception (D : Type) [Double D] (threadCount : Nat) where
  arriving : List (Bytes × Bytes)
  submissions : List ((Bytes × Bytes) × Bool)
  pool : ThreadPool Bytes (Stage D) threadCount
  stores : Stores D
  log : List Bytes

namespace Reception
variable {threadCount : Nat} {Entry Other : Type}

/-- The pool gave this answer to these entries. -/
def answered (answer : Bool) (submissions : List (Entry × Bool)) : List Entry :=
  (submissions.filter fun submission => submission.2 = answer).map Prod.fst

def accepted (submissions : List (Entry × Bool)) : List Entry := answered true submissions

def refused (submissions : List (Entry × Bool)) : List Entry := answered false submissions

def dropLine (clientName : Bytes) : Bytes :=
  ascii "Worker queue full, drop metrics from " ++ clientName

/-- The callback submits a task for the message and drops a message that the pool refuses. -/
def messageCallback (clientName message : Bytes) (s : Reception D threadCount) :
    Reception D threadCount :=
  let (submitted, pool) := s.pool.trySubmit message
  let s := { s with
    pool := pool
    submissions := s.submissions ++ [((clientName, message), submitted)] }
  if submitted then s else { s with log := s.log ++ [dropLine clientName] }

/-- A message is delivered, a worker takes a task, or a worker makes its next call. -/
inductive Action (threadCount : Nat) where
  | deliver
  | take (worker : Fin threadCount)
  | work (worker : Fin threadCount) (now : Int)

def deliver (s : Reception D threadCount) : Option (Reception D threadCount) :=
  match s.arriving with
  | [] => none
  | (clientName, message) :: arriving =>
      some ({ s with arriving := arriving }.messageCallback clientName message)

def work (worker : Fin threadCount) (now : Int) (s : Reception D threadCount) :
    Option (Reception D threadCount) :=
  match s.pool.workers worker with
  | .running stage =>
      let (next, stores) := advance now stage s.stores
      some { s with pool := s.pool.setWorker worker (Ingest.afterCall next), stores := stores }
  | _ => none

def step (s : Reception D threadCount) : Action threadCount → Option (Reception D threadCount)
  | .deliver => s.deliver
  | .take worker => (s.pool.take worker .deserialize).map fun pool => { s with pool := pool }
  | .work worker now => s.work worker now

def start (threadCount maxQueueSize : Nat) (stores : Stores D) (arriving : List (Bytes × Bytes)) :
    Reception D threadCount :=
  ⟨arriving, [], ThreadPool.construct threadCount maxQueueSize, stores, []⟩

/-- A delivered message enters the queue, or the full queue leaves it to the log. -/
theorem deliver_cases {s next : Reception D threadCount} (taken : s.deliver = some next) :
    ∃ clientName message arriving, s.arriving = (clientName, message) :: arriving ∧
      ((∃ pool, s.pool.trySubmit message = (true, pool) ∧
          next = { s with
            arriving := arriving
            pool := pool
            submissions := s.submissions ++ [((clientName, message), true)] }) ∨
        (s.pool.trySubmit message = (false, s.pool) ∧
          next = { s with
            arriving := arriving
            submissions := s.submissions ++ [((clientName, message), false)]
            log := s.log ++ [dropLine clientName] })) := by
  simp only [deliver] at taken
  split at taken
  · cases taken
  · rename_i clientName message arriving waiting
    obtain rfl := Option.some.inj taken
    refine ⟨clientName, message, arriving, waiting, ?_⟩
    cases answer : s.pool.trySubmit message with
    | mk submitted pool =>
      cases submitted with
      | true => exact .inl ⟨pool, rfl, by simp [messageCallback, answer]⟩
      | false =>
          obtain rfl := ThreadPool.trySubmit_refused answer
          exact .inr ⟨rfl, by simp [messageCallback, answer]⟩

/-- Every message is still to come or was submitted, and each refused one has its warning. -/
structure Recorded (messages : List (Bytes × Bytes)) (s : Reception D threadCount) : Prop where
  messages : s.submissions.map Prod.fst ++ s.arriving = messages
  log : s.log = (refused s.submissions).map fun message => dropLine message.1

/-- Every step keeps the messages and the warnings recorded. -/
theorem recorded_step {messages : List (Bytes × Bytes)} (s : Reception D threadCount)
    (action : Action threadCount) (next : Reception D threadCount)
    (taken : step s action = some next) (known : Recorded messages s) :
    Recorded messages next := by
  cases action with
  | deliver =>
      obtain ⟨clientName, message, arriving, waiting, ⟨pool, _, rfl⟩ | ⟨_, rfl⟩⟩ :=
        deliver_cases taken
      · exact ⟨by simp [← known.messages, waiting], by simp [known.log, refused, answered]⟩
      · exact ⟨by simp [← known.messages, waiting], by simp [known.log, refused, answered]⟩
  | take worker =>
      obtain ⟨pool, _, rfl⟩ := Option.map_eq_some_iff.mp taken
      exact ⟨known.messages, known.log⟩
  | work worker now =>
      simp only [step, work] at taken
      split at taken
      · obtain rfl := Option.some.inj taken
        exact ⟨known.messages, known.log⟩
      · cases taken

/-- All messages were delivered, and the workers finished the tasks of the accepted ones. -/
structure Complete (s : Reception D threadCount) : Prop where
  arriving : s.arriving = []
  tasks : s.pool.tasks = []
  workers : ∀ worker, s.pool.workers worker = .waiting

instance (s : Reception D threadCount) : Decidable (Complete s) :=
  decidable_of_iff (s.arriving = [] ∧ s.pool.tasks = [] ∧
    ∀ worker, s.pool.workers worker = .waiting)
    ⟨fun ⟨arriving, tasks, workers⟩ => ⟨arriving, tasks, workers⟩,
      fun known => ⟨known.arriving, known.tasks, known.workers⟩⟩

end Reception

/-- A new server took messages as long as its queue had room, until all threads were at rest. -/
structure FinishedReception (D : Type) [DoubleText D] where
  threadCount : Nat
  maxQueueSize : Nat
  maxPointsPerHost : Nat
  fireDuration : Int
  cpuThreshold : D
  memoryThreshold : D
  messages : List (Bytes × Bytes)
  trace : List (Reception.Action threadCount)
  final : Reception D threadCount
  reached : run Reception.step (Reception.start threadCount maxQueueSize
    (Stores.construct maxPointsPerHost fireDuration cpuThreshold memoryThreshold) messages) trace =
      some final
  complete : Reception.Complete final

namespace FinishedReception
open Reception

/-- The submissions are the messages in their order, and the log names the refused ones. -/
theorem recorded (r : FinishedReception D) :
    r.final.submissions.map Prod.fst = r.messages ∧
      r.final.log = (refused r.final.submissions).map fun message => dropLine message.1 := by
  have begun : Recorded r.messages (Reception.start (D := D) r.threadCount r.maxQueueSize
    (Stores.construct r.maxPointsPerHost r.fireDuration r.cpuThreshold r.memoryThreshold)
    r.messages) := ⟨rfl, rfl⟩
  have known := run_invariant Reception.step _ recorded_step r.reached begun
  exact ⟨by simpa [r.complete.arriving] using known.messages, known.log⟩

end FinishedReception
end LMonitor

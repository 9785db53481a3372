import LMonitor.Server.IngestTask
import LMonitor.Server.SampleOrder

namespace LMonitor.Ingest
open Library
variable {D : Type} [DoubleText D]

/-- A task goes on with one call for each clock reading until it ends. -/
def call (progress : Option (Stage D) × Stores D) (reading : Int) : Option (Stage D) × Stores D :=
  match progress.1 with
  | none => progress
  | some stage => advance reading stage progress.2

def progress (payload : Bytes) (readings : List Int) (stores : Stores D) :
    Option (Stage D) × Stores D :=
  readings.foldl call (some (.deserialize payload), stores)

/-- A task of an accepted payload makes five calls, and a rejected payload ends with the first. -/
def callCount (D : Type) [DoubleText D] (payload : Bytes) : Nat :=
  if (MetricsDeserializer.deserialize (D := D) payload).toOption.isSome then 5 else 1

/-- The parser reads no clock, and the history, the alerts and the latest record read it in this
order. -/
def stamps (readings : List Int) (number : Nat) : Int := readings.getD (number + 1) 0

/-- These are the stores after one task ran alone with the clock readings of its calls. -/
def alone (clientName : Bytes) (stores : Stores D) (task : Bytes × List Int) : Stores D :=
  ((Task.workerTask (stamps task.2) clientName task.1).run ⟨stores, [], []⟩).2.stores

/-- These are the clock readings of the calls of a run in their order. -/
def worked {threadCount : Nat} (trace : List (Action threadCount)) : List Int :=
  trace.filterMap fun
    | .work _ now => some now
    | _ => none

/-- A task that has ended makes no further calls. -/
theorem ended_foldl (stores : Stores D) (readings : List Int) :
    readings.foldl call (none, stores) = (none, stores) := by
  induction readings with
  | nil => rfl
  | cons reading readings ih => exact ih

/-- The call that ends a task leaves the stores of a task that ran alone with these readings. -/
theorem progress_ended {payload : Bytes} {readings : List Int} {now : Int}
    {stores after : Stores D} (going : (progress payload readings stores).1.isSome = true)
    (ended : progress payload (readings ++ [now]) stores = (none, after)) (clientName : Bytes) :
    after = alone clientName stores (payload, readings ++ [now]) ∧
      (readings ++ [now]).length = callCount D payload := by
  cases read : MetricsDeserializer.deserialize (D := D) payload with
  | error what =>
      have whole : alone clientName stores (payload, readings ++ [now]) = stores := by
        simp only [alone, Task.workerTask_rejected read]
      have one : callCount D payload = 1 := by simp [callCount, read, Except.toOption]
      rw [whole, one]
      cases readings with
      | nil =>
          have refused : progress payload [now] stores = (none, stores) := by
            simp [progress, call, advance, read]
          exact ⟨(Prod.mk.inj (ended.symm.trans refused)).2, rfl⟩
      | cons reading readings =>
          have refused : progress payload (reading :: readings) stores = (none, stores) := by
            simp only [progress, List.foldl_cons, call, advance, read]
            exact ended_foldl stores readings
          simp [refused] at going
  | ok metrics =>
      have named := MetricsDeserializer.deserialize_hostname read
      have five : callCount D payload = 5 := by simp [callCount, read, Except.toOption]
      rw [five]
      rcases readings with _ | ⟨first, _ | ⟨second, _ | ⟨third, _ | ⟨fourth, _ | ⟨fifth, rest⟩⟩⟩⟩⟩
      · simp [progress, call, advance, read] at ended
      · simp [progress, call, advance, read] at ended
      · simp [progress, call, advance, read] at ended
      · simp [progress, call, advance, read, MetricsStore.update, named] at ended
      · obtain ⟨final, task, stored⟩ := Task.workerTask_accepted read
          (stamps [first, second, third, fourth, now]) clientName ⟨stores, [], []⟩
        refine ⟨?_, rfl⟩
        simp only [alone, List.cons_append, List.nil_append, task, stored]
        have made : progress payload [first, second, third, fourth, now] stores =
            (none, Task.ingest (stamps [first, second, third, fourth, now]) metrics stores) := by
          simp only [progress, List.foldl_cons, List.foldl_nil, call, advance, read,
            MetricsStore.update, named, if_false]
          rfl
        exact (Prod.mk.inj (ended.symm.trans made)).2
      · have finished : progress payload (first :: second :: third :: fourth :: fifth :: rest) stores =
            (none, Task.ingest (stamps [first, second, third, fourth, fifth]) metrics stores) := by
          simp only [progress, List.foldl_cons, call, advance, read, MetricsStore.update, named,
            if_false]
          exact ended_foldl _ rest
        simp [finished] at going

/-- The only worker handled the first messages one after the other, and its current task has made
some of its calls on their stores. The calls read the clock at the readings of the run. -/
def InTurn (clientName : Bytes) (first : Stores D) (payloads : List Bytes) (readings : List Int)
    (s : Ingest D 1) : Prop :=
  ∃ tasks : List (Bytes × List Int), (∀ task ∈ tasks, task.2.length = callCount D task.1) ∧
    match s.pool.workers (Fin.last 0) with
    | .running stage => ∃ payload current,
        tasks.map Prod.fst ++ payload :: (s.pool.tasks ++ s.incoming) = payloads ∧
          tasks.flatMap Prod.snd ++ current = readings ∧
          progress payload current (tasks.foldl (alone clientName) first) = (some stage, s.stores)
    | _ => tasks.map Prod.fst ++ (s.pool.tasks ++ s.incoming) = payloads ∧
        tasks.flatMap Prod.snd = readings ∧ tasks.foldl (alone clientName) first = s.stores

/-- A taken task is the next one in turn. -/
theorem inTurn_take {clientName : Bytes} {first : Stores D} {payloads : List Bytes}
    {readings : List Int} {s next : Ingest D 1} {worker : Fin 1}
    (taken : step s (.take worker) = some next)
    (known : InTurn clientName first payloads readings s) :
    InTurn clientName first payloads readings next := by
  obtain rfl : worker = Fin.last 0 := Subsingleton.elim _ _
  obtain ⟨tasks, counts, known⟩ := known
  obtain ⟨pool, moved, rfl⟩ := Option.map_eq_some_iff.mp taken
  rcases ThreadPool.take_cases moved with
    ⟨task, queue, waiting, front, rfl⟩ | ⟨waiting, empty, _, rfl⟩
  · simp only [waiting, front] at known
    refine ⟨tasks, counts, ?_⟩
    simp only [ThreadPool.setWorker, Function.update_self]
    exact ⟨task, [], known.1, by rw [List.append_nil, known.2.1], by rw [known.2.2]; rfl⟩
  · simp only [waiting] at known
    refine ⟨tasks, counts, ?_⟩
    simp only [ThreadPool.setWorker, Function.update_self]
    exact known

/-- A call belongs to the current task, and the last one of a task ends its turn. -/
theorem inTurn_work {clientName : Bytes} {first : Stores D} {payloads : List Bytes}
    {readings : List Int} {s next : Ingest D 1} {worker : Fin 1} {now : Int}
    (taken : s.work worker now = some next)
    (known : InTurn clientName first payloads readings s) :
    InTurn clientName first payloads (readings ++ [now]) next := by
  obtain rfl : worker = Fin.last 0 := Subsingleton.elim _ _
  obtain ⟨tasks, counts, known⟩ := known
  obtain ⟨stage, runs, rfl⟩ := work_cases taken
  simp only [runs] at known
  obtain ⟨payload, current, order, rfl, made⟩ := known
  have longer : progress payload (current ++ [now]) (tasks.foldl (alone clientName) first) =
      advance now stage s.stores := by
    rw [progress, List.foldl_concat, ← progress, made, call]
  cases following : (advance now stage s.stores).1 with
  | some later =>
      refine ⟨tasks, counts, ?_⟩
      simp only [ThreadPool.setWorker, Function.update_self, afterCall]
      exact ⟨payload, current ++ [now], order, (List.append_assoc ..).symm,
        by rw [longer, ← following]⟩
  | none =>
      have ended : progress payload (current ++ [now]) (tasks.foldl (alone clientName) first) =
          (none, (advance now stage s.stores).2) := by rw [longer, ← following]
      obtain ⟨whole, count⟩ := progress_ended (by rw [made]; rfl) ended clientName
      refine ⟨tasks ++ [(payload, current ++ [now])], ?_, ?_⟩
      · intro task member
        rcases List.mem_append.mp member with earlier | last
        · exact counts task earlier
        · rw [List.mem_singleton.mp last]
          exact count
      · simp only [ThreadPool.setWorker, Function.update_self, afterCall]
        refine ⟨?_, ?_, ?_⟩
        · simpa using order
        · simp
        · rw [List.foldl_concat, whole]

/-- Each step goes on in turn, and a call adds its reading. -/
theorem inTurn_step {clientName : Bytes} {first : Stores D} {payloads : List Bytes}
    (past : List (Action 1)) (s : Ingest D 1) (action : Action 1) (next : Ingest D 1)
    (taken : step s action = some next)
    (known : InTurn clientName first payloads (worked past) s) :
    InTurn clientName first payloads (worked (past ++ [action])) next := by
  cases action with
  | submit =>
      obtain ⟨message, incoming, arrived, _, rfl⟩ := submit_cases taken
      obtain ⟨tasks, counts, known⟩ := known
      refine ⟨tasks, counts, ?_⟩
      rw [arrived] at known
      simpa [worked] using known
  | take worker =>
      have same : worked (past ++ [.take worker]) = worked past := by simp [worked]
      rw [same]
      exact inTurn_take taken known
  | work worker now =>
      have more : worked (past ++ [.work worker now]) = worked past ++ [now] := by simp [worked]
      rw [more]
      exact inTurn_work taken known

/-- A pool with one thread handled all messages, whatever the stores held before. -/
structure SingleWorkerRun (D : Type) [DoubleText D] where
  maxQueueSize : Nat
  stores : Stores D
  incoming : List Bytes
  trace : List (Action 1)
  final : Ingest D 1
  reached : run step (start 1 maxQueueSize stores incoming) trace = some final
  finished : Finished final

/-- A single worker handles the messages one after the other in the order of their arrival, as if
each of their tasks ran alone with its own part of the clock readings of the run. -/
theorem single_worker_sequential (r : SingleWorkerRun D) (clientName : Bytes) :
    ∃ tasks : List (Bytes × List Int), tasks.map Prod.fst = r.incoming ∧
      (∀ task ∈ tasks, task.2.length = callCount D task.1) ∧
      tasks.flatMap Prod.snd = worked r.trace ∧
      r.final.stores = tasks.foldl (alone clientName) r.stores := by
  have begun : InTurn clientName r.stores r.incoming (worked ([] : List (Action 1)))
      (start 1 r.maxQueueSize r.stores r.incoming) := ⟨[], by simp, rfl, rfl, rfl⟩
  obtain ⟨tasks, counts, known⟩ := run_history step _ inTurn_step r.reached begun
  rw [r.finished.workers (Fin.last 0), r.finished.tasks, r.finished.incoming] at known
  exact ⟨tasks, by simpa using known.1, counts, known.2.1, known.2.2.symm⟩

/-- A sample arrives with an unreadable message behind it, and the worker reads the clock once for
each call. -/
def loadTurns : List (Action 1) :=
  [.submit, .submit, .take (Fin.last 0)] ++ [1, 2, 3, 4, 5].map (.work (Fin.last 0)) ++
    [.take (Fin.last 0), .work (Fin.last 0) 6]

def loadArrivals : List Bytes := [(loadOfA 10).payload, ascii "LMONITOR/2"]

theorem loadTurns_run :
    (run step (start 1 2 emptyStores loadArrivals) loadTurns).isSome = true := by
  decide +kernel

theorem loadTurns_finished :
    Finished ((run step (start 1 2 emptyStores loadArrivals) loadTurns).get loadTurns_run) := by
  decide +kernel

def loadInTurn : SingleWorkerRun Int where
  maxQueueSize := 2
  stores := emptyStores
  incoming := loadArrivals
  trace := loadTurns
  final := (run step (start 1 2 emptyStores loadArrivals) loadTurns).get loadTurns_run
  reached := (Option.some_get loadTurns_run).symm
  finished := loadTurns_finished

/-- Five readings belong to the sample and one to the broken message. -/
theorem single_worker_sequential_load :
    ∃ tasks : List (Bytes × List Int), tasks.map Prod.fst = loadArrivals ∧
      (∀ task ∈ tasks, task.2.length = callCount Int task.1) ∧
      tasks.flatMap Prod.snd = [1, 2, 3, 4, 5, 6] ∧
      loadInTurn.final.stores = tasks.foldl (alone []) emptyStores :=
  single_worker_sequential loadInTurn []

end LMonitor.Ingest

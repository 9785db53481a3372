import LMonitor.Agent.FrameBoundaries
import Mathlib.Algebra.Group.Int.Defs
import Mathlib.Data.List.Chain

namespace LMonitor
namespace Transmission
open Library TcpClient

/-- The clock is also read when `connectToServer` returns. -/
inductive TimedAction where
  | sample (payload : Bytes) (reconnectNow : Int) (result : ConnectResult) (ended now : Int)
  | send (result : SendResult) (now : Int)
  | stop

namespace TimedAction

def action : TimedAction → Action
  | .sample payload reconnectNow result _ now => .sample payload reconnectNow result now
  | .send result now => .send result now
  | .stop => .stop

/-- These are the readings of the clock in their order. -/
def readings : TimedAction → List Int
  | .sample _ reconnectNow _ ended now => [reconnectNow, ended, now]
  | .send _ now => [now]
  | .stop => []

end TimedAction

/-- An attempt to connect is numbered within the failures in a row and has its log lines. -/
structure Attempt where
  started : Int
  ended : Int
  connected : Bool
  failures : Nat
  lines : List Bytes

/-- The history of the agent counts the failures since the start, the last connection and the
last failed `sendAll`. -/
structure TimedAgent where
  agent : Transmission
  clock : Int
  failures : Nat
  attempts : List Attempt

namespace TimedAgent

def construct (serverIp : Bytes) (serverPort : Nat) (now : Int) : TimedAgent :=
  ⟨Transmission.construct serverIp serverPort now, now, 0, []⟩

/-- The pass that calls `connectToServer` is an attempt. -/
def attempted (t : TimedAgent) (next : Transmission) : TimedAction → Option Attempt
  | .sample payload reconnectNow result ended _ =>
      match FrameCodec.encode payload with
      | .error _ => none
      | .ok _ =>
          if ¬ t.agent.client.isConnected ∧ t.agent.nextReconnectTime ≤ reconnectNow then
            let connected := (t.agent.client.connectToServer result).1
            some {
              started := reconnectNow
              ended := ended
              connected := connected
              failures := if connected then 0 else t.failures + 1
              lines := next.log.drop t.agent.log.length }
          else none
  | _ => none

/-- A call of `sendAll` returned `false`. -/
def sendFails (t : TimedAgent) (next : Transmission) : Bool :=
  (next.calls.drop t.agent.calls.length).any fun call => !call.complete

def observe (t : TimedAgent) (action : TimedAction) (next : Transmission) : TimedAgent where
  agent := next
  clock := (action.readings.getLast?).getD t.clock
  failures :=
    if t.sendFails next then 0
    else ((t.attempted next action).map Attempt.failures).getD t.failures
  attempts := t.attempts ++ (t.attempted next action).toList

/-- The clock never goes back. -/
def step (t : TimedAgent) (action : TimedAction) : Option TimedAgent :=
  if (t.clock :: action.readings).Pairwise (· ≤ ·) then
    (Transmission.step t.agent action.action).map (t.observe action)
  else none

end TimedAgent

/-- The first failure waits one second, and each further one doubles the delay up to its limit. -/
def backoffSeconds (failures : Nat) : Int := min (2 ^ (failures - 1)) maxReconnectDelay

namespace Attempt

def delay (attempt : Attempt) : Int := backoffSeconds attempt.failures * nanosecondsPerSecond

/-- A failed attempt tells the log the delay of its number. -/
def Announced (attempt : Attempt) : Prop :=
  attempt.connected = false → attempt.lines =
    [ascii "Attempting to connect to monitoring server",
      ascii "Next monitoring server reconnect attempt in " ++
        decimalInt (backoffSeconds attempt.failures) ++ ascii " second(s)"]

/-- After the end of a failed attempt, its delay passes before the next attempt. -/
def WaitsFor (failed next : Attempt) : Prop :=
  failed.connected = false → failed.ended + failed.delay ≤ next.started

end Attempt

namespace TimedAgent

/-- A pass that comes after the reconnect time comes after it by the duration of the last failed
attempt. -/
def Late (t : TimedAgent) : TimedAction → Prop
  | .sample payload reconnectNow _ _ _ => ∀ frame failed, FrameCodec.encode payload = .ok frame →
      t.attempts.getLast? = some failed → failed.connected = false →
      t.agent.nextReconnectTime ≤ reconnectNow →
      t.agent.nextReconnectTime + (failed.ended - failed.started) ≤ reconnectNow
  | _ => True

end TimedAgent

/-- The readings of the clock and the results of the system calls are arbitrary. -/
structure TimedRun where
  serverIp : Bytes
  serverPort : Nat
  startTime : Int
  trace : List TimedAction
  final : TimedAgent
  reached : run TimedAgent.step (TimedAgent.construct serverIp serverPort startTime) trace =
    some final

theorem backoffSeconds_one : backoffSeconds 1 = 1 := by decide

/-- Each further failure doubles the delay up to its maximum. -/
theorem backoffSeconds_succ (failures : Nat) :
    min (backoffSeconds (failures + 1) * 2) maxReconnectDelay = backoffSeconds (failures + 2) := by
  have double : (2 : Int) ^ (failures + 1) = 2 ^ failures * 2 := pow_succ 2 failures
  simp only [backoffSeconds, maxReconnectDelay, Nat.add_sub_cancel]
  change min (min (2 ^ failures) 30 * 2) 30 = min ((2 : Int) ^ (failures + 1)) 30
  omega

/-- The reconnect of a disconnected agent whose time has come makes one attempt. -/
theorem reconnect_due {s : Transmission} {reconnectNow : Int}
    (due : ¬ s.client.isConnected ∧ s.nextReconnectTime ≤ reconnectNow) (result : ConnectResult) :
    ((s.client.connectToServer result).1 = false ∧ ∃ line,
      s.reconnect reconnectNow result = { s with
        client := s.client.logLine line
        log := s.log ++ [ascii "Attempting to connect to monitoring server",
          ascii "Next monitoring server reconnect attempt in " ++ decimalInt s.reconnectDelay ++
            ascii " second(s)"]
        nextReconnectTime := reconnectNow + s.reconnectDelay * nanosecondsPerSecond
        reconnectDelay := min (s.reconnectDelay * 2) maxReconnectDelay }) ∨
    ((s.client.connectToServer result).1 = true ∧
      (s.reconnect reconnectNow result).client.isConnected = true ∧
      (s.reconnect reconnectNow result).reconnectDelay = 1 ∧
      (s.reconnect reconnectNow result).calls = s.calls) := by
  have disconnected : s.client.socketFd = none := by simpa [isConnected] using due.1
  rw [reconnect, if_pos due]
  obtain ⟨line, attempt⟩ | ⟨line, attempt⟩ := connectToServer_cases result s.client disconnected
  · left
    refine ⟨by rw [attempt], line, ?_⟩
    simp only [attempt, List.append_assoc]
    rfl
  · right
    refine ⟨by rw [attempt], ?_⟩
    simp only [attempt, and_true]
    rfl

/-- Before its time, or while connected, the agent makes no attempt. -/
theorem reconnect_early {s : Transmission} {reconnectNow : Int}
    (early : ¬ (¬ s.client.isConnected ∧ s.nextReconnectTime ≤ reconnectNow))
    (result : ConnectResult) : s.reconnect reconnectNow result = s :=
  if_neg early

/-- A transmission hands its frame over and leaves the backoff alone. -/
theorem transmit_keeps {payload frame : Bytes} (encoded : FrameCodec.encode payload = .ok frame)
    (now : Int) (s : Transmission) :
    (s.transmit payload frame now).client = s.client ∧
      (s.transmit payload frame now).reconnectDelay = s.reconnectDelay ∧
      (s.transmit payload frame now).nextReconnectTime = s.nextReconnectTime ∧
      (s.transmit payload frame now).log = s.log ∧
      (s.transmit payload frame now).calls = s.calls := by
  unfold transmit
  cases connected : s.client.socketFd with
  | none => exact ⟨rfl, rfl, rfl, rfl, rfl⟩
  | some connection =>
      obtain ⟨_, rfl⟩ := FrameCodec.encode_ok_iff.mp encoded
      have started := sendAll_starts connected (FrameCodec.frame_length_pos payload)
      simp only [started, afterPass, and_self]

namespace TimedAgent
variable {t next : TimedAgent} {action : TimedAction}

/-- A step of the history observes a step of the agent. -/
theorem step_eq_some (taken : step t action = some next) :
    ∃ after, Transmission.step t.agent action.action = some after ∧
      t.observe action after = next := by
  simp only [step, Option.ite_none_right_eq_some, Option.map_eq_some_iff] at taken
  exact taken.2

/-- The step makes no attempt, and no call of `sendAll` fails. -/
structure Quiet (t : TimedAgent) (action : TimedAction) (next : TimedAgent) : Prop where
  attempts : next.attempts = t.attempts
  failures : next.failures = t.failures
  delay : next.agent.reconnectDelay = t.agent.reconnectDelay
  time : next.agent.nextReconnectTime = t.agent.nextReconnectTime
  connection : next.agent.client.isConnected = true → t.agent.client.isConnected = true
  early : ∀ payload frame reconnectNow result ended now,
    action = .sample payload reconnectNow result ended now →
    FrameCodec.encode payload = .ok frame →
    t.agent.client.isConnected = true ∨ reconnectNow < t.agent.nextReconnectTime

/-- A call of `sendAll` fails and resets the backoff. -/
structure Dropped (t : TimedAgent) (action : TimedAction) (next : TimedAgent) : Prop where
  pass : ∃ result now, action = .send result now
  connection : t.agent.client.isConnected = true
  attempts : next.attempts = t.attempts
  failures : next.failures = 0
  delay : next.agent.reconnectDelay = 1

/-- A pass makes an attempt when the time for it has come. -/
structure Tried (t : TimedAgent) (action : TimedAction) (next : TimedAgent) (attempt : Attempt) :
    Prop where
  pass : ∃ payload frame result now,
    action = .sample payload attempt.started result attempt.ended now ∧
      FrameCodec.encode payload = .ok frame
  due : t.agent.nextReconnectTime ≤ attempt.started
  attempts : next.attempts = t.attempts ++ [attempt]
  failures : next.failures = attempt.failures
  refused : attempt.connected = false →
    attempt.failures = t.failures + 1 ∧
    attempt.lines = [ascii "Attempting to connect to monitoring server",
      ascii "Next monitoring server reconnect attempt in " ++
        decimalInt t.agent.reconnectDelay ++ ascii " second(s)"] ∧
    next.agent.reconnectDelay = min (t.agent.reconnectDelay * 2) maxReconnectDelay ∧
    next.agent.nextReconnectTime =
      attempt.started + t.agent.reconnectDelay * nanosecondsPerSecond ∧
    next.agent.client.isConnected = false
  connected : attempt.connected = true →
    attempt.failures = 0 ∧ next.agent.reconnectDelay = 1

/-- A step that finishes no call does not fail to send. -/
theorem sendFails_eq_false {after : Transmission} (same : after.calls = t.agent.calls) :
    t.sendFails after = false := by
  simp [sendFails, same]

theorem observe_none {after : Transmission} (none : t.attempted after action = none)
    (sends : t.sendFails after = false) :
    (t.observe action after).attempts = t.attempts ∧
      (t.observe action after).failures = t.failures := by
  simp [observe, none, sends]

/-- An attempt is recorded with its outcome. -/
theorem observe_some {after : Transmission} {attempt : Attempt}
    (some : t.attempted after action = some attempt) (sends : t.sendFails after = false) :
    (t.observe action after).attempts = t.attempts ++ [attempt] ∧
      (t.observe action after).failures = attempt.failures := by
  simp [observe, some, sends]

section Sample
variable {payload frame : Bytes} {reconnectNow ended now : Int} {result : ConnectResult}

/-- A pass with a payload that fits tries to connect when it is due. -/
theorem sample_due (encoded : FrameCodec.encode payload = .ok frame)
    (due : ¬ t.agent.client.isConnected ∧ t.agent.nextReconnectTime ≤ reconnectNow) :
    ∃ attempt, Tried t (.sample payload reconnectNow result ended now)
      (t.observe (.sample payload reconnectNow result ended now)
        ((t.agent.reconnect reconnectNow result).transmit payload frame now)) attempt := by
  obtain ⟨client, delay, time, log, calls⟩ :=
    transmit_keeps encoded now (t.agent.reconnect reconnectNow result)
  have made : t.attempted ((t.agent.reconnect reconnectNow result).transmit payload frame now)
      (.sample payload reconnectNow result ended now) = some {
        started := reconnectNow
        ended := ended
        connected := (t.agent.client.connectToServer result).1
        failures := if (t.agent.client.connectToServer result).1 then 0 else t.failures + 1
        lines := ((t.agent.reconnect reconnectNow result).transmit payload frame now).log.drop
          t.agent.log.length } := by
    simp only [attempted, encoded, if_pos due]
  obtain ⟨failed, line, attempt⟩ | ⟨established, connection, first, same⟩ :=
    reconnect_due due result
  · rw [failed] at made
    rw [attempt] at client delay time log calls
    rw [attempt] at made ⊢
    rw [log] at made
    obtain ⟨attempts, failures⟩ := observe_some made (sendFails_eq_false calls)
    refine ⟨_, ⟨payload, frame, result, now, rfl, encoded⟩, due.2, attempts, failures, ?_, ?_⟩
    · intro refused
      have disconnected : (t.agent.client.logLine line).isConnected = false :=
        Bool.of_not_eq_true due.1
      exact ⟨rfl, List.drop_left, delay, time, (congrArg isConnected client).trans disconnected⟩
    · intro connected
      cases connected
  · rw [established] at made
    obtain ⟨attempts, failures⟩ := observe_some made (sendFails_eq_false (calls.trans same))
    refine ⟨_, ⟨payload, frame, result, now, rfl, encoded⟩, due.2, attempts, failures, ?_, ?_⟩
    · intro refused
      cases refused
    · intro connected
      exact ⟨rfl, delay.trans first⟩

theorem sample_early (encoded : FrameCodec.encode payload = .ok frame)
    (early : ¬ (¬ t.agent.client.isConnected ∧ t.agent.nextReconnectTime ≤ reconnectNow)) :
    Quiet t (.sample payload reconnectNow result ended now)
      (t.observe (.sample payload reconnectNow result ended now)
        ((t.agent.reconnect reconnectNow result).transmit payload frame now)) := by
  obtain ⟨client, delay, time, log, calls⟩ :=
    transmit_keeps encoded now (t.agent.reconnect reconnectNow result)
  rw [reconnect_early early] at client delay time log calls ⊢
  have none : t.attempted (t.agent.transmit payload frame now)
      (.sample payload reconnectNow result ended now) = none := by
    simp only [attempted, encoded, if_neg early]
  obtain ⟨attempts, failures⟩ := observe_none none (sendFails_eq_false calls)
  refine ⟨attempts, failures, delay, time, ?_, ?_⟩
  · intro connection
    rw [← client]
    exact connection
  · intro payload frame reconnectNow result ended now same encoded
    cases same
    by_contra late
    obtain ⟨disconnected, late⟩ := not_or.mp late
    exact early ⟨disconnected, Int.not_lt.mp late⟩

end Sample

/-- An agent that leaves its loop closes its connection. -/
theorem leave_quiet (none : t.attempted t.agent.leave action = none)
    (quiet : ∀ payload frame reconnectNow result ended now,
      action = .sample payload reconnectNow result ended now →
      FrameCodec.encode payload ≠ .ok frame) :
    Quiet t action (t.observe action t.agent.leave) := by
  obtain ⟨attempts, failures⟩ := observe_none none (sendFails_eq_false rfl)
  refine ⟨attempts, failures, rfl, rfl, ?_, ?_⟩
  · intro connection
    cases connection
  · intro payload frame reconnectNow result ended now same encoded
    exact absurd encoded (quiet payload frame reconnectNow result ended now same)

theorem send_quiet {after : Transmission} {result : SendResult} {now : Int}
    (connected : t.agent.client.isConnected = true) (sends : t.sendFails after = false)
    (delay : after.reconnectDelay = t.agent.reconnectDelay)
    (time : after.nextReconnectTime = t.agent.nextReconnectTime) :
    Quiet t (.send result now) (t.observe (.send result now) after) := by
  have none : t.attempted after (.send result now) = none := rfl
  obtain ⟨attempts, failures⟩ := observe_none none sends
  refine ⟨attempts, failures, delay, time, fun _ => connected, ?_⟩
  intro _ _ _ _ _ _ same
  cases same

/-- A pass of the send loop goes on, or it ends its call. -/
theorem send_cases {call : SendCall} {totalSent : Nat} {result : SendResult} (now : Int)
    (connected : t.agent.client.isConnected = true)
    (possible : result.Possible (call.frame.length - totalSent)) :
    let next := t.observe (.send result now)
      (afterPass call now (t.agent.client.sendPass call.frame totalSent result).1
        { t.agent with client := (t.agent.client.sendPass call.frame totalSent result).2 })
    Quiet t (.send result now) next ∨ Dropped t (.send result now) next := by
  obtain ⟨count, _, _, pass⟩ | pass | ⟨line, pass⟩ := sendPass_cases possible
  · left
    rw [pass, loopHead]
    split
    · exact send_quiet connected (sendFails_eq_false rfl) rfl rfl
    · apply send_quiet connected
      · simp [sendFails, afterPass]
      · rfl
      · rfl
  · left
    rw [pass]
    exact send_quiet connected (sendFails_eq_false rfl) rfl rfl
  · right
    rw [pass]
    have fails : t.sendFails (afterPass call now (.returned false)
        { t.agent with client := (t.agent.client.logLine line).disconnect }) = true := by
      simp [sendFails, afterPass]
    refine ⟨⟨result, now, rfl⟩, connected, List.append_nil _, ?_, rfl⟩
    simp only [observe, fails, if_true]

/-- A sample leaves the loop, or its pass tries to connect when that is due. -/
theorem sample_cases {payload : Bytes} {reconnectNow ended now : Int} {result : ConnectResult}
    {after : Transmission}
    (moved : Transmission.step t.agent (.sample payload reconnectNow result now) = some after) :
    Quiet t (.sample payload reconnectNow result ended now)
        (t.observe (.sample payload reconnectNow result ended now) after) ∨
      ∃ attempt, Tried t (.sample payload reconnectNow result ended now)
        (t.observe (.sample payload reconnectNow result ended now) after) attempt := by
  simp only [Transmission.step] at moved
  split at moved
  · cases encoded : FrameCodec.encode payload with
    | error message =>
        rw [encoded] at moved
        obtain rfl := Option.some.inj moved
        left
        apply leave_quiet
        · simp only [attempted, encoded]
        · intro _ frame _ _ _ _ same valid
          cases same
          rw [encoded] at valid
          cases valid
    | ok frame =>
        rw [encoded] at moved
        obtain rfl := Option.some.inj moved
        by_cases due : ¬ t.agent.client.isConnected ∧ t.agent.nextReconnectTime ≤ reconnectNow
        · exact .inr (sample_due encoded due)
        · exact .inl (sample_early encoded due)
  · cases moved

/-- A step makes an attempt, fails a call, or leaves the backoff alone. -/
theorem step_cases (aligned : Link.Aligned t.agent.view) (taken : step t action = some next) :
    Quiet t action next ∨ Dropped t action next ∨ ∃ attempt, Tried t action next attempt := by
  obtain ⟨after, moved, rfl⟩ := step_eq_some taken
  cases action with
  | sample payload reconnectNow result ended now => exact (sample_cases moved).imp_right .inr
  | send result now =>
      simp only [TimedAction.action, Transmission.step] at moved
      split at moved
      · rename_i call totalSent sending
        simp only [Option.ite_none_right_eq_some, Option.some.injEq] at moved
        obtain ⟨possible, rfl⟩ := moved
        have connected : t.agent.client.socketFd = some call.connection :=
          (aligned.busy call totalSent sending).1
        exact (send_cases now (by simp [isConnected, connected]) possible).imp_right .inl
      · cases moved
  | stop =>
      simp only [TimedAction.action, Transmission.step] at moved
      split at moved
      · obtain rfl := Option.some.inj moved
        left
        apply leave_quiet
        · rfl
        · intro _ _ _ _ _ _ same
          cases same
      · cases moved

/-- The backoff follows the failures in a row, and after a failed attempt the agent is disconnected
until its delay is over. -/
structure Backoff (t : TimedAgent) : Prop where
  aligned : Link.Aligned t.agent.view
  delay : t.agent.reconnectDelay = backoffSeconds (t.failures + 1)
  waiting : ∀ failed, t.attempts.getLast? = some failed → failed.connected = false →
    t.agent.client.isConnected = false ∧
      t.agent.nextReconnectTime = failed.started + failed.delay
  announced : ∀ attempt ∈ t.attempts, attempt.Announced

/-- The agent starts with a delay of one second and without attempts. -/
theorem construct_backoff (serverIp : Bytes) (serverPort : Nat) (now : Int) :
    Backoff (construct serverIp serverPort now) where
  aligned := construct_aligned serverIp serverPort now
  delay := backoffSeconds_one.symm
  waiting failed last := by cases last
  announced attempt member := by cases member

/-- A connected agent did not fail its last attempt. -/
theorem Backoff.last_connected (backoff : Backoff t) (connected : t.agent.client.isConnected = true)
    {last : Attempt} (latest : t.attempts.getLast? = some last) : last.connected = true := by
  by_contra failed
  have disconnected := (backoff.waiting last latest (Bool.of_not_eq_true failed)).1
  rw [connected] at disconnected
  cases disconnected

/-- A quiet step keeps the relation of the delay to the failures. -/
theorem Backoff.quiet (backoff : Backoff t) (aligned : Link.Aligned next.agent.view)
    (quiet : Quiet t action next) : Backoff next where
  aligned := aligned
  delay := by rw [quiet.delay, quiet.failures, backoff.delay]
  waiting failed last refused := by
    rw [quiet.attempts] at last
    obtain ⟨disconnected, time⟩ := backoff.waiting failed last refused
    constructor
    · by_contra connected
      rw [quiet.connection (Bool.of_not_eq_false connected)] at disconnected
      cases disconnected
    · rw [quiet.time, time]
  announced := by
    rw [quiet.attempts]
    exact backoff.announced

/-- A call that fails to send resets the backoff. -/
theorem Backoff.dropped (backoff : Backoff t) (aligned : Link.Aligned next.agent.view)
    (dropped : Dropped t action next) : Backoff next where
  aligned := aligned
  delay := by rw [dropped.delay, dropped.failures, backoffSeconds_one]
  waiting failed last refused := by
    rw [dropped.attempts] at last
    rw [backoff.last_connected dropped.connection last] at refused
    cases refused
  announced := by
    rw [dropped.attempts]
    exact backoff.announced

/-- An attempt announces the delay of its number, and the next attempt waits for it. -/
theorem Backoff.tried (backoff : Backoff t) (aligned : Link.Aligned next.agent.view)
    {attempt : Attempt} (tried : Tried t action next attempt) : Backoff next where
  aligned := aligned
  delay := by
    rw [tried.failures]
    cases outcome : attempt.connected with
    | true =>
        obtain ⟨failures, delay⟩ := tried.connected outcome
        rw [failures, delay, backoffSeconds_one]
    | false =>
        obtain ⟨failures, _, delay, _, _⟩ := tried.refused outcome
        rw [failures, delay, backoff.delay, backoffSeconds_succ]
  waiting failed last refused := by
    rw [tried.attempts, List.getLast?_concat] at last
    obtain rfl := Option.some.inj last
    obtain ⟨failures, _, _, time, disconnected⟩ := tried.refused refused
    exact ⟨disconnected, by rw [time, Attempt.delay, failures, backoff.delay]⟩
  announced := by
    intro known member
    rw [tried.attempts, List.mem_append, List.mem_singleton] at member
    rcases member with earlier | rfl
    · exact backoff.announced known earlier
    · intro refused
      obtain ⟨failures, lines, _, _, _⟩ := tried.refused refused
      rw [lines, failures, backoff.delay]

/-- Every step keeps the relation of the delay to the failures. -/
theorem step_backoff (taken : step t action = some next) (backoff : Backoff t) : Backoff next := by
  have aligned : Link.Aligned next.agent.view := by
    obtain ⟨after, moved, rfl⟩ := step_eq_some taken
    exact backoff.aligned.moves (step_moves backoff.aligned moved)
  obtain quiet | dropped | ⟨attempt, tried⟩ := step_cases backoff.aligned taken
  · exact backoff.quiet aligned quiet
  · exact backoff.dropped aligned dropped
  · exact backoff.tried aligned tried

/-- Each next attempt waits for the end of the one before it and for its delay. -/
def Waits (attempts : List Attempt) : Prop := attempts.IsChain Attempt.WaitsFor

theorem waits_concat (attempts : List Attempt) (attempt : Attempt) :
    Waits (attempts ++ [attempt]) ↔
      Waits attempts ∧ ∀ failed, attempts.getLast? = some failed → failed.WaitsFor attempt := by
  simp [Waits, List.isChain_append]

/-- A pass that is not due is late enough. -/
theorem Backoff.late_of_quiet (backoff : Backoff t) (quiet : Quiet t action next) :
    Late t action := by
  cases action with
  | sample payload reconnectNow result ended now =>
      intro frame failed encoded last refused due
      obtain ⟨disconnected, _⟩ := backoff.waiting failed last refused
      obtain connected | early :=
        quiet.early payload frame reconnectNow result ended now rfl encoded
      · rw [connected] at disconnected
        cases disconnected
      · omega
  | send result now => trivial
  | stop => trivial

/-- An attempt waits for the last one exactly when its pass is late enough. -/
theorem Backoff.waitsFor_iff (backoff : Backoff t) {attempt : Attempt}
    (tried : Tried t action next attempt) :
    (∀ failed, t.attempts.getLast? = some failed → failed.WaitsFor attempt) ↔ Late t action := by
  obtain ⟨payload, frame, result, now, rfl, encoded⟩ := tried.pass
  constructor
  · intro waits _ failed _ last refused _
    have enough := waits failed last refused
    have time := (backoff.waiting failed last refused).2
    omega
  · intro late failed last refused
    have enough := late frame failed encoded last refused tried.due
    have time := (backoff.waiting failed last refused).2
    omega

/-- A step keeps the waiting exactly when its pass comes late enough. -/
theorem step_waits_iff (taken : step t action = some next) (backoff : Backoff t) :
    Waits next.attempts ↔ Waits t.attempts ∧ Late t action := by
  obtain quiet | dropped | ⟨attempt, tried⟩ := step_cases backoff.aligned taken
  · rw [quiet.attempts, and_iff_left (backoff.late_of_quiet quiet)]
  · obtain ⟨result, now, rfl⟩ := dropped.pass
    rw [dropped.attempts, and_iff_left]
    trivial
  · rw [tried.attempts, waits_concat, backoff.waitsFor_iff tried]

end TimedAgent

/-- Every failed attempt announces the delay of its number. The next attempt waits for that delay
after the end of the failed one exactly when every pass comes late enough. -/
theorem backoff_iff (r : TimedRun) :
    (∀ attempt ∈ r.final.attempts, attempt.Announced) ∧
      (TimedAgent.Waits r.final.attempts ↔
        StepsMeet TimedAgent.step TimedAgent.Late
          (TimedAgent.construct r.serverIp r.serverPort r.startTime) r.trace) := by
  have start := TimedAgent.construct_backoff r.serverIp r.serverPort r.startTime
  constructor
  · apply TimedAgent.Backoff.announced
    apply run_invariant TimedAgent.step TimedAgent.Backoff ?_ r.reached start
    intro t action next taken backoff
    exact TimedAgent.step_backoff taken backoff
  · apply run_iff_stepsMeet TimedAgent.step TimedAgent.Backoff
      (fun t => TimedAgent.Waits t.attempts) ?_ ?_ r.reached start List.isChain_nil
    · intro t action next taken backoff
      exact TimedAgent.step_backoff taken backoff
    · intro t action next taken backoff
      exact TimedAgent.step_waits_iff taken backoff

/-- Two passes fail to connect, and the first attempt lasts ten seconds. -/
def slowPasses : List TimedAction :=
  [.sample (ascii "hostname=agent\n") 0 (.connectFailed (ascii "Connection timed out"))
      10000000000 10000000000,
    .sample (ascii "hostname=agent\n") 10000000000
      (.connectFailed (ascii "Connection timed out")) 20000000000 20000000000]

/-- The second attempt starts at the end of the first one, which announced a delay of one second. -/
theorem attempt_starts_early : ∃ r : TimedRun, ¬ TimedAgent.Waits r.final.attempts := by
  refine ⟨⟨ascii "127.0.0.1", 9000, 0, slowPasses, _, rfl⟩, ?_⟩
  intro waits
  have early := (List.isChain_cons_cons.mp waits).1 rfl
  exact absurd early (by decide)

end Transmission
end LMonitor

import LMonitor.Agent.Transmission
import LMonitor.Network.Reassembly
import Mathlib.Data.List.TakeDrop
import Mathlib.Logic.Relation

namespace LMonitor
open Library FrameCodec TcpClient

/-- The link forgets the backoff and the log of the agent. -/
structure Link where
  socketFd : Option Nat
  opened : Nat
  written : Nat → Bytes
  part : AgentPart
  calls : List FinishedCall

namespace Link

/-- Each move is one effect that the agent can have on its connections. -/
inductive Moves : Link → Link → Prop where
  | opens (l : Link) (disconnected : l.socketFd = none) (idle : l.part = .sampling) :
      Moves l { l with socketFd := some l.opened, opened := l.opened + 1 }
  | begins (l : Link) (connection : Nat) (payload : Bytes)
      (connected : l.socketFd = some connection) (idle : l.part = .sampling)
      (fits : payload.length ≤ maxFrameSize) :
      Moves l { l with
        part := .sending ⟨connection, payload, frame payload, l.written connection⟩ 0 }
  | writes (l : Link) (call : SendCall) (connection totalSent count : Nat)
      (sending : l.part = .sending call totalSent) (connected : l.socketFd = some connection)
      (more : totalSent + count < call.frame.length) :
      Moves l { l with
        written := Function.update l.written connection
          (l.written connection ++ (call.frame.drop totalSent).take count)
        part := .sending call (totalSent + count) }
  | completes (l : Link) (call : SendCall) (connection totalSent count : Nat)
      (sending : l.part = .sending call totalSent) (connected : l.socketFd = some connection)
      (last : totalSent + count = call.frame.length) (after : Bytes)
      (same : after = Function.update l.written connection
        (l.written connection ++ (call.frame.drop totalSent).take count) call.connection) :
      Moves l { l with
        written := Function.update l.written connection
          (l.written connection ++ (call.frame.drop totalSent).take count)
        part := .sampling
        calls := l.calls ++ [⟨call, after, true⟩] }
  | aborts (l : Link) (call : SendCall) (totalSent : Nat)
      (sending : l.part = .sending call totalSent) :
      Moves l { l with
        socketFd := none
        part := .sampling
        calls := l.calls ++ [⟨call, l.written call.connection, false⟩] }
  | leaves (l : Link) (idle : l.part = .sampling) :
      Moves l { l with socketFd := none, part := .ended }

/-- These payloads were sent completely on the connection. -/
def sentOn (calls : List FinishedCall) (connection : Nat) : List Bytes :=
  (calls.filter fun call => call.connection = connection ∧ call.complete).map
    fun call => call.payload

def frames (payloads : List Bytes) : Bytes := (payloads.map frame).flatten

/-- The bytes are a strict prefix of a frame. -/
def Torn (bytes : Bytes) : Prop := ∃ whole, LegalFrame whole ∧ bytes <+: whole ∧ bytes ≠ whole

/-- A finished call wrote its whole frame, or a strict prefix of it on a lost connection. -/
structure Sound (l : Link) (call : FinishedCall) : Prop where
  known : call.connection < l.opened
  encoded : encode call.payload = .ok call.frame
  complete : call.complete = true → call.after = call.before ++ call.frame
  torn : call.complete = false → l.socketFd ≠ some call.connection ∧
    ∃ part, part <+: call.frame ∧ part ≠ call.frame ∧ call.after = call.before ++ part

/-- The connections hold whole frames, and only the last frame of a connection can be torn. -/
structure Aligned (l : Link) : Prop where
  current : ∀ connection, l.socketFd = some connection → connection < l.opened
  fresh : ∀ connection, l.opened ≤ connection → l.written connection = []
  sound : ∀ call ∈ l.calls, Sound l call
  busy : ∀ call totalSent, l.part = .sending call totalSent →
    l.socketFd = some call.connection ∧ totalSent < call.frame.length ∧
      encode call.payload = .ok call.frame ∧
      call.before = frames (sentOn l.calls call.connection) ∧
      l.written call.connection = call.before ++ call.frame.take totalSent
  idle : (∀ call totalSent, l.part ≠ .sending call totalSent) →
    ∀ connection, l.socketFd = some connection →
      l.written connection = frames (sentOn l.calls connection)
  closed : ∀ connection, l.socketFd ≠ some connection →
    ∃ tail, l.written connection = frames (sentOn l.calls connection) ++ tail ∧ Torn tail

/-- A finished call adds its payload to its own connection if it was complete. -/
theorem sentOn_append (calls : List FinishedCall) (call : FinishedCall) (connection : Nat) :
    sentOn (calls ++ [call]) connection = sentOn calls connection ++
      if call.connection = connection ∧ call.complete = true then [call.payload] else [] := by
  simp only [sentOn, List.filter_append, List.map_append]
  congr 1
  by_cases this : call.connection = connection ∧ call.complete = true <;> simp [this]

theorem sentOn_other {calls : List FinishedCall} {call : FinishedCall} {connection : Nat}
    (other : ¬ (call.connection = connection ∧ call.complete = true)) :
    sentOn (calls ++ [call]) connection = sentOn calls connection := by
  rw [sentOn_append, if_neg other, List.append_nil]

theorem torn_nil : Torn [] := by
  refine ⟨frame [], legalFrame_iff.mpr ⟨[], Nat.zero_le _, rfl⟩, List.nil_prefix, ?_⟩
  intro same
  cases congrArg List.length same

theorem take_ne_self {bytes : Bytes} {count : Nat} (short : count < bytes.length) :
    bytes.take count ≠ bytes := by
  intro whole
  have long := (List.take_eq_self_iff bytes).mp whole
  omega

/-- The written part of a frame is torn until the frame is complete. -/
theorem torn_take {payload bytes : Bytes} {count : Nat} (encoded : encode payload = .ok bytes)
    (short : count < bytes.length) : Torn (bytes.take count) :=
  ⟨bytes, ⟨payload, encoded⟩, List.take_prefix count bytes, take_ne_self short⟩

/-- A connection without calls has sent nothing. -/
theorem sentOn_eq_nil {l : Link} (aligned : Aligned l) {connection : Nat}
    (unknown : l.opened ≤ connection) : sentOn l.calls connection = [] := by
  rw [sentOn, List.map_eq_nil_iff, List.filter_eq_nil_iff]
  intro call member
  have known := (aligned.sound call member).known
  simp only [decide_eq_true_eq, not_and]
  omega

/-- The frames of one more payload end with its frame. -/
theorem frames_append (payloads : List Bytes) (payload : Bytes) :
    frames (payloads ++ [payload]) = frames payloads ++ frame payload := by
  simp [frames]

/-- A call stays sound while its connection stays lost. -/
theorem Sound.frame {l next : Link} {call : FinishedCall} (sound : Sound l call)
    (opened : l.opened ≤ next.opened)
    (socketFd : next.socketFd = some call.connection → l.socketFd = some call.connection) :
    Sound next call where
  known := Nat.lt_of_lt_of_le sound.known opened
  encoded := sound.encoded
  complete := sound.complete
  torn failed := by
    obtain ⟨lost, part⟩ := sound.torn failed
    exact ⟨fun same => lost (socketFd same), part⟩

/-- A new connection has no bytes yet. -/
theorem Aligned.opens {l : Link} (aligned : Aligned l) (disconnected : l.socketFd = none)
    (idle : l.part = .sampling) :
    Aligned { l with socketFd := some l.opened, opened := l.opened + 1 } where
  current connection same := by
    obtain rfl := Option.some.inj same
    exact Nat.lt_succ_self _
  fresh connection unknown := aligned.fresh connection (Nat.le_of_succ_le unknown)
  sound call member := by
    have sound := aligned.sound call member
    apply sound.frame (Nat.le_succ _)
    intro same
    have known := sound.known
    rw [← Option.some.inj same] at known
    exact absurd known (Nat.lt_irrefl _)
  busy call totalSent sending := by
    rw [show l.part = .sending call totalSent from sending] at idle
    cases idle
  idle _ connection same := by
    obtain rfl := Option.some.inj same
    rw [aligned.fresh _ (Nat.le_refl _), sentOn_eq_nil aligned (Nat.le_refl _)]
    rfl
  closed connection _ := aligned.closed connection (by simp [disconnected])

/-- A call begins behind whole frames. -/
theorem Aligned.begins {l : Link} (aligned : Aligned l) {connection : Nat} {payload : Bytes}
    (connected : l.socketFd = some connection) (idle : l.part = .sampling)
    (fits : payload.length ≤ maxFrameSize) :
    Aligned { l with
      part := .sending ⟨connection, payload, frame payload, l.written connection⟩ 0 } where
  current := aligned.current
  fresh := aligned.fresh
  sound call member := (aligned.sound call member).frame (Nat.le_refl _) id
  busy call totalSent sending := by
    obtain ⟨rfl, rfl⟩ := AgentPart.sending.inj sending
    refine ⟨connected, ?_, encode_eq_frame fits, ?_, ?_⟩
    · simp only [frame_length, headerSize]
      omega
    · exact aligned.idle (by simp [idle]) connection connected
    · simp
  idle waiting := absurd rfl (waiting _ _)
  closed := aligned.closed

/-- A partial write leaves the beginning of the frame. -/
theorem Aligned.writes {l : Link} (aligned : Aligned l) {call : SendCall}
    {connection totalSent count : Nat} (sending : l.part = .sending call totalSent)
    (connected : l.socketFd = some connection)
    (more : totalSent + count < call.frame.length) :
    Aligned { l with
      written := Function.update l.written connection
        (l.written connection ++ (call.frame.drop totalSent).take count)
      part := .sending call (totalSent + count) } where
  current := aligned.current
  fresh other unknown := by
    have known := aligned.current connection connected
    have unknown : l.opened ≤ other := unknown
    have distinct : other ≠ connection := by omega
    simpa [distinct] using aligned.fresh other unknown
  sound call member := (aligned.sound call member).frame (Nat.le_refl _) id
  busy later progress same := by
    obtain ⟨rfl, rfl⟩ := AgentPart.sending.inj same
    obtain ⟨own, _, encoded, before, written⟩ := aligned.busy call totalSent sending
    obtain rfl := Option.some.inj (connected.symm.trans own)
    refine ⟨own, more, encoded, before, ?_⟩
    simp [written, List.take_add]
  idle waiting := absurd rfl (waiting _ _)
  closed other apart := by
    have distinct : other ≠ connection := by
      intro same
      exact apart (same ▸ connected)
    simpa [distinct] using aligned.closed other apart

/-- The last write of a call leaves whole frames. -/
theorem Aligned.completes {l : Link} (aligned : Aligned l) {call : SendCall}
    {connection totalSent count : Nat} (sending : l.part = .sending call totalSent)
    (connected : l.socketFd = some connection)
    (last : totalSent + count = call.frame.length) {after : Bytes}
    (same : after = Function.update l.written connection
      (l.written connection ++ (call.frame.drop totalSent).take count) call.connection) :
    Aligned { l with
      written := Function.update l.written connection
        (l.written connection ++ (call.frame.drop totalSent).take count)
      part := .sampling
      calls := l.calls ++ [⟨call, after, true⟩] } := by
  obtain ⟨own, _, encoded, before, written⟩ := aligned.busy call totalSent sending
  obtain rfl := Option.some.inj (connected.symm.trans own)
  have whole : l.written call.connection ++ (call.frame.drop totalSent).take count =
      call.before ++ call.frame := by
    rw [written, List.append_assoc, ← List.take_add, last, List.take_length]
  rw [whole] at same ⊢
  rw [Function.update_self] at same
  have known := aligned.current call.connection connected
  constructor
  · exact aligned.current
  · intro other unknown
    have unknown : l.opened ≤ other := unknown
    have distinct : other ≠ call.connection := by omega
    simpa [distinct] using aligned.fresh other unknown
  · intro finished member
    obtain old | new := List.mem_append.mp member
    · exact (aligned.sound finished old).frame (Nat.le_refl _) id
    · obtain rfl := List.mem_singleton.mp new
      exact ⟨known, encoded, fun _ => same, fun failed => by cases failed⟩
  · intro later progress busy
    cases busy
  · intro _ other current
    obtain rfl := Option.some.inj (current.symm.trans connected)
    obtain ⟨_, shape⟩ := encode_ok_iff.mp encoded
    simp only [Function.update_self]
    rw [sentOn_append, if_pos ⟨rfl, rfl⟩, frames_append, before, ← shape]
  · intro other apart
    have distinct : other ≠ call.connection := by
      intro same
      exact apart (same ▸ connected)
    rw [sentOn_other fun both => distinct both.1.symm]
    simpa [distinct] using aligned.closed other apart

/-- A failed call gives its connection up with a torn frame at the end. -/
theorem Aligned.aborts {l : Link} (aligned : Aligned l) {call : SendCall} {totalSent : Nat}
    (sending : l.part = .sending call totalSent) :
    Aligned { l with
      socketFd := none
      part := .sampling
      calls := l.calls ++ [⟨call, l.written call.connection, false⟩] } := by
  obtain ⟨own, short, encoded, before, written⟩ := aligned.busy call totalSent sending
  constructor
  · intro connection current
    cases current
  · exact aligned.fresh
  · intro finished member
    obtain old | new := List.mem_append.mp member
    · exact (aligned.sound finished old).frame (Nat.le_refl _) fun current => by cases current
    · obtain rfl := List.mem_singleton.mp new
      refine ⟨aligned.current _ own, encoded, fun complete => (by cases complete), fun _ => ?_⟩
      exact ⟨fun current => (by cases current), _, List.take_prefix _ _, take_ne_self short,
        written⟩
  · intro later progress busy
    cases busy
  · intro _ connection current
    cases current
  · intro connection _
    rw [sentOn_other fun both => by cases both.2]
    by_cases same : connection = call.connection
    · subst same
      refine ⟨call.frame.take totalSent, ?_, torn_take encoded short⟩
      rw [← before]
      exact written
    · apply aligned.closed connection
      rw [own]
      intro current
      exact same (Option.some.inj current).symm

theorem Aligned.leaves {l : Link} (aligned : Aligned l) (idle : l.part = .sampling) :
    Aligned { l with socketFd := none, part := .ended } where
  current connection current := by cases current
  fresh := aligned.fresh
  sound call member := (aligned.sound call member).frame (Nat.le_refl _) fun same => by cases same
  busy call totalSent busy := by cases busy
  idle _ connection current := by cases current
  closed connection _ := by
    by_cases current : l.socketFd = some connection
    · refine ⟨[], ?_, torn_nil⟩
      rw [List.append_nil]
      exact aligned.idle (by simp [idle]) connection current
    · exact aligned.closed connection current

/-- Every move keeps the frames aligned. -/
theorem Aligned.moved {l next : Link} (aligned : Aligned l) (moved : Moves l next) :
    Aligned next := by
  cases moved with
  | opens disconnected idle => exact aligned.opens disconnected idle
  | begins connection payload connected idle fits => exact aligned.begins connected idle fits
  | writes call connection totalSent count sending connected more =>
      exact aligned.writes sending connected more
  | completes call connection totalSent count sending connected last after same =>
      exact aligned.completes sending connected last same
  | aborts call totalSent sending => exact aligned.aborts sending
  | leaves idle => exact aligned.leaves idle

/-- Every move of the link keeps the alignment. -/
theorem Aligned.moves {l next : Link} (aligned : Aligned l)
    (moves : Relation.ReflTransGen Moves l next) : Aligned next := by
  induction moves with
  | refl => exact aligned
  | tail _ moved ih => exact ih.moved moved

/-- A connection that was given up stays as it is. -/
theorem Moves.given_up {l next : Link} (moved : Moves l next) {connection : Nat}
    (lost : l.socketFd ≠ some connection) (known : connection < l.opened) :
    next.socketFd ≠ some connection ∧ connection < next.opened ∧
      next.written connection = l.written connection := by
  cases moved with
  | opens disconnected idle =>
      refine ⟨?_, Nat.lt_succ_of_lt known, rfl⟩
      intro same
      obtain rfl := Option.some.inj same
      exact Nat.lt_irrefl _ known
  | begins => exact ⟨lost, known, rfl⟩
  | writes call current totalSent count sending connected
  | completes call current totalSent count sending connected =>
      have distinct : connection ≠ current := by
        intro same
        exact lost (same ▸ connected)
      exact ⟨lost, known, by simp [distinct]⟩
  | aborts | leaves => exact ⟨fun same => (by cases same), known, rfl⟩

/-- The agent gave the connection up, and these bytes are the last ones on it. -/
def GivenUp (connection : Nat) (bytes : Bytes) (l : Link) : Prop :=
  l.socketFd ≠ some connection ∧ connection < l.opened ∧ l.written connection = bytes

/-- Nothing is written on a connection that was given up. -/
theorem GivenUp.moves {l next : Link} {connection : Nat} {bytes : Bytes}
    (givenUp : GivenUp connection bytes l) (moves : Relation.ReflTransGen Moves l next) :
    GivenUp connection bytes next := by
  induction moves with
  | refl => exact givenUp
  | tail _ moved ih =>
      obtain ⟨lost, known, same⟩ := ih
      obtain ⟨lost, known, kept⟩ := moved.given_up lost known
      exact ⟨lost, known, kept.trans same⟩

/-- The bytes of a connection are the frames of its complete calls and at most one torn frame. -/
theorem Aligned.boundaries {l : Link} (aligned : Aligned l) (connection : Nat) :
    ∃ tail, l.written connection = frames (sentOn l.calls connection) ++ tail ∧ Torn tail := by
  by_cases current : l.socketFd = some connection
  · by_cases sending : ∃ call totalSent, l.part = .sending call totalSent
    · obtain ⟨call, totalSent, sending⟩ := sending
      obtain ⟨own, short, encoded, before, written⟩ := aligned.busy call totalSent sending
      obtain rfl := Option.some.inj (current.symm.trans own)
      refine ⟨call.frame.take totalSent, ?_, torn_take encoded short⟩
      rw [written, before]
    · push Not at sending
      refine ⟨[], ?_, torn_nil⟩
      rw [List.append_nil]
      exact aligned.idle sending connection current
  · exact aligned.closed connection current

/-- The decoder takes exactly the complete frames of a connection. -/
theorem Aligned.drained {l : Link} (aligned : Aligned l) (connection : Nat) :
    (decoder.drain (l.written connection)).items = sentOn l.calls connection := by
  obtain ⟨tail, written, whole, legal, front, strict⟩ := aligned.boundaries connection
  rw [written, frames, decoder.drain_items frame (sentOn l.calls connection) tail,
    decoder.drain_wait (prefix_waits legal front strict), List.append_nil]
  intro payload member rest
  obtain ⟨call, inside, rfl⟩ := List.mem_map.mp member
  have encoded := (aligned.sound call (List.mem_of_mem_filter inside)).encoded
  exact verdict_frame (encode_ok_iff.mp encoded).1 rest

/-- A strict prefix of its frame is not the whole frame of a failed call. -/
theorem Sound.complete_iff {l : Link} {call : FinishedCall} (sound : Sound l call) :
    call.complete = true ↔ call.after = call.before ++ call.frame := by
  constructor
  · exact sound.complete
  · intro whole
    rw [← Bool.not_eq_false]
    intro failed
    obtain ⟨_, part, _, strict, after⟩ := sound.torn failed
    exact strict (List.append_cancel_left (after.symm.trans whole))

end Link

namespace Transmission
open Link

/-- The link is the abstract view of the agent. -/
def view (s : Transmission) : Link :=
  ⟨s.client.socketFd, s.client.opened, s.client.written, s.part, s.calls⟩

theorem construct_aligned (serverIp : Bytes) (serverPort : Nat) (now : Int) :
    Aligned (construct serverIp serverPort now).view where
  current connection current := by cases current
  fresh _ _ := rfl
  sound call member := by cases member
  busy call totalSent busy := by cases busy
  idle _ connection current := by cases current
  closed _ _ := ⟨[], rfl, torn_nil⟩

/-- A reconnect opens at most one connection. -/
theorem reconnect_moves (reconnectNow : Int) (result : ConnectResult) (s : Transmission)
    (idle : s.part = .sampling) :
    Relation.ReflGen Moves s.view (s.reconnect reconnectNow result).view ∧
      (s.reconnect reconnectNow result).part = .sampling := by
  simp only [reconnect]
  split
  · rename_i due
    have disconnected : s.client.socketFd = none := by simpa [isConnected] using due.1
    obtain ⟨line, attempt⟩ | ⟨line, attempt⟩ := connectToServer_cases result s.client disconnected
    · rw [attempt]
      exact ⟨.refl, idle⟩
    · rw [attempt]
      exact ⟨.single (.opens s.view disconnected idle), idle⟩
  · exact ⟨.refl, idle⟩

/-- A transmission begins one call if there is a connection. -/
theorem transmit_moves (payload : Bytes) (now : Int) (s : Transmission)
    (idle : s.part = .sampling) (fits : payload.length ≤ maxFrameSize) :
    Relation.ReflGen Moves s.view (s.transmit payload (frame payload) now).view := by
  unfold transmit
  cases connected : s.client.socketFd with
  | none => exact .refl
  | some connection =>
      have started := sendAll_starts connected (frame_length_pos payload)
      simp only [started, afterPass]
      exact .single (.begins s.view connection payload connected idle fits)

/-- One pass of the send loop is at most one move. -/
theorem send_moves {s : Transmission} (aligned : Aligned s.view) {call : SendCall}
    {totalSent : Nat} (sending : s.part = .sending call totalSent) {result : SendResult}
    (possible : result.Possible (call.frame.length - totalSent)) (now : Int) :
    Relation.ReflGen Moves s.view
      (afterPass call now (s.client.sendPass call.frame totalSent result).1
        { s with client := (s.client.sendPass call.frame totalSent result).2 }).view := by
  obtain ⟨connected, short, _⟩ := aligned.busy call totalSent sending
  have connected : s.client.socketFd = some call.connection := connected
  obtain ⟨count, positive, bound, pass⟩ | pass | ⟨line, pass⟩ := sendPass_cases possible
  · rw [pass]
    simp only [write_connected connected, loopHead]
    split
    · rename_i more
      exact .single (.writes s.view call call.connection totalSent count sending connected more)
    · rename_i last
      exact .single (.completes s.view call call.connection totalSent count sending connected
        (by omega) _ rfl)
  · rw [pass]
    simp only [afterPass, ← sending]
    exact .refl
  · rw [pass]
    exact .single (.aborts s.view call totalSent sending)

/-- Each step of the agent is a sequence of moves of its link. -/
theorem step_moves {s next : Transmission} {action : Action} (aligned : Aligned s.view)
    (taken : step s action = some next) : Relation.ReflTransGen Moves s.view next.view := by
  cases action with
  | sample payload reconnectNow result now =>
      simp only [step] at taken
      split at taken
      · rename_i idle
        split at taken
        · obtain rfl := Option.some.inj taken
          exact .single (.leaves s.view idle)
        · rename_i bytes encoded
          obtain ⟨fits, rfl⟩ := encode_ok_iff.mp encoded
          obtain rfl := Option.some.inj taken
          obtain ⟨attempt, still⟩ := reconnect_moves reconnectNow result s idle
          have transmission := transmit_moves payload now _ still fits
          exact attempt.to_reflTransGen.trans transmission.to_reflTransGen
      · cases taken
  | send result now =>
      simp only [step] at taken
      split at taken
      · rename_i call totalSent sending
        simp only [Option.ite_none_right_eq_some, Option.some.injEq] at taken
        obtain ⟨possible, rfl⟩ := taken
        exact (send_moves aligned sending possible now).to_reflTransGen
      · cases taken
  | stop =>
      simp only [step] at taken
      split at taken
      · rename_i idle
        obtain rfl := Option.some.inj taken
        exact .single (.leaves s.view idle)
      · cases taken

/-- The agent starts, and then the samples and the results of its system calls are arbitrary. -/
structure AgentRun where
  serverIp : Bytes
  serverPort : Nat
  startTime : Int
  trace : List Action
  final : Transmission
  reached : run step (construct serverIp serverPort startTime) trace = some final

/-- The link of every run is aligned. -/
theorem AgentRun.aligned (r : AgentRun) : Aligned r.final.view := by
  apply run_invariant step (fun s => Aligned s.view) ?_ r.reached
    (construct_aligned r.serverIp r.serverPort r.startTime)
  intro s action next taken known
  exact known.moves (step_moves known taken)

/-- A failed call is the last one that wrote on its connection. -/
theorem AgentRun.givenUp (r : AgentRun) {past rest : List Action} {middle : Transmission}
    (trace : r.trace = past ++ rest)
    (before : run step (construct r.serverIp r.serverPort r.startTime) past = some middle)
    {call : FinishedCall} (member : call ∈ middle.calls) (failed : call.complete = false) :
    r.final.client.written call.connection = middle.client.written call.connection := by
  have later := run_rest step (trace ▸ r.reached) before
  have aligned := AgentRun.aligned ⟨r.serverIp, r.serverPort, r.startTime, past, middle, before⟩
  have sound := aligned.sound call member
  have start : GivenUp call.connection (middle.client.written call.connection) middle.view :=
    ⟨(sound.torn failed).1, sound.known, rfl⟩
  apply (run_invariant step (fun s => Aligned s.view ∧
    GivenUp call.connection (middle.client.written call.connection) s.view) ?_ later
    ⟨aligned, start⟩).2.2.2
  intro s action next taken known
  have moves := step_moves known.1 taken
  exact ⟨known.1.moves moves, known.2.moves moves⟩

/-- The connection holds the frames of the complete calls and at most one torn frame. -/
theorem frames_agree (r : AgentRun) :
    (∀ connection, ∃ tail, r.final.client.written connection =
      frames (sentOn r.final.calls connection) ++ tail ∧ Torn tail) ∧
    (∀ past rest middle, r.trace = past ++ rest →
      run step (construct r.serverIp r.serverPort r.startTime) past = some middle →
      ∀ call ∈ middle.calls, call.complete = false →
        r.final.client.written call.connection = middle.client.written call.connection) ∧
    (∀ call ∈ r.final.calls, FrameCodec.encode call.payload = .ok call.frame ∧
      (call.complete = true ↔ call.after = call.before ++ call.frame)) ∧
    (∀ connection this clientFd clientName server cuts,
      cuts.flatten = r.final.client.written connection →
        (TcpConnection.stream this clientFd clientName server cuts).delivered =
          (TcpServer.accept this clientFd clientName server).delivered ++
            (sentOn r.final.calls connection).map fun message => (clientName, message)) ∧
    (∀ connection this clientFd clientName server cuts,
      cuts.flatten <+: r.final.client.written connection →
        ∃ received, received <+: sentOn r.final.calls connection ∧
          (TcpConnection.stream this clientFd clientName server cuts).delivered =
            (TcpServer.accept this clientFd clientName server).delivered ++
              received.map fun message => (clientName, message)) := by
  have aligned := r.aligned
  refine ⟨aligned.boundaries, fun past rest middle trace before call => r.givenUp trace before,
    ?_, ?_, ?_⟩
  · intro call member
    have sound := aligned.sound call member
    exact ⟨sound.encoded, sound.complete_iff⟩
  · intro connection this clientFd clientName server cuts whole
    rw [TcpConnection.stream_messages, whole]
    exact congrArg _ (congrArg _ (aligned.drained connection))
  · intro connection this clientFd clientName server cuts front
    obtain ⟨more, whole⟩ := front
    refine ⟨(decoder.drain cuts.flatten).items, ?_, TcpConnection.stream_messages _ _ _ _ _⟩
    have drained : (decoder.drain (r.final.client.written connection)).items =
        sentOn r.final.calls connection := aligned.drained connection
    rw [← drained, ← whole, decoder.drain_append]
    exact List.prefix_append _ _

end Transmission
end LMonitor

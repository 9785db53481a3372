import LMonitor.Network.ConnectionReading
import LMonitor.Server.ClientDescriptors

namespace LMonitor.TcpServer
open Library TcpConnection Acceptor FrameCodec

/-- The clients that were registered have numbers, and each one has a byte stream of its own. -/
structure Sessions where
  count : Nat
  clientName : Nat → Bytes
  stream : Nat → Bytes
  current : Address → Option Nat
  delivered : List (Nat × Bytes)

namespace Sessions

def empty : Sessions := ⟨0, fun _ => [], fun _ => [], fun _ => none, []⟩

/-- A client becomes a session under the name of its address. -/
def sessionName (callbackRegistered : Bool) (client : NewClient) : Option Bytes :=
  match client.clientIp with
  | none => none
  | some clientIp =>
      if callbackRegistered && client.registered then
        some (clientIp ++ ascii ":" ++ decimal client.clientPort.toNat)
      else none

/-- This is the session state after a client entered under its name. -/
def entered (this : Address) (name : Bytes) (s : Sessions) : Sessions :=
  { s with
    count := s.count + 1
    clientName := Function.update s.clientName s.count name
    current := Function.update s.current this (some s.count) }

def enter (callbackRegistered : Bool) (client : NewClient) (s : Sessions) : Sessions :=
  match sessionName callbackRegistered client with
  | none => s
  | some name => entered client.this name s

/-- The bytes of an event belong to the session of its object, which takes the frames that they
complete and ends with the object. -/
def receive (this : Address) (revents : UInt32) (results : List RecvResult) (s : Sessions) :
    Sessions :=
  match s.current this with
  | none => s
  | some session =>
      let stream := s.stream session ++ Channel.eventBytes revents results
      let messages := (decoder.drain stream).items.drop
        (decoder.drain (s.stream session)).items.length
      { s with
        stream := Function.update s.stream session stream
        current :=
          if (decoder.drain stream).rejected || Channel.eventCloses revents results then
            Function.update s.current this none
          else s.current
        delivered := s.delivered ++ messages.map fun message => (session, message) }

def perform (callbackRegistered : Bool) (s : Sessions) : ClientAction → Sessions
  | .accept results =>
      (handleAccept (fun client s => some (enter callbackRegistered client s)) results s).getD s
  | .event this revents results => s.receive this revents results
  | .shutdown _ => { s with current := fun _ => none }

/-- These sessions follow from what the kernel returned to the server. -/
def after (callbackRegistered : Bool) (trace : List ClientAction) : Sessions :=
  trace.foldl (perform callbackRegistered) empty

/-- These messages came from one session, in the order of their delivery. -/
def messagesOf (session : Nat) (s : Sessions) : List Bytes :=
  (s.delivered.filter fun message => message.1 = session).map Prod.snd

/-- Every session took exactly the frames of its own stream. -/
structure Separate (s : Sessions) : Prop where
  known : ∀ this session, s.current this = some session → session < s.count
  fresh : ∀ session, s.count ≤ session → s.stream session = []
  senders : ∀ message ∈ s.delivered, message.1 < s.count
  own : ∀ session, messagesOf session s = (decoder.drain (s.stream session)).items
  apart : ∀ this that session, s.current this = some session → s.current that = some session →
    this = that

theorem drain_nil : decoder.drain [] = ⟨[], [], false⟩ :=
  decoder.drain_wait (show verdict [] = .wait from
    verdict_wait_iff.mpr (.inl (by simp [headerSize])))

theorem separate_empty : Separate empty := by
  constructor
  · intro this session open_
    cases open_
  · exact fun _ _ => rfl
  · simp [empty]
  · intro session
    rw [empty, drain_nil]
    rfl
  · intro this that session open_
    cases open_

/-- The messages of a session go on with its own ones. -/
theorem messagesOf_append (session : Nat) (s : Sessions) (messages : List (Nat × Bytes)) :
    messagesOf session { s with delivered := s.delivered ++ messages } =
      messagesOf session s ++
        (messages.filter fun message => message.1 = session).map Prod.snd := by
  simp [messagesOf]

/-- A new client starts with an empty stream. -/
theorem separate_enter {callbackRegistered : Bool} {client : NewClient} {s : Sessions}
    (separate : Separate s) : Separate (enter callbackRegistered client s) := by
  unfold enter
  split
  · exact separate
  · constructor
    · intro this session open_
      simp only [entered] at open_
      by_cases same : this = client.this
      · subst same
        rw [Function.update_self] at open_
        obtain rfl := Option.some.inj open_
        exact Nat.lt_succ_self _
      · rw [Function.update_of_ne same] at open_
        exact Nat.lt_succ_of_lt (separate.known this session open_)
    · intro session later
      exact separate.fresh session (Nat.le_of_succ_le later)
    · intro message member
      exact Nat.lt_succ_of_lt (separate.senders message member)
    · exact separate.own
    · intro this that session first second
      simp only [entered] at first second
      by_cases same : this = client.this <;> by_cases alike : that = client.this
      · rw [same, alike]
      · subst same
        rw [Function.update_self] at first
        rw [Function.update_of_ne alike] at second
        obtain rfl := Option.some.inj first
        exact absurd (separate.known that _ second) (Nat.lt_irrefl _)
      · subst alike
        rw [Function.update_self] at second
        rw [Function.update_of_ne same] at first
        obtain rfl := Option.some.inj second
        exact absurd (separate.known this _ first) (Nat.lt_irrefl _)
      · rw [Function.update_of_ne same] at first
        rw [Function.update_of_ne alike] at second
        exact separate.apart this that session first second

/-- The bytes of one event complete frames of their own session only. -/
theorem separate_receive {this : Address} {revents : UInt32} {results : List RecvResult}
    {s : Sessions} (separate : Separate s) : Separate (s.receive this revents results) := by
  unfold receive
  split
  · exact separate
  · rename_i session open_
    have inside := separate.known this session open_
    have shrinks (that : Address) (other : Nat)
        (goesOn : (if (decoder.drain (s.stream session ++
              Channel.eventBytes revents results)).rejected ||
            Channel.eventCloses revents results then Function.update s.current this none
          else s.current) that = some other) : s.current that = some other := by
      split at goesOn
      · by_cases same : that = this
        · subst same
          simp at goesOn
        · rwa [Function.update_of_ne same] at goesOn
      · exact goesOn
    constructor
    · intro that other goesOn
      exact separate.known that other (shrinks that other goesOn)
    · intro other later
      have different : other ≠ session := by
        rintro rfl
        exact absurd inside (Nat.not_lt.mpr later)
      exact (Function.update_of_ne different _ _).trans (separate.fresh other later)
    · intro message member
      rcases List.mem_append.mp member with earlier | new
      · exact separate.senders message earlier
      · obtain ⟨payload, _, rfl⟩ := List.mem_map.mp new
        exact inside
    · intro other
      have messages := messagesOf_append other s (((decoder.drain (s.stream session ++
        Channel.eventBytes revents results)).items.drop
          (decoder.drain (s.stream session)).items.length).map fun message => (session, message))
      refine messages.trans ?_
      rw [separate.own other]
      by_cases same : other = session
      · subst same
        simp only [Function.update_self, List.filter_map, Function.comp_def, decide_true,
          List.filter_true, List.map_map]
        rw [decoder.drain_append]
        simp [Drained.andThen]
      · have foreign (messages : List Bytes) :
            (messages.map fun message => (session, message)).filter
              (fun message => decide (message.1 = other)) = [] := by
          simp [List.filter_eq_nil_iff, Ne.symm same]
        rw [foreign, List.map_nil, List.append_nil]
        exact congrArg (fun bytes => (decoder.drain bytes).items)
          (Function.update_of_ne same _ _).symm
    · intro first second other left right
      exact separate.apart first second other (shrinks first other left)
        (shrinks second other right)

/-- The sessions of every run are separate. -/
theorem separate_after (callbackRegistered : Bool) (trace : List ClientAction) :
    Separate (after callbackRegistered trace) := by
  induction trace using List.reverseRecOn with
  | nil => exact separate_empty
  | append_singleton trace action ih =>
      rw [after, List.foldl_concat, ← after]
      cases action with
      | accept results =>
          simp only [perform]
          cases served : handleAccept (fun client s => some (enter callbackRegistered client s))
              results (after callbackRegistered trace) with
          | none => exact ih
          | some next =>
              exact handleAccept_invariant _ Separate (fun client s next taken known =>
                Option.some.inj taken ▸ separate_enter known) served ih
      | event this revents results => exact separate_receive ih
      | shutdown order =>
          refine ⟨?_, ih.fresh, ih.senders, ih.own, ?_⟩
          · intro this session open_
            cases open_
          · intro this that session open_
            cases open_

/-- The live objects are the current sessions, and each one holds the rest of its stream. -/
structure Tracks (callbackRegistered : Bool) (s : Sessions) (c : ClientServer) : Prop where
  callback : c.callbackRegistered = callbackRegistered
  messages : c.server.delivered =
    s.delivered.map fun message => (s.clientName message.1, message.2)
  live : ∀ this, c.server.freed this = false → ∃ session fd, s.current this = some session ∧
    (decoder.drain (s.stream session)).rejected = false ∧
    Live this fd (s.clientName session) (decoder.drain (s.stream session)).rest c.server
  dead : ∀ this, c.server.freed this = true → s.current this = none

/-- The callbacks turn exactly the clients with a session name into objects. -/
theorem handOver_session (callbackRegistered : Bool) (client : NewClient) {s : ServerState}
    (free : s.connections.lookup (client.clientFd : Int) = none) :
    handOver callbackRegistered client s =
      match sessionName callbackRegistered client with
      | none => { s with closes := s.closes ++ [(client.clientFd : Int)] }
      | some name =>
          { allocate client.this (acceptedConnection client.clientFd name) s with
            connections := s.connections.insert (client.clientFd : Int) client.this } := by
  cases printed : client.clientIp with
  | none => simp only [handOver, sessionName, printed]
  | some clientIp =>
      simp only [handOver, sessionName, printed, newConnectionCallback]
      cases callbackRegistered <;> cases client.registered <;> simp [allocate, free]

/-- A new client comes with a free object and a free descriptor and is handed over. -/
theorem serveClient_cases {client : NewClient} {c next : ClientServer} (known : Consistent c)
    (served : serveClient client c = some next) :
    next.callbackRegistered = c.callbackRegistered ∧ c.server.freed client.this = true ∧
      c.server.connections.lookup (client.clientFd : Int) = none ∧
      next.server = handOver c.callbackRegistered client c.server := by
  unfold serveClient at served
  split at served
  case isFalse => contradiction
  case isTrue allowed =>
    obtain ⟨closed, unused⟩ := allowed
    rw [← Option.some.inj served]
    rw [known.tracked] at closed
    exact ⟨rfl, unused, by simpa using closed, rfl⟩

/-- A live object stays live when the memory of another one is used. -/
theorem live_allocated {this other : Address} {fd newFd : Int} {clientName newName pending : Bytes}
    {s : ServerState} (live : Live this fd clientName pending s) (apart : this ≠ other)
    (free : s.connections.lookup newFd = none) :
    Live this fd clientName pending { allocate other (acceptedConnection newFd newName) s with
      connections := s.connections.insert newFd other } := by
  have different : fd ≠ newFd := by
    rintro rfl
    rw [live.owned] at free
    cases free
  constructor
  · simpa [allocate, apart] using live.alive
  · simpa [allocate, apart] using live.object
  · simpa [allocate, AList.lookup_insert_ne different] using live.owned

/-- A client that was turned away is no session. -/
theorem tracks_refused {callbackRegistered : Bool} {s : Sessions} {c next : ClientServer} {fd : Int}
    (tracks : Tracks callbackRegistered s c)
    (callback : next.callbackRegistered = c.callbackRegistered)
    (server : next.server = { c.server with closes := c.server.closes ++ [fd] }) :
    Tracks callbackRegistered s next := by
  refine ⟨callback.trans tracks.callback, ?_, ?_, ?_⟩
  · rw [server]
    exact tracks.messages
  · intro this alive
    rw [server] at alive
    obtain ⟨session, fd, open_, accepted, live⟩ := tracks.live this alive
    refine ⟨session, fd, open_, accepted, ?_⟩
    rw [server]
    exact ⟨live.alive, live.object, live.owned⟩
  · intro this freed
    rw [server] at freed
    exact tracks.dead this freed

/-- A registered client is a session. -/
theorem tracks_entered {callbackRegistered : Bool} {s : Sessions} {c next : ClientServer}
    {this : Address} {fd : Int} {name : Bytes} (separate : Separate s)
    (tracks : Tracks callbackRegistered s c)
    (callback : next.callbackRegistered = c.callbackRegistered)
    (free : c.server.connections.lookup fd = none)
    (server : next.server = { allocate this (acceptedConnection fd name) c.server with
      connections := c.server.connections.insert fd this }) :
    Tracks callbackRegistered (entered this name s) next := by
  have idle : s.stream s.count = [] := separate.fresh s.count (Nat.le_refl _)
  refine ⟨callback.trans tracks.callback, ?_, ?_, ?_⟩
  · rw [server]
    change c.server.delivered = _
    rw [tracks.messages]
    apply List.map_congr_left
    intro message member
    have earlier := separate.senders message member
    simp only [entered, Function.update_of_ne (Nat.ne_of_lt earlier)]
  · intro that alive
    rw [server] at alive ⊢
    by_cases same : that = this
    · subst same
      refine ⟨s.count, fd, by simp [entered], ?_, ?_⟩
      · simp only [entered, idle, drain_nil]
      · simp only [entered, idle, drain_nil, Function.update_self]
        exact ⟨by simp [allocate], by simp [allocate, acceptedConnection, construct],
          AList.lookup_insert _⟩
    · have before : c.server.freed that = false := by simpa [allocate, same] using alive
      obtain ⟨session, other, open_, accepted, live⟩ := tracks.live that before
      have earlier := separate.known that session open_
      refine ⟨session, other, by simp [entered, same, open_], accepted, ?_⟩
      simp only [entered, Function.update_of_ne (Nat.ne_of_lt earlier)]
      exact live_allocated live same free
  · intro that freed
    rw [server] at freed
    have different : that ≠ this := by
      rintro rfl
      simp [allocate] at freed
    have before : c.server.freed that = true := by simpa [allocate, different] using freed
    simp [entered, different, tracks.dead that before]

/-- A new client is a session exactly if it was registered. -/
theorem tracks_enter {callbackRegistered : Bool} {s : Sessions} {c next : ClientServer}
    {client : NewClient} (separate : Separate s) (known : Consistent c)
    (tracks : Tracks callbackRegistered s c) (served : serveClient client c = some next) :
    Tracks callbackRegistered (enter callbackRegistered client s) next := by
  obtain ⟨callback, unused, free, server⟩ := serveClient_cases known served
  rw [handOver_session _ _ free, tracks.callback] at server
  unfold enter
  cases named : sessionName callbackRegistered client with
  | none =>
      rw [named] at server
      exact tracks_refused tracks callback server
  | some name =>
      rw [named] at server
      exact tracks_entered separate tracks callback free server

/-- An event on one object leaves the other live objects live. -/
theorem live_elsewhere {this that : Address} {fd other : Int} {name pending : Bytes}
    {s after : ServerState} (live : Live that other name pending s) (apart : that ≠ this)
    (owned : s.connections.lookup fd = some this)
    (effect : Untouched this s after ∨ Closed this fd s after) :
    Live that other name pending after ∧ after.freed that = s.freed that := by
  rcases effect with kept | closed
  · refine ⟨⟨?_, ?_, ?_⟩, congrFun kept.freed that⟩
    · rw [kept.freed, live.alive]
    · rw [kept.others that apart, live.object]
    · rw [kept.connections, live.owned]
  · have freed : after.freed that = s.freed that := by
      rw [closed.freed, Function.update_of_ne apart]
    have different : other ≠ fd := by
      rintro rfl
      exact apart (Option.some.inj (live.owned.symm.trans owned))
    refine ⟨⟨freed.trans live.alive, ?_, ?_⟩, freed⟩
    · rw [closed.others that apart, live.object]
    · rw [closed.connections, AList.lookup_erase_ne different, live.owned]

/-- An event of one object destroys no other one. -/
theorem freed_elsewhere {this that : Address} {fd : Int} {s after : ServerState}
    (apart : that ≠ this) (effect : Untouched this s after ∨ Closed this fd s after) :
    after.freed that = s.freed that := by
  rcases effect with kept | closed
  · rw [kept.freed]
  · rw [closed.freed, Function.update_of_ne apart]

/-- An event completes frames of its own session and ends it together with its object. -/
theorem tracks_receive {callbackRegistered : Bool} {s : Sessions} {c : ClientServer}
    {this : Address} (separate : Separate s) (known : Consistent c)
    (tracks : Tracks callbackRegistered s c) (alive : c.server.freed this = false)
    (revents : UInt32) (results : List RecvResult) :
    Tracks callbackRegistered (s.receive this revents results)
      (TcpServer.perform (Channel.handleEvent this revents results) c) := by
  obtain ⟨session, fd, open_, accepted, live⟩ := tracks.live this alive
  have reading := Channel.handleEvent_hasRead live (live_waits accepted) revents results
  have effect := (Channel.handleEvent_effect this revents results c.server).held fd
    (known.held fd this live.owned)
  have whole : decoder.drain (s.stream session ++ Channel.eventBytes revents results) =
      (decoder.drain (s.stream session)).andThen (decoder.drain
        ((decoder.drain (s.stream session)).rest ++ Channel.eventBytes revents results)) :=
    decoder.drain_append _ _
  simp only [receive, open_, whole]
  set more := decoder.drain
    ((decoder.drain (s.stream session)).rest ++ Channel.eventBytes revents results) with moreEq
  refine ⟨tracks.callback, ?_, ?_, ?_⟩
  · change (Channel.handleEvent this revents results c.server).delivered = _
    rw [reading.messages, tracks.messages]
    simp [Drained.andThen]
  · intro that stays
    change (Channel.handleEvent this revents results c.server).freed that = false at stays
    by_cases same : that = this
    · subst same
      have survives : ¬ (more.rejected = true ∨ Channel.eventCloses revents results = true) := by
        intro bad
        rw [(reading.closed bad).1] at stays
        cases stays
      push Not at survives
      have goesOn : (more.rejected || Channel.eventCloses revents results) = false := by
        simpa using survives
      refine ⟨session, fd, ?_, ?_, ?_⟩
      · simp [Drained.andThen, goesOn, open_]
      · simp only [Function.update_self, whole]
        exact Bool.eq_false_iff.mpr survives.1
      · simp only [Function.update_self, whole]
        exact reading.live (Bool.eq_false_iff.mpr survives.1) survives.2
    · rw [freed_elsewhere same effect] at stays
      obtain ⟨other, otherFd, current, otherAccepted, otherLive⟩ := tracks.live that stays
      have different : other ≠ session := by
        rintro rfl
        exact same (separate.apart that this other current open_)
      refine ⟨other, otherFd, ?_, ?_, ?_⟩
      · split <;> simp [same, current]
      · simp only [Function.update_of_ne different]
        exact otherAccepted
      · simp only [Function.update_of_ne different]
        exact (live_elsewhere otherLive same live.owned effect).1
  · intro that gone
    change (Channel.handleEvent this revents results c.server).freed that = true at gone
    by_cases same : that = this
    · subst same
      have ended : (more.rejected || Channel.eventCloses revents results) = true := by
        by_contra goesOn
        simp only [Bool.or_eq_true, not_or] at goesOn
        have still := reading.live (Bool.eq_false_iff.mpr goesOn.1) goesOn.2
        rw [still.alive] at gone
        cases gone
      simp [Drained.andThen, ended]
    · rw [freed_elsewhere same effect] at gone
      have absent := tracks.dead that gone
      split <;> simp [same, absent]

@[simp] theorem destroyConnections_delivered (order : List Int) (s : ServerState) :
    (destroyConnections order s).delivered = s.delivered := by
  induction order generalizing s with
  | nil => rfl
  | cons fd order ih =>
      change (destroyConnections order (destroyEntry s fd)).delivered = _
      rw [ih, destroyEntry]
      split <;> simp

/-- Every step of the server is the step of its sessions. -/
theorem tracks_step {callbackRegistered : Bool} {s : Sessions} {c next : ClientServer}
    {action : ClientAction} (separate : Separate s) (known : Consistent c)
    (tracks : Tracks callbackRegistered s c) (taken : clientStep c action = some next) :
    Tracks callbackRegistered (perform callbackRegistered s action) next := by
  have accounted := clientStep_accounted taken known
  unfold clientStep at taken
  split at taken
  case isTrue => contradiction
  case isFalse running =>
    cases action with
    | accept results =>
        obtain ⟨after, served, _, _, known⟩ := handleAccept_simulates serveClient
          (fun client s => some (enter callbackRegistered client s))
          (fun c s => Separate s ∧ Consistent c ∧ Tracks callbackRegistered s c)
          (fun client c s next served known => ⟨_, rfl, separate_enter known.1,
            serveClient_consistent served known.2.1,
            tracks_enter known.1 known.2.1 known.2.2 served⟩)
          taken ⟨separate, known, tracks⟩
        simpa [perform, served] using known
    | event this revents results =>
        simp only at taken
        split at taken
        case isTrue => contradiction
        case isFalse alive =>
          rw [← Option.some.inj taken]
          exact tracks_receive separate known tracks (Bool.eq_false_iff.mpr alive) revents results
    | shutdown order =>
        simp only at taken
        split at taken
        case isFalse => contradiction
        case isTrue whole =>
          obtain rfl := Option.some.inj taken
          have empty := accounted.emptied rfl
          refine ⟨tracks.callback, ?_, ?_, fun _ _ => rfl⟩
          · exact (destroyConnections_delivered order c.server).trans tracks.messages
          · intro this alive
            obtain ⟨fd, owned⟩ := accounted.tabled this alive
            rw [empty fd] at owned
            cases owned

/-- The server ran from its start, and the kernel returned anything that it can return. A connection
that destroyed itself reads its own memory until its callback returns, and the memory keeps its
content for so long. -/
structure ClientRun where
  callbackRegistered : Bool
  trace : List ClientAction
  final : ClientServer
  reached : run clientStep (starting callbackRegistered) trace = some final

namespace ClientRun

def sessions (r : ClientRun) : Sessions := after r.callbackRegistered r.trace

/-- The sessions account for the server at the end of every run. -/
theorem tracks (r : ClientRun) :
    Consistent r.final ∧ Tracks r.callbackRegistered r.sessions r.final := by
  obtain ⟨callbackRegistered, trace, final, reached⟩ := r
  dsimp only [sessions]
  induction trace using List.reverseRecOn generalizing final with
  | nil =>
      obtain rfl := Option.some.inj reached
      refine ⟨initial_consistent callbackRegistered, rfl, rfl, ?_, fun _ _ => rfl⟩
      intro this alive
      cases alive
  | append_singleton trace action ih =>
      obtain ⟨middle, before, taken⟩ := run_snoc clientStep reached
      obtain ⟨known, tracks⟩ := ih middle before
      rw [after, List.foldl_concat, ← after]
      exact ⟨(clientStep_accounted taken known).toConsistent,
        tracks_step (separate_after callbackRegistered trace) known tracks taken⟩

/-- The clients do not disturb each other as long as the memory of a destroyed connection keeps its
content until its callback returns. Each session takes exactly the frames of its own byte stream,
the server delivers them under the name of their client, and the live objects are the current
sessions with the incomplete rest of their streams. -/
theorem sessions_separate (r : ClientRun) :
    r.final.server.delivered = r.sessions.delivered.map
        (fun message => (r.sessions.clientName message.1, message.2)) ∧
    (∀ session, messagesOf session r.sessions =
      (decoder.drain (r.sessions.stream session)).items) ∧
    (∀ this, r.final.server.freed this = false ↔
      ∃ session, r.sessions.current this = some session) ∧
    ∀ this session, r.sessions.current this = some session →
      (r.final.server.heap this).clientName = r.sessions.clientName session ∧
      (r.final.server.heap this).pendingData = (decoder.drain (r.sessions.stream session)).rest ∧
      (decoder.drain (r.sessions.stream session)).rejected = false := by
  have tracks := r.tracks.2
  have alive (this : Address) (session : Nat)
      (open_ : r.sessions.current this = some session) : r.final.server.freed this = false := by
    by_contra gone
    rw [tracks.dead this (by simpa using gone)] at open_
    cases open_
  refine ⟨tracks.messages, (separate_after r.callbackRegistered r.trace).own, ?_, ?_⟩
  · intro this
    constructor
    · intro lives
      obtain ⟨session, _, open_, _⟩ := tracks.live this lives
      exact ⟨session, open_⟩
    · rintro ⟨session, open_⟩
      exact alive this session open_
  · intro this session open_
    obtain ⟨other, fd, same, accepted, live⟩ := tracks.live this (alive this session open_)
    obtain rfl := Option.some.inj (open_.symm.trans same)
    rw [live.object]
    exact ⟨rfl, rfl, accepted⟩

end ClientRun

end Sessions
end LMonitor.TcpServer

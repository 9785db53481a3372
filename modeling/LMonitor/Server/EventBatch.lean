import LMonitor.Server.ClientSessions

namespace LMonitor.TcpServer
open Library TcpConnection Acceptor

/-- A call of `epoll_wait` reports the acceptor and channels of clients. The other channels of the
server leave the clients alone. -/
inductive ReadyChannel where
  | acceptor (results : List AcceptResult)
  | client (this : Address) (revents : UInt32) (results : List RecvResult)

namespace ReadyChannel

def action : ReadyChannel → ClientAction
  | acceptor results => .accept results
  | client this revents results => .event this revents results

def address : ReadyChannel → Option Address
  | acceptor _ => none
  | client this _ _ => some this

end ReadyChannel

namespace Sessions

/-- A new client takes no memory of a live object. -/
theorem enter_apart {callbackRegistered : Bool} {s : Sessions} {c next : ClientServer}
    {client : NewClient} {this : Address} (known : Consistent c)
    (alive : c.server.freed this = false) (served : serveClient client c = some next) :
    next.server.freed this = false ∧
      (enter callbackRegistered client s).current this = s.current this := by
  obtain ⟨_, unused, free, server⟩ := serveClient_cases known served
  have apart : this ≠ client.this := by
    rintro rfl
    rw [unused] at alive
    cases alive
  constructor
  · rw [server, handOver_session _ _ free]
    split
    · exact alive
    · simpa [allocate, apart] using alive
  · unfold enter
    split
    · rfl
    · exact Function.update_of_ne apart _ _

/-- One step of a batch leaves an object alive that its event does not belong to. -/
theorem keeps_others {callbackRegistered : Bool} {s : Sessions} {c next : ClientServer}
    {ready : ReadyChannel} {this : Address} (known : Consistent c)
    (alive : c.server.freed this = false) (apart : ready.address ≠ some this)
    (taken : clientStep c ready.action = some next) :
    next.server.freed this = false ∧ next.stopped = c.stopped ∧
      (perform callbackRegistered s ready.action).current this = s.current this := by
  unfold clientStep at taken
  split at taken
  case isTrue => contradiction
  case isFalse running =>
    cases ready with
    | acceptor results =>
        obtain ⟨after, served, _, still, goesOn, same⟩ := handleAccept_simulates serveClient
          (fun client s => some (enter callbackRegistered client s))
          (fun later entered => Consistent later ∧ later.server.freed this = false ∧
            later.stopped = c.stopped ∧ entered.current this = s.current this)
          (fun client later entered next served before => by
            obtain ⟨consistent, alive, goesOn, same⟩ := before
            obtain ⟨still, kept⟩ := enter_apart consistent alive served
            exact ⟨_, rfl, serveClient_consistent served consistent, still,
              (serveClient_running served).trans goesOn, kept.trans same⟩)
          taken ⟨known, alive, rfl, rfl⟩
        refine ⟨still, goesOn, ?_⟩
        simpa [ReadyChannel.action, perform, served] using same
    | client that revents results =>
        simp only [ReadyChannel.action] at taken
        split at taken
        case isTrue => contradiction
        case isFalse living =>
          have different : this ≠ that := fun same => apart (congrArg some same.symm)
          obtain ⟨fd, owned⟩ := known.tabled that (Bool.eq_false_iff.mpr living)
          have effect := (Channel.handleEvent_effect that revents results c.server).held fd
            (known.held fd that owned)
          rw [← Option.some.inj taken]
          refine ⟨(freed_elsewhere different effect).trans alive, rfl, ?_⟩
          simp only [ReadyChannel.action, perform, receive]
          split
          · rfl
          · dsimp only
            split
            · exact Function.update_of_ne different _ _
            · rfl

/-- The loop dispatches a batch in the order of the report. At some point it comes to the event of
a client, and each reported channel was registered and reported once. -/
structure Dispatch where
  callbackRegistered : Bool
  trace : List ClientAction
  start : ClientServer
  reached : run clientStep (starting callbackRegistered) trace = some start
  before : List ReadyChannel
  this : Address
  revents : UInt32
  results : List RecvResult
  after : List ReadyChannel
  distinct : ((before ++ .client this revents results :: after).filterMap
    ReadyChannel.address).Nodup
  registered : ∀ reported ∈ before ++ .client this revents results :: after,
    ∀ address ∈ reported.address, start.server.freed address = false
  running : start.stopped = false
  middle : ClientServer
  dispatched : run clientStep start (before.map ReadyChannel.action) = some middle

/-- The events before it in the batch leave an object to its session. -/
theorem keeps_batch {callbackRegistered : Bool} {s : Sessions} {c middle : ClientServer}
    {batch : List ReadyChannel} {this : Address} (known : Consistent c)
    (alive : c.server.freed this = false) (apart : ∀ ready ∈ batch, ready.address ≠ some this)
    (reached : run clientStep c (batch.map ReadyChannel.action) = some middle) :
    middle.server.freed this = false ∧ middle.stopped = c.stopped ∧
      ((batch.map ReadyChannel.action).foldl (perform callbackRegistered) s).current this =
        s.current this := by
  induction batch generalizing s c with
  | nil =>
      obtain rfl := Option.some.inj reached
      exact ⟨alive, rfl, rfl⟩
  | cons ready batch ih =>
      obtain ⟨own, others⟩ := List.forall_mem_cons.mp apart
      obtain ⟨next, taken, rest⟩ := (run_cons_eq_some clientStep).mp reached
      obtain ⟨still, goesOn, same⟩ := keeps_others known alive own taken
      obtain ⟨last, running, kept⟩ :=
        ih (clientStep_accounted taken known).toConsistent still others rest
      exact ⟨last, running.trans goesOn, kept.trans same⟩

/-- Whatever the events before it in the batch did, which may have ended other connections and
reused their descriptors and their memory, the event of a client finds the object that epoll
reported, still with the session that it had at the report. -/
theorem event_finds_object (d : Dispatch) :
    d.middle.server.freed d.this = false ∧
    (after d.callbackRegistered (d.trace ++ d.before.map ReadyChannel.action)).current d.this =
      (after d.callbackRegistered d.trace).current d.this ∧
    ∃ next, clientStep d.middle (.event d.this d.revents d.results) = some next := by
  have known := (ClientRun.tracks ⟨d.callbackRegistered, d.trace, d.start, d.reached⟩).1
  have alive : d.start.server.freed d.this = false :=
    d.registered (.client d.this d.revents d.results) (by simp) d.this rfl
  have apart : ∀ ready ∈ d.before, ready.address ≠ some d.this := by
    intro ready member same
    have distinct := d.distinct
    rw [List.filterMap_append, List.nodup_append] at distinct
    refine distinct.2.2 d.this (List.mem_filterMap.mpr ⟨ready, member, same⟩) d.this ?_ rfl
    exact List.mem_filterMap.mpr ⟨_, List.mem_cons_self, rfl⟩
  obtain ⟨still, goesOn, same⟩ := keeps_batch known alive apart d.dispatched
  refine ⟨still, ?_, ?_⟩
  · simp only [after, List.foldl_append]
    exact same
  · have running : d.middle.stopped = false := goesOn.trans d.running
    simp only [clientStep, running, still, Bool.false_eq_true, if_false]
    exact ⟨_, rfl⟩

/-- Two clients are connected. -/
def loadClients : List ClientAction :=
  [.accept [.accepted ⟨5, some (ascii "10.0.0.1"), 4000, 0, true⟩,
    .accepted ⟨6, some (ascii "10.0.0.2"), 4001, 1, true⟩, .failed .eagain]]

/-- The first client leaves, and a third one takes its descriptor and its memory. -/
def loadBatch : List ReadyChannel :=
  [.client 0 epollIn [.received []],
    .acceptor [.accepted ⟨5, some (ascii "10.0.0.3"), 4002, 0, true⟩, .failed .eagain]]

def loadConnected : ClientServer := (run clientStep (starting true) loadClients).get rfl

/-- The event of the second client stands behind both changes. -/
def loadDispatch : Dispatch where
  callbackRegistered := true
  trace := loadClients
  start := loadConnected
  reached := (Option.some_get _).symm
  before := loadBatch
  this := 1
  revents := epollIn
  results := [.failed .eagain]
  after := []
  distinct := by decide
  registered := by
    simp only [loadBatch, List.cons_append, List.nil_append, List.forall_mem_cons]
    refine ⟨?_, ?_, ?_, List.forall_mem_nil _⟩
    · rintro address ⟨⟩
      rfl
    · rintro address ⟨⟩
    · rintro address ⟨⟩
      rfl
  running := rfl
  middle := (run clientStep loadConnected (loadBatch.map ReadyChannel.action)).get rfl
  dispatched := (Option.some_get _).symm

/-- The event finds the first object behind an accept in the same batch. -/
theorem event_finds_object_load :
    loadDispatch.middle.server.freed 1 = false ∧
    (after true (loadClients ++ loadBatch.map ReadyChannel.action)).current 1 =
      (after true loadClients).current 1 := by
  obtain ⟨alive, same, _⟩ := event_finds_object loadDispatch
  exact ⟨alive, same⟩

end Sessions
end LMonitor.TcpServer

import LMonitor.Library.Machine
import LMonitor.Network.ConnectionEffects
import LMonitor.Reactor.Acceptor

namespace LMonitor.TcpServer
open Library TcpConnection Acceptor

/-- A client descriptor is accepted or closed. -/
inductive DescriptorEvent where
  | accepted (fd : Int)
  | closed (fd : Int)
  deriving DecidableEq

/-- An accepted descriptor was closed before, and a closed descriptor was open. -/
def nextOpen (fd : Int) (isOpen : Bool) : DescriptorEvent → Option Bool
  | .accepted other => if other = fd then (if isOpen then none else some true) else some isOpen
  | .closed other => if other = fd then (if isOpen then some false else none) else some isOpen

/-- This function tells whether a descriptor is open after a history. A second close or a second
accept of the same descriptor has no result. -/
def isOpenAfter (fd : Int) (history : List DescriptorEvent) : Option Bool :=
  history.foldlM (nextOpen fd) false

/-- The history of the descriptors and the collisions of `emplace` have no counterpart in the
source. -/
structure ClientServer where
  callbackRegistered : Bool
  server : ServerState
  history : List DescriptorEvent
  collisions : List Int
  stopped : Bool

def starting (callbackRegistered : Bool) : ClientServer :=
  ⟨callbackRegistered, initial, [], [], false⟩

/-- The history takes the closes of a change in their order. -/
def perform (change : ServerState → ServerState) (c : ClientServer) : ClientServer :=
  let server := change c.server
  { c with
    server := server
    history := c.history ++ (server.closes.drop c.server.closes.length).map .closed }

/-- The callback of the server reaches `emplace` for this client. -/
def reachesEmplace (c : ClientServer) (client : NewClient) : Bool :=
  client.clientIp.isSome && c.callbackRegistered && client.registered

/-- The kernel returns no open descriptor, and a new object takes no memory of a live one. -/
def serveClient (client : NewClient) (c : ClientServer) : Option ClientServer :=
  if isOpenAfter client.clientFd c.history ≠ some true ∧ c.server.freed client.this = true then
    let found := reachesEmplace c client && (c.server.connections.lookup (client.clientFd : Int)).isSome
    some (perform (handOver c.callbackRegistered client) { c with
      history := c.history ++ [.accepted client.clientFd]
      collisions := if found then c.collisions ++ [(client.clientFd : Int)] else c.collisions })
  else none

/-- The entry of a descriptor leaves the table together with the object that it owns. -/
def destroyEntry (s : ServerState) (fd : Int) : ServerState :=
  match s.connections.lookup fd with
  | none => s
  | some owned => { destroy owned s with connections := s.connections.erase fd }

/-- The destructor of the table destroys its entries in some order. -/
def destroyConnections (order : List Int) (s : ServerState) : ServerState :=
  order.foldl destroyEntry s

/-- The loop dispatches accept results and events of registered channels until the shutdown. -/
inductive ClientAction where
  | accept (results : List AcceptResult)
  | event (this : Address) (revents : UInt32) (results : List RecvResult)
  | shutdown (order : List Int)

def clientStep (c : ClientServer) (action : ClientAction) : Option ClientServer :=
  if c.stopped then none
  else
    match action with
    | .accept results => handleAccept serveClient results c
    | .event this revents results =>
        if c.server.freed this then none
        else some (perform (Channel.handleEvent this revents results) c)
    | .shutdown order =>
        if order.Perm c.server.connections.keys then
          some { perform (destroyConnections order) c with stopped := true }
        else none

/-- The table owns exactly the open descriptors, and every live object is in the table. -/
structure Consistent (c : ClientServer) : Prop where
  held : ∀ fd this, c.server.connections.lookup fd = some this → Held this fd c.server
  tabled : ∀ this, c.server.freed this = false →
    ∃ fd, c.server.connections.lookup fd = some this
  tracked : ∀ fd, isOpenAfter fd c.history = some (c.server.connections.lookup fd).isSome
  distinct : c.collisions = []

/-- The state of a descriptor goes on from its history. -/
theorem isOpenAfter_append {fd : Int} {history more : List DescriptorEvent} {isOpen : Bool}
    (before : isOpenAfter fd history = some isOpen) :
    isOpenAfter fd (history ++ more) = more.foldlM (nextOpen fd) isOpen := by
  unfold isOpenAfter at before ⊢
  rw [List.foldlM_append, before]
  rfl

/-- A change without a close leaves the history alone. -/
theorem perform_untouched {c : ClientServer} {change : ServerState → ServerState}
    (same : (change c.server).closes = c.server.closes) :
    perform change c = { c with server := change c.server } := by
  simp [perform, same]

/-- A change with one close adds it to the history. -/
theorem perform_closed {c : ClientServer} {change : ServerState → ServerState} {fd : Int}
    (once : (change c.server).closes = c.server.closes ++ [fd]) :
    perform change c =
      { c with server := change c.server, history := c.history ++ [.closed fd] } := by
  simp [perform, once]

/-- Two entries of the table own different objects. -/
theorem Consistent.apart {c : ClientServer} (known : Consistent c) {fd other : Int}
    {this that : Address} (first : c.server.connections.lookup fd = some this)
    (second : c.server.connections.lookup other = some that) (different : other ≠ fd) :
    that ≠ this := by
  rintro rfl
  exact different ((known.held other that second).descriptor.symm.trans
    (known.held fd that first).descriptor)

/-- An untouched step keeps the table and its objects. -/
theorem Consistent.untouched {c : ClientServer} (known : Consistent c) {this : Address}
    {after : ServerState} (step : Untouched this c.server after) :
    Consistent { c with server := after } := by
  constructor
  · intro fd that owned
    have before : c.server.connections.lookup fd = some that := step.connections ▸ owned
    by_cases same : that = this
    · subst same
      exact step.held (known.held fd that before)
    · exact (known.held fd that before).transfer owned (congrFun step.freed that)
        (step.others that same)
  · intro that alive
    rw [step.freed] at alive
    rw [step.connections]
    exact known.tabled that alive
  · intro fd
    rw [step.connections]
    exact known.tracked fd
  · exact known.distinct

/-- A closed descriptor leaves the table. -/
theorem Consistent.erased {c : ClientServer} (known : Consistent c) {this : Address} {fd : Int}
    {after : ServerState} (owned : c.server.connections.lookup fd = some this)
    (step : Erased this fd c.server after) :
    Consistent { c with server := after, history := c.history ++ [.closed fd] } := by
  have remaining {other : Int} (different : other ≠ fd) :
      after.connections.lookup other = c.server.connections.lookup other := by
    rw [step.connections, AList.lookup_erase_ne different]
  have gone : after.connections.lookup fd = none := by
    rw [step.connections, AList.lookup_erase]
  constructor
  · intro other that found
    have different : other ≠ fd := by
      rintro rfl
      rw [gone] at found
      contradiction
    rw [remaining different] at found
    have apart := known.apart owned found different
    apply (known.held other that found).transfer
    · rw [remaining different, found]
    · rw [step.freed, Function.update_of_ne apart]
    · exact step.others that apart
  · intro that alive
    rw [step.freed] at alive
    have apart : that ≠ this := by
      rintro rfl
      simp at alive
    rw [Function.update_of_ne apart] at alive
    obtain ⟨other, found⟩ := known.tabled that alive
    refine ⟨other, ?_⟩
    rw [remaining, found]
    rintro rfl
    exact apart (Option.some.inj (found.symm.trans owned))
  · intro other
    rw [isOpenAfter_append (known.tracked other)]
    by_cases same : other = fd
    · subst same
      rw [gone, owned]
      simp [nextOpen]
    · rw [remaining same]
      simp [nextOpen, Ne.symm same]
  · exact known.distinct

/-- An accepted descriptor that is closed at once never reaches the table. -/
theorem Consistent.refused {c : ClientServer} (known : Consistent c) {fd : Int}
    (free : c.server.connections.lookup fd = none) :
    Consistent { c with
      server := { c.server with closes := c.server.closes ++ [fd] }
      history := c.history ++ [.accepted fd] ++ [.closed fd] } := by
  constructor
  · intro other that found
    exact (known.held other that found).transfer found rfl rfl
  · exact known.tabled
  · intro other
    rw [List.append_assoc, isOpenAfter_append (known.tracked other)]
    by_cases same : other = fd
    · subst same
      simp [nextOpen, free]
    · simp [nextOpen, Ne.symm same]
  · exact known.distinct

/-- A new object holds its descriptor. -/
theorem held_allocated {fd : Int} (valid : 0 ≤ fd) (this : Address) (clientName : Bytes)
    (s : ServerState) :
    Held this fd { allocate this (acceptedConnection fd clientName) s with
      connections := s.connections.insert fd this } where
  owned := AList.lookup_insert _
  alive := by simp [allocate]
  descriptor := by simp [allocate, acceptedConnection, construct]
  valid := valid
  installed := by simp [allocate, acceptedConnection]
  serving := by simp [allocate, acceptedConnection, construct]

/-- A registered client enters the table with its new object. -/
theorem Consistent.registered {c : ClientServer} (known : Consistent c) {fd : Int}
    (free : c.server.connections.lookup fd = none) (valid : 0 ≤ fd) {this : Address}
    (unused : c.server.freed this = true) (clientName : Bytes) :
    Consistent { c with
      server := { allocate this (acceptedConnection fd clientName) c.server with
        connections := c.server.connections.insert fd this }
      history := c.history ++ [.accepted fd] } := by
  constructor
  · intro other that found
    by_cases same : other = fd
    · subst same
      rw [AList.lookup_insert] at found
      obtain rfl := Option.some.inj found
      exact held_allocated valid this clientName c.server
    · have before : c.server.connections.lookup other = some that := by
        rwa [AList.lookup_insert_ne same] at found
      have apart : that ≠ this := by
        rintro rfl
        rw [(known.held other that before).alive] at unused
        contradiction
      exact (known.held other that before).transfer found (by simp [allocate, apart])
        (by simp [allocate, apart])
  · intro that alive
    by_cases same : that = this
    · subst same
      exact ⟨fd, AList.lookup_insert _⟩
    · have before : c.server.freed that = false := by simpa [allocate, same] using alive
      obtain ⟨other, found⟩ := known.tabled that before
      refine ⟨other, ?_⟩
      rw [AList.lookup_insert_ne, found]
      rintro rfl
      rw [free] at found
      contradiction
  · intro other
    rw [isOpenAfter_append (known.tracked other)]
    by_cases same : other = fd
    · subst same
      simp [nextOpen, free]
    · simp [nextOpen, Ne.symm same, AList.lookup_insert_ne same]
  · exact known.distinct

/-- A client under a free key enters the table or is closed at once. -/
theorem handOver_cases (callbackRegistered : Bool) (client : NewClient) {s : ServerState}
    (free : s.connections.lookup (client.clientFd : Int) = none) :
    handOver callbackRegistered client s =
      { s with closes := s.closes ++ [(client.clientFd : Int)] } ∨
    ∃ clientName, handOver callbackRegistered client s =
      { allocate client.this (acceptedConnection client.clientFd clientName) s with
        connections := s.connections.insert (client.clientFd : Int) client.this } := by
  cases printed : client.clientIp with
  | none => exact .inl (by simp only [handOver, printed])
  | some clientIp =>
      simp only [handOver, printed, newConnectionCallback]
      by_cases callback : callbackRegistered
      · rw [if_pos callback]
        by_cases registered : client.registered
        · rw [if_pos registered]
          refine .inr ⟨clientIp ++ ascii ":" ++ decimal client.clientPort.toNat, ?_⟩
          simp only [allocate, free]
        · rw [if_neg registered]
          exact .inl rfl
      · rw [if_neg callback]
        exact .inl rfl

/-- The kernel keeps an open descriptor from a new client, so `emplace` finds a free key. -/
theorem serveClient_consistent {client : NewClient} {c next : ClientServer}
    (served : serveClient client c = some next) (known : Consistent c) : Consistent next := by
  unfold serveClient at served
  split at served
  case isFalse => contradiction
  case isTrue allowed =>
    obtain ⟨closed, unused⟩ := allowed
    have free : c.server.connections.lookup (client.clientFd : Int) = none := by
      rw [known.tracked] at closed
      simpa using closed
    simp only [free, Option.isSome_none, Bool.and_false, Bool.false_eq_true, if_false] at served
    rw [← Option.some.inj served]
    rcases handOver_cases c.callbackRegistered client free with refused | ⟨clientName, entered⟩
    · rw [perform_closed (by rw [refused]), refused]
      exact known.refused free
    · rw [perform_untouched (by rw [entered]; rfl), entered]
      exact known.registered free (Int.natCast_nonneg _) unused clientName

/-- Every event keeps the table consistent. -/
theorem event_consistent {c : ClientServer} (known : Consistent c) {this : Address}
    (alive : c.server.freed this = false) (revents : UInt32) (results : List RecvResult) :
    Consistent (perform (Channel.handleEvent this revents results) c) := by
  obtain ⟨fd, owned⟩ := known.tabled this alive
  rcases (Channel.handleEvent_effect this revents results c.server).held fd
    (known.held fd this owned) with kept | closed
  · rw [perform_untouched kept.closes]
    exact known.untouched kept
  · rw [perform_closed closed.closes]
    exact known.erased owned closed.toErased

/-- The destructor of the table closes each owned descriptor once. -/
theorem destroyConnections_consistent {c : ClientServer} (known : Consistent c)
    (order : List Int) :
    ∃ closed,
      (destroyConnections order c.server).closes = c.server.closes ++ closed ∧
      Consistent { c with
        server := destroyConnections order c.server
        history := c.history ++ closed.map .closed } ∧
      ∀ fd, fd ∈ order ∨ c.server.connections.lookup fd = none →
        (destroyConnections order c.server).connections.lookup fd = none := by
  induction order generalizing c with
  | nil => exact ⟨[], by simp [destroyConnections], by simpa [destroyConnections] using known,
      by simp [destroyConnections]⟩
  | cons fd order ih =>
      cases owned : c.server.connections.lookup fd with
      | none =>
          have same : destroyConnections (fd :: order) c.server =
              destroyConnections order c.server := by
            simp [destroyConnections, destroyEntry, owned]
          obtain ⟨closed, closes, consistent, empty⟩ := ih known
          refine ⟨closed, same ▸ closes, same ▸ consistent, ?_⟩
          intro other gone
          rw [same]
          rcases gone with member | absent
          · rcases List.mem_cons.mp member with rfl | member
            · exact empty other (.inr owned)
            · exact empty other (.inl member)
          · exact empty other (.inr absent)
      | some this =>
          have step : Erased this fd c.server (destroyEntry c.server fd) :=
            (known.held fd this owned).erased
          obtain ⟨closed, closes, consistent, empty⟩ := ih (known.erased owned step)
          refine ⟨fd :: closed, ?_, by simpa [destroyConnections] using consistent, ?_⟩
          · change (destroyConnections order (destroyEntry c.server fd)).closes = _
            rw [closes]
            simp [step.closes]
          · intro other gone
            apply empty other
            change other ∈ order ∨ (destroyEntry c.server fd).connections.lookup other = none
            rw [step.connections]
            by_cases same : other = fd
            · subst same
              exact .inr (AList.lookup_erase _ _)
            · rw [AList.lookup_erase_ne same]
              simpa [same] using gone

theorem initial_consistent (callbackRegistered : Bool) :
    Consistent (starting callbackRegistered) := by
  constructor
  · intro fd this owned
    simp [starting, initial] at owned
  · intro this alive
    simp [starting, initial] at alive
  · intro fd
    rfl
  · rfl

theorem serveClient_running {client : NewClient} {c next : ClientServer}
    (served : serveClient client c = some next) : next.stopped = c.stopped := by
  unfold serveClient at served
  split at served
  · rw [← Option.some.inj served]
    rfl
  · contradiction

/-- The invariant of the machine is a consistent table, which is empty after the shutdown. -/
structure Accounted (c : ClientServer) : Prop extends Consistent c where
  emptied : c.stopped = true → ∀ fd, c.server.connections.lookup fd = none

/-- Every step keeps account of the descriptors. -/
theorem clientStep_accounted {c next : ClientServer} {action : ClientAction}
    (taken : clientStep c action = some next) (known : Consistent c) : Accounted next := by
  unfold clientStep at taken
  split at taken
  case isTrue => contradiction
  case isFalse running =>
    cases action with
    | accept results =>
        obtain ⟨consistent, same⟩ := handleAccept_invariant serveClient
          (fun after => Consistent after ∧ after.stopped = c.stopped)
          (fun _ _ _ served before => ⟨serveClient_consistent served before.1,
            (serveClient_running served).trans before.2⟩) taken ⟨known, rfl⟩
        refine ⟨consistent, ?_⟩
        intro stopped
        exact absurd (same.symm.trans stopped) running
    | event this revents results =>
        simp only at taken
        split at taken
        case isTrue => contradiction
        case isFalse alive =>
          rw [← Option.some.inj taken]
          refine ⟨event_consistent known (Bool.eq_false_iff.mpr alive) revents results, ?_⟩
          intro stopped
          exact absurd stopped running
    | shutdown order =>
        simp only at taken
        split at taken
        case isFalse => contradiction
        case isTrue whole =>
          obtain ⟨closed, closes, consistent, empty⟩ := destroyConnections_consistent known order
          have performed : perform (destroyConnections order) c = { c with
              server := destroyConnections order c.server
              history := c.history ++ closed.map .closed } := by
            simp [perform, closes]
          rw [← Option.some.inj taken, performed]
          refine ⟨⟨consistent.held, consistent.tabled, consistent.tracked, consistent.distinct⟩, ?_⟩
          intro _ fd
          apply empty
          by_cases member : fd ∈ order
          · exact .inl member
          · refine .inr (AList.lookup_eq_none.mpr ?_)
            rwa [AList.mem_keys, ← whole.mem_iff]

/-- At every point between events the table has exactly the open descriptors, each one with the live
object of that descriptor. No descriptor is accepted while it is open or closed twice, `emplace`
never finds its key, and the shutdown leaves no descriptor open. -/
theorem descriptors_owned_once (callbackRegistered : Bool) (trace : List ClientAction)
    (final : ClientServer)
    (reached : run clientStep (starting callbackRegistered) trace = some final) :
    (∀ fd, isOpenAfter fd final.history = some (decide (fd ∈ final.server.connections))) ∧
    (∀ fd this, final.server.connections.lookup fd = some this →
      final.server.freed this = false ∧ (final.server.heap this).fd = fd) ∧
    final.collisions = [] ∧
    (final.stopped = true → ∀ fd, isOpenAfter fd final.history = some false) := by
  have start : Accounted (starting callbackRegistered) := by
    refine ⟨initial_consistent callbackRegistered, ?_⟩
    intro stopped
    contradiction
  have known := run_invariant clientStep Accounted
    (fun _ _ _ taken before => clientStep_accounted taken before.toConsistent) reached start
  refine ⟨?_, ?_, known.distinct, ?_⟩
  · intro fd
    rw [known.tracked, Option.some_inj, Bool.eq_iff_iff, decide_eq_true_iff, AList.lookup_isSome]
  · intro fd this owned
    exact ⟨(known.held fd this owned).alive, (known.held fd this owned).descriptor⟩
  · intro stopped fd
    rw [known.tracked, known.emptied stopped]
    rfl

/-- Descriptors 5 and 6 are used again after a disconnect and after two refused clients. -/
def reuseTrace : List ClientAction :=
  [.accept [.accepted ⟨5, some (ascii "10.0.0.1"), 4000, 0, true⟩, .failed .eintr,
      .accepted ⟨6, none, 4001, 1, true⟩, .accepted ⟨6, some (ascii "10.0.0.2"), 4002, 1, false⟩,
      .failed .eagain],
    .event 0 epollIn [.received []],
    .accept [.accepted ⟨6, some (ascii "10.0.0.3"), 4003, 0, true⟩,
      .accepted ⟨5, some (ascii "10.0.0.4"), 4004, 1, true⟩],
    .shutdown [6, 5]]

theorem descriptors_owned_once_reuse :
    let final := (run clientStep (starting true) reuseTrace).get (by decide)
    isOpenAfter 5 final.history = some false ∧ isOpenAfter 6 final.history = some false ∧
      final.collisions = [] := by
  have owned := descriptors_owned_once true reuseTrace _ (Option.some_get (by decide)).symm
  exact ⟨owned.2.2.2 (by decide) 5, owned.2.2.2 (by decide) 6, owned.2.2.1⟩

end LMonitor.TcpServer

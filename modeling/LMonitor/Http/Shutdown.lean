import LMonitor.Http.ServerLifecycle

namespace LMonitor.HttpServer
open Library TcpServer

namespace ThreadPart

/-- The thread holds the descriptor of this client. -/
def client : ThreadPart → Option Nat
  | handling clientFd => some clientFd
  | closing clientFd => some clientFd
  | _ => none

/-- The thread has passed the test of its loop and comes back to it. -/
@[grind] def serving : ThreadPart → Bool
  | calling => true
  | accepting _ => true
  | waiting => true
  | handling _ => true
  | closing _ => true
  | _ => false

/-- The thread has created its socket and has not left the loop. -/
@[grind] def looping : ThreadPart → Bool
  | settingUp => true
  | testing => true
  | part => part.serving

/-- A client was accepted before the next test. -/
@[grind] def accepted : ThreadPart → Bool
  | handling _ => true
  | closing _ => true
  | testing => true
  | leaving => true
  | finished => true
  | _ => false

@[grind] def ended : ThreadPart → Bool
  | absent => true
  | finished => true
  | _ => false

/-- While the server does not run, the thread makes at most so many steps. -/
@[grind] def rank : ThreadPart → Nat
  | absent => 0
  | finished => 0
  | leaving => 1
  | testing => 2
  | waiting => 3
  | closing _ => 3
  | settingUp => 3
  | accepting _ => 4
  | calling => 5
  | handling _ => 4
  | creating => 4

end ThreadPart

/-- A call of `stop` has passed its call of `shutdown` or skipped it. -/
@[grind] def OwnerPart.passed : OwnerPart → Bool
  | closing => true
  | resetting => true
  | joining => true
  | _ => false

/-- A call of `stop` has cleared the running flag. -/
@[grind] def OwnerPart.cleared : OwnerPart → Bool
  | checking => true
  | shuttingDown => true
  | closing => true
  | resetting => true
  | joining => true
  | _ => false

/-- A `stop` that passed the `shutdown` has cleared the flag. -/
theorem OwnerPart.cleared_passed {owner : OwnerPart} (passed : owner.passed = true) :
    owner.cleared = true := by
  cases owner <;> first
    | rfl
    | cases passed

/-- The thread has its socket while it serves. -/
theorem ThreadPart.looping_serving {part : ThreadPart} (serving : part.serving = true) :
    part.looping = true := by
  cases part <;> first
    | rfl
    | cases serving

namespace Lifecycle

/-- The parts of the owner and of the thread fit together with the listening socket. -/
structure Phases (s : Lifecycle) : Prop where
  member : s.owner ≠ .resetting → s.listenFd = (s.listening.map Int.ofNat).getD (-1)
  unborn : s.thread = .absent ∨ s.thread = .creating → s.listening = none
  armed : s.owner = .shuttingDown ∨ s.owner = .closing → s.listening ≠ none
  disarmed : s.owner = .resetting → s.listening = none ∧ s.thread ≠ .creating
  cleared : s.owner.cleared = true ∨ 0 < s.stops → s.running = false
  constructed : s.owner = .constructed → s.thread = .absent ∧ s.stops = 0
  listens : s.thread.looping = true → s.owner ≠ .resetting → s.owner ≠ .joining →
    s.listening ≠ none
  prepared : s.thread = .testing ∨ s.thread.serving = true → s.prepared = true
  deaf : s.thread.serving = true → s.owner.passed = true → s.shut = true
  ended : 0 < s.stops → s.thread.ended = true
  drained : 0 < s.stops → s.owner = .joining ∨ 1 < s.stops → s.listening = none
  late : s.late = 0 ∨ s.late = 1 ∧ s.running = false ∧ s.thread.accepted = true

/-- The member names the open listening socket until `stop` closes it. -/
theorem Phases.listens_closing {s : Lifecycle} (known : Phases s) (due : s.owner = .closing) :
    s.Listens s.listenFd := by
  have present := known.armed (.inr due)
  have member := known.member (by rw [due]; decide)
  obtain ⟨fd, listening⟩ := Option.ne_none_iff_exists'.mp present
  rw [Listens, member, listening]
  rfl

/-- The member is negative only while no socket listens. -/
theorem Phases.silent_checking {s : Lifecycle} (known : Phases s) (due : s.owner = .checking)
    (invalid : ¬ 0 ≤ s.listenFd) : s.listening = none := by
  have member := known.member (by rw [due]; decide)
  cases listening : s.listening with
  | none => rfl
  | some fd =>
      rw [member, listening] at invalid
      exact absurd (Int.natCast_nonneg fd) invalid

section Moved
variable {s next : Lifecycle}

/-- The member names the listening socket except while it is reset. -/
theorem member_moved (moved : Moved s next) (known : Phases s) :
    next.owner ≠ .resetting → next.listenFd = (next.listening.map Int.ofNat).getD (-1) := by
  intro away
  have member := known.member
  cases moved
  case closed => exact absurd rfl away
  case reset due =>
    simp only [(known.disarmed due).1]
    rfl
  case created => rfl
  case failed due =>
    simp only [known.unborn (.inr due)]
    rfl
  all_goals grind

/-- The socket of a looping thread stays open until `stop` closes it. -/
theorem listens_moved (moved : Moved s next) (known : Phases s) : next.thread.looping = true →
    next.owner ≠ .resetting → next.owner ≠ .joining → next.listening ≠ none := by
  intro looping away waits
  have listens := known.listens
  cases moved
  case started => cases looping
  case closed => exact absurd rfl away
  case reset => exact absurd rfl waits
  case created => simp
  case joined due ended =>
    -- The thread has ended, so it does not loop.
    obtain absent | finished := ended
    · rw [absent] at looping
      cases looping
    · rw [finished] at looping
      cases looping
  case stopped free =>
    apply listens looping
    all_goals
      intro owner
      rw [owner] at free
      simp at free
  all_goals grind

/-- A thread passed the test of its loop after `listen` only. -/
theorem prepared_moved (moved : Moved s next) (known : Phases s) :
    next.thread = .testing ∨ next.thread.serving = true → next.prepared = true := by
  intro serves
  have prepared := known.prepared
  cases moved
  case prepared => rfl
  case entered due _ => exact prepared (.inl due)
  case called due | waits _ due _ | accepted due _ _ | handled due =>
    exact prepared (.inr (by rw [due]; rfl))
  case released due | interrupted due => exact prepared (.inr (by rw [due]; rfl))
  all_goals grind

/-- A thread that passed the test while the server ran has lost its socket when `stop` goes on. -/
theorem deaf_moved (moved : Moved s next) (known : Phases s) :
    next.thread.serving = true → next.owner.passed = true → next.shut = true := by
  intro serving passed
  have deaf := known.deaf
  cases moved
  case shutDown =>
    -- The socket listens already, so the call takes effect.
    simp only [known.prepared (.inr serving), Bool.or_true]
  case missed due invalid =>
    have silent := known.silent_checking due invalid
    have listens := known.listens (ThreadPart.looping_serving serving)
    exact absurd silent (listens (by simp [due]) (by simp [due]))
  case entered due running =>
    have clear := known.cleared (.inl (OwnerPart.cleared_passed passed))
    rw [running] at clear
    cases clear
  all_goals grind

/-- Nothing listens any more when a further `stop` waits or has returned. -/
theorem drained_moved (moved : Moved s next) (known : Phases s) :
    0 < next.stops → next.owner = .joining ∨ 1 < next.stops → next.listening = none := by
  intro stopped waits
  have drained := known.drained
  cases moved
  case missed due invalid => exact known.silent_checking due invalid
  case reset due => exact (known.disarmed due).1
  case joined due _ =>
    -- The second stop that returns waited after the first one had returned.
    have again : 0 < s.stops := by
      simp only [reduceCtorEq, false_or] at waits
      omega
    exact drained again (.inl due)
  case created due _ =>
    -- No thread creates a socket after a stop returned.
    have ended := known.ended stopped
    rw [due] at ended
    cases ended
  all_goals grind

/-- At most one client came late, and the flag is clear since. -/
theorem late_moved (moved : Moved s next) (known : Phases s) :
    next.late = 0 ∨ next.late = 1 ∧ next.running = false ∧ next.thread.accepted = true := by
  have late := known.late
  cases moved
  case started fresh =>
    -- No thread has accepted a client yet.
    obtain none | ⟨_, _, accepted⟩ := late
    · exact .inl none
    · rw [(known.constructed fresh).1] at accepted
      cases accepted
  case accepted due _ _ =>
    obtain none | ⟨_, _, accepted⟩ := late
    · cases running : s.running <;> simp [none, ThreadPart.accepted]
    · rw [due] at accepted
      cases accepted
  all_goals grind

/-- The running flag is set before the first stop only. -/
theorem cleared_moved (moved : Moved s next) (known : Phases s) :
    next.owner.cleared = true ∨ 0 < next.stops → next.running = false := by
  intro stopped
  have cleared := known.cleared
  cases moved
  case cleared => rfl
  case left => rfl
  case started fresh =>
    have none := (known.constructed fresh).2
    simp only [none, OwnerPart.cleared, Nat.lt_irrefl, Bool.false_eq_true, or_self] at stopped
  all_goals grind

/-- The thread ends before a stop returns. -/
theorem ended_moved (moved : Moved s next) (known : Phases s) :
    0 < next.stops → next.thread.ended = true := by
  intro stopped
  have ended := known.ended
  cases moved
  case joined due ended =>
    obtain absent | finished := ended
    · simp only [absent, ThreadPart.ended]
    · simp only [finished, ThreadPart.ended]
  case started fresh => exact absurd (known.constructed fresh).2 (Nat.ne_of_gt stopped)
  all_goals grind

/-- The socket exists while `stop` handles it. -/
theorem armed_moved (moved : Moved s next) (known : Phases s) :
    next.owner = .shuttingDown ∨ next.owner = .closing → next.listening ≠ none := by
  intro handles
  have armed := known.armed
  cases moved
  case found due valid =>
    intro silent
    have member := known.member (by rw [due]; decide)
    rw [silent] at member
    exact absurd (member ▸ valid) (by decide)
  case closed => simp at handles
  all_goals grind

/-- The member is reset only when nothing listens and no socket is being created. -/
theorem disarmed_moved (moved : Moved s next) (known : Phases s) :
    next.owner = .resetting → next.listening = none ∧ next.thread ≠ .creating := by
  intro resetting
  have disarmed := known.disarmed
  cases moved
  case closed due =>
    refine ⟨if_pos (known.listens_closing due), fun creating => ?_⟩
    exact known.armed (.inr due) (known.unborn (.inr creating))
  all_goals grind

/-- Nothing listens before the thread has created its socket. -/
theorem unborn_moved (moved : Moved s next) (known : Phases s) :
    next.thread = .absent ∨ next.thread = .creating → next.listening = none := by
  intro early
  have unborn := known.unborn
  cases moved
  case started fresh => exact unborn (.inl (known.constructed fresh).1)
  case closed due => exact if_pos (known.listens_closing due)
  all_goals grind

/-- Before `start` there is no thread, and nothing was stopped. -/
theorem constructed_moved (moved : Moved s next) (known : Phases s) :
    next.owner = .constructed → next.thread = .absent ∧ next.stops = 0 := by
  intro fresh
  have constructed := known.constructed
  cases moved
  all_goals grind

/-- Every step keeps all phases. -/
theorem phases_moved (moved : Moved s next) (known : Phases s) : Phases next where
  member := member_moved moved known
  unborn := unborn_moved moved known
  armed := armed_moved moved known
  disarmed := disarmed_moved moved known
  cleared := cleared_moved moved known
  constructed := constructed_moved moved known
  listens := listens_moved moved known
  prepared := prepared_moved moved known
  deaf := deaf_moved moved known
  ended := ended_moved moved known
  drained := drained_moved moved known
  late := late_moved moved known

end Moved

/-- The thread holds this client descriptor. -/
def Holds (s : Lifecycle) (fd : Int) : Prop := s.thread.client.map Int.ofNat = some fd

/-- The open descriptors are the listening socket and the client of the thread. -/
structure Tracked (s : Lifecycle) : Prop where
  tracked : ∀ fd, ∃ isOpen, isOpenAfter fd s.history = some isOpen ∧
    (isOpen = true ↔ s.Listens fd ∨ s.Holds fd)
  apart : ∀ fd, s.Holds fd → ¬ s.Listens fd

section Moved
variable {s next : Lifecycle}

/-- A step without a call of the kernel changes no descriptor. -/
theorem Tracked.same (known : Tracked s) (history : next.history = s.history)
    (listening : next.listening = s.listening) (client : next.thread.client = s.thread.client) :
    Tracked next := by
  constructor
  · intro fd
    rw [history, Listens, Holds, listening, client]
    exact known.tracked fd
  · intro fd
    rw [Listens, Holds, listening, client]
    exact known.apart fd

/-- A new descriptor is open afterwards. -/
theorem Tracked.opened (known : Tracked s) {new : Nat}
    (unused : isOpenAfter new s.history ≠ some true)
    (history : next.history = s.history ++ [.accepted new])
    (owned : ∀ fd, next.Listens fd ∨ next.Holds fd ↔ fd = new ∨ s.Listens fd ∨ s.Holds fd)
    (apart : ∀ fd, next.Holds fd → ¬ next.Listens fd) : Tracked next := by
  refine ⟨fun fd => ?_, apart⟩
  obtain ⟨isOpen, before, open_⟩ := known.tracked fd
  rw [history, isOpenAfter_append before, owned fd, ← open_]
  by_cases same : fd = new
  · subst same
    have free : isOpen = false := by
      rw [before] at unused
      simpa using unused
    exact ⟨true, by simp [nextOpen, free], by simp⟩
  · exact ⟨isOpen, by simp [nextOpen, Ne.symm same], by simp [same]⟩

/-- A closed descriptor is not open afterwards. -/
theorem Tracked.closed (known : Tracked s) {old : Int} (held : s.Listens old ∨ s.Holds old)
    (history : next.history = s.history ++ [.closed old])
    (owned : ∀ fd, next.Listens fd ∨ next.Holds fd ↔ fd ≠ old ∧ (s.Listens fd ∨ s.Holds fd))
    (apart : ∀ fd, next.Holds fd → ¬ next.Listens fd) : Tracked next := by
  refine ⟨fun fd => ?_, apart⟩
  obtain ⟨isOpen, before, open_⟩ := known.tracked fd
  rw [history, isOpenAfter_append before, owned fd, ← open_]
  by_cases same : fd = old
  · subst same
    exact ⟨false, by simp [nextOpen, open_.mpr held], by simp⟩
  · exact ⟨isOpen, by simp [nextOpen, Ne.symm same], by simp [same]⟩

/-- A number that is not open is neither listened on nor held. -/
theorem Tracked.unused (known : Tracked s) {fd : Nat}
    (unused : isOpenAfter fd s.history ≠ some true) : ¬ (s.Listens fd ∨ s.Holds fd) := by
  obtain ⟨isOpen, before, open_⟩ := known.tracked fd
  rw [before] at unused
  rw [← open_]
  simpa using unused

/-- Every step keeps account of the descriptors. -/
theorem tracked_moved (moved : Moved s next) (phases : Phases s) (known : Tracked s) :
    Tracked next := by
  cases moved
  case closed due =>
    have listens := phases.listens_closing due
    have single : ∀ fd, s.Listens fd → fd = s.listenFd := fun fd other =>
      Option.some.inj (other.symm.trans listens)
    have apart : ∀ fd, s.Holds fd → fd ≠ s.listenFd := by
      rintro fd holds rfl
      exact known.apart _ holds listens
    apply known.closed (.inl listens) rfl
    · intro fd
      simp only [if_pos listens]
      constructor
      · rintro (none | holds)
        · cases none
        · exact ⟨apart fd holds, .inr holds⟩
      · rintro ⟨different, same | holds⟩
        · exact absurd (single fd same) different
        · exact .inr holds
    · intro fd _ other
      change Option.map Int.ofNat (if s.Listens s.listenFd then none else s.listening) = some fd
        at other
      rw [if_pos listens] at other
      cases other
  case created fd due unused =>
    have nothing := phases.unborn (.inr due)
    apply known.opened unused rfl
    · intro other
      simp [Listens, Holds, ThreadPart.client, nothing, due, eq_comm]
    · intro other holds
      cases holds
  case accepted clientFd due open_ unused =>
    have fresh := known.unused unused
    apply known.opened unused rfl
    · intro other
      simp [Listens, Holds, ThreadPart.client, due, eq_comm, or_comm]
    · rintro other holds same
      obtain rfl := Option.some.inj holds
      exact fresh (.inl same)
  case released clientFd due =>
    have holds : s.Holds clientFd := by simp [Holds, due, ThreadPart.client]
    apply known.closed (.inr holds) rfl
    · intro fd
      have only : s.Holds fd ↔ fd = clientFd := by
        simp [Holds, due, ThreadPart.client, eq_comm]
      have notHeld : ¬ Lifecycle.Holds { s with
          history := s.history ++ [.closed clientFd]
          thread := .testing } fd := fun none => by cases none
      rw [only]
      constructor
      · rintro (listens | none)
        · refine ⟨?_, .inl listens⟩
          rintro rfl
          exact known.apart _ holds listens
        · exact absurd none notHeld
      · rintro ⟨different, listens | same⟩
        · exact .inl listens
        · exact absurd same different
    · intro fd holds
      cases holds
  case started fresh => exact known.same rfl rfl (by rw [(phases.constructed fresh).1]; rfl)
  case stopped | cleared | found | missed | shutDown | reset | joined =>
    exact known.same rfl rfl rfl
  case failed due | prepared due | called due | waits _ due _ | left due | entered due _ |
      interrupted due | handled _ due => exact known.same rfl rfl (by rw [due]; rfl)
  case ending due =>
    obtain due | ⟨due, _⟩ | ⟨fd, due⟩ | due := due <;>
      exact known.same rfl rfl (by rw [due]; rfl)

end Moved

/-- The thread takes these steps without a client, a signal or a lack of resources. -/
def Action.unaided : Action → Bool
  | socket _ | setUp _ | test | call | lookUp | wake | closeClient | leave => true
  | start | stop | proceed | accept _ | handled => false

/-- A thread that `stop` waits for has ended, or it serves a client, or it can go on by itself, and
each of its steps brings its end nearer. -/
structure Settling (s : Lifecycle) : Prop where
  enabled : s.thread.ended = true ∨ (∃ clientFd, s.thread = .handling clientFd) ∨
    ∃ action next, action.unaided = true ∧ step s action = some next
  nearer : ∀ action next, step s action = some next →
    next.owner = .idle ∨ next.owner = .joining ∧ next.thread.rank < s.thread.rank

/-- The running flag is clear, so the thread calls `accept4` no more, and a thread that waits in a
call wakes up because its socket was shut down. -/
theorem settling_joining {s : Lifecycle} (phases : Phases s) (waits : s.owner = .joining) :
    Settling s := by
  have clear : s.running = false := phases.cleared (.inl (by rw [waits]; rfl))
  have deaf (serving : s.thread.serving = true) : s.shut = true :=
    phases.deaf serving (by rw [waits]; rfl)
  constructor
  case enabled =>
    cases part : s.thread with
    | absent => exact .inl rfl
    | finished => exact .inl rfl
    | handling clientFd => exact .inr (.inl ⟨clientFd, rfl⟩)
    | creating => exact .inr (.inr ⟨.socket none, _, rfl, by simp only [step, part, if_true]; rfl⟩)
    | settingUp => exact .inr (.inr ⟨.setUp false, _, rfl, by simp only [step, part, if_true]; rfl⟩)
    | testing => exact .inr (.inr ⟨.test, _, rfl, by simp only [step, part, if_true]; rfl⟩)
    | calling => exact .inr (.inr ⟨.call, _, rfl, by simp only [step, part, if_true]; rfl⟩)
    | accepting fd => exact .inr (.inr ⟨.lookUp, _, rfl, by simp only [step, part]; rfl⟩)
    | waiting =>
        have shut := deaf (by rw [part]; rfl)
        exact .inr (.inr ⟨.wake, _, rfl, by simp only [step, part, shut, and_self, if_true]; rfl⟩)
    | closing clientFd => exact .inr (.inr ⟨.closeClient, _, rfl, by simp only [step, part]; rfl⟩)
    | leaving => exact .inr (.inr ⟨.leave, _, rfl, by simp only [step, part, if_true]; rfl⟩)
  case nearer =>
    intro action next taken
    cases step_moved taken
    case accepted clientFd due open_ _ =>
      rw [deaf (by rw [due]; rfl)] at open_
      cases open_
    all_goals grind

/-- The server was constructed, and its owner, its thread and the kernel made any steps. -/
structure LifecycleRun where
  trace : List Action
  final : Lifecycle
  reached : run step construct trace = some final

namespace LifecycleRun

/-- All phases hold at the end of every run. -/
theorem orderly (r : LifecycleRun) : Phases r.final ∧ Tracked r.final := by
  apply run_invariant step (fun s => Phases s ∧ Tracked s) _ r.reached
  · constructor
    · constructor <;> simp [construct, OwnerPart.cleared, ThreadPart.looping, ThreadPart.serving]
    · exact ⟨fun fd => ⟨false, rfl, by simp [Listens, Holds, construct, ThreadPart.client]⟩,
        fun fd none => by cases none⟩
  · intro s action next taken known
    have moved := step_moved taken
    exact ⟨phases_moved moved known.1, tracked_moved moved known.1 known.2⟩

/-- However the calls of the owner and the steps of the server thread interleave, no descriptor is
closed twice, at most one client is accepted after `stop` cleared the running flag, and a waiting
`stop` depends on nothing but the client that is served, since the `shutdown` of the socket wakes a
call of `accept4`. When it returns, the thread has ended and holds no client, and after a second
call, which the destructor makes, nothing is open. -/
theorem stop_settles (r : LifecycleRun) :
    (∀ fd, isOpenAfter fd r.final.history ≠ none) ∧
    r.final.late ≤ 1 ∧
    (r.final.owner = .joining → Settling r.final) ∧
    (0 < r.final.stops → r.final.thread.ended = true ∧ ∀ fd, ¬ r.final.Holds fd) ∧
    (1 < r.final.stops → ∀ fd, isOpenAfter fd r.final.history = some false) := by
  obtain ⟨phases, tracked⟩ := r.orderly
  have free : 0 < r.final.stops → ∀ fd, ¬ r.final.Holds fd := by
    intro stopped fd holds
    have ended := phases.ended stopped
    cases part : r.final.thread <;> rw [part] at ended <;>
      simp [ThreadPart.ended, Holds, part, ThreadPart.client] at ended holds
  refine ⟨?_, ?_, settling_joining phases, fun stopped => ⟨phases.ended stopped, free stopped⟩, ?_⟩
  · intro fd none
    obtain ⟨isOpen, known, _⟩ := tracked.tracked fd
    rw [known] at none
    cases none
  · have late := phases.late
    omega
  · intro twice fd
    have silent := phases.drained (by omega) (.inr twice)
    obtain ⟨isOpen, known, open_⟩ := tracked.tracked fd
    rw [known, Option.some.injEq, Bool.eq_false_iff]
    intro isTrue
    obtain listens | holds := open_.mp isTrue
    · rw [Listens, silent] at listens
      cases listens
    · exact free (by omega) fd holds

/-- The thread waits for a client when the server is stopped. -/
def stopWhileWaiting : List Action :=
  [.start, .socket (some 3), .setUp true, .test, .call, .lookUp, .stop, .proceed, .proceed,
    .proceed, .proceed, .proceed]

def loadWaiting : LifecycleRun where
  trace := stopWhileWaiting
  final := (run step construct stopWhileWaiting).get rfl
  reached := (Option.some_get _).symm

/-- The socket wakes the thread, and the destructor stops the server again. -/
def stopTwice : List Action :=
  stopWhileWaiting ++ [.wake, .leave, .proceed, .stop, .proceed, .proceed, .proceed]

def loadStopped : LifecycleRun where
  trace := stopTwice
  final := (run step construct stopTwice).get rfl
  reached := (Option.some_get _).symm

/-- One run waits in `accept4` during `stop`, and the other one has stopped. -/
theorem stop_settles_load : Settling loadWaiting.final ∧
    loadStopped.final.thread.ended = true ∧
    isOpenAfter 3 loadStopped.final.history = some false := by
  obtain ⟨_, _, settling, _, _⟩ := loadWaiting.stop_settles
  obtain ⟨_, _, _, ended, nothing⟩ := loadStopped.stop_settles
  exact ⟨settling rfl, (ended (by decide)).1, nothing (by decide) 3⟩

end LifecycleRun

end Lifecycle
end LMonitor.HttpServer

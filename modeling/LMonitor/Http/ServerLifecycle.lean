import LMonitor.Server.ClientDescriptors

namespace LMonitor.HttpServer
open Library TcpServer

/-- The server thread is at one of these points of `run`. -/
inductive ThreadPart where
  | absent
  | creating
  | settingUp
  | testing
  | calling
  | accepting (listenFd : Int)
  | waiting
  | handling (clientFd : Nat)
  | closing (clientFd : Nat)
  | leaving
  | finished
  deriving DecidableEq

/-- The owner of the server is between its calls or at one of these points of `stop`. -/
inductive OwnerPart where
  | constructed
  | idle
  | clearing
  | checking
  | shuttingDown
  | closing
  | resetting
  | joining
  deriving DecidableEq

/-- The listening socket with its two flags, the history of the descriptors and the two counts have
no counterpart in the source. The flags tell whether `listen` and `shutdown` took effect, and the
last count counts clients that were accepted while the server did not run. -/
structure Lifecycle where
  running : Bool
  listenFd : Int
  owner : OwnerPart
  thread : ThreadPart
  listening : Option Nat
  prepared : Bool
  shut : Bool
  history : List DescriptorEvent
  stops : Nat
  late : Nat

namespace Lifecycle

def construct : Lifecycle where
  running := false
  listenFd := -1
  owner := .constructed
  thread := .absent
  listening := none
  prepared := false
  shut := false
  history := []
  stops := 0
  late := 0

/-- The member holds the number of the open listening socket. -/
def Listens (s : Lifecycle) (fd : Int) : Prop := s.listening.map Int.ofNat = some fd

instance (s : Lifecycle) (fd : Int) : Decidable (s.Listens fd) :=
  inferInstanceAs (Decidable (_ = _))

/-- The owner and the thread take the next access to shared state, and system calls return. A call
of `accept4` looks its number up first, and then it waits until something comes from outside or the
socket wakes it. -/
inductive Action where
  | start
  | stop
  | proceed
  | socket (fd : Option Nat)
  | setUp (succeeds : Bool)
  | test
  | call
  | lookUp
  | accept (result : Except Errno Nat)
  | wake
  | handled
  | closeClient
  | leave

/-- The calls of `shutdown` and `close` read the member again, and `shutdown` has no effect before
`listen`. -/
def proceed (s : Lifecycle) : Option Lifecycle :=
  match s.owner with
  | .clearing => some { s with running := false, owner := .checking }
  | .checking => some { s with owner := if 0 ≤ s.listenFd then .shuttingDown else .joining }
  | .shuttingDown => some { s with shut := s.shut || s.prepared, owner := .closing }
  | .closing => some { s with
      listening := if s.Listens s.listenFd then none else s.listening
      history := s.history ++ [.closed s.listenFd]
      owner := .resetting }
  | .resetting => some { s with listenFd := -1, owner := .joining }
  | .joining =>
      if s.thread = .absent ∨ s.thread = .finished then
        some { s with owner := .idle, stops := s.stops + 1 }
      else none
  | _ => none

/-- A client, a signal or a lack of resources ends the wait. The kernel returns no open descriptor,
and a socket that was shut down accepts no client. -/
def accept (result : Except Errno Nat) (s : Lifecycle) : Option Lifecycle :=
  match result with
  | .ok clientFd =>
      if s.shut = false ∧ isOpenAfter clientFd s.history ≠ some true then
        some { s with
          thread := .handling clientFd
          history := s.history ++ [.accepted clientFd]
          late := if s.running then s.late else s.late + 1 }
      else none
  | .error .eintr => some { s with thread := .testing }
  | .error _ => if s.shut = false then some { s with thread := .leaving } else none

/-- The server is started at most once, and it may be stopped any number of times. -/
def step (s : Lifecycle) : Action → Option Lifecycle
  | .start =>
      if s.owner = .constructed then
        some { s with running := true, owner := .idle, thread := .creating }
      else none
  | .stop =>
      if s.owner = .constructed ∨ s.owner = .idle then some { s with owner := .clearing } else none
  | .proceed => s.proceed
  | .socket fd =>
      if s.thread = .creating then
        match fd with
        | none => some { s with listenFd := -1, thread := .leaving }
        | some fd =>
            if isOpenAfter fd s.history ≠ some true then
              some { s with
                listenFd := fd
                listening := some fd
                history := s.history ++ [.accepted fd]
                thread := .settingUp }
            else none
      else none
  | .setUp succeeds =>
      if s.thread = .settingUp then
        if succeeds then
          if s.Listens s.listenFd then some { s with prepared := true, thread := .testing }
          else none
        else some { s with thread := .leaving }
      else none
  | .test =>
      if s.thread = .testing then
        some { s with thread := if s.running then .calling else .leaving }
      else none
  | .call =>
      if s.thread = .calling then some { s with thread := .accepting s.listenFd } else none
  | .lookUp =>
      match s.thread with
      | .accepting fd => some { s with thread := if s.Listens fd then .waiting else .leaving }
      | _ => none
  | .accept result => if s.thread = .waiting then s.accept result else none
  | .wake =>
      if s.thread = .waiting ∧ s.shut = true then some { s with thread := .leaving } else none
  | .handled =>
      match s.thread with
      | .handling clientFd => some { s with thread := .closing clientFd }
      | _ => none
  | .closeClient =>
      match s.thread with
      | .closing clientFd => some { s with
          history := s.history ++ [.closed clientFd]
          thread := .testing }
      | _ => none
  | .leave =>
      if s.thread = .leaving then some { s with running := false, thread := .finished } else none

/-- These are the possible effects of one step, each with what held before it. -/
inductive Moved (s : Lifecycle) : Lifecycle → Prop where
  | started (fresh : s.owner = .constructed) :
      Moved s { s with running := true, owner := .idle, thread := .creating }
  | stopped (free : s.owner = .constructed ∨ s.owner = .idle) :
      Moved s { s with owner := .clearing }
  | cleared (due : s.owner = .clearing) : Moved s { s with running := false, owner := .checking }
  | found (due : s.owner = .checking) (valid : 0 ≤ s.listenFd) :
      Moved s { s with owner := .shuttingDown }
  | missed (due : s.owner = .checking) (invalid : ¬ 0 ≤ s.listenFd) :
      Moved s { s with owner := .joining }
  | shutDown (due : s.owner = .shuttingDown) :
      Moved s { s with shut := s.shut || s.prepared, owner := .closing }
  | closed (due : s.owner = .closing) : Moved s { s with
      listening := if s.Listens s.listenFd then none else s.listening
      history := s.history ++ [.closed s.listenFd]
      owner := .resetting }
  | reset (due : s.owner = .resetting) : Moved s { s with listenFd := -1, owner := .joining }
  | joined (due : s.owner = .joining) (ended : s.thread = .absent ∨ s.thread = .finished) :
      Moved s { s with owner := .idle, stops := s.stops + 1 }
  | created (fd : Nat) (due : s.thread = .creating)
      (unused : isOpenAfter fd s.history ≠ some true) : Moved s { s with
        listenFd := fd
        listening := some fd
        history := s.history ++ [.accepted fd]
        thread := .settingUp }
  | failed (due : s.thread = .creating) : Moved s { s with listenFd := -1, thread := .leaving }
  | prepared (due : s.thread = .settingUp) : Moved s { s with prepared := true, thread := .testing }
  | entered (due : s.thread = .testing) (running : s.running = true) :
      Moved s { s with thread := .calling }
  | called (due : s.thread = .calling) : Moved s { s with thread := .accepting s.listenFd }
  | waits (fd : Int) (due : s.thread = .accepting fd) (listens : s.Listens fd) :
      Moved s { s with thread := .waiting }
  | accepted (clientFd : Nat) (due : s.thread = .waiting) (open_ : s.shut = false)
      (unused : isOpenAfter clientFd s.history ≠ some true) :
      Moved s { s with
        thread := .handling clientFd
        history := s.history ++ [.accepted clientFd]
        late := if s.running then s.late else s.late + 1 }
  | interrupted (due : s.thread = .waiting) : Moved s { s with thread := .testing }
  | handled (clientFd : Nat) (due : s.thread = .handling clientFd) :
      Moved s { s with thread := .closing clientFd }
  | released (clientFd : Nat) (due : s.thread = .closing clientFd) : Moved s { s with
      history := s.history ++ [.closed clientFd]
      thread := .testing }
  | ending (due : s.thread = .settingUp ∨ (s.thread = .testing ∧ s.running = false) ∨
      (∃ fd, s.thread = .accepting fd) ∨ s.thread = .waiting) :
      Moved s { s with thread := .leaving }
  | left (due : s.thread = .leaving) : Moved s { s with running := false, thread := .finished }

/-- Each step of the thread outside a call is one of the listed ones. -/
theorem proceed_moved {s next : Lifecycle} (taken : s.proceed = some next) : Moved s next := by
  unfold proceed at taken
  split at taken
  case h_1 due => exact Option.some.inj taken ▸ .cleared due
  case h_2 due =>
    rw [← Option.some.inj taken]
    by_cases valid : 0 ≤ s.listenFd
    · rw [if_pos valid]
      exact .found due valid
    · rw [if_neg valid]
      exact .missed due valid
  case h_3 due => exact Option.some.inj taken ▸ .shutDown due
  case h_4 due => exact Option.some.inj taken ▸ .closed due
  case h_5 due => exact Option.some.inj taken ▸ .reset due
  case h_6 due =>
    simp only [Option.ite_none_right_eq_some, Option.some.injEq] at taken
    obtain ⟨ended, rfl⟩ := taken
    exact .joined due ended
  case h_7 => cases taken

/-- Each end of a call of `accept4` is one of the listed ones. -/
theorem accept_moved {s next : Lifecycle} {result : Except Errno Nat}
    (due : s.thread = .waiting) (taken : s.accept result = some next) : Moved s next := by
  unfold accept at taken
  split at taken
  case h_1 clientFd =>
    simp only [Option.ite_none_right_eq_some, Option.some.injEq] at taken
    obtain ⟨⟨open_, unused⟩, rfl⟩ := taken
    exact .accepted clientFd due open_ unused
  case h_2 => exact Option.some.inj taken ▸ .interrupted due
  case h_3 =>
    simp only [Option.ite_none_right_eq_some, Option.some.injEq] at taken
    obtain ⟨_, rfl⟩ := taken
    exact .ending (.inr (.inr (.inr due)))

/-- Every step has one of the effects. -/
theorem step_moved {s next : Lifecycle} {action : Action} (taken : step s action = some next) :
    Moved s next := by
  cases action with
  | start =>
      simp only [step, Option.ite_none_right_eq_some, Option.some.injEq] at taken
      obtain ⟨fresh, rfl⟩ := taken
      exact .started fresh
  | stop =>
      simp only [step, Option.ite_none_right_eq_some, Option.some.injEq] at taken
      obtain ⟨free, rfl⟩ := taken
      exact .stopped free
  | proceed => exact proceed_moved taken
  | socket fd =>
      simp only [step, Option.ite_none_right_eq_some] at taken
      obtain ⟨due, taken⟩ := taken
      cases fd with
      | none => exact Option.some.inj taken ▸ .failed due
      | some fd =>
          simp only [Option.ite_none_right_eq_some, Option.some.injEq] at taken
          obtain ⟨unused, rfl⟩ := taken
          exact .created fd due unused
  | setUp succeeds =>
      simp only [step, Option.ite_none_right_eq_some] at taken
      obtain ⟨due, taken⟩ := taken
      cases succeeds with
      | false => exact Option.some.inj taken ▸ .ending (.inl due)
      | true =>
          simp only [if_true, Option.ite_none_right_eq_some, Option.some.injEq] at taken
          obtain ⟨_, rfl⟩ := taken
          exact .prepared due
  | test =>
      simp only [step, Option.ite_none_right_eq_some, Option.some.injEq] at taken
      obtain ⟨due, rfl⟩ := taken
      split
      · exact .entered due ‹_›
      · exact .ending (.inr (.inl ⟨due, Bool.eq_false_iff.mpr ‹_›⟩))
  | call =>
      simp only [step, Option.ite_none_right_eq_some, Option.some.injEq] at taken
      obtain ⟨due, rfl⟩ := taken
      exact .called due
  | lookUp =>
      simp only [step] at taken
      split at taken
      · rename_i fd due
        rw [← Option.some.inj taken]
        by_cases listens : s.Listens fd
        · rw [if_pos listens]
          exact .waits fd due listens
        · rw [if_neg listens]
          exact .ending (.inr (.inr (.inl ⟨fd, due⟩)))
      · cases taken
  | accept result =>
      simp only [step, Option.ite_none_right_eq_some] at taken
      exact accept_moved taken.1 taken.2
  | wake =>
      simp only [step, Option.ite_none_right_eq_some, Option.some.injEq] at taken
      obtain ⟨⟨due, _⟩, rfl⟩ := taken
      exact .ending (.inr (.inr (.inr due)))
  | handled =>
      simp only [step] at taken
      split at taken
      · exact Option.some.inj taken ▸ .handled _ ‹_›
      · cases taken
  | closeClient =>
      simp only [step] at taken
      split at taken
      · exact Option.some.inj taken ▸ .released _ ‹_›
      · cases taken
  | leave =>
      simp only [step, Option.ite_none_right_eq_some, Option.some.injEq] at taken
      obtain ⟨due, rfl⟩ := taken
      exact .left due

end Lifecycle
end LMonitor.HttpServer

import LMonitor.Network.TcpConnectionLaw
import LMonitor.Reactor.Channel

namespace LMonitor
open Library FrameCodec

namespace TcpConnection
variable {this : Address} {fd : Int} {s middle after : ServerState}

/-- A step changes at most the pending bytes of the object and what the server observed. -/
structure Untouched (this : Address) (s after : ServerState) : Prop where
  connections : after.connections = s.connections
  closes : after.closes = s.closes
  freed : after.freed = s.freed
  object : ∃ pending, after.heap this = { s.heap this with pendingData := pending }
  others : ∀ other, other ≠ this → after.heap other = s.heap other

/-- The table owns the live object under its descriptor, and no close request has run. -/
structure Held (this : Address) (fd : Int) (s : ServerState) : Prop where
  owned : s.connections.lookup fd = some this
  alive : s.freed this = false
  descriptor : (s.heap this).fd = fd
  valid : 0 ≤ fd
  installed : (s.heap this).closeCallback = true
  serving : (s.heap this).closing = false

/-- The step erased the entry, closed its descriptor once and freed the object. -/
structure Erased (this : Address) (fd : Int) (s after : ServerState) : Prop where
  connections : after.connections = s.connections.erase fd
  closes : after.closes = s.closes ++ [fd]
  freed : after.freed = Function.update s.freed this true
  others : ∀ other, other ≠ this → after.heap other = s.heap other

/-- The object asked for its erasure itself. -/
structure Closed (this : Address) (fd : Int) (s after : ServerState) : Prop
    extends Erased this fd s after where
  closing : (after.heap this).closing = true

/-- A handler leaves a closing object alone and closes a held object at most once. -/
structure Effect (this : Address) (s after : ServerState) : Prop where
  closing : (s.heap this).closing = true → Untouched this s after
  held : ∀ fd, Held this fd s → Untouched this s after ∨ Closed this fd s after

theorem Untouched.refl (this : Address) (s : ServerState) : Untouched this s s :=
  ⟨rfl, rfl, rfl, ⟨_, rfl⟩, fun _ _ => rfl⟩

theorem Untouched.trans (first : Untouched this s middle) (second : Untouched this middle after) :
    Untouched this s after := by
  obtain ⟨_, before⟩ := first.object
  obtain ⟨pending, object⟩ := second.object
  constructor
  · rw [second.connections, first.connections]
  · rw [second.closes, first.closes]
  · rw [second.freed, first.freed]
  · exact ⟨pending, by rw [object, before]⟩
  · intro other different
    rw [second.others other different, first.others other different]

theorem Untouched.closing (step : Untouched this s after) :
    (after.heap this).closing = (s.heap this).closing := by
  obtain ⟨_, object⟩ := step.object
  rw [object]

/-- An object that is left alone stays with its owner. -/
theorem Untouched.held (step : Untouched this s after) (held : Held this fd s) :
    Held this fd after := by
  obtain ⟨_, object⟩ := step.object
  constructor
  · rw [step.connections, held.owned]
  · rw [step.freed, held.alive]
  · rw [object, held.descriptor]
  · exact held.valid
  · rw [object, held.installed]
  · rw [object, held.serving]

/-- A step before a close is part of the close. -/
theorem Untouched.closed (first : Untouched this s middle) (second : Closed this fd middle after) :
    Closed this fd s after := by
  refine ⟨⟨?_, ?_, ?_, ?_⟩, second.closing⟩
  · rw [second.connections, first.connections]
  · rw [second.closes, first.closes]
  · rw [second.freed, first.freed]
  · intro other different
    rw [second.others other different, first.others other different]

/-- Nothing more happens to an object that was closed. -/
theorem Closed.untouched (first : Closed this fd s middle) (second : Untouched this middle after) :
    Closed this fd s after := by
  refine ⟨⟨?_, ?_, ?_, ?_⟩, second.closing.trans first.closing⟩
  · rw [second.connections, first.connections]
  · rw [second.closes, first.closes]
  · rw [second.freed, first.freed]
  · intro other different
    rw [second.others other different, first.others other different]

/-- A step that leaves an owner and its entry alone keeps it held. -/
theorem Held.transfer {this : Address} {fd : Int} {s after : ServerState} (held : Held this fd s)
    (owned : after.connections.lookup fd = some this) (freed : after.freed this = s.freed this)
    (object : after.heap this = s.heap this) : Held this fd after := by
  constructor
  · exact owned
  · rw [freed, held.alive]
  · rw [object, held.descriptor]
  · exact held.valid
  · rw [object, held.installed]
  · rw [object, held.serving]

theorem Untouched.effect (step : Untouched this s after) : Effect this s after :=
  ⟨fun _ => step, fun _ _ => .inl step⟩

theorem Effect.trans (first : Effect this s middle) (second : Effect this middle after) :
    Effect this s after := by
  constructor
  · intro closing
    have step := first.closing closing
    exact step.trans (second.closing (by rw [step.closing, closing]))
  · intro fd held
    rcases first.held fd held with step | closed
    · rcases second.held fd (step.held held) with next | closed
      · exact .inl (step.trans next)
      · exact .inr (step.closed closed)
    · exact .inr (closed.untouched (second.closing closed.closing))

/-- A use of memory changes no object. -/
theorem use_untouched (this : Address) (action : Use) (s : ServerState) :
    Untouched this s (s.use this action) := by
  constructor
  · simp
  · simp
  · simp
  · exact ⟨(s.heap this).pendingData, by simp⟩
  · simp

/-- A change of the pending bytes keeps the ownership. -/
theorem write_untouched (this : Address) (pending : TcpConnection → Bytes) (s : ServerState) :
    Untouched this s (s.write this .pendingData fun connection =>
      { connection with pendingData := pending connection }) := by
  constructor
  · simp [ServerState.write]
  · simp [ServerState.write, ServerState.modify]
  · simp [ServerState.write]
  · exact ⟨pending (s.heap this), by simp⟩
  · intro other different
    simp [ServerState.write, ServerState.modify, different]

/-- A delivery keeps the ownership. -/
theorem deliver_untouched (this : Address) (message : Bytes) (s : ServerState) :
    Untouched this s (deliver this message s) := by
  have looked := use_untouched this (.read .messageCallback) s
  simp only [deliver]
  split
  · have named := looked.trans (use_untouched this (.read .clientName) _)
    exact ⟨named.connections, named.closes, named.freed, named.object, named.others⟩
  · exact looked

/-- The destruction of a live object closes its descriptor. -/
theorem destroy_eq (alive : s.freed this = false) (valid : 0 ≤ (s.heap this).fd) :
    destroy this s = { s with
      heap := Function.update s.heap this { s.heap this with fd := -1 }
      closes := s.closes ++ [(s.heap this).fd]
      freed := Function.update s.freed this true } := by
  have closed : ({ s with closes := s.closes ++ [(s.heap this).fd] } : ServerState).freed this =
      false := alive
  simp only [destroy, s.use_alive this _ alive, if_pos valid,
    ServerState.write_alive this _ _ _ closed]
  rfl

/-- The server erases a held object from its table. -/
theorem Held.erased (held : Held this fd s) : Erased this fd s (closeCallbackOfServer fd s) := by
  have valid : 0 ≤ (s.heap this).fd := by rw [held.descriptor]; exact held.valid
  rw [closeCallbackOfServer, held.owned]
  simp only [destroy_eq held.alive valid, held.descriptor]
  refine ⟨rfl, rfl, rfl, ?_⟩
  intro other different
  simp [different]

/-- A request to close leaves the object alone or closes it. -/
theorem requestClose_effect (this : Address) (s : ServerState) :
    Effect this s (requestClose this s) := by
  constructor
  · intro closing
    have stops : requestClose this s = s.use this (.read .closing) := by
      simp [requestClose, closing]
    rw [stops]
    exact use_untouched this (.read .closing) s
  · intro fd held
    let marked := s.modify this fun connection => { connection with closing := true }
    have alive : marked.freed this = false := held.alive
    have steps : requestClose this s = closeCallbackOfServer fd marked := by
      simp [requestClose, s.use_alive this _ held.alive, s.write_alive this _ _ held.alive,
        marked, ServerState.use_alive this _ _ alive, held.serving, held.installed, held.descriptor]
    have owned : marked.connections.lookup fd = some this := held.owned
    have descriptor : (marked.heap this).fd = fd := by simp [marked, held.descriptor]
    have valid : 0 ≤ (marked.heap this).fd := by rw [descriptor]; exact held.valid
    rw [steps, closeCallbackOfServer, owned]
    simp only [destroy_eq alive valid, descriptor]
    refine .inr ⟨⟨rfl, rfl, rfl, ?_⟩, ?_⟩
    · intro other different
      simp [marked, ServerState.modify, different]
    · simp [marked]

theorem process_effect (this : Address) (s : ServerState) :
    Effect this s (processPendingData this s) := by
  generalize bytes : (s.heap this).pendingData = buffer
  induction buffer using Decoder.drain.induct decoder generalizing s with
  | case1 buffer decision =>
      rw [process_wait (bytes.symm ▸ decision)]
      exact (use_untouched this (.read .pendingData) s).effect
  | case2 buffer decision =>
      rw [process_reject (bytes.symm ▸ decision)]
      have looked := (use_untouched this (.read .pendingData) s).trans
        (use_untouched this (.read .clientName) _)
      exact looked.effect.trans (requestClose_effect this _)
  | case3 buffer body rest decision ih =>
      rw [process_item (bytes.symm ▸ decision)]
      have stored := (use_untouched this (.read .pendingData) s).trans
        (write_untouched this (fun _ => rest) _)
      have passed := stored.trans (deliver_untouched this body _)
      exact passed.effect.trans (ih (delivered this body rest s) (by simp [delivered]))

theorem receiveChunk_effect (this : Address) (chunk : Bytes) (s : ServerState) :
    Effect this s (receiveChunk this chunk s) :=
  (write_untouched this (fun connection => connection.pendingData ++ chunk) s).effect.trans
    (process_effect this _)

theorem readLoop_effect (this : Address) (results : List RecvResult) (s : ServerState) :
    Effect this s (readLoop this results s) := by
  have asked (s : ServerState) : Effect this s ((s.use this (.read .fd)).use this .recv) :=
    ((use_untouched this (.read .fd) s).trans (use_untouched this .recv _)).effect
  induction results generalizing s with
  | nil => exact asked s
  | cons result results ih =>
      match result with
      | .received [] => exact (asked s).trans (requestClose_effect this _)
      | .received (byte :: bytes) =>
          exact ((asked s).trans (receiveChunk_effect this (byte :: bytes) _)).trans (ih _)
      | .failed .eintr => exact (asked s).trans (ih _)
      | .failed .eagain => exact asked s
      | .failed .other =>
          have logged := (use_untouched this (.read .clientName)
            ((s.use this (.read .fd)).use this .recv)).trans (use_untouched this (.read .fd) _)
          exact ((asked s).trans logged.effect).trans (requestClose_effect this _)

theorem handleRead_effect (this : Address) (results : List RecvResult) (s : ServerState) :
    Effect this s (handleRead this results s) := by
  have looked := (use_untouched this (.read .closing) s).effect
  simp only [handleRead]
  split
  · exact looked
  · exact looked.trans (readLoop_effect this results _)

theorem handleError_effect (this : Address) (s : ServerState) :
    Effect this s (handleError this s) := by
  have looked := use_untouched this (.read .closing) s
  simp only [handleError]
  split
  · exact looked.effect
  · have logged := (looked.trans (use_untouched this (.read .clientName) _)).trans
      (use_untouched this (.read .fd) _)
    exact logged.effect.trans (requestClose_effect this _)

end TcpConnection

namespace Channel
open TcpConnection

theorem fire_effect (this : Address) (member : Member) (callback : Channel → Option Handler)
    (results : List RecvResult) (s : ServerState) :
    Effect this s (fire this member callback results s) := by
  have looked := (use_untouched this (.read member) s).effect
  simp only [fire]
  split
  · rename_i handler _
    cases handler with
    | handleRead => exact looked.trans (handleRead_effect this results _)
    | handleClose => exact looked.trans (requestClose_effect this _)
    | handleError => exact looked.trans (handleError_effect this _)
  · exact looked

/-- A dispatch closes the descriptor of a held connection at most once. -/
theorem handleEvent_effect (this : Address) (revents : UInt32) (results : List RecvResult)
    (s : ServerState) : Effect this s (handleEvent this revents results s) := by
  have guarded (bit : Prop) [Decidable bit] (member : Member)
      (callback : Channel → Option Handler) (s : ServerState) :
      Effect this s (if bit then fire this member callback results s else s) := by
    split
    · exact fire_effect this member callback results s
    · exact (Untouched.refl this s).effect
  exact ((guarded _ .errorCallback Channel.errorCallback s).trans
    (guarded _ .readCallback Channel.readCallback _)).trans
    (guarded _ .channelCloseCallback Channel.closeCallback _)

end Channel
end LMonitor

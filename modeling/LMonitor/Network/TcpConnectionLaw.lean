import LMonitor.Network.TcpConnection

namespace LMonitor.TcpConnection
open Library FrameCodec

/-- The destructor changes no member of any object except a descriptor. -/
theorem destroy_heap (owned this : Address) (s : ServerState) :
    ∃ fd, (destroy owned s).heap this = { s.heap this with fd := fd } := by
  simp only [destroy, ServerState.use_heap, ServerState.use_closes]
  split
  · by_cases same : this = owned
    · subst same
      exact ⟨-1, by simp⟩
    · exact ⟨(s.heap this).fd, by simp [ServerState.write, ServerState.modify, same]⟩
  · exact ⟨(s.heap this).fd, by simp⟩

@[simp] theorem destroy_delivered (owned : Address) (s : ServerState) :
    (destroy owned s).delivered = s.delivered := by
  simp only [destroy, ServerState.use_heap]
  split <;> simp

/-- The close callback changes the descriptor of the object at most. -/
theorem closeCallbackOfServer_heap (fd : Int) (this : Address) (s : ServerState) :
    ∃ final, (closeCallbackOfServer fd s).heap this = { s.heap this with fd := final } := by
  unfold closeCallbackOfServer
  split
  · exact ⟨(s.heap this).fd, rfl⟩
  · exact destroy_heap _ this s

@[simp] theorem closeCallbackOfServer_delivered (fd : Int) (s : ServerState) :
    (closeCallbackOfServer fd s).delivered = s.delivered := by
  unfold closeCallbackOfServer
  split <;> simp

/-- A close request leaves every member of the object except the flag and the descriptor. -/
theorem requestClose_heap (this : Address) (s : ServerState) :
    ∃ fd, (requestClose this s).heap this = { s.heap this with fd := fd, closing := true } := by
  simp only [requestClose, ServerState.use_heap, ServerState.write_heap]
  split
  · rename_i closing
    exact ⟨(s.heap this).fd, by simp [← closing]⟩
  · split
    · obtain ⟨fd, final⟩ := closeCallbackOfServer_heap (s.heap this).fd this
        (((s.use this (.read .closing)).write this .closing fun connection =>
          { connection with closing := true }).use this (.read .closeCallback) |>.use this (.read .fd))
      exact ⟨fd, by simpa using final⟩
    · exact ⟨(s.heap this).fd, by simp⟩

@[simp] theorem requestClose_delivered (this : Address) (s : ServerState) :
    (requestClose this s).delivered = s.delivered := by
  simp only [requestClose]
  split
  · simp
  · split <;> simp

/-- The message callback records the message exactly when it is installed. -/
theorem deliver_delivered (this : Address) (message : Bytes) (s : ServerState) :
    (deliver this message s).delivered = s.delivered ++
      if (s.heap this).messageCallback then [((s.heap this).clientName, message)] else [] := by
  simp only [deliver, ServerState.use_heap]
  split <;> simp

/-- An incomplete frame stays pending. -/
theorem process_wait {this : Address} {s : ServerState}
    (decision : verdict (s.heap this).pendingData = .wait) :
    processPendingData this s = s.use this (.read .pendingData) := by
  apply (processLoop this).run_leave
  simp only [processLoop, processPass, ServerState.use_heap]
  simp only [verdict] at decision
  split at decision <;> simp_all

/-- An illegal frame closes the connection. -/
theorem process_reject {this : Address} {s : ServerState}
    (decision : verdict (s.heap this).pendingData = .reject) :
    processPendingData this s =
      requestClose this ((s.use this (.read .pendingData)).use this (.read .clientName)) := by
  apply (processLoop this).run_leave
  simp only [processLoop, processPass, ServerState.use_heap]
  simp only [verdict] at decision
  split at decision <;> simp_all

/-- This is the state after one decoded frame. -/
def delivered (this : Address) (body rest : Bytes) (s : ServerState) : ServerState :=
  deliver this body ((s.use this (.read .pendingData)).write this .pendingData fun connection =>
    { connection with pendingData := rest })

/-- A complete frame is delivered before the rest. -/
theorem process_item {this : Address} {s : ServerState} {body rest : Bytes}
    (decision : verdict (s.heap this).pendingData = .item body rest) :
    processPendingData this s = processPendingData this (delivered this body rest s) := by
  apply (processLoop this).run_again
  simp only [processLoop, processPass, ServerState.use_heap]
  simp only [verdict] at decision
  split at decision <;> simp_all [delivered]

/-- The object has drained the given bytes since the first state. -/
structure HasDrained (this : Address) (first s : ServerState) (drained : Drained UInt8 Bytes) :
    Prop where
  heap : ∃ fd, s.heap this = { first.heap this with
    fd := fd
    pendingData := drained.rest
    closing := (first.heap this).closing || drained.rejected }
  messages : s.delivered = first.delivered ++
    if (first.heap this).messageCallback then
      drained.items.map fun message => ((first.heap this).clientName, message)
    else []

/-- The processing loop drains the pending bytes. -/
theorem process_drains (this : Address) (s : ServerState) :
    HasDrained this s (processPendingData this s) (decoder.drain (s.heap this).pendingData) := by
  generalize bytes : (s.heap this).pendingData = buffer
  induction buffer using Decoder.drain.induct decoder generalizing s with
  | case1 buffer decision =>
      rw [decoder.drain_wait decision, process_wait (bytes.symm ▸ decision)]
      exact ⟨⟨(s.heap this).fd, by simp [← bytes]⟩, by simp⟩
  | case2 buffer decision =>
      rw [decoder.drain_reject decision, process_reject (bytes.symm ▸ decision)]
      obtain ⟨fd, closed⟩ := requestClose_heap this
        ((s.use this (.read .pendingData)).use this (.read .clientName))
      exact ⟨⟨fd, by simpa [← bytes] using closed⟩, by simp⟩
  | case3 buffer body rest decision ih =>
      rw [decoder.drain_item decision, process_item (bytes.symm ▸ decision)]
      have object : (delivered this body rest s).heap this =
          { s.heap this with pendingData := rest } := by
        simp [delivered]
      obtain ⟨⟨fd, final⟩, messages⟩ := ih (delivered this body rest s) (by rw [object])
      refine ⟨⟨fd, by rw [final, object]⟩, ?_⟩
      rw [messages, object, delivered, deliver_delivered]
      simp only [ServerState.write_heap, ServerState.write_delivered, ServerState.use_delivered,
        ServerState.use_heap, List.append_assoc]
      split <;> simp

/-- The received chunks reach the object one after another. -/
def receive (this : Address) (chunks : List Bytes) (s : ServerState) : ServerState :=
  chunks.foldl (fun s chunk => receiveChunk this chunk s) s

/-- One more chunk extends the drained bytes. -/
theorem receiveChunk_drains {this : Address} {first s : ServerState} {bytes : Bytes}
    (before : HasDrained this first s (decoder.drain bytes)) (chunk : Bytes) :
    HasDrained this first (receiveChunk this chunk s) (decoder.drain (bytes ++ chunk)) := by
  obtain ⟨⟨fd, object⟩, messages⟩ := before
  obtain ⟨⟨final, after⟩, more⟩ := process_drains this (appendPending this chunk s)
  simp only [appendPending, ServerState.write_heap, ServerState.write_delivered, object]
    at after more
  rw [decoder.drain_append, receiveChunk, appendPending]
  refine ⟨⟨final, ?_⟩, ?_⟩
  · rw [after]
    have sticky : (decoder.drain bytes).rejected = true →
        (decoder.drain ((decoder.drain bytes).rest ++ chunk)).rejected = true := by
      intro rejected
      have later := decoder.drain_rejected_append bytes chunk rejected
      rw [decoder.drain_append] at later
      exact congrArg Drained.rejected later
    cases rejected : (decoder.drain bytes).rejected <;> simp_all [Drained.andThen]
  · rw [more, messages]
    simp only [Drained.andThen, List.map_append, List.append_assoc]
    split <;> simp

/-- The chunks of a stream drain as the whole stream does. -/
theorem receive_drains (this : Address) (first : ServerState) (chunks : List Bytes)
    (empty : (first.heap this).pendingData = []) :
    HasDrained this first (receive this chunks first) (decoder.drain chunks.flatten) := by
  have start : HasDrained this first first (decoder.drain []) := by
    rw [decoder.drain_wait (verdict_wait_iff.mpr (.inl (by simp [headerSize])))]
    exact ⟨⟨(first.heap this).fd, by simp [← empty]⟩, by simp⟩
  have extend (state : ServerState) (bytes : Bytes) (rest : List Bytes)
      (before : HasDrained this first state (decoder.drain bytes)) :
      HasDrained this first (receive this rest state) (decoder.drain (bytes ++ rest.flatten)) := by
    induction rest generalizing state bytes with
    | nil => simpa [receive] using before
    | cons chunk rest ih =>
        rw [List.flatten_cons, ← List.append_assoc]
        exact ih _ _ (receiveChunk_drains before chunk)
  simpa using extend first [] chunks start

end LMonitor.TcpConnection

-- SUMMARY: The Agent issues at most one terminal frame for a stream and then stops serving it.
import Hooshix.Agent.StreamServing
import Mathlib.Data.List.Nodup

/-! # One terminal frame

All but one of the terminal frames of a stream pass through its `sync.Once`, and who runs the `Once`
goes on to take the stream out of the table. The `stream_error` of a refused `stream_open` belongs to
an ID that never enters the table. What is left is the `stream_error` that answers a half-close of a
stream that is not TCP: it goes out beside the `Once`, and the stream stays.
-/

namespace Hooshix.Agent

open Contract ServedStream

/-- The server is inside the terminal `Once` or on its way out of the table. -/
def Server.holds : Server → Bool
  | .sendingTerminal _ | .removing | .releasing => true
  | _ => false

attribute [local simp] Server.holds ServedStream.handle step

namespace ServedStream

/-- The `Once` has at most one user, which issues at most one frame and then removes the stream. -/
structure OnceSound (st : ServedStream) : Prop where
  unspent : st.terminal ≠ .spent → st.issued = []
  once : st.issued.length ≤ 1
  server : ∀ frame, st.server = .sendingTerminal frame → st.terminal = .running
  handler : ∀ message, st.handler = .sendingTerminal message → st.terminal = .running
  oneUser : ∀ frame message, st.server = .sendingTerminal frame → st.handler ≠ .sendingTerminal message
  spent : st.terminal = .spent →
    st.registered = false ∨ st.handler = .removing ∨ st.server = .removing
  removed : st.registered = false →
    st.cancelled = true ∨ st.handler = .releasing ∨ st.server = .releasing

theorem OnceSound.new {id : Nat} {mode : StreamMode} {server : Server}
    (hserver : server = .unstarted ∨ server = .dialing) : (new id mode server).OnceSound := by
  rcases hserver with rfl | rfl
  all_goals
    constructor
    all_goals simp [ServedStream.new]

/-- The step leaves the `Once`, the table and the session loop alone, and the server is not inside. -/
inductive Beside (st : ServedStream) : ServedStream → Prop
  | intro {server conn writer lost writeFailed lastReadErr cancelled}
    (hcancelled : st.cancelled = true → cancelled = true)
    (hserver : server = st.server ∨
      (st.server.holds = false ∧ ∀ frame, server ≠ .sendingTerminal frame)) :
    Beside st { st with server, conn, writer, lost, writeFailed, lastReadErr, cancelled }

section Steps

variable {st st' : ServedStream} {ending : Bool} {l : StreamLabel} {handler : Handler}
  {result : SendResult} {server : Server}

theorem OnceSound.beside (hs : st.OnceSound) (h : st.Beside st') : st'.OnceSound := by
  obtain ⟨hcancelled, rfl | ⟨hholds, hnot⟩⟩ := h
  · exact { hs with removed := fun h => (hs.removed h).imp_left hcancelled }
  · -- the server was not what a spent `Once` or a removed stream waits for
    exact { hs with
      server := fun frame h => absurd h (hnot frame)
      oneUser := fun frame _ h => absurd h (hnot frame)
      spent := fun h => (hs.spent h).imp_right fun h => h.imp_right fun h => by simp [h] at hholds
      removed := fun h => (hs.removed h).imp hcancelled fun h => h.imp_right fun h => by
        simp [h] at hholds }

/-- The server moves between places outside the `Once`. -/
theorem beside_server {conn : LocalConn} {writer : LocalWrites} {lost : Bool}
    {lastReadErr : Option GoError} (hholds : st.server.holds = false)
    (hnot : ∀ frame, server ≠ .sendingTerminal frame) :
    st.Beside { st with server, conn, writer, lost, lastReadErr } :=
  ⟨fun h => h, .inr ⟨hholds, hnot⟩⟩

/-- A server that does not release the stream is not what a removed stream waits for. -/
theorem OnceSound.removed_server (hs : st.OnceSound) (hserver : st.server ≠ .releasing)
    (hremoved : st.registered = false) :
    st.cancelled = true ∨ st.handler = .releasing ∨ server = .releasing := by
  rcases hs.removed hremoved with hcancelled | hhandler | hreleasing
  · exact .inl hcancelled
  · exact .inr (.inl hhandler)
  · exact absurd hreleasing hserver

theorem OnceSound.removed_handler (hs : st.OnceSound) (hhandler : st.handler ≠ .releasing)
    (hremoved : st.registered = false) :
    st.cancelled = true ∨ handler = .releasing ∨ st.server = .releasing := by
  rcases hs.removed hremoved with hcancelled | hreleasing | hserver
  · exact .inl hcancelled
  · exact absurd hreleasing hhandler
  · exact .inr (.inr hserver)

theorem OnceSound.spent_handler (hs : st.OnceSound) (hhandler : st.handler ≠ .removing)
    (hspent : st.terminal = .spent) :
    st.registered = false ∨ handler = .removing ∨ st.server = .removing := by
  rcases hs.spent hspent with hremoved | hremoving | hserver
  · exact .inl hremoved
  · exact absurd hremoving hhandler
  · exact .inr (.inr hserver)

theorem afterServe_not_sending {mode : StreamMode} {serveEnd : ServeEnd} {writeErr : Option GoError}
    (frame : TerminalFrame) : afterServe mode serveEnd writeErr ≠ .sendingTerminal frame := by
  unfold afterServe
  split
  · simp
  · cases mode with
    | udp => simp
    | http => simp
    | tcp => simp

theorem afterRead_not_sending {readErr : Option GoError} (frame : TerminalFrame) :
    afterRead readErr ≠ .sendingTerminal frame := by
  cases readErr with
  | none | some err => simp [afterRead]

/-- A server inside the `Once` issues its frame and goes on to remove the stream. -/
theorem OnceSound.serverTerminal {frame : TerminalFrame} (hs : st.OnceSound)
    (hserver : st.server = .sendingTerminal frame) :
    { st.issue frame result with server := .removing }.OnceSound := by
  have hrunning := hs.server frame hserver
  have hnone : st.issued = [] := hs.unspent (by simp [hrunning])
  constructor
  · simp [issue]
  · simp [issue, hnone]
  · simp
  · intro message hmessage
    exact absurd hmessage (hs.oneUser frame message hserver)
  · simp
  · exact fun _ => .inr (.inr rfl)
  · exact hs.removed_server (by simp [hserver])

theorem OnceSound.handlerTerminal {message : StreamErrorMessage}
    (hs : st.OnceSound) (hhandler : st.handler = .sendingTerminal message) :
    { st.issue (.streamError message) result with handler := .removing }.OnceSound := by
  have hrunning := hs.handler message hhandler
  have hnone : st.issued = [] := hs.unspent (by simp [hrunning])
  constructor
  · simp [issue]
  · simp [issue, hnone]
  · intro frame hframe
    exact absurd hhandler (hs.oneUser frame message hframe)
  · simp
  · simp
  · exact fun _ => .inr (.inl rfl)
  · exact hs.removed_handler (by simp [hhandler])

theorem OnceSound.serve (hs : st.OnceSound) (h : st.serve ending = some st') : st'.OnceSound := by
  cases hserver : st.server with
  | checking | leaving _ _ | closing _ =>
    simp only [ServedStream.serve, hserver] at h
    repeat' split at h
    all_goals
      cases h
      refine hs.beside (beside_server (by simp [hserver]) fun frame => ?_)
      try split
      all_goals simp [afterServe_not_sending]
  | cancelling serveEnd =>
    simp only [ServedStream.serve, hserver] at h
    cases h
    exact hs.beside ⟨fun _ => rfl, .inr ⟨by simp [hserver], by simp⟩⟩
  | reporting frame =>
    simp only [ServedStream.serve, hserver] at h
    split at h <;> cases h
    next hfresh =>
      constructor
      · exact fun _ => hs.unspent (by simp [hfresh])
      · exact hs.once
      · exact fun _ _ => rfl
      · exact fun _ _ => rfl
      · -- nobody is inside a fresh `Once`
        intro _ message _ hmessage
        have hrunning := hs.handler message hmessage
        rw [hfresh] at hrunning
        cases hrunning
      · simp
      · exact hs.removed_server (by simp [hserver])
    · exact hs.beside (beside_server (by simp [hserver]) (by simp))
  | removing =>
    simp only [ServedStream.serve, hserver] at h
    split at h <;> cases h
    · exact ⟨hs.unspent, hs.once, by simp, hs.handler, by simp, fun _ => .inl rfl,
        fun _ => .inr (.inr rfl)⟩
    next hregistered =>
      exact ⟨hs.unspent, hs.once, by simp, hs.handler, by simp,
        fun _ => .inl (by simpa using hregistered), hs.removed_server (by simp [hserver])⟩
  | releasing =>
    simp only [ServedStream.serve, hserver] at h
    cases h
    refine ⟨hs.unspent, hs.once, by simp, hs.handler, by simp, ?_, fun _ => .inl rfl⟩
    intro hspent
    rcases hs.spent hspent with hremoved | hhandler | hremoving
    · exact .inl hremoved
    · exact .inr (.inl hhandler)
    · rw [hserver] at hremoving
      cases hremoving
  | _ => simp [ServedStream.serve, hserver] at h

theorem OnceSound.handle (hs : st.OnceSound) (h : st.handle = some st') : st'.OnceSound := by
  -- a `Once` that is not running has no user
  have hunused : st.terminal ≠ .running → ∀ frame, st.server ≠ .sendingTerminal frame :=
    fun hnot frame hframe => hnot (hs.server frame hframe)
  unfold ServedStream.handle at h
  split at h
  next message hhandler =>
    split at h <;> cases h
    next hfresh =>
      refine ⟨fun _ => hs.unspent (by simp [hfresh]), hs.once, fun _ _ => rfl, fun _ _ => rfl, ?_, by simp,
        hs.removed_handler (by simp [hhandler])⟩
      intro frame _ hframe
      exact absurd hframe (hunused (by simp [hfresh]) frame)
    next hspent =>
      exact ⟨hs.unspent, hs.once, hs.server, by simp, by simp, fun _ => .inr (.inl rfl),
        hs.removed_handler (by simp [hhandler])⟩
  next hhandler =>
    have hending : st.terminal ≠ .running →
        { st with terminal := .spent, handler := .removing }.OnceSound := by
      intro hnot
      exact ⟨by simp, hs.once, fun frame hframe => absurd hframe (hunused hnot frame), by simp, by simp,
        fun _ => .inr (.inl rfl), hs.removed_handler (by simp [hhandler])⟩
    split at h <;> cases h
    next hfresh => exact hending (by simp [hfresh])
    next hspent => exact hending (by simp [hspent])
  next hhandler =>
    split at h <;> cases h
    · exact ⟨hs.unspent, hs.once, hs.server, by simp, by simp, fun _ => .inl rfl,
        fun _ => .inr (.inl rfl)⟩
    next hregistered =>
      exact ⟨hs.unspent, hs.once, hs.server, by simp, by simp,
        fun _ => .inl (by simpa using hregistered), hs.removed_handler (by simp [hhandler])⟩
  next hhandler =>
    cases h
    exact ⟨hs.unspent, hs.once, hs.server, by simp, by simp, hs.spent_handler (by simp [hhandler]),
      fun _ => .inl rfl⟩
  next => cases h

/-- What a step does to the `Once`: nothing, or one of the four statements that use it. -/
theorem step_cases (h : st.step ending l = some st') :
    st.Beside st' ∨ st.serve ending = some st' ∨ st.handle = some st' ∨
      (∃ frame result, st.server = .sendingTerminal frame ∧
        st' = { st.issue frame result with server := .removing }) ∨
      (∃ message result, st.handler = .sendingTerminal message ∧
        st' = { st.issue (.streamError message) result with handler := .removing }) := by
  cases l with
  | serve => exact .inr (.inl h)
  | handle => exact .inr (.inr (.inl h))
  | serverTerminal result =>
    simp only [step] at h
    split at h <;> cases h
    next frame hserver => exact .inr (.inr (.inr (.inl ⟨frame, result, hserver, rfl⟩)))
  | handlerTerminal result =>
    simp only [step] at h
    split at h <;> cases h
    next message hhandler => exact .inr (.inr (.inr (.inr ⟨message, result, hhandler, rfl⟩)))
  | writerStops | writerFails _ | writerHalfClosed _ | writerEnds | closeConn =>
    simp only [step, writerFails, writerEnds] at h
    repeat' split at h
    all_goals
      cases h
      try exact .inl ⟨by simp, .inl rfl⟩
  | _ =>
    -- the server goes from one place outside the `Once` to another
    simp only [step, read, sendBytes, sendHalfClose,
      writerDone, timer] at h
    repeat' split at h
    all_goals
      cases h
      try
        refine .inl (beside_server (by simp [*]) fun frame => ?_)
        try split
        all_goals simp [afterRead_not_sending, afterServe_not_sending]

theorem OnceSound.step (hs : st.OnceSound) (h : st.step ending l = some st') :
    st'.OnceSound := by
  rcases step_cases h with h | h | h | ⟨frame, result, hserver, rfl⟩ | ⟨message, result, hhandler, rfl⟩
  · exact hs.beside h
  · exact hs.serve h
  · exact hs.handle h
  · exact hs.serverTerminal hserver
  · exact hs.handlerTerminal hhandler

theorem serve_id (h : st.serve ending = some st') : st'.id = st.id ∧ st'.handler = st.handler := by
  unfold ServedStream.serve at h
  simp only at h
  repeat' split at h
  all_goals
    cases h
    try exact ⟨rfl, rfl⟩

theorem handle_id (h : st.handle = some st') : st'.id = st.id ∧ st.handler ≠ .idle := by
  cases hhandler : st.handler with
  | idle | sendingTerminal message => simp [hhandler] at h
  | _ =>
    simp only [ServedStream.handle, hhandler] at h
    repeat' split at h
    all_goals
      cases h
      try exact ⟨rfl, by simp⟩

theorem step_id (h : st.step ending l = some st') : st'.id = st.id := by
  rcases step_cases h with h | h | h | ⟨frame, result, -, rfl⟩ | ⟨message, result, -, rfl⟩
  · cases h
    rfl
  · exact (serve_id h).1
  · exact (handle_id h).1
  · rfl
  · rfl

/-- Only the session loop itself turns to a stream. -/
theorem step_idle (hidle : st.handler = .idle) (h : st.step ending l = some st') :
    st'.handler = .idle := by
  rcases step_cases h with h | h | h | ⟨frame, result, -, rfl⟩ | ⟨message, result, hhandler, -⟩
  · cases h
    exact hidle
  · exact (serve_id h).2.trans hidle
  · exact absurd hidle (handle_id h).2
  · exact hidle
  · rw [hidle] at hhandler
    cases hhandler

/-- The session loop turns to a stream that it has nothing to do with. -/
theorem OnceSound.turnTo (hs : st.OnceSound) (hidle : st.handler = .idle)
    (hout : ∀ message, handler ≠ .sendingTerminal message) : { st with handler }.OnceSound where
  unspent := hs.unspent
  once := hs.once
  server := hs.server
  handler := fun message h => absurd h (hout message)
  oneUser := fun _ message _ => hout message
  spent := hs.spent_handler (by simp [hidle])
  removed := hs.removed_handler (by simp [hidle])

/-- `shutdown` takes the stream out of the table and cancels it. -/
theorem OnceSound.shutdown (hs : st.OnceSound) :
    { st with registered := false, cancelled := true }.OnceSound :=
  ⟨hs.unspent, hs.once, hs.server, hs.handler, hs.oneUser, fun _ => .inl rfl, fun _ => .inl rfl⟩

end Steps

/-- A statement that removes the stream or closes its connection is still to come. -/
def finishing (ending : Bool) (st : ServedStream) : Bool :=
  st.handler = .removing || st.handler = .releasing || st.server = .removing || st.server = .releasing ||
    (st.conn = .connected && st.contextDone ending)

variable {st : ServedStream} {ending : Bool}

/-- Such a statement waits for nothing. -/
theorem finishing_enabled (h : st.finishing ending = true) :
    ∃ l ∈ [StreamLabel.handle, .serve, .closeConn], (st.step ending l).isSome = true := by
  simp only [finishing, Bool.or_eq_true, Bool.and_eq_true, decide_eq_true_eq] at h
  rcases h with (((hhandler | hhandler) | hserver) | hserver) | hconn
  · refine ⟨.handle, by simp, ?_⟩
    simp only [step, ServedStream.handle, hhandler]
    split <;> rfl
  · exact ⟨.handle, by simp, by simp [hhandler]⟩
  · refine ⟨.serve, by simp, ?_⟩
    simp only [step, ServedStream.serve, hserver]
    split <;> rfl
  · exact ⟨.serve, by simp, by simp [ServedStream.serve, hserver]⟩
  · exact ⟨.closeConn, by simp, by simp [hconn]⟩

/-- When they are through, a stream with a terminal frame is out of the table and disconnected. -/
theorem OnceSound.finished (hs : st.OnceSound)
    (hissued : st.issued ≠ []) (hthrough : st.finishing ending = false) :
    st.registered = false ∧ st.conn ≠ .connected := by
  simp only [finishing, Bool.or_eq_false_iff, Bool.and_eq_false_iff, decide_eq_false_iff_not] at hthrough
  obtain ⟨⟨⟨⟨hremoving, hreleasing⟩, hserver⟩, hserver'⟩, hconn⟩ := hthrough
  have hspent : st.terminal = .spent := by
    by_contra hnot
    exact hissued (hs.unspent hnot)
  have hremoved : st.registered = false := by
    rcases hs.spent hspent with h | h | h
    · exact h
    · exact absurd h hremoving
    · exact absurd h hserver
  have hcancelled : st.cancelled = true := by
    rcases hs.removed hremoved with h | h | h
    · exact h
    · exact absurd h hreleasing
    · exact absurd h hserver'
  refine ⟨hremoved, ?_⟩
  rcases hconn with h | h
  · exact h
  · simp [contextDone, hcancelled] at h

end ServedStream

/-! ## The session -/

/-- The stream ID that a `stream_error` past the terminal `Once` is about. -/
def Loop.refuses : Loop → List Nat
  | .sendingError streamID _ => [streamID]
  | _ => []

namespace ServingSession

/-- The stream IDs that a terminal frame may be sent for, once for each time. -/
def terminalIDs (s : ServingSession) : List Nat :=
  s.streams.map (·.id) ++ (s.unguarded.map (·.streamID) ++ s.loop.refuses)

/-- The half-close of a stream that is not TCP, which is answered past the terminal `Once`. -/
def strays (s : ServingSession) : SessionLabel → Bool
  | .streamHalfClose streamID =>
    (s.lookup streamID).any fun ref => s.streams[ref]?.any (·.mode != .tcp)
  | _ => false

/-- One stream, and what the session loop does with it. -/
structure StreamSound (s : ServingSession) (ref : Nat) (st : ServedStream) : Prop where
  once : st.OnceSound
  turned : st.handler ≠ .idle → s.loop = .handling ref
  granting : s.loop = .granting ref → st.server = .unstarted

structure TerminalOnce (s : ServingSession) : Prop where
  streams : ∀ {ref : Nat} {st : ServedStream}, s.streams[ref]? = some st → s.StreamSound ref st
  nodup : s.terminalIDs.Nodup
  known : ∀ id ∈ s.terminalIDs, id ≤ s.maxStreamID

section Session

variable {s s' : ServingSession} {l : SessionLabel} {ref streamID : Nat} {st : ServedStream}

theorem TerminalOnce.start {flowControlled : Bool} {limits : Limits} {endpoints : List Endpoint} :
    (start flowControlled limits endpoints).TerminalOnce := by
  constructor
  all_goals simp [ServingSession.start, terminalIDs, Loop.refuses]

theorem StreamSound.idle (hs : s.StreamSound ref st) (hloop : s.loop ≠ .handling ref) :
    st.handler = .idle := by
  by_contra hbusy
  exact hloop (hs.turned hbusy)

theorem StreamSound.of_touched
    (hs : ∀ {st : ServedStream}, s.streams[ref]? = some st → s.StreamSound ref st)
    (h : Touched s l s' ref st) : s'.StreamSound ref st := by
  cases h with
  | opened hserver =>
    rcases hserver with rfl | ⟨rfl, hloop⟩
    · exact ⟨.new (.inl rfl), absurd rfl, fun _ => rfl⟩
    · exact ⟨.new (.inr rfl), absurd rfl, by simp [hloop]⟩
  | same hst hturned hgranting =>
    exact ⟨(hs hst).once, fun h => hturned ((hs hst).turned h), fun h => (hs hst).granting (hgranting h)⟩
  | report hst hturn hloop | grantFailed hst hturn hloop =>
    have hfree := (hs hst).idle (by simp [hturn])
    exact ⟨(hs hst).once.turnTo hfree (by simp), fun _ => hloop, by simp [hloop]⟩
  | @peerEnd st hst hidle hloop =>
    have hended : { st with peerEnded := true }.OnceSound := { (hs hst).once with }
    have hfree := (hs hst).idle (by simp [hidle])
    exact ⟨hended.turnTo hfree (by simp), fun _ => hloop, by simp [hloop]⟩
  | halfClose hst hidle hloop =>
    exact ⟨{ (hs hst).once with }, fun hbusy => by simpa [hidle] using (hs hst).turned hbusy,
      by simp [hloop]⟩
  | granted hst hgranting hloop =>
    have hserver := (hs hst).granting hgranting
    exact ⟨(hs hst).once.beside (beside_server (by simp [hserver]) (by simp)),
      fun hbusy => by simpa [hgranting] using (hs hst).turned hbusy, by simp [hloop]⟩
  | step hst _ hstep hloop =>
    refine ⟨(hs hst).once.step hstep, fun hbusy => ?_, fun hgranting => ?_⟩
    · -- the loop is not through with this stream
      rw [hloop, if_neg fun hthrough => hbusy hthrough.2]
      exact (hs hst).turned fun hidle => hbusy (step_idle hidle hstep)
    · rw [hloop] at hgranting
      split at hgranting
      · cases hgranting
      · exact step_unstarted ((hs hst).granting hgranting) hstep
  | shutdown hst _ hloop =>
    exact ⟨(hs hst).once.shutdown, hloop ▸ (hs hst).turned, hloop ▸ (hs hst).granting⟩

/-! ### Stream IDs -/

/-- The checks of `handleStreamOpen` let pass only an ID above all earlier ones. -/
theorem admitStream_lt {sess sess' : AgentSession} {message : StreamOpen} {reply : OpenReply}
    (h : admitStream sess streamID message = (sess', reply)) (hreply : ∀ err, reply ≠ .fatal err) :
    sess.maxStreamID < streamID ∧ sess'.maxStreamID = streamID := by
  unfold admitStream at h
  split at h
  · cases h
    exact absurd rfl (hreply _)
  split at h
  · cases h
    exact absurd rfl (hreply _)
  next hlt =>
    refine ⟨Nat.lt_of_not_le hlt, ?_⟩
    simp only at h
    repeat' split at h
    all_goals
      cases h
      rfl

theorem map_id_update {f : ServedStream → ServedStream} (hf : ∀ st, (f st).id = st.id) :
    (s.update ref f).streams.map (·.id) = s.streams.map (·.id) := by
  apply List.ext_getElem?
  intro r
  simp only [ServingSession.update, List.getElem?_map, List.getElem?_modify]
  cases s.streams[r]? with
  | none => rfl
  | some st =>
    by_cases heq : ref = r
    · simp [heq, hf st]
    · simp [heq]

theorem map_id_set {r : Nat} {st st' : ServedStream} (hst : s.streams[r]? = some st)
    (hid : st'.id = st.id) : (s.streams.set r st').map (·.id) = s.streams.map (·.id) := by
  obtain ⟨hlt, rfl⟩ := List.getElem?_eq_some_iff.mp hst
  rw [List.map_set, hid, ← List.getElem_map ServedStream.id, List.set_getElem_self]
  simpa using hlt

theorem map_id_shutdown : s.shutdown.streams.map (·.id) = s.streams.map (·.id) := by
  rw [ServingSession.shutdown, List.map_map]
  apply List.map_congr_left
  intro st _
  simp only [Function.comp]
  split <;> rfl

/-- The IDs stay, or one above all earlier ones joins them. -/
def Extends (s s' : ServingSession) : Prop :=
  s'.terminalIDs = s.terminalIDs ∧ s'.maxStreamID = s.maxStreamID ∨
    s.maxStreamID < s'.maxStreamID ∧ s'.terminalIDs.Perm (s'.maxStreamID :: s.terminalIDs)

theorem extends_streamOpen {message : StreamOpen} (hidle : s.loop = .idle) :
    s.Extends (s.handleStreamOpen streamID message) := by
  unfold ServingSession.handleStreamOpen
  split
  · exact .inl ⟨rfl, rfl⟩
  next hadmit =>
    obtain ⟨hlt, rfl⟩ := admitStream_lt hadmit (by simp)
    refine .inr ⟨hlt, ?_⟩
    rw [terminalIDs, terminalIDs, hidle]
    simp only [Loop.refuses, List.append_nil, ← List.append_assoc]
    exact List.perm_append_singleton _ _
  next opened hadmit =>
    obtain ⟨hlt, rfl⟩ := admitStream_lt hadmit (by simp)
    refine .inr ⟨hlt, ?_⟩
    have hloop : (if opened.bodyCredit.isSome = true then Loop.granting s.streams.length
        else .idle).refuses = [] := by
      split <;> rfl
    rw [terminalIDs, terminalIDs, hloop, hidle, List.map_append, List.append_assoc]
    exact List.perm_middle

theorem extends_of_step (hguard : s.strays l = false) (h : s.step l = some s') : s.Extends s' := by
  have update {r : Nat} {f : ServedStream → ServedStream} {loop : Loop} (hf : ∀ st, (f st).id = st.id)
      (hloop : loop.refuses = s.loop.refuses) :
      terminalIDs { s.update r f with loop } = s.terminalIDs := by
    rw [terminalIDs, map_id_update hf, hloop]
    rfl
  cases l with
  | streamOpen streamID message =>
    obtain ⟨hidle, -, rfl⟩ := takes_frame h
    exact extends_streamOpen hidle
  | peerEnd streamID =>
    obtain ⟨hidle, -, heq⟩ := takes_frame h
    unfold handlePeerEnd at heq
    split at heq <;> subst heq
    · exact .inl ⟨rfl, rfl⟩
    · exact .inl ⟨update (fun _ => rfl) (by rw [hidle]; rfl), rfl⟩
  | streamHalfClose streamID =>
    obtain ⟨hidle, -, heq⟩ := takes_frame h
    unfold handleHalfClose at heq
    split at heq
    · exact .inl ⟨by rw [heq], by rw [heq]⟩
    next ref hlookup =>
      have htcp : ¬ (s.streams[ref]?.any (·.mode != .tcp)) = true := by
        simpa [strays, hlookup] using hguard
      rw [if_neg htcp] at heq
      subst heq
      exact .inl ⟨update (fun _ => rfl) rfl, rfl⟩
  | windowUpdate _ _ | data _ _ _ =>
    obtain ⟨hidle, -, heq⟩ := takes_frame h
    simp only [handleWindowUpdate, handleData] at heq
    repeat' split at heq
    all_goals
      subst heq
      first
        | exact .inl ⟨rfl, rfl⟩
        | exact .inl ⟨update (fun _ => rfl) (by rw [hidle]; rfl), rfl⟩
  | loopSend result =>
    simp only [ServingSession.step, ServingSession.loopSend] at h
    split at h <;> cases h
    next hloop => exact .inl ⟨by simp [terminalIDs, hloop, Loop.refuses], rfl⟩
    next hloop => exact .inl ⟨by simp [terminalIDs, hloop, Loop.refuses], rfl⟩
    all_goals
      next hloop => exact .inl ⟨update (fun _ => rfl) (by rw [hloop]; rfl), rfl⟩
  | stream r label =>
    obtain ⟨st, st', hst, hstep, rfl⟩ := streamStep_cases h
    refine .inl ⟨?_, rfl⟩
    have hloop : (if s.loop = .handling r ∧ st'.handler = .idle then .idle else s.loop).refuses =
        s.loop.refuses := by
      split
      next hthrough => simp [hthrough.1, Loop.refuses]
      next => rfl
    rw [terminalIDs, map_id_set hst (ServedStream.step_id hstep), hloop]
    rfl
  | endSession =>
    cases h
    exact .inl ⟨rfl, rfl⟩
  | shutdown =>
    obtain ⟨-, ⟨⟩⟩ := Option.ite_none_right_eq_some.mp h
    refine .inl ⟨?_, rfl⟩
    rw [terminalIDs, map_id_shutdown]
    rfl

/-- Every step but the answer to a stray half-close keeps the terminal frames apart. -/
theorem TerminalOnce.step (hs : s.TerminalOnce) (hguard : s.strays l = false)
    (h : s.step l = some s') : s'.TerminalOnce := by
  have hstreams : ∀ {ref : Nat} {st : ServedStream}, s'.streams[ref]? = some st →
      s'.StreamSound ref st := fun hst => .of_touched hs.streams (touched_of_step h hst)
  rcases extends_of_step hguard h with ⟨hids, hmax⟩ | ⟨hlt, hperm⟩
  · exact ⟨hstreams, hids ▸ hs.nodup, hids ▸ hmax ▸ hs.known⟩
  · refine ⟨hstreams, ?_, ?_⟩
    · rw [hperm.nodup_iff, List.nodup_cons]
      exact ⟨fun hmem => Nat.not_le_of_lt hlt (hs.known _ hmem), hs.nodup⟩
    · intro id hmem
      rcases List.mem_cons.mp (hperm.mem_iff.mp hmem) with rfl | hmem
      · exact Nat.le_refl _
      · exact Nat.le_of_lt (Nat.lt_of_le_of_lt (hs.known id hmem) hlt)

end Session

/-! ## Terminal frames on the wire -/

/-- The terminal frames of the stream that are on the wire. -/
def wireTerminals (s : ServingSession) (streamID : Nat) : Nat :=
  (s.streams.map fun st => if st.id = streamID then st.issued.countP (·.result.onWire) else 0).sum +
    s.unguarded.countP fun error => error.streamID == streamID && error.result.onWire

/-- A `stream_error` of the stream is on the wire. -/
def errorSent (s : ServingSession) (streamID : Nat) : Bool :=
  (s.streams.any fun st =>
      st.id = streamID && st.issued.any fun issued => !issued.frame.isClose && issued.result.onWire) ||
    s.unguarded.any fun error => error.streamID = streamID && error.result.onWire

section Wire

variable {s : ServingSession} {st : ServedStream} {ref : Nat}

/-- A terminal frame is sent at most once for each occurrence of its stream's ID. -/
theorem TerminalOnce.wireTerminals_le (hs : s.TerminalOnce) (streamID : Nat) :
    s.wireTerminals streamID ≤ s.terminalIDs.count streamID := by
  have hstreams : ∀ streams : List ServedStream, (∀ st ∈ streams, st.issued.length ≤ 1) →
      (streams.map fun st => if st.id = streamID then st.issued.countP (·.result.onWire) else 0).sum ≤
        (streams.map (·.id)).count streamID := by
    intro streams honce
    induction streams with
    | nil => exact Nat.le_refl 0
    | cons st streams ih =>
      have hrest := ih fun other hother => honce other (List.mem_cons_of_mem _ hother)
      have hissued := honce st List.mem_cons_self
      have hsent := st.issued.countP_le_length (p := fun issued => issued.result.onWire)
      simp only [List.map_cons, List.sum_cons, List.count_cons, beq_iff_eq]
      split <;> omega
  have hunguarded : ∀ errors : List UnguardedError,
      (errors.countP fun error => error.streamID == streamID && error.result.onWire) ≤
        (errors.map (·.streamID)).count streamID := by
    intro errors
    rw [List.count, List.countP_map]
    apply List.countP_mono_left
    intro error _ hsent
    exact (Bool.and_eq_true_iff.mp hsent).1
  have honce : ∀ st ∈ s.streams, st.issued.length ≤ 1 := by
    intro st hst
    obtain ⟨ref, href⟩ := List.mem_iff_getElem?.mp hst
    exact (hs.streams href).once.once
  have h₁ := hstreams s.streams honce
  have h₂ := hunguarded s.unguarded
  rw [wireTerminals, terminalIDs, List.count_append, List.count_append]
  omega

theorem TerminalOnce.once (hs : s.TerminalOnce) (streamID : Nat) : s.wireTerminals streamID ≤ 1 :=
  Nat.le_trans (hs.wireTerminals_le streamID) (List.nodup_iff_count_le_one.mp hs.nodup streamID)

/-- A stream for which an error was sent is one that the terminal `Once` reports. -/
theorem TerminalOnce.issued_of_errorSent (hs : s.TerminalOnce)
    (hst : s.streams[ref]? = some st) (hsent : s.errorSent st.id = true) : st.issued ≠ [] := by
  have hnodup := hs.nodup
  rw [terminalIDs, List.nodup_append] at hnodup
  obtain ⟨hids, -, hdisjoint⟩ := hnodup
  simp only [errorSent, Bool.or_eq_true, List.any_eq_true, Bool.and_eq_true, decide_eq_true_eq] at hsent
  rcases hsent with ⟨other, hother, hid, issued, hissued, -⟩ | ⟨error, herror, hid, -⟩
  · -- no two streams share an ID
    have hsame : other = st := List.inj_on_of_nodup_map hids hother (List.mem_of_getElem? hst) hid
    rw [← hsame]
    exact List.ne_nil_of_mem hissued
  · have hstream : st.id ∈ s.streams.map (·.id) := List.mem_map.mpr ⟨st, List.mem_of_getElem? hst, rfl⟩
    have hrefused : st.id ∈ s.unguarded.map (·.streamID) ++ s.loop.refuses :=
      List.mem_append_left _ (List.mem_map.mpr ⟨error, herror, hid⟩)
    exact absurd rfl (hdisjoint _ hstream _ hrefused)

/-- A stream for which an error was sent is not served once the routines at work on it are through. -/
theorem TerminalOnce.unserved (hs : s.TerminalOnce)
    (hst : s.streams[ref]? = some st) (hsent : s.errorSent st.id = true)
    (hthrough : st.finishing s.ending = false) : st.registered = false ∧ st.conn ≠ .connected :=
  (hs.streams hst).once.finished (hs.issued_of_errorSent hst hsent) hthrough

end Wire

/-- Along every run without a stray half-close the terminal frames stay apart. -/
theorem terminalOnce_of_run {flowControlled : Bool} {limits : Limits} {endpoints : List Endpoint}
    {labels : List SessionLabel} {s : ServingSession}
    (hguard : StepSystem.Along step (fun s l => s.strays l = false)
      (start flowControlled limits endpoints) labels)
    (hrun : StepSystem.run step (start flowControlled limits endpoints) labels = some s) :
    s.TerminalOnce := by
  apply StepSystem.invariant_along (I := TerminalOnce) _ TerminalOnce.start hguard hrun
  intro s l s' hs hguard h
  exact hs.step hguard h

end ServingSession

end Hooshix.Agent

-- SUMMARY: Which streams an Agent removes without a terminal frame, and what its stream_close says.
import Hooshix.Agent.StreamServing

/-! # Silent ends

A stream leaves the table behind its terminal `Once`: the routine that removes it has run the `Once`,
or has seen the context done, which is cancelled behind the `Once` only. The UDP writer breaks this: it
cancels the context of a stream whose `Once` nobody has run.
-/

namespace Hooshix.Agent

open Contract StepSystem

/-! ## What is known of a stream -/

namespace Server

/-- The server has not cancelled the context itself. -/
def early : Server → Bool
  | .unstarted | .dialing | .reading | .sending _ | .checking | .leaving _ _ | .halfClosing
  | .halfClosed | .cancelling _ => true
  | _ => false

/-- The server has yet to leave its read loop. -/
def inLoop : Server → Bool
  | .unstarted | .dialing | .reading | .sending _ | .checking => true
  | _ => false

/-- The server takes the stream for one that the peer closed. -/
def peerClosed : Server → Bool
  | .cancelling serveEnd | .closing serveEnd | .awaiting serveEnd => serveEnd.peerClosed
  | _ => false

/-- The server is behind the terminal `Once`. -/
def isOver : Server → Bool
  | .removing | .releasing | .returned => true
  | _ => false

end Server

/-- The session loop is behind the terminal `Once`. -/
def Handler.isOver : Handler → Bool
  | .removing | .releasing => true
  | _ => false

/-- The local writer has not failed. -/
def LocalWrites.clean : LocalWrites → Bool
  | .unstarted | .running | .returned none => true
  | _ => false

/-- The errors behind the read loop that end the stream with `stream_close`. -/
def completes (mode : StreamMode) (localReadErr sendErr : Option GoError) : Bool :=
  match mode with
  | .udp => localReadErr.all isTimeout
  | .http | .tcp => localReadErr.isNone && sendErr.isNone

attribute [local simp] Server.isOver Server.peerClosed Handler.isOver Agent.afterServe

namespace ServedStream

/-- All that was read is forwarded, and the last read ended with EOF or, for UDP, with an idle flow
    and no failed write. -/
def drained (st : ServedStream) : Bool :=
  !st.lost && (st.lastReadErr.any (·.is .eof) ||
    (st.mode == .udp && st.lastReadErr.any isTimeout && !st.writeFailed))

/-- The server is on its way to a `stream_close`. -/
def closes (st : ServedStream) : Bool :=
  match st.server with
  | .leaving localReadErr sendErr => !st.cancelled && completes st.mode localReadErr sendErr
  | .halfClosing | .halfClosed => true
  | .cancelling serveEnd | .closing serveEnd | .awaiting serveEnd =>
    !serveEnd.peerClosed && completes st.mode serveEnd.localReadErr serveEnd.sendErr
  | .reporting frame | .sendingTerminal frame => frame.isClose
  | _ => false

/-- The stream is ended, for the server or for the session loop. -/
def ended (st : ServedStream) : Bool :=
  (st.server.early && st.cancelled) || st.server.peerClosed || st.server.isOver

/-- The books of one stream while the session stays open. -/
structure Reported (st : ServedStream) : Prop where
  /-- who sees the stream ended is behind the terminal `Once` -/
  ended : st.ended = true → st.terminal = .spent
  removed : st.registered = false → st.terminal = .spent
  handled : st.handler.isOver = true → st.terminal = .spent
  ending : st.handler = .ending → st.peerEnded = true
  /-- the `Once` was run by the peer's end or with a frame -/
  spent : st.terminal = .spent → st.peerEnded = true ∨ st.issued ≠ []
  closed : ∀ issued ∈ st.issued, issued.frame.isClose = true →
    st.drained = true ∧ st.server.isOver = true
  closes : st.closes = true → st.drained = true
  inLoop : st.server.inLoop = true → st.lost = false
  sending : ∀ readErr, st.server = .sending readErr → st.lastReadErr = readErr
  halfClose : st.peerHalfClose = true → st.mode = .tcp
  writer : st.writer.clean = true ∨ (st.mode ≠ .udp ∧ ∃ err, st.writer = .returned err)
  writeFailed : st.mode = .udp → st.writeFailed = false

/-- A new stream. -/
theorem Reported.new {id : Nat} {mode : StreamMode} {server : Server}
    (hserver : server = .unstarted ∨ server = .dialing) : (new id mode server).Reported := by
  rcases hserver with rfl | rfl
  all_goals
    constructor
    all_goals
      simp [ServedStream.new, ServedStream.ended, ServedStream.closes, LocalWrites.clean]

namespace Server

variable {server : Server}

theorem isOver_of_early (h : server.early = true) : server.isOver = false := by
  cases server with
  | removing | releasing | returned => cases h
  | _ => rfl

theorem inLoop_cases (h : server.inLoop = true) :
    server.early = true ∧ server.peerClosed = false ∧ server.isOver = false := by
  cases server with
  | unstarted | dialing | reading | sending _ | checking => exact ⟨rfl, rfl, rfl⟩
  | _ => cases h

theorem inLoop_of_over (h : server.isOver = true) : server.inLoop = false := by
  cases server with
  | removing | releasing | returned => rfl
  | _ => cases h

end Server

section Moves

variable {st st' : ServedStream} {server : Server} {conn : LocalConn} {cancelled : Bool}
  {lastReadErr : Option GoError}

theorem closes_of_over (h : st.server.isOver = true) : st.closes = false := by
  unfold ServedStream.closes
  cases hserver : st.server with
  | removing | releasing | returned => rfl
  | _ => simp [hserver] at h

theorem closes_of_inLoop (h : st.server.inLoop = true) : st.closes = false := by
  unfold ServedStream.closes
  cases hserver : st.server with
  | unstarted | dialing | reading | sending _ | checking => rfl
  | _ => simp [hserver, Server.inLoop] at h

variable (hs : st.Reported) {lost : Bool}

include hs

/-- The server moves on before it is behind the `Once`. -/
theorem Reported.move (hbefore : st.server.isOver = false)
    (hended : { st with server, cancelled }.ended = true → st.ended = true)
    (hcloses : { st with server, cancelled }.closes = true →
      { st with lost, lastReadErr }.drained = true) (hinLoop : server.inLoop = true → lost = false)
    (hsending : ∀ readErr, server = .sending readErr → lastReadErr = readErr) :
    { st with server, conn, cancelled, lost, lastReadErr }.Reported :=
  { hs with
    ended := fun h => hs.ended (hended h)
    closed := by
      intro issued hissued hclose
      -- a `stream_close` is issued by the server only, and puts it behind the `Once`
      have hover := (hs.closed issued hissued hclose).2
      rw [hbefore] at hover
      cases hover
    closes := hcloses
    inLoop := hinLoop
    sending := hsending }

/-- A server behind its loop moves on. -/
theorem Reported.pass (hbefore : st.server.isOver = false) (hout : server.inLoop = false)
    (hended : { st with server, cancelled }.ended = true → st.ended = true)
    (hcloses : { st with server, cancelled }.closes = true → st.closes = true) :
    { st with server, conn, cancelled }.Reported := by
  refine hs.move hbefore hended (fun h => hs.closes (hcloses h)) (by simp [hout]) ?_
  rintro readErr rfl
  cases hout

/-- A server that has not cancelled the context leaves its loop, or moves on behind it, without a
    verdict: it sees what it saw. -/
theorem Reported.leaves (hearly : st.server.early = true)
    (hserver : server.inLoop = false ∧ server.peerClosed = false ∧ server.isOver = false)
    (hcloses : { st with server }.closes = true → { st with lost, lastReadErr }.drained = true) :
    { st with server, lost, lastReadErr }.Reported := by
  obtain ⟨hout, hpeer, hover⟩ := hserver
  refine hs.move (Server.isOver_of_early hearly) ?_ hcloses (by simp [hout]) ?_
  · intro h
    simp only [ServedStream.ended, hpeer, hover, Bool.or_false, Bool.and_eq_true] at h
    simp [ServedStream.ended, hearly, h.2]
  · rintro readErr rfl
    cases hout

/-- The server stays in its loop. -/
theorem Reported.stays (hin : st.server.inLoop = true) (hin' : server.inLoop = true)
    (hsending : ∀ readErr, server = .sending readErr → lastReadErr = readErr) :
    { st with server, conn, lastReadErr }.Reported := by
  obtain ⟨hearly, -, hbefore⟩ := Server.inLoop_cases hin
  obtain ⟨-, hpeer, hover⟩ := Server.inLoop_cases hin'
  refine hs.move hbefore ?_ ?_ (fun _ => hs.inLoop hin) hsending
  · intro h
    simp only [ServedStream.ended, hpeer, hover, Bool.or_false, Bool.and_eq_true] at h
    simp [ServedStream.ended, hearly, h.2]
  · rw [closes_of_inLoop hin']
    rintro ⟨⟩

/-- The server moves on behind the `Once`. -/
theorem Reported.finish {registered : Bool} (hover : server.isOver = true)
    (hspent : st.terminal = .spent) : { st with server, conn, cancelled, registered }.Reported :=
  { hs with
    ended := fun _ => hspent
    removed := fun _ => hspent
    handled := fun _ => hspent
    closed := fun issued hissued hclose => ⟨(hs.closed issued hissued hclose).1, hover⟩
    closes := by
      rw [closes_of_over hover]
      rintro ⟨⟩
    inLoop := by
      rw [Server.inLoop_of_over hover]
      rintro ⟨⟩
    sending := by
      rintro readErr rfl
      cases hover }

/-- The local writer moves on, and no UDP write fails. -/
theorem Reported.setWriter {writer : LocalWrites}
    (hwriter : writer.clean = true ∨ (st.mode ≠ .udp ∧ ∃ err, writer = .returned err)) :
    { st with writer }.Reported :=
  { hs with writer := hwriter }

end Moves

/-! ## The server -/

section Server

variable {st st' : ServedStream} {serveEnd : ServeEnd} {err : Option GoError}
  {writeErr : Option GoError} {readErr : Option GoError}

theorem serveReport_isClose (h : (serveReport serveEnd).isClose = true) :
    serveEnd.localReadErr = none ∧ serveEnd.sendErr = none := by
  unfold serveReport at h
  split at h
  · cases h
  next hsend hread => exact ⟨hread, hsend⟩
  · cases h

theorem serveUDPReport_isClose
    (h : (serveUDPReport readErr none).isClose = true) : readErr.all isTimeout = true := by
  cases readErr with
  | none => rfl
  | some err =>
    simp only [serveUDPReport, Option.or] at h
    split at h
    next htimeout => exact htimeout
    next => cases h

/-- The server reports with a `stream_close` only if the errors let it. -/
theorem afterServe_reports {mode : StreamMode}
    (hpeer : serveEnd.peerClosed = false) (hwrite : mode = .udp → writeErr = none) :
    ∃ frame, afterServe mode serveEnd writeErr = .reporting frame ∧
      (frame.isClose = true → completes mode serveEnd.localReadErr serveEnd.sendErr = true) := by
  cases mode with
  | udp =>
    refine ⟨serveUDPReport serveEnd.localReadErr none, ?_, serveUDPReport_isClose⟩
    simp [hpeer, hwrite rfl]
  | http | tcp =>
    refine ⟨serveReport serveEnd, by simp [hpeer], ?_⟩
    intro h
    obtain ⟨hlocal, hsend⟩ := serveReport_isClose h
    simp [completes, hlocal, hsend]

variable (hs : st.Reported) {frame : TerminalFrame}

include hs

/-- What the server reports when it has waited for a writer that has not failed. -/
theorem Reported.afterServe {conn : LocalConn}
    (hserver : st.server = .closing serveEnd ∨ st.server = .awaiting serveEnd)
    (hwrite : st.mode = .udp → writeErr = none) :
    { st with conn, server := afterServe st.mode serveEnd writeErr }.Reported := by
  have hbefore : st.server.isOver = false := by
    rcases hserver with h | h <;> rw [h] <;> rfl
  cases hpeer : serveEnd.peerClosed with
  | true =>
    have hspent : st.terminal = .spent := by
      apply hs.ended
      rcases hserver with h | h <;> simp [ServedStream.ended, h, hpeer]
    refine hs.finish ?_ hspent
    simp [hpeer]
  | false =>
    obtain ⟨frame, hframe, hclose⟩ := afterServe_reports hpeer hwrite
    rw [hframe]
    refine hs.pass hbefore rfl (by simp [ServedStream.ended, Server.early]) fun h => ?_
    rcases hserver with hserver | hserver <;>
      simp [ServedStream.closes, hserver, hpeer, hclose h]

theorem Reported.dial (h : st.step false (.dial err) = some st') : st'.Reported := by
  simp only [ServedStream.step] at h
  split at h <;> cases h
  next hserver =>
    have hrunning : { st with writer := .running }.Reported := hs.setWriter (.inl rfl)
    exact hrunning.stays (by simp [hserver, Server.inLoop]) rfl (by simp)
  next hserver => exact hs.leaves (by rw [hserver]; rfl) ⟨rfl, rfl, rfl⟩ (by rintro ⟨⟩)

theorem Reported.deadlineFailed (h : st.step false .deadlineFailed = some st') : st'.Reported := by
  obtain ⟨hserver, heq⟩ := Option.ite_none_right_eq_some.mp h
  cases heq
  refine hs.leaves (by rw [hserver]; rfl) ⟨rfl, rfl, rfl⟩ ?_
  intro hcloses
  cases hmode : st.mode with
  | udp => simp [ServedStream.closes, completes, hmode, errConnClosed, isTimeout] at hcloses
  | http | tcp => simp [ServedStream.closes, completes, hmode] at hcloses

/-- The bytes of a read are sent, or there were none: the server goes on by the error of the read. -/
theorem Reported.afterRead (hmode : st.mode ≠ .udp) (hin : st.server.inLoop = true) :
    { st with server := afterRead readErr, lastReadErr := readErr }.Reported := by
  cases readErr with
  | none => exact hs.stays hin rfl nofun
  | some err =>
    refine hs.leaves (Server.inLoop_cases hin).1 ⟨rfl, rfl, rfl⟩ ?_
    intro hcloses
    -- only EOF leaves no error
    have heof : err.is .eof = true := by
      simp only [ServedStream.closes, Agent.afterRead] at hcloses
      by_contra hne
      cases hm : st.mode with
      | udp => exact hmode hm
      | http | tcp => simp [completes, hm, hne] at hcloses
    simp [drained, hs.inLoop hin, heof]

theorem Reported.read {n : Nat} (h : st.read n err = some st') : st'.Reported := by
  unfold ServedStream.read at h
  split at h
  next hserver hmode =>
    have hin : st.server.inLoop = true := by rw [hserver]; rfl
    have hearly := (Server.inLoop_cases hin).1
    split at h
    · cases h
      refine hs.leaves hearly ⟨rfl, rfl, rfl⟩ ?_
      simp [ServedStream.closes, completes, hmode, errDatagramSize, isTimeout]
    · split at h
      · cases h
        exact hs.stays hin rfl (by rintro _ ⟨⟩; rfl)
      · obtain ⟨-, heq⟩ := Option.ite_none_right_eq_some.mp h
        cases heq
        refine hs.leaves hearly ⟨rfl, rfl, rfl⟩ ?_
        -- the flow has expired
        intro hcloses
        simp only [ServedStream.closes, completes, hmode, Bool.and_eq_true, Option.all_some] at hcloses
        simp [drained, hs.inLoop hin, hmode, hcloses.2, hs.writeFailed hmode]
  next hserver hmode =>
    have hin : st.server.inLoop = true := by rw [hserver]; rfl
    cases h
    split
    · exact hs.stays hin rfl (by rintro _ ⟨⟩; rfl)
    · exact hs.afterRead (fun hudp => hmode hudp) hin
  next => cases h

theorem Reported.sendBytes
    (hguard : ∀ cause, err = some cause → st.mode = .udp → isTimeout cause = false)
    (h : st.sendBytes err = some st') : st'.Reported := by
  unfold ServedStream.sendBytes at h
  split at h <;> cases h
  next readErr hserver =>
    have hin : st.server.inLoop = true := by rw [hserver]; rfl
    split
    · exact hs.stays hin rfl nofun
    next hmode =>
      rw [← hs.sending readErr hserver]
      exact hs.afterRead hmode hin
  next cause hserver =>
    have hearly : st.server.early = true := by rw [hserver]; rfl
    -- the response is truncated, which no `stream_close` may report
    split
    next hmode =>
      refine hs.leaves hearly ⟨rfl, rfl, rfl⟩ ?_
      simp [ServedStream.closes, completes, hmode, hguard cause rfl hmode]
    next hmode =>
      refine hs.leaves hearly ⟨rfl, rfl, rfl⟩ ?_
      cases hm : st.mode with
      | udp => exact absurd hm hmode
      | http | tcp => simp [ServedStream.closes, completes]

/-- The server has left its loop and looks whether the context is done. -/
theorem Reported.leave {localReadErr sendErr : Option GoError}
    (hserver : st.server = .leaving localReadErr sendErr) (h : st.serve false = some st') :
    st'.Reported := by
  simp only [ServedStream.serve, hserver, contextDone, Bool.or_false] at h
  split at h
  next htcp =>
    obtain ⟨hmode, rfl, rfl, hcancelled⟩ := htcp
    cases h
    refine hs.leaves (by rw [hserver]; rfl) ⟨rfl, rfl, rfl⟩ fun _ => ?_
    exact hs.closes (by simp [ServedStream.closes, hserver, hcancelled, completes, hmode])
  next =>
    cases h
    refine hs.pass (by rw [hserver]; rfl) rfl ?_ ?_
    · simp [ServedStream.ended, hserver, Server.early]
    · intro hcloses
      simpa [ServedStream.closes, hserver] using hcloses

/-- Nobody is behind a fresh `Once` that the server enters. -/
theorem Reported.enterOnce (hserver : st.server = .reporting frame)
    (hfresh : st.terminal = .fresh) :
    { st with terminal := .running, server := .sendingTerminal frame }.Reported := by
  have hnot : st.terminal ≠ .spent := by simp [hfresh]
  exact { hs with
    ended := nofun
    removed := fun hremoved => absurd (hs.removed hremoved) hnot
    handled := fun hhandled => absurd (hs.handled hhandled) hnot
    spent := nofun
    closed := by
      intro issued hissued hclose
      have hover := (hs.closed issued hissued hclose).2
      simp [hserver] at hover
    closes := fun hcloses => hs.closes (by simpa [ServedStream.closes, hserver] using hcloses)
    inLoop := nofun
    sending := nofun }

theorem Reported.serve (h : st.serve false = some st') : st'.Reported := by
  cases hserver : st.server with
  | checking =>
    have hin : st.server.inLoop = true := by rw [hserver]; rfl
    simp only [ServedStream.serve, hserver, contextDone, Bool.or_false] at h
    cases h
    -- a server that leaves for the context does not close
    split
    next hcancelled =>
      refine hs.leaves (Server.inLoop_cases hin).1 ⟨rfl, rfl, rfl⟩ ?_
      simp [ServedStream.closes, hcancelled]
    next => exact hs.stays hin rfl (by simp)
  | leaving localReadErr sendErr => exact hs.leave hserver h
  | cancelling serveEnd =>
    simp only [ServedStream.serve, hserver] at h
    cases h
    refine hs.pass (by rw [hserver]; rfl) rfl ?_ ?_
    · simp +contextual [ServedStream.ended, hserver, Server.early]
    · intro hcloses
      simpa [ServedStream.closes, hserver] using hcloses
  | closing serveEnd =>
    simp only [ServedStream.serve, hserver] at h
    cases h
    split
    · exact hs.afterServe (.inl hserver) (fun _ => rfl)
    · refine hs.pass (by rw [hserver]; rfl) rfl ?_ ?_
      · simp [ServedStream.ended, hserver, Server.early]
      · intro hcloses
        simpa [ServedStream.closes, hserver] using hcloses
  | reporting frame =>
    simp only [ServedStream.serve, hserver] at h
    split at h <;> cases h
    next hfresh => exact hs.enterOnce hserver hfresh
    next hspent => exact hs.finish rfl hspent
  | removing | releasing =>
    have hspent : st.terminal = .spent := hs.ended (by simp [ServedStream.ended, hserver])
    simp only [ServedStream.serve, hserver] at h
    repeat' split at h
    all_goals
      cases h
      exact hs.finish rfl hspent
  | _ => simp [ServedStream.serve, hserver] at h

theorem Reported.sendHalfClose (h : st.sendHalfClose err = some st') : st'.Reported := by
  unfold ServedStream.sendHalfClose at h
  split at h
  case h_3 => cases h
  all_goals
    next hserver =>
      cases h
      exact hs.leaves (by rw [hserver]; rfl) ⟨rfl, rfl, rfl⟩ fun _ =>
        hs.closes (by simp [ServedStream.closes, hserver])

theorem Reported.halfClosedEnd (hserver : st.server = .halfClosed)
    (hpeer : serveEnd.peerClosed = true → st.cancelled = true) :
    { st with server := .cancelling serveEnd }.Reported := by
  refine hs.pass (by rw [hserver]; rfl) rfl ?_ fun _ => by simp [ServedStream.closes, hserver]
  intro hended
  simp only [ServedStream.ended, Server.early, Server.peerClosed, Server.isOver, Bool.true_and,
    Bool.or_false, Bool.or_eq_true] at hended
  have hcancelled : st.cancelled = true := hended.elim (fun h => h) hpeer
  simp [ServedStream.ended, hserver, Server.early, hcancelled]

theorem Reported.writerDone (h : st.writerDone = some st') : st'.Reported := by
  unfold ServedStream.writerDone at h
  split at h <;> cases h
  next writeErr hserver _ => exact hs.halfClosedEnd hserver nofun
  next serveEnd writeErr hserver hwriter =>
    refine hs.afterServe (.inr hserver) ?_
    intro hmode
    rcases hs.writer with hclean | ⟨hudp, -⟩
    · rw [hwriter] at hclean
      cases writeErr with
      | none => rfl
      | some err => cases hclean
    · exact absurd hmode hudp

theorem Reported.timer (h : st.timer = some st') : st'.Reported := by
  unfold ServedStream.timer at h
  split at h
  next hserver =>
    cases h
    exact hs.halfClosedEnd hserver nofun
  next serveEnd hserver =>
    split at h <;> cases h
    exact hs.afterServe (.inr hserver) (fun _ => rfl)
  next => cases h

/-- The server's frame is issued; a `stream_close` finds the stream drained. -/
theorem Reported.serverTerminal {result : SendResult}
    (hserver : st.server = .sendingTerminal frame) :
    { st.issue frame result with server := .removing }.Reported :=
  { hs with
    ended := fun _ => rfl
    removed := fun _ => rfl
    handled := fun _ => rfl
    spent := fun _ => .inr (by simp [issue])
    closed := by
      intro issued hissued hclose
      simp only [issue, List.mem_append, List.mem_singleton] at hissued
      refine ⟨?_, rfl⟩
      rcases hissued with hissued | rfl
      · have hover := (hs.closed issued hissued hclose).2
        simp [hserver] at hover
      · exact hs.closes (by simpa [ServedStream.closes, hserver] using hclose)
    closes := nofun
    inLoop := nofun
    sending := nofun }

end Server

/-! ## The local writer and the session loop -/

section Others

variable {st st' : ServedStream}

/-- A failed write of a byte stream is not the server's business. -/
theorem Reported.writerFails {err : GoError} (hs : st.Reported) (hmode : st.mode ≠ .udp)
    (h : st.writerFails err = some st') : st'.Reported := by
  unfold ServedStream.writerFails at h
  split at h
  · rw [if_neg hmode] at h
    cases h
    have hdrained : { st with writeFailed := true, writer := .returned (some err) }.drained = st.drained := by
      have hnot : (st.mode == .udp) = false := by simpa using hmode
      simp [drained, hnot]
    exact { hs with
      closed := by
        rw [hdrained]
        exact hs.closed
      closes := by
        rw [hdrained]
        exact hs.closes
      writer := .inr ⟨hmode, _, rfl⟩
      writeFailed := fun h => absurd h hmode }
  · cases h

/-- A writer that has not failed has nothing to end. -/
theorem Reported.writerEnds (hs : st.Reported) (h : st.writerEnds = some st') : st'.Reported := by
  unfold ServedStream.writerEnds at h
  rcases hs.writer with hclean | ⟨-, err, hwriter⟩
  · split at h
    next hwriter =>
      rw [hwriter] at hclean
      cases hclean
    next hwriter =>
      rw [hwriter] at hclean
      cases hclean
    next => cases h
  · rw [hwriter] at h
    cases h

/-- A cancelled context closes no more streams than before. -/
theorem closes_of_cancelled : { st with cancelled := true }.closes = true → st.closes = true := by
  simp only [ServedStream.closes]
  cases st.server with
  | leaving localReadErr sendErr => simp
  | _ => exact fun h => h

/-- The session loop moves on with the stream. -/
theorem Reported.setHandler {terminal : Once} {handler : Handler} {registered cancelled : Bool}
    (hs : st.Reported) (hidle : handler ≠ .ending)
    (hended : { st with cancelled }.ended = true → terminal = .spent)
    (hremoved : registered = false → terminal = .spent)
    (hhandled : handler.isOver = true → terminal = .spent)
    (hspent : terminal = .spent → st.peerEnded = true ∨ st.issued ≠ [])
    (hcancelled : cancelled = st.cancelled ∨ cancelled = true) :
    { st with terminal, handler, registered, cancelled }.Reported :=
  { hs with
    ended := hended
    removed := hremoved
    handled := hhandled
    ending := fun h => absurd h hidle
    spent := hspent
    closes := by
      intro h
      rcases hcancelled with rfl | rfl
      · exact hs.closes h
      · exact hs.closes (closes_of_cancelled h) }

theorem Reported.handle (hs : st.Reported) (h : st.handle = some st') : st'.Reported := by
  unfold ServedStream.handle at h
  split at h
  next message hhandler =>
    split at h <;> cases h
    next hfresh =>
      have hnot : st.terminal ≠ .spent := by simp [hfresh]
      refine hs.setHandler (by simp) ?_ ?_ (by simp) (by simp) (.inl rfl)
      · exact fun hended => absurd (hs.ended hended) hnot
      · exact fun hremoved => absurd (hs.removed hremoved) hnot
    next hspent =>
      exact hs.setHandler (by simp) hs.ended hs.removed (fun _ => hspent) hs.spent (.inl rfl)
  next hhandler =>
    have hpeer := hs.ending hhandler
    split at h <;> cases h
    all_goals
      exact hs.setHandler (by simp) (fun _ => rfl) (fun _ => rfl) (fun _ => rfl) (fun _ => .inl hpeer)
        (.inl rfl)
  next hhandler =>
    have hspent := hs.handled (by simp [hhandler])
    split at h <;> cases h
    · exact hs.setHandler (by simp) hs.ended (fun _ => hspent) (fun _ => hspent) hs.spent (.inl rfl)
    · exact hs.setHandler (by simp) hs.ended hs.removed (by simp) hs.spent (.inl rfl)
  next hhandler =>
    have hspent := hs.handled (by simp [hhandler])
    cases h
    exact hs.setHandler (by simp) (fun _ => hspent) hs.removed (by simp) hs.spent (.inr rfl)
  next => cases h

theorem Reported.handlerTerminal {message : StreamErrorMessage} {result : SendResult} (hs : st.Reported) :
    { st.issue (.streamError message) result with handler := .removing }.Reported :=
  { hs with
    ended := fun _ => rfl
    removed := fun _ => rfl
    handled := fun _ => rfl
    ending := nofun
    spent := fun _ => .inr (by simp [issue])
    closed := by
      intro issued hissued hclose
      simp only [issue, List.mem_append, List.mem_singleton] at hissued
      rcases hissued with hissued | rfl
      · exact hs.closed issued hissued hclose
      · cases hclose }

end Others

/-! ## Steps -/

/-- The steps that let a stream end silently, or with a `stream_close` that is not true: a UDP write
    fails, or the tunnel takes too long for a datagram. -/
def silences (st : ServedStream) : StreamLabel → Bool
  | .writerFails _ => st.mode == .udp
  | .sendBytes (some err) => st.mode == .udp && isTimeout err
  | _ => false

theorem Reported.step {st st' : ServedStream} {l : StreamLabel} (hs : st.Reported)
    (hguard : st.silences l = false) (h : st.step false l = some st') : st'.Reported := by
  cases l with
  | dial err => exact hs.dial h
  | deadlineFailed => exact hs.deadlineFailed h
  | read n err => exact hs.read h
  | sendBytes err =>
    refine hs.sendBytes ?_ h
    rintro cause rfl hmode
    simpa [silences, hmode] using hguard
  | serve => exact hs.serve h
  | sendHalfClose err => exact hs.sendHalfClose h
  | contextDone =>
    obtain ⟨hdone, heq⟩ := Option.ite_none_right_eq_some.mp h
    cases heq
    exact hs.halfClosedEnd hdone.1 fun _ => by simpa [contextDone] using hdone.2
  | writerDone => exact hs.writerDone h
  | timer => exact hs.timer h
  | serverTerminal result =>
    simp only [ServedStream.step] at h
    split at h <;> cases h
    next frame hserver => exact hs.serverTerminal hserver
  | writerStops =>
    obtain ⟨-, heq⟩ := Option.ite_none_right_eq_some.mp h
    cases heq
    exact hs.setWriter (.inl rfl)
  | writerFails err =>
    refine hs.writerFails ?_ h
    simpa [silences] using hguard
  | writerHalfClosed err =>
    obtain ⟨hhalf, heq⟩ := Option.ite_none_right_eq_some.mp h
    cases heq
    exact hs.setWriter (.inr ⟨by simp [hs.halfClose hhalf.2], err, rfl⟩)
  | writerEnds => exact hs.writerEnds h
  | handle => exact hs.handle h
  | handlerTerminal result =>
    simp only [ServedStream.step] at h
    split at h <;> cases h
    exact hs.handlerTerminal
  | closeConn =>
    obtain ⟨-, heq⟩ := Option.ite_none_right_eq_some.mp h
    cases heq
    exact { hs with }

end ServedStream

/-! ## The session -/

namespace ServingSession

/-- The step silences this stream. -/
def silences (ref : Nat) (s : ServingSession) : SessionLabel → Bool
  | .stream other label => other == ref && s.streams[ref]?.any (·.silences label)
  | _ => false

/-- The books of a stream while its session stays open. -/
def ReportedAt (ref : Nat) (s : ServingSession) : Prop :=
  ∀ ⦃st : ServedStream⦄, s.streams[ref]? = some st →
    st.Reported ∧ (s.loop = .granting ref → st.server = .unstarted)

section Session

variable {s s' : ServingSession} {l : SessionLabel}

/-- While the session stays open, every step that does not silence the stream keeps its books. -/
theorem ReportedAt.step {ref : Nat} (hs : s.ReportedAt ref)
    (hopen : s.ending = false) (hguard : s.silences ref l = false) (h : s.step l = some s')
    (hopen' : s'.ending = false) : s'.ReportedAt ref := by
  intro st' hst'
  cases touched_of_step h hst' with
  | opened hserver =>
    rcases hserver with rfl | ⟨rfl, hloop⟩
    · exact ⟨.new (.inl rfl), fun _ => rfl⟩
    · exact ⟨.new (.inr rfl), by simp [hloop]⟩
  | same hst hturned hgranting => exact ⟨(hs hst).1, fun h => (hs hst).2 (hgranting h)⟩
  | report hst hidle hloop =>
    have hreported := (hs hst).1
    refine ⟨?_, by simp [hloop]⟩
    exact hreported.setHandler (by simp) hreported.ended hreported.removed (by simp) hreported.spent
      (.inl rfl)
  | peerEnd hst hidle hloop =>
    refine ⟨{ (hs hst).1 with handled := by simp, ending := ?_, spent := ?_ }, by simp [hloop]⟩
    · exact fun _ => rfl
    · exact fun _ => .inl rfl
  | halfClose hst hidle hloop htcp =>
    exact ⟨{ (hs hst).1 with halfClose := fun _ => htcp }, by simp [hloop]⟩
  | granted hst hgranting hloop =>
    obtain ⟨hreported, hserver⟩ := hs hst
    exact ⟨hreported.stays (by rw [hserver hgranting]; rfl) rfl nofun, by simp [hloop]⟩
  | grantFailed hst hgranting hloop hending => simp [hending] at hopen'
  | step hst hl hstep hloop =>
    obtain ⟨hreported, hserver⟩ := hs hst
    subst hl
    rw [hopen] at hstep
    refine ⟨hreported.step (by simpa [silences, hst] using hguard) hstep, fun hgranting => ?_⟩
    rw [hloop] at hgranting
    split at hgranting
    · cases hgranting
    · exact ServedStream.step_unstarted (hserver hgranting) hstep
  | shutdown hst hending hloop => simp [hending] at hopen

/-- An ending session does not open again. -/
theorem ending_of_step (h : s.step l = some s') (hopen : s'.ending = false) :
    s.ending = false := by
  cases l with
  | streamOpen _ _ | peerEnd _ | streamHalfClose _ | windowUpdate _ _ | data _ _ _ =>
    exact (takes_frame h).2.1
  | loopSend result =>
    simp only [ServingSession.step, ServingSession.loopSend] at h
    split at h
    all_goals cases h
    all_goals first | exact hopen | cases hopen
  | stream ref label =>
    obtain ⟨st, st', -, -, rfl⟩ := streamStep_cases h
    exact hopen
  | endSession =>
    cases h
    cases hopen
  | shutdown =>
    obtain ⟨-, heq⟩ := Option.ite_none_right_eq_some.mp h
    cases heq
    exact hopen

end Session

/-! ## No silent end -/

/-- In every run in which no UDP write of a stream fails and none of its datagrams is given up for time:
    if it is gone from the table of an open session, and the Gateway has not ended it, then a terminal
    frame is issued for it, and a `stream_close` only if all that was read is forwarded and the last read
    ended with EOF, or for UDP with an idle flow. -/
theorem removed_stream_reported {flowControlled : Bool} {limits : Limits} {endpoints : List Endpoint}
    {labels : List SessionLabel} {s : ServingSession} {ref : Nat}
    (hguard : Along step (fun s l => s.silences ref l = false)
      (start flowControlled limits endpoints) labels)
    (hrun : run step (start flowControlled limits endpoints) labels = some s)
    (hopen : s.ending = false) {st : ServedStream} (hstream : s.streams[ref]? = some st)
    (hremoved : st.registered = false) (hpeer : st.peerEnded = false) :
    st.issued ≠ [] ∧ ∀ issued ∈ st.issued, issued.frame.isClose = true → st.drained = true := by
  have hs : s.ending = false → s.ReportedAt ref := by
    refine invariant_along (I := fun s => s.ending = false → s.ReportedAt ref) ?_ ?_ hguard hrun
    · intro s l s' hs hguard h hopen'
      have hbefore := ending_of_step h hopen'
      exact (hs hbefore).step hbefore hguard h hopen'
    · intro _
      simp [ReportedAt, ServingSession.start]
  have hreported := (hs hopen hstream).1
  constructor
  · rcases hreported.spent (hreported.removed hremoved) with hended | hissued
    · rw [hpeer] at hended
      cases hended
    · exact hissued
  · intro issued hissued hclose
    exact (hreported.closed issued hissued hclose).1

/-- An HTTP response of five bytes, forwarded whole and closed. -/
def closedLabels : List SessionLabel :=
  [.streamOpen 1
      { endpointID := "e", assignmentID := "a", localEndpointID := "web", requestID := "r", mode := .http },
    .stream 0 (.dial none), .stream 0 (.read 5 none), .stream 0 (.sendBytes none), .stream 0 .serve,
    .stream 0 (.read 0 (some ioEOF)), .stream 0 .serve, .stream 0 .serve, .stream 0 .serve,
    .stream 0 .writerStops, .stream 0 .writerDone, .stream 0 .serve, .stream 0 (.serverTerminal .sent),
    .stream 0 .serve]

theorem closedStream_reported :
    ∃ s st, run step (start false defaultLimits [{ id := "web", protocol := .tcp }])
        closedLabels = some s ∧
      s.streams[0]? = some st ∧ st.issued = [⟨.streamClose "completed", .sent⟩] ∧
      st.issued ≠ [] ∧ ∀ issued ∈ st.issued, issued.frame.isClose = true → st.drained = true :=
  have hguard : Along step (fun s l => s.silences 0 l = false)
      (start false defaultLimits [{ id := "web", protocol := .tcp }]) closedLabels := by
    decide +kernel
  ⟨_, _, rfl, rfl, rfl,
    removed_stream_reported hguard rfl rfl (show (_ : ServingSession).streams[0]? = _ from rfl) rfl rfl⟩

/-- A write to the local UDP target fails. The writer cancels the context, the server takes the stream
    for one that the Gateway closed, and nothing is issued. -/
theorem failedDatagram_silent :
    ∃ s st, run step (start false defaultLimits [{ id := "dns", protocol := .udp }])
        [.streamOpen 1
            { endpointID := "e", assignmentID := "a", localEndpointID := "dns", requestID := "r",
              mode := .udp },
          .stream 0 (.dial none), .stream 0 (.writerFails (errorsNew "connection refused")),
          .stream 0 .writerEnds, .stream 0 .writerEnds, .stream 0 (.read 0 (some errConnClosed)),
          .stream 0 .serve, .stream 0 .serve, .stream 0 .serve, .stream 0 .writerDone,
          .stream 0 .serve, .stream 0 .serve] = some s ∧
      s.ending = false ∧ s.streams = [st] ∧ st.registered = false ∧ st.peerEnded = false ∧
      st.server = .returned ∧ st.issued = [] ∧ s.unguarded = [] :=
  ⟨_, _, rfl, rfl, rfl, rfl, rfl, rfl, rfl, rfl⟩

end ServingSession

end Hooshix.Agent

-- SUMMARY: The queue byte budgets of a whole Gateway: conservation, and when they return to zero.
import Hooshix.Lib.StepSystem
import Hooshix.Lib.Exclusive
import Hooshix.Contract
import Hooshix.Gateway.Limits
import Hooshix.Gateway.StreamAccounting

/-! # Queue byte budgets of the Gateway

Any number of sessions and streams share one global budget. Stream objects live on a heap: a stream
is reachable through its session's stream table, through the handler that opened it, and for a moment
through `handleData`, which looks it up before it enqueues. A stream that is in no table and whose
handler has returned is lost, and so is every byte it still retains.
-/

namespace Hooshix.Gateway

open Ledger StepSystem ByteBudget

/-- Progress of the handler that opened a stream, together with the reader it started. -/
inductive HandlerPhase where
  /-- inside `openStreamTarget` -/
  | opening
  /-- has the stream -/
  | serving
  /-- inside `discardRetained`, before its critical section -/
  | discarding
  /-- inside `discardRetained`, after its critical section -/
  | discarded
  | returned
  deriving DecidableEq, Repr

structure StreamSlot where
  stream : Stream
  session : Nat
  inTable : Bool
  handler : HandlerPhase
  deriving DecidableEq, Repr

/-- The stream table or a handler still has the stream. -/
def StreamSlot.owned (slot : StreamSlot) : Bool := slot.inTable || slot.handler != .returned

/-- A session with its queue budget and the frame its read loop is handling, with the stream it
    found. -/
structure SessionSlot where
  queueBudget : ByteBudget
  handling : Option (Nat × Bytes)
  deriving DecidableEq, Repr

structure QueueState where
  limits : Limits
  globalBudget : ByteBudget
  sessions : List SessionSlot
  streams : List StreamSlot
  deriving DecidableEq, Repr

namespace QueueState

def start (limits : Limits) : QueueState where
  limits := limits
  globalBudget := newByteBudget limits.maxGlobalQueueBytes
  sessions := []
  streams := []

inductive Label where
  | newSession
  /-- `openStreamTarget` enters a new stream into the table -/
  | openStream (session : Nat) (datagram : Bool)
  /-- `openStreamTarget` returns the stream -/
  | openSucceeds (ref : Nat)
  /-- `openStreamTarget` returns an error after `finishStream` -/
  | openFails (ref : Nat)
  /-- `handleData` finds the stream of a frame in the table -/
  | lookup (session ref : Nat) (data : Bytes)
  /-- `handleData` enqueues the frame -/
  | enqueue (session : Nat)
  /-- `detachStream` or `failAll` takes the stream out of the table -/
  | detach (ref : Nat)
  /-- a step of the stream itself -/
  | op (ref : Nat) (o : Stream.Op)
  /-- the handler is past `closeStream` and enters `discardRetained` -/
  | stopServing (ref : Nat)
  | handlerReturns (ref : Nat)
  deriving DecidableEq, Repr

/-- The phase of the handler after a stream step: the critical section of `discardRetained` ends one. -/
def phaseAfter (phase : HandlerPhase) : Stream.Op → HandlerPhase
  | .discardTerminal => .discarded
  | _ => phase

/-- A stream step on the heap, charged to the budgets of its session and of the Gateway. -/
def runOp (s : QueueState) (ref : Nat) (o : Stream.Op) : Outcome QueueState :=
  match s.streams[ref]? with
  | some slot =>
    match s.sessions[slot.session]? with
    | some session => do
      let (shared, stream, _) ← slot.stream.step ⟨session.queueBudget, s.globalBudget⟩ o
      return { s with
        globalBudget := shared.globalBudget
        sessions := s.sessions.set slot.session { session with queueBudget := shared.sessionBudget }
        streams := s.streams.set ref
          { slot with stream, handler := phaseAfter slot.handler o } }
    | none => .blocked
  | none => .blocked

/-- Replaces a slot. -/
def setSlot (s : QueueState) (ref : Nat) (slot : StreamSlot) : QueueState :=
  { s with streams := s.streams.set ref slot }

/-- Who may take which stream step: the reader belongs to the handler, `releaseQueuedChunks` is called
    by `detachStream` after `finish` and by `discardRetained`, and only `handleData` enqueues. -/
def permits (slot : StreamSlot) : Stream.Op → Bool
  | .enqueue _ => false
  | .call _ | .poll | .copy | .lockSection | .receive | .wake | .cancel _ | .releaseHeld =>
    slot.handler == .serving || slot.handler == .discarding || slot.handler == .discarded
  | .finish _ | .finishReceive | .finishPublish | .finishSignal => true
  | .discardReceive => slot.stream.finishOnce == .done || slot.handler == .discarding
  | .discardTerminal => slot.handler == .discarding
  | .discardRelease _ => true

/-- A permitted stream step. -/
def streamStep (s : QueueState) (ref : Nat) (o : Stream.Op) : Outcome QueueState :=
  match s.streams[ref]? with
  | some slot =>
    if permits slot o then s.runOp ref o else .blocked
  | none => .blocked

/-- `handleData` after its lookup. An oversize datagram is not enqueued. -/
def enqueue (s : QueueState) (session : Nat) : Outcome QueueState :=
  match s.sessions[session]? with
  | some slot =>
    match slot.handling with
    | some (ref, data) =>
      let s' := { s with sessions := s.sessions.set session { slot with handling := none } }
      match s.streams[ref]? with
      | some target =>
        if target.stream.datagram && data.length > Contract.maxUDPDatagram then .next s'
        else runOp s' ref (.enqueue data)
      | none => .blocked
    | none => .blocked
  | none => .blocked

/-- A change of the owners of one stream, where `test` allows it. -/
def updateSlot (s : QueueState) (ref : Nat) (test : StreamSlot → Bool)
    (update : StreamSlot → StreamSlot) : Outcome QueueState :=
  match s.streams[ref]? with
  | some slot => if test slot then .next (s.setSlot ref (update slot)) else .blocked
  | none => .blocked

def step (s : QueueState) : Label → Outcome QueueState
  | .newSession =>
    .next { s with sessions := s.sessions ++
      [⟨newByteBudget s.limits.maxSessionQueueBytes, none⟩] }
  | .openStream session datagram =>
    if session < s.sessions.length then
      .next { s with streams := s.streams ++
        [{ stream := newStream datagram s.limits.maxStreamQueueFrames.toNat
             s.limits.maxStreamQueueBytes
           session
           inTable := true
           handler := .opening }] }
    else .blocked
  | .openSucceeds ref =>
    s.updateSlot ref (·.handler == .opening) ({ · with handler := .serving })
  | .openFails ref =>
    s.updateSlot ref (fun slot => slot.handler == .opening && !slot.inTable)
      ({ · with handler := .returned })
  | .lookup session ref data =>
    match s.sessions[session]?, s.streams[ref]? with
    | some slot, some target =>
      if slot.handling.isNone && target.session == session && target.inTable then
        .next { s with sessions :=
          s.sessions.set session { slot with handling := some (ref, data) } }
      else .blocked
    | _, _ => .blocked
  | .enqueue session => s.enqueue session
  | .detach ref => s.updateSlot ref (·.inTable) ({ · with inTable := false })
  | .op ref o => s.streamStep ref o
  | .stopServing ref =>
    s.updateSlot ref (fun slot => slot.handler == .serving && !slot.inTable)
      ({ · with handler := .discarding })
  | .handlerReturns ref =>
    s.updateSlot ref (fun slot => slot.handler == .discarded && slot.stream.reader == .idle &&
      slot.stream.discarding.isEmpty) ({ · with handler := .returned })

/-- The step drops the last owner of a stream that may still retain bytes: a failed open returns
    before its stream is finished and empty, or a handler discards before `finish` has published the
    terminal tail. -/
def abandons (s : QueueState) : Label → Bool
  | .openFails ref =>
    match s.streams[ref]? with
    | some slot => !(slot.stream.terminalReady && slot.stream.retained == 0)
    | none => false
  | .op ref .discardTerminal =>
    match s.streams[ref]? with
    | some slot => !slot.stream.terminalReady
    | none => false
  | _ => false

/-! ## Conservation -/

section

variable {s s' : QueueState} {ref : Nat} {o : Stream.Op} {l : Label} {test : StreamSlot → Bool}
  {update : StreamSlot → StreamSlot}

theorem runOp_cases (h : s.runOp ref o = .next s') :
    ∃ slot session shared stream ev, s.streams[ref]? = some slot ∧
      s.sessions[slot.session]? = some session ∧
      slot.stream.step ⟨session.queueBudget, s.globalBudget⟩ o = .next (shared, stream, ev) ∧
      s' = { s with
        globalBudget := shared.globalBudget
        sessions := s.sessions.set slot.session { session with queueBudget := shared.sessionBudget }
        streams := s.streams.set ref
          { slot with stream, handler := phaseAfter slot.handler o } } := by
  unfold runOp at h
  repeat' split at h
  case h_2 | h_2 => cases h
  next hslot _ session hsession =>
    obtain ⟨⟨shared, stream, ev⟩, hstep, hnext⟩ := Outcome.bind_eq_next.mp h
    cases hnext
    exact ⟨_, session, shared, stream, ev, hslot, hsession, hstep, rfl⟩

/-- What a stream retains on account of session `i`. -/
def retainedBy (i : Nat) (slot : StreamSlot) : Int :=
  if slot.session = i then slot.stream.retained else 0

/-- Each budget in use is the sum of what the streams charged to it retain. -/
structure Conserved (s : QueueState) : Prop where
  global : s.globalBudget.used = total (fun slot => slot.stream.retained) s.streams
  session : ∀ i session, s.sessions[i]? = some session →
    session.queueBudget.used = total (retainedBy i) s.streams
  accounted : ∀ slot ∈ s.streams, slot.stream.Accounted
  hosted : ∀ slot ∈ s.streams, slot.session < s.sessions.length

theorem Conserved.start (limits : Limits) : (start limits).Conserved := by
  constructor <;> simp [QueueState.start, newByteBudget]

variable (hs : s.Conserved) {slot : StreamSlot} {session : Nat}

include hs

/-- A change of owners moves no bytes. -/
theorem Conserved.setSlot {slot slot' : StreamSlot} (hslot : s.streams[ref]? = some slot)
    (hstream : slot'.stream = slot.stream) (hsession : slot'.session = slot.session) :
    (s.setSlot ref slot').Conserved := by
  have hmem : slot ∈ s.streams := List.mem_of_getElem? hslot
  constructor
  · simp only [QueueState.setSlot, total_set hslot, hstream, hs.global]
    omega
  · intro i session hi
    simp only [QueueState.setSlot, total_set hslot, retainedBy, hstream, hsession,
      hs.session i session hi]
    omega
  · exact forall_mem_set hs.accounted (hstream ▸ hs.accounted slot hmem)
  · exact forall_mem_set hs.hosted (hsession ▸ hs.hosted slot hmem)

omit hs in
theorem updateSlot_cases (h : s.updateSlot ref test update = .next s') :
    ∃ slot, s.streams[ref]? = some slot ∧ test slot = true ∧ s' = s.setSlot ref (update slot) := by
  unfold QueueState.updateSlot at h
  repeat' split at h
  all_goals cases h
  next hslot htest => exact ⟨_, hslot, htest, rfl⟩

theorem Conserved.updateSlot (h : s.updateSlot ref test update = .next s')
    (hstream : ∀ slot, (update slot).stream = slot.stream)
    (hsession : ∀ slot, (update slot).session = slot.session) : s'.Conserved := by
  obtain ⟨slot, hslot, -, rfl⟩ := updateSlot_cases h
  exact hs.setSlot hslot (hstream slot) (hsession slot)

/-- What a session's read loop is doing is no matter of budgets. -/
theorem Conserved.setHandling {i : Nat} {session : SessionSlot}
    (hsession : s.sessions[i]? = some session) (handling : Option (Nat × Bytes)) :
    Conserved { s with sessions := s.sessions.set i { session with handling } } := by
  refine ⟨hs.global, ?_, hs.accounted, ?_⟩
  · intro j other hj
    rcases List.of_getElem?_set hj with ⟨rfl, rfl⟩ | ⟨-, hj⟩
    · exact hs.session i session hsession
    · exact hs.session j other hj
  · intro slot hslot
    simpa using hs.hosted slot hslot

/-- A stream step moves the same amount in the stream, its session and the Gateway. -/
theorem Conserved.runOp (h : s.runOp ref o = .next s') : s'.Conserved := by
  obtain ⟨slot, session, shared, stream, ev, hslot, hsession, hstep, rfl⟩ := runOp_cases h
  have hmem : slot ∈ s.streams := List.mem_of_getElem? hslot
  -- what the step charged is what the stream now retains more
  obtain ⟨haccounted, rfl⟩ := (hs.accounted slot hmem).step hstep
  constructor
  · simp only [total_set hslot, SharedBudgets.charge, charge_used, hs.global]
  · intro i other hi
    simp only [total_set hslot]
    rcases List.of_getElem?_set hi with ⟨heq, rfl⟩ | ⟨hne, hi⟩
    · simp only [SharedBudgets.charge, charge_used, retainedBy, heq, if_true,
        hs.session i session (heq ▸ hsession)]
    · simp only [retainedBy, hne, if_false, hs.session i other hi]
      omega
  · exact forall_mem_set hs.accounted haccounted
  · rw [List.length_set]
    exact forall_mem_set hs.hosted (hs.hosted slot hmem)

omit hs in
theorem streamStep_cases (h : s.streamStep ref o = .next s') :
    ∃ slot, s.streams[ref]? = some slot ∧ permits slot o = true ∧ s.runOp ref o = .next s' := by
  unfold streamStep at h
  repeat' split at h
  case h_2 | isFalse => cases h
  next hslot hpermits => exact ⟨_, hslot, hpermits, h⟩

omit hs in
/-- `handleData` drops the frame or enqueues it into the stream it found. -/
theorem enqueue_cases (h : s.enqueue session = .next s') :
    ∃ slot, s.sessions[session]? = some slot ∧
      let idle := { s with sessions := s.sessions.set session { slot with handling := none } }
      s' = idle ∨ ∃ ref data, idle.runOp ref (.enqueue data) = .next s' := by
  simp only [enqueue] at h
  repeat' split at h
  all_goals try cases h
  · exact ⟨_, ‹_›, .inl rfl⟩
  · exact ⟨_, ‹_›, .inr ⟨_, _, h⟩⟩

theorem Conserved.newSession (limit : Int) :
    Conserved { s with sessions := s.sessions ++ [⟨newByteBudget limit, none⟩] } := by
  refine ⟨hs.global, ?_, hs.accounted, ?_⟩
  · intro i session hi
    rcases List.of_getElem?_concat hi with hi | ⟨rfl, rfl⟩
    · exact hs.session i session hi
    · refine (total_eq_zero ?_).symm
      intro slot hslot
      have hne : slot.session ≠ s.sessions.length := Nat.ne_of_lt (hs.hosted slot hslot)
      simp [retainedBy, hne]
  · intro slot hslot
    have hlt := hs.hosted slot hslot
    rw [List.length_append]
    omega

theorem Conserved.openStream (hsession : session < s.sessions.length)
    (datagram : Bool) (queueFrames : Nat) (queueBytes : Int) :
    Conserved { s with streams := s.streams ++
      [⟨newStream datagram queueFrames queueBytes, session, true, .opening⟩] } := by
  have hnew := Stream.Accounted.new datagram queueFrames queueBytes
  have hzero : (newStream datagram queueFrames queueBytes).retained = 0 := hnew.used.symm
  refine ⟨?_, ?_, ?_, ?_⟩
  · simp [hs.global, hzero]
  · intro i slot hi
    simp [hs.session i slot hi, retainedBy, hzero]
  · exact List.forall_mem_append.mpr ⟨hs.accounted, List.forall_mem_singleton.mpr hnew⟩
  · exact List.forall_mem_append.mpr ⟨hs.hosted, List.forall_mem_singleton.mpr hsession⟩

theorem Conserved.step (h : s.step l = .next s') : s'.Conserved := by
  cases l with
  | newSession =>
    cases h
    exact hs.newSession _
  | openStream session datagram =>
    simp only [QueueState.step] at h
    split at h <;> cases h
    next hsession => exact hs.openStream hsession _ _ _
  | openSucceeds | openFails | detach | stopServing | handlerReturns =>
    exact hs.updateSlot h (fun _ => rfl) (fun _ => rfl)
  | lookup session ref data =>
    simp only [QueueState.step] at h
    split at h
    next slot target hslot htarget =>
      split at h <;> cases h
      exact hs.setHandling hslot _
    next => cases h
  | enqueue session =>
    obtain ⟨slot, hslot, rfl | ⟨ref, data, hrun⟩⟩ := enqueue_cases h
    · exact hs.setHandling hslot none
    · exact (hs.setHandling hslot none).runOp hrun
  | op ref o =>
    obtain ⟨-, -, -, hrun⟩ := streamStep_cases h
    exact hs.runOp hrun

/-! ## No release underflows -/

theorem Conserved.runOp_not_panics : ¬ (s.runOp ref o).Panics := by
  unfold QueueState.runOp
  split
  case h_2 => simp
  rename_i slot hslot
  split
  case h_2 => simp
  rename_i session hsession
  have hmem : slot ∈ s.streams := List.mem_of_getElem? hslot
  have hnonneg : ∀ other ∈ s.streams, 0 ≤ other.stream.retained :=
    fun other hother => (hs.accounted other hother).retained_nonneg
  -- a stream releases at most what it retains, and each budget holds at least that
  have hglobal : slot.stream.retained ≤ s.globalBudget.used := by
    rw [hs.global]
    exact le_total hnonneg hmem
  have hbudget : slot.stream.retained ≤ session.queueBudget.used := by
    rw [hs.session slot.session session hsession]
    have hle : retainedBy slot.session slot ≤ total (retainedBy slot.session) s.streams := by
      refine le_total (fun other hother => ?_) hmem
      unfold retainedBy
      split
      · exact hnonneg other hother
      · exact Int.le_refl 0
    simpa [retainedBy] using hle
  have hsafe : ¬ (slot.stream.step ⟨session.queueBudget, s.globalBudget⟩ o).Panics :=
    (hs.accounted slot hmem).step_not_panics hglobal hbudget
  cases hstep : slot.stream.step ⟨session.queueBudget, s.globalBudget⟩ o with
  | panic message =>
    rw [hstep] at hsafe
    exact absurd trivial hsafe
  | _ => simp

/-- No step of a Gateway whose budgets are conserved panics. -/
theorem Conserved.step_not_panics (l : Label) : ¬ (s.step l).Panics := by
  cases l with
  | enqueue session =>
    simp only [QueueState.step, QueueState.enqueue]
    split
    next slot hslot =>
      split
      · split
        · split
          · simp
          · exact (hs.setHandling hslot none).runOp_not_panics
        · simp
      · simp
    · simp
  | op ref o =>
    simp only [QueueState.step, QueueState.streamStep]
    split
    · split
      · exact hs.runOp_not_panics
      · simp
    · simp
  | _ =>
    -- the others touch no budget
    simp only [QueueState.step, QueueState.updateSlot]
    repeat' split
    all_goals simp

omit hs

/-! ## Nothing is lost -/

/-- What a handler leaves behind: after its discard the terminal tail is empty, and after its return
    the stream retains nothing. -/
structure Settled (slot : StreamSlot) : Prop where
  discarded : slot.handler = .discarded →
    slot.stream.terminalReady = true ∧ slot.stream.terminalBytes = 0
  returned : slot.handler = .returned →
    slot.stream.terminalReady = true ∧ slot.stream.retained = 0

/-- Budgets are conserved and no handler left bytes behind. -/
structure Sealed (s : QueueState) : Prop where
  conserved : s.Conserved
  settled : ∀ slot ∈ s.streams, Settled slot

theorem Sealed.start (limits : Limits) : (start limits).Sealed where
  conserved := Conserved.start limits
  settled := by simp [QueueState.start]

/-- A stream step after the end of the stream leaves nothing new behind; the discard of a published
    tail empties it. -/
theorem Settled.retained_of_unowned (hslot : Settled slot)
    (howned : slot.owned = false) : slot.stream.retained = 0 := by
  simp only [StreamSlot.owned, Bool.or_eq_false_iff, bne_eq_false_iff_eq] at howned
  exact (hslot.returned howned.2).2

theorem Settled.streamStep {sh sh' : SharedBudgets} {stream : Stream}
    {o : Stream.Op} {ev : StreamEvent} (hslot : Settled slot) (haccounted : slot.stream.Accounted)
    (hready : o = .discardTerminal → slot.stream.terminalReady = true)
    (h : slot.stream.step sh o = .next (sh', stream, ev)) :
    Settled { slot with stream, handler := phaseAfter slot.handler o } := by
  obtain ⟨hnew, hshared⟩ := haccounted.step h
  have hnonneg := hnew.retained_nonneg
  have htail := hnew.tail_nonneg
  -- only the discard changes the handler's phase; every other step can but release
  by_cases ho : o = .discardTerminal
  · subst ho
    obtain ⟨hready', -, -⟩ := haccounted.step_ready (hready rfl) h
    cases Stream.steps_of_step h
    constructor
    · intro _
      exact ⟨hready', rfl⟩
    · intro hreturned
      simp [phaseAfter] at hreturned
  · have hphase : phaseAfter slot.handler o = slot.handler := by
      cases o with
      | discardTerminal => exact absurd rfl ho
      | _ => rfl
    constructor
    · intro hdiscarded
      obtain ⟨hready₀, hzero⟩ := hslot.discarded (hphase.symm.trans hdiscarded)
      obtain ⟨hready', hle, -⟩ := haccounted.step_ready hready₀ h
      exact ⟨hready', by simp only; omega⟩
    · intro hreturned
      obtain ⟨hready₀, hzero⟩ := hslot.returned (hphase.symm.trans hreturned)
      obtain ⟨hready', -, hgiven⟩ := haccounted.step_ready hready₀ h
      have hle := Stream.Balanced.retained_le ⟨hnew, hshared⟩ hgiven
      exact ⟨hready', by simp only; omega⟩

theorem Sealed.runOp (hs : s.Sealed)
    (hdiscard : o = .discardTerminal → ∀ slot, s.streams[ref]? = some slot →
      slot.stream.terminalReady = true)
    (h : s.runOp ref o = .next s') : s'.Sealed := by
  refine ⟨hs.conserved.runOp h, ?_⟩
  obtain ⟨slot, session, shared, stream, ev, hslot, hsession, hstep, rfl⟩ := runOp_cases h
  have hmem : slot ∈ s.streams := List.mem_of_getElem? hslot
  exact forall_mem_set hs.settled ((hs.settled slot hmem).streamStep
    (hs.conserved.accounted slot hmem) (fun ho => hdiscard ho slot hslot) hstep)

/-- A change of owners that leaves a settled slot keeps everything sealed. -/
theorem Sealed.updateSlot (hs : s.Sealed) (h : s.updateSlot ref test update = .next s')
    (hstream : ∀ slot, (update slot).stream = slot.stream)
    (hsession : ∀ slot, (update slot).session = slot.session)
    (hsettled : ∀ slot, s.streams[ref]? = some slot → slot.stream.Accounted → Settled slot →
      test slot = true → Settled (update slot)) : s'.Sealed := by
  refine ⟨hs.conserved.updateSlot h hstream hsession, ?_⟩
  obtain ⟨slot, hslot, htest, rfl⟩ := updateSlot_cases h
  have hmem : slot ∈ s.streams := List.mem_of_getElem? hslot
  exact forall_mem_set hs.settled
    (hsettled slot hslot (hs.conserved.accounted slot hmem) (hs.settled slot hmem) htest)

/-- A handler returns with an idle reader, nothing in its hands and an empty terminal tail. -/
theorem retained_of_discarded {st : Stream} (hst : st.Accounted) (hready : st.terminalReady = true)
    (htail : st.terminalBytes = 0) (hreader : st.reader = .idle) (hdiscarding : st.discarding = []) :
    st.retained = 0 := by
  have hcollected : st.finishOnce.collected = 0 := by
    rcases hst.ready_iff.mp hready with honce | honce <;> simp [honce, FinishOnce.collected]
  simp [Stream.retained, hst.drained hready, hreader, Reader.heldSize, hcollected, htail,
    hdiscarding]

theorem Sealed.step (hs : s.Sealed) (hkeeps : s.abandons l = false)
    (h : s.step l = .next s') : s'.Sealed := by
  cases l with
  | newSession =>
    cases h
    exact ⟨hs.conserved.newSession _, hs.settled⟩
  | openStream session datagram =>
    refine ⟨hs.conserved.step h, ?_⟩
    simp only [QueueState.step] at h
    split at h <;> cases h
    exact List.forall_mem_append.mpr
      ⟨hs.settled, List.forall_mem_singleton.mpr ⟨by simp, by simp⟩⟩
  | openSucceeds | stopServing =>
    refine hs.updateSlot h (fun _ => rfl) (fun _ => rfl) ?_
    intro slot _ _ _ _
    exact ⟨by simp, by simp⟩
  | openFails ref =>
    refine hs.updateSlot h (fun _ => rfl) (fun _ => rfl) ?_
    intro slot hslot _ _ _
    refine ⟨by simp, fun _ => ?_⟩
    -- a failed open ends the ownership at once, so nothing may be retained by then
    simpa [abandons, hslot] using hkeeps
  | lookup session ref data =>
    refine ⟨hs.conserved.step h, ?_⟩
    simp only [QueueState.step] at h
    split at h
    · split at h <;> cases h
      exact hs.settled
    · cases h
  | enqueue session =>
    obtain ⟨slot, hslot, rfl | ⟨ref, data, hrun⟩⟩ := enqueue_cases h
    · exact ⟨hs.conserved.setHandling hslot none, hs.settled⟩
    · refine Sealed.runOp ⟨hs.conserved.setHandling hslot none, hs.settled⟩ ?_ hrun
      intro ho
      cases ho
  | detach ref =>
    refine hs.updateSlot h (fun _ => rfl) (fun _ => rfl) ?_
    intro slot _ _ hsettled _
    exact ⟨hsettled.discarded, hsettled.returned⟩
  | op ref o =>
    obtain ⟨-, -, -, hrun⟩ := streamStep_cases h
    refine hs.runOp ?_ hrun
    rintro rfl slot hslot
    simpa [abandons, hslot] using hkeeps
  | handlerReturns ref =>
    refine hs.updateSlot h (fun _ => rfl) (fun _ => rfl) ?_
    intro slot _ haccounted hsettled htest
    simp only [Bool.and_eq_true, beq_iff_eq, List.isEmpty_iff] at htest
    obtain ⟨⟨hphase, hreader⟩, hdiscarding⟩ := htest
    obtain ⟨hready, htail⟩ := hsettled.discarded hphase
    refine ⟨by simp, fun _ => ⟨hready, ?_⟩⟩
    exact retained_of_discarded haccounted hready htail hreader hdiscarding

/-- The steps that are taken, as a step system. -/
def next (s : QueueState) (l : Label) : Option QueueState := (s.step l).value?

theorem Sealed.next (hs : s.Sealed) (hkeeps : s.abandons l = false) (h : s.next l = some s') :
    s'.Sealed :=
  hs.step hkeeps (Outcome.value?_eq_some.mp h)

theorem Sealed.global_eq_owned (hs : s.Sealed) :
    s.globalBudget.used =
      total (fun slot => if slot.owned then slot.stream.retained else 0) s.streams := by
  rw [hs.conserved.global, total, total]
  congr 1
  refine List.map_congr_left ?_
  intro slot hslot
  cases howned : slot.owned with
  | true => rfl
  | false => exact (hs.settled slot hslot).retained_of_unowned howned

end

/-- In every run in which no failed open and no discard gives up a stream before its end is published
    and its bytes are released: the global budget in use is what owned streams retain, no release
    underflows, and once all streams are detached and all handlers have returned every budget is
    back to zero. -/
theorem queue_budgets_conserved {limits : Limits} {labels : List Label} {s : QueueState}
    (hkeeps : Along next (fun s l => s.abandons l = false) (start limits) labels)
    (hrun : run next (start limits) labels = some s) :
    s.globalBudget.used =
        total (fun slot => if slot.owned then slot.stream.retained else 0) s.streams ∧
      (∀ l, ¬ (s.step l).Panics) ∧
      ((∀ slot ∈ s.streams, slot.owned = false) →
        s.globalBudget.used = 0 ∧ ∀ session ∈ s.sessions, session.queueBudget.used = 0) := by
  have hs : s.Sealed := invariant_along Sealed.next (Sealed.start limits) hkeeps hrun
  refine ⟨hs.global_eq_owned, hs.conserved.step_not_panics, ?_⟩
  intro hunowned
  have hempty : ∀ slot ∈ s.streams, slot.stream.retained = 0 := by
    intro slot hslot
    exact (hs.settled slot hslot).retained_of_unowned (hunowned slot hslot)
  constructor
  · rw [hs.conserved.global]
    exact total_eq_zero hempty
  · intro session hsession
    obtain ⟨i, hi⟩ := List.getElem?_of_mem hsession
    rw [hs.conserved.session i session hi]
    refine total_eq_zero ?_
    intro slot hslot
    simp [retainedBy, hempty slot hslot]

/-- A response is queued, the Agent closes the stream and the handler discards what it never read. -/
def discardingRun : List Label :=
  [.newSession, .openStream 0 false, .openSucceeds 0, .lookup 0 0 [1, 2, 3], .enqueue 0, .detach 0,
    .op 0 (.finish ioEOF), .op 0 .finishReceive, .op 0 .finishPublish, .op 0 .finishSignal,
    .stopServing 0, .op 0 .discardTerminal, .op 0 (.discardRelease 0), .handlerReturns 0]

theorem discardingRun_conserved :
    ∃ s, run next (start defaultLimits) discardingRun = some s ∧
      s.globalBudget.used =
        total (fun slot => if slot.owned then slot.stream.retained else 0) s.streams ∧
      (∀ l, ¬ (s.step l).Panics) ∧
      ((∀ slot ∈ s.streams, slot.owned = false) →
        s.globalBudget.used = 0 ∧ ∀ session ∈ s.sessions, session.queueBudget.used = 0) := by
  have hkeeps : Along next (fun s l => s.abandons l = false) (start defaultLimits)
      discardingRun := by decide
  exact ⟨_, rfl, queue_budgets_conserved hkeeps rfl⟩

/-- The Agent answers a `stream_open` with data before the open fails, for example because the
    client's context ended while the first credit grant was being sent. -/
def failedOpenRun : List Label :=
  [.newSession, .openStream 0 false, .lookup 0 0 [1, 2, 3], .enqueue 0, .detach 0,
    .op 0 (.finish (some (.sentinel .canceled))), .op 0 .finishReceive, .op 0 .finishPublish,
    .op 0 .finishSignal, .openFails 0]

/-- The stream is detached and nothing is left running, but its bytes stay reserved for good. -/
theorem failedOpenRun_leaks :
    ∃ s, run next (start defaultLimits) failedOpenRun = some s ∧
      (∀ slot ∈ s.streams, slot.owned = false ∧ slot.stream.finishOnce = .done) ∧
      s.globalBudget.used = 3 ∧ (∀ session ∈ s.sessions, session.queueBudget.used = 3) ∧
      s.globalBudget.used ≠
        total (fun slot => if slot.owned then slot.stream.retained else 0) s.streams :=
  ⟨_, rfl, by decide, by decide, by decide, by decide⟩

end QueueState

end Hooshix.Gateway

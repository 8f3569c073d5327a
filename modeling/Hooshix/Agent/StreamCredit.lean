-- SUMMARY: Byte accounting of one Agent stream.
import Hooshix.Agent.Stream

/-! # Credit of an Agent stream

A payload costs its sender credit until the local connection took all of it. Until then it is queued,
or in the hand of the local writer. No step returns more credit than leaves these two places.
-/

namespace Hooshix.Agent

/-- The size of the payload in the writer's hand, until its credit is on the way back. -/
def LocalWriter.owed : LocalWriter → Int
  | .writing _ _ size => size
  | .granting _ size => size
  | _ => 0

attribute [local simp] LocalWriter.owed

namespace AgentStream

/-- The payload bytes whose credit is not yet on its way back. -/
def unreturned (st : AgentStream) : Int := reserved st.incoming + st.writer.owed

/-- The credit that a step puts on its way. A `sendWindowUpdate` that fails may still have handed its
    frame to the session's writer, so its result does not matter. -/
def credit (st : AgentStream) : Op → Option Int
  | .grant _ =>
    match st.writer with
    | .granting _ size => some size
    | _ => none
  | _ => none

/-- Every payload has at most `bound` bytes, and credit is only sent for payloads with bytes. -/
structure Solvent (bound : Int) (st : AgentStream) : Prop where
  owed : 0 ≤ st.writer.owed
  owed_le : st.writer.owed ≤ bound
  queued : ∀ queued ∈ st.incoming, queued.size ≤ bound
  granting : ∀ inner size, st.writer = .granting inner size → 0 < size

theorem Solvent.new {bound : Int} (hbound : 0 ≤ bound) {mode : Contract.StreamMode}
    {flowControlled : Bool} {queueFrames : Nat} {inputBytes : Int} :
    (AgentStream.new mode flowControlled queueFrames inputBytes).Solvent bound where
  owed := Int.le_refl 0
  owed_le := hbound
  queued := by simp [AgentStream.new]
  granting := by simp [AgentStream.new]

theorem Solvent.unreturned_nonneg {bound : Int} {st : AgentStream} (hst : st.Solvent bound) :
    0 ≤ st.unreturned :=
  Int.add_nonneg (reserved_nonneg st.incoming) hst.owed

section Steps

variable {session session' : ByteBudget} {st st' : AgentStream} {ev : StreamEvent} {bound : Int}

/-- The stream stays solvent, and what it keeps or returns was there or has just entered. -/
def Repays (bound : Int) (st st' : AgentStream) (entered returned : Int) : Prop :=
  st'.Solvent bound ∧ st'.unreturned + returned ≤ st.unreturned + entered

variable (hst : st.Solvent bound) {data : Bytes} {writer : LocalWriter} {o : Op}

include hst

/-- The writer goes on with no more in its hand than it had, less what it returned. -/
theorem Solvent.setWriter {returned : Int} (howed : 0 ≤ writer.owed)
    (hreturned : 0 ≤ returned) (hle : writer.owed + returned ≤ st.writer.owed)
    (hgranting : ∀ inner size, writer = .granting inner size → 0 < size) :
    Repays bound st { st with writer } 0 returned := by
  have hbound := hst.owed_le
  refine ⟨{ hst with owed := howed, owed_le := ?_, granting := hgranting }, ?_⟩
  · simp only
    omega
  · simp only [unreturned]
    omega

/-- The writer stops, or goes back to its `select`. -/
theorem Solvent.idleWriter (howed : writer.owed = 0)
    (hidle : ∀ inner size, writer ≠ .granting inner size) :
    Repays bound st { st with writer } 0 0 := by
  refine hst.setWriter (Int.le_of_eq howed.symm) (Int.le_refl 0) ?_ ?_
  · rw [howed]
    exact hst.owed
  · intro inner size hgranting
    exact absurd hgranting (hidle inner size)

theorem Solvent.enqueue (hdata : data.length ≤ bound)
    (h : st.enqueue session data = some (session', st', ev)) :
    Repays bound st st' data.length 0 := by
  rcases enqueue_cases h with ⟨-, -, streamBudget, -, rfl⟩ | ⟨-, -, -, -, streamBudget, -, rfl⟩
  · refine ⟨{ hst with }, ?_⟩
    simp only [unreturned]
    omega
  · refine ⟨{ hst with queued := ?_ }, ?_⟩
    · exact List.forall_mem_append.mpr ⟨hst.queued, List.forall_mem_singleton.mpr hdata⟩
    · simp only [unreturned, reserved, Ledger.total_append, Ledger.total_cons, Ledger.total_nil,
        QueuedPayload.ofData]
      omega

/-- A payload leaves the queue. -/
theorem Solvent.dequeue {queued : QueuedPayload} {incoming : List QueuedPayload}
    (hincoming : st.incoming = queued :: incoming) (streamBudget : ByteBudget) :
    Repays bound st { st with incoming, streamBudget } 0 queued.size := by
  refine ⟨{ hst with queued := ?_ }, ?_⟩
  · intro other hother
    exact hst.queued other (by rw [hincoming]; exact List.mem_cons_of_mem _ hother)
  · simp only [unreturned, hincoming, reserved, Ledger.total_cons]
    omega

/-- Every step but `enqueue` repays what it puts on its way. -/
theorem Solvent.step (hother : ∀ data, o ≠ .enqueue data)
    (h : st.step session o = some (session', st', ev)) :
    Repays bound st st' 0 ((st.credit o).getD 0) := by
  cases steps_of_step hother h with
  | @receiveFails _ queued _ _ hwriter hincoming =>
    -- `writeLocalPayload` releases the budgets first, but the payload stays in the writer's hand
    obtain ⟨htaken, hle⟩ := hst.dequeue hincoming (st.streamBudget.release queued.size).1
    refine ⟨(htaken.idleWriter rfl (by simp)).1, ?_⟩
    have hsize := queued.size_nonneg
    simp only [unreturned, hwriter, LocalWriter.owed, credit, Option.getD_none] at hle ⊢
    omega
  | @receive _ queued _ hwriter hincoming =>
    have hbound : queued.size ≤ bound := hst.queued queued (by simp [hincoming])
    obtain ⟨htaken, hle⟩ := hst.dequeue hincoming (st.streamBudget.release queued.size).1
    refine ⟨{ htaken with owed := queued.size_nonneg, owed_le := hbound, granting := by simp }, ?_⟩
    simp only [unreturned, hwriter, LocalWriter.owed, credit, Option.getD_none] at hle ⊢
    omega
  | contextDone | seeHalfClose | closeWrite | writeFails | owesNothing =>
    exact hst.idleWriter rfl (by simp)
  | @write _ _ size _ hwriter =>
    have howed : 0 ≤ size := by simpa [hwriter] using hst.owed
    refine hst.setWriter howed (Int.le_refl 0) ?_ (by simp)
    simp [hwriter, credit]
  | owesCredit hwriter hsize =>
    refine hst.setWriter (Int.le_of_lt hsize) (Int.le_refl 0) ?_ ?_
    · simp [hwriter, credit]
    · rintro inner' size' ⟨⟩
      exact hsize
  | grantFails hwriter | grant hwriter =>
    -- sent or failed, the debt is settled in this step
    have hsize := Int.le_of_lt (hst.granting _ _ hwriter)
    simp only [credit, hwriter, Option.getD_some]
    refine hst.setWriter (Int.le_refl 0) hsize ?_ (by simp)
    simp [hwriter]
  | @finishReceive queued _ _ hincoming =>
    obtain ⟨htaken, hle⟩ := hst.dequeue hincoming (st.streamBudget.release queued.size).1
    have hsize := queued.size_nonneg
    refine ⟨htaken, ?_⟩
    simp only [credit, Option.getD_none]
    omega
  | finishStream | finishDone | cancel | halfClose => exact ⟨{ hst with }, Int.le_refl _⟩

omit hst

/-- The writer gives up a payload that it has taken. -/
def Op.drops : Op → Bool
  | .receive (some _) | .write _ (some _) => true
  | _ => false

/-- While the stream is not finished and no payload is given up, a step repays all that leaves the
    stream. -/
theorem Solvent.step_exact (hst : st.Solvent bound) (hother : ∀ data, o ≠ .enqueue data)
    (hkeep : o.drops = false) (hflow : st.flowControlled = true) (hopen : st'.finish = .notStarted)
    (h : st.step session o = some (session', st', ev)) :
    st.finish = .notStarted ∧ st'.unreturned + (st.credit o).getD 0 = st.unreturned := by
  cases steps_of_step hother h with
  | receiveFails | writeFails => cases hkeep
  | receive hwriter hincoming =>
    refine ⟨hopen, ?_⟩
    simp only [credit, unreturned, hwriter, hincoming, LocalWriter.owed, reserved, Ledger.total_cons,
      Option.getD_none]
    omega
  | @owesNothing _ size hwriter hunpaid =>
    -- an empty payload costs nothing
    have hzero : size = 0 := by
      have howed : 0 ≤ size := by simpa [hwriter] using hst.owed
      have := hunpaid hflow
      omega
    exact ⟨hopen, by simp [credit, unreturned, hwriter, hzero]⟩
  | contextDone hwriter | seeHalfClose hwriter | closeWrite hwriter | write hwriter
  | owesCredit hwriter | grantFails hwriter | grant hwriter =>
    exact ⟨hopen, by simp [credit, unreturned, hwriter]⟩
  | finishStream | finishDone => cases hopen
  | finishReceive hfinish => simp [hfinish] at hopen
  | cancel | halfClose => exact ⟨hopen, by simp [credit, unreturned]⟩

theorem enqueue_flowControlled (h : st.enqueue session data = some (session', st', ev)) :
    st'.flowControlled = st.flowControlled := by
  rcases enqueue_cases h with ⟨-, -, streamBudget, -, rfl⟩ | ⟨-, -, -, -, streamBudget, -, rfl⟩
  · rfl
  · rfl

/-- A payload that is not rejected enters the stream whole. -/
theorem enqueue_exact (h : st.enqueue session data = some (session', st', ev))
    (hkept : ev ≠ .rejected) :
    st'.unreturned = st.unreturned + data.length ∧ st'.finish = st.finish := by
  rcases enqueue_cases h with ⟨hrejected, -⟩ | ⟨-, -, -, -, streamBudget, -, rfl⟩
  · exact absurd hrejected hkept
  · refine ⟨?_, rfl⟩
    simp only [unreturned, reserved, Ledger.total_append, Ledger.total_cons, Ledger.total_nil,
      QueuedPayload.ofData]
    omega

/-- What is put on its way is worth something, and no more than one payload. -/
theorem Solvent.credit_bounds {size : Int} (hst : st.Solvent bound)
    (h : st.credit o = some size) : 0 < size ∧ size ≤ bound := by
  unfold credit at h
  split at h
  · split at h
    · rename_i inner size' hwriter
      cases h
      refine ⟨hst.granting inner size hwriter, ?_⟩
      simpa [hwriter] using hst.owed_le
    · cases h
  · cases h

end Steps

end AgentStream

end Hooshix.Agent

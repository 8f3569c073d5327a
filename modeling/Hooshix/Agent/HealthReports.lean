-- SUMMARY: The reconnect count of health reports against that of the Runner.
import Hooshix.Lib.StepSystem

/-! # Health reports

The Runner counts the reconnect cycles of all its workers. A session has a count of its own, which is
raised once when the session is established after at least one cycle; this is what it reports.
-/

namespace Hooshix.Agent

/-- The part of `agentSession` that its reports are made from. -/
structure ReportingSession where
  reconnectCount : Nat
  /-- `none` is the zero time. -/
  lastReconnect : Option Int
  /-- The count of the Runner when the session was established. -/
  cycles : Nat

def ReportingSession.observeReconnect (sess : ReportingSession) (now : Int) : ReportingSession :=
  { sess with reconnectCount := sess.reconnectCount + 1, lastReconnect := some now }

/-- A session counts whether there was a cycle before it. -/
def ReportingSession.Raised (sess : ReportingSession) : Prop :=
  sess.reconnectCount = min sess.cycles 1 ∧ (sess.lastReconnect.isSome ↔ 0 < sess.cycles)

/-- A health report, with the count of the Runner that its session was established with. -/
structure CountReport where
  reconnectCount : Nat
  lastReconnectAt : Option Int
  cycles : Nat

/-- The report has the count that the Runner had when its session was established, and the time of the
    last cycle exactly if there was one. -/
def CountReport.Exact (report : CountReport) : Prop :=
  report.reconnectCount = report.cycles ∧ (report.lastReconnectAt.isSome ↔ 0 < report.cycles)

inductive ReportingWorker where
  /-- Dialing, in a full handshake or in a resume. -/
  | attempting
  | serving (sess : ReportingSession)
  /-- The attempt has ended and is not yet counted. -/
  | ended
  | stopped

structure ReportingRunner where
  reconnects : Nat
  workers : Nat → ReportingWorker
  reports : List CountReport

namespace ReportingRunner

inductive Label where
  | established (w : Nat) (now : Int)
  | report (w : Nat)
  /-- The session ends, the attempt fails, or the resume is rejected. -/
  | ended (w : Nat)
  /-- `reconnects.Add(1)`, and the next attempt. -/
  | reconnect (w : Nat)
  /-- The worker returns: shutdown, revocation or a permanent failure. -/
  | stopped (w : Nat)

def start : ReportingRunner := ⟨0, fun _ => .attempting, []⟩

def setWorker (s : ReportingRunner) (w : Nat) (worker : ReportingWorker) : ReportingRunner :=
  { s with workers := fun v => if v = w then worker else s.workers v }

/-- The session after the handshake and the look at `ReconnectCount`. -/
def session (s : ReportingRunner) (now : Int) : ReportingSession :=
  let sess := ⟨0, none, s.reconnects⟩
  if s.reconnects > 0 then sess.observeReconnect now else sess

def step (s : ReportingRunner) : Label → Option ReportingRunner
  | .established w now =>
    match s.workers w with
    | .attempting => some (s.setWorker w (.serving (s.session now)))
    | _ => none
  | .report w =>
    match s.workers w with
    | .serving sess =>
      some { s with reports := s.reports ++ [⟨sess.reconnectCount, sess.lastReconnect, sess.cycles⟩] }
    | _ => none
  | .ended w =>
    match s.workers w with
    | .attempting | .serving _ => some (s.setWorker w .ended)
    | _ => none
  | .reconnect w =>
    match s.workers w with
    | .ended => some { s.setWorker w .attempting with reconnects := s.reconnects + 1 }
    | _ => none
  | .stopped w =>
    match s.workers w with
    | .stopped => none
    | _ => some (s.setWorker w .stopped)

/-- Every report is exact, and none has a lower count than one before it. -/
def Exact (reports : List CountReport) : Prop :=
  (∀ report ∈ reports, report.Exact) ∧
    reports.Pairwise fun first second => first.reconnectCount ≤ second.reconnectCount

/-- The session that reports was established after at most one cycle, and no session that was
    established after more cycles has reported before. -/
def current (s : ReportingRunner) : Label → Bool
  | .report w =>
    match s.workers w with
    | .serving sess => sess.cycles ≤ 1 && s.reports.all (·.cycles ≤ sess.cycles)
    | _ => true
  | _ => true

def Raised (s : ReportingRunner) : Prop := ∀ w sess, s.workers w = .serving sess → sess.Raised

variable {s s' : ReportingRunner} {label : Label}

theorem session_raised (s : ReportingRunner) (now : Int) : (s.session now).Raised := by
  unfold session ReportingSession.Raised
  split
  · simp [ReportingSession.observeReconnect]
    omega
  · simp
    omega

theorem Raised.setWorker {w : Nat} {worker : ReportingWorker} {reconnects : Nat} (hs : s.Raised)
    (hworker : ∀ sess, worker = .serving sess → sess.Raised) :
    Raised { s.setWorker w worker with reconnects } := by
  intro v sess hsess
  simp only [ReportingRunner.setWorker] at hsess
  split at hsess
  · exact hworker sess hsess
  · exact hs v sess hsess

theorem Raised.step (hs : s.Raised) (h : s.step label = some s') : s'.Raised := by
  cases label with
  | established w now =>
    simp only [ReportingRunner.step] at h
    split at h <;> cases h
    refine hs.setWorker ?_
    rintro _ ⟨⟩
    exact session_raised s now
  | report w =>
    simp only [ReportingRunner.step] at h
    split at h <;> cases h
    exact hs
  | _ =>
    simp only [ReportingRunner.step] at h
    split at h <;> cases h
    all_goals exact hs.setWorker nofun

theorem exact_append {reports : List CountReport} {report : CountReport} :
    Exact (reports ++ [report]) ↔ Exact reports ∧ report.Exact ∧
      ∀ before ∈ reports, before.reconnectCount ≤ report.reconnectCount := by
  simp only [Exact, List.forall_mem_append, List.forall_mem_singleton, List.pairwise_append,
    List.pairwise_singleton, true_and]
  tauto

theorem exact_step (hs : s.Raised) (h : s.step label = some s') :
    Exact s'.reports ↔ Exact s.reports ∧ s.current label = true := by
  cases label with
  | report w =>
    simp only [step] at h
    split at h <;> cases h
    next sess hsess =>
      obtain ⟨hraised, htime⟩ := hs w sess hsess
      rw [exact_append]
      refine and_congr_right fun hbefore => ?_
      -- the reports before have the counts of their sessions
      have hcounts : (∀ before ∈ s.reports, before.reconnectCount ≤ sess.reconnectCount) ↔
          ∀ before ∈ s.reports, before.cycles ≤ sess.reconnectCount :=
        forall₂_congr fun before hmem => by rw [(hbefore.1 before hmem).1]
      simp only [current, hsess, Bool.and_eq_true, decide_eq_true_eq, List.all_eq_true,
        CountReport.Exact, htime, and_true, hcounts]
      constructor
      · rintro ⟨hcount, hle⟩
        exact ⟨by omega, fun before hmem => hcount ▸ hle before hmem⟩
      · rintro ⟨hone, hle⟩
        have hcount : sess.reconnectCount = sess.cycles := by omega
        exact ⟨hcount, fun before hmem => hcount ▸ hle before hmem⟩
  | _ =>
    simp only [step] at h
    split at h <;> cases h
    all_goals exact (and_iff_left rfl).symm

/-- The reports are exact and never fall in exactly the runs in which each report is of a session that
    was established after at most one cycle, and after no fewer than those that reported before. -/
theorem health_reports_exact_iff (labels : List Label) (s : ReportingRunner)
    (hrun : StepSystem.run step start labels = some s) :
    Exact s.reports ↔ StepSystem.Along step (fun s label => s.current label = true) start labels := by
  have hstart : Exact start.reports := ⟨nofun, .nil⟩
  have hraised : start.Raised := fun _ _ h => by cases h
  rw [StepSystem.iff_along (J := Raised) (I := fun s => Exact s.reports) (fun hs h => hs.step h)
    (fun hs h => exact_step hs h) hraised hrun, and_iff_right hstart]

/-- A report before and a report after the first reconnect. -/
def firstReconnect : List Label :=
  [.established 0 10, .report 0, .ended 0, .reconnect 0, .established 0 20, .report 0]

theorem health_reports_exact_first : ∃ s, StepSystem.run step start firstReconnect = some s ∧
    s.reports.map (·.reconnectCount) = [0, 1] ∧ Exact s.reports := by
  refine ⟨_, rfl, rfl, ?_⟩
  exact (health_reports_exact_iff firstReconnect _ rfl).mpr (by decide)

/-- After the second reconnect a session reports one, and a standby session that has served all along
    reports none after it. -/
theorem second_reconnect_not_reported : ∃ s, StepSystem.run step start
      [.established 1 10, .ended 0, .reconnect 0, .ended 0, .reconnect 0, .established 0 20, .report 0,
        .report 1] = some s ∧
    s.reports.map (fun report => (report.reconnectCount, report.cycles)) = [(1, 2), (0, 0)] :=
  ⟨_, rfl, rfl⟩

end ReportingRunner

end Hooshix.Agent

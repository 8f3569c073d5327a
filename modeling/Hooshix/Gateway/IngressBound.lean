-- SUMMARY: How long a public HTTP request handler can hold its slot without progress.
import Hooshix.Gateway.IngressWaits

/-! # How long an ingress handler waits

Each place has a limit on the stay and a rest: how long the handler can go on from there without
progress. Two places have no limit of their own. `Window.Take` waits for the Agent's credit, and an
accepted data frame waits for the writer loop, which takes control frames first. A third has one only
once the body was read: a failed request closes its body, which reads from the client. Where credit
and client keep these waits to `credit`, and at most `control` control frames overtake the data frame,
the handler is never further from its last progress than a sum of the configured timeouts.
-/

namespace Hooshix.Gateway

open StepSystem IngressPlace

/-- The time of `n` frame writes. -/
def Limits.frames (limits : Limits) (n : Nat) : Int := n * limits.writeTimeout

/-- The timeouts the handler works with are not negative. -/
structure Limits.Timed (limits : Limits) : Prop where
  read : 0 ≤ limits.readTimeout
  write : 0 ≤ limits.writeTimeout
  phase : 0 ≤ limits.responsePhaseTimeout

theorem Limits.timed_of_valid {limits : Limits} (h : limits.valid = true) : limits.Timed := by
  simp only [Limits.valid, Bool.and_eq_true, decide_eq_true_eq] at h
  constructor <;> omega

section Frames

variable {limits : Limits}

theorem Limits.frames_zero : limits.frames 0 = 0 := by simp [Limits.frames]

theorem Limits.frames_succ (n : Nat) :
    limits.frames (n + 1) = limits.frames n + limits.writeTimeout := by
  simp [Limits.frames, Int.add_mul]

theorem Limits.Timed.frames_mono (ht : limits.Timed) {m n : Nat} (h : m ≤ n) :
    limits.frames m ≤ limits.frames n :=
  Int.mul_le_mul_of_nonneg_right (Int.ofNat_le.mpr h) ht.write

theorem Limits.Timed.frames_nonneg (ht : limits.Timed) (n : Nat) : 0 ≤ limits.frames n := by
  have h := ht.frames_mono (Nat.zero_le n)
  rwa [Limits.frames_zero] at h

end Frames

namespace IngressPlace

section Rest

variable (limits : Limits) (credit control : Nat)

/-- How long the handler stays at a place. -/
def limit : IngressPlace → Int
  | .openingStream _ | .grantingCredit _ | .queueing _ | .returningCredit _ | .writingHead
  | .writingBody | .sendingEnd => limits.writeTimeout
  | .readingBody => limits.readTimeout
  | .takingCredit _ _ => credit
  | .awaitingResult _ => limits.frames (control + 3)
  | .closingBody => limits.readTimeout + credit
  | .reading _ => limits.responsePhaseTimeout
  | .arriving | .serializing _ | .handling _ | .ending | .returned => 0

/-- How long the handler goes on after a failed request. -/
def restFailed : Int := limits.readTimeout + credit + limits.writeTimeout

/-- How long the handler goes on from the end of its request. -/
def restResponse : Int := 2 * limits.responsePhaseTimeout + 3 * limits.writeTimeout

/-- How long the handler goes on with a chunk of the request that it does not get rid of. -/
def restChunk : Int :=
  credit + limits.writeTimeout + limits.frames (control + 3) + restFailed limits credit

/-- How long the handler goes on when the request body was read. -/
def restSerialized : Int := restChunk limits credit control + restResponse limits

/-- How long the handler goes on from a place without progress. -/
def rest : IngressPlace → Int
  | .arriving | .returned => 0
  | .ending | .sendingEnd | .returningCredit _ => limits.writeTimeout
  | .closingBody => restFailed limits credit
  | .handling .drain | .reading .drain | .reading .head =>
    limits.responsePhaseTimeout + limits.writeTimeout
  | .reading .body => 2 * limits.responsePhaseTimeout + limits.writeTimeout
  | .writingBody => limits.responsePhaseTimeout + 2 * limits.writeTimeout
  | .handling .body => 2 * limits.responsePhaseTimeout + 2 * limits.writeTimeout
  | .handling .head | .writingHead => restResponse limits
  | .awaitingResult _ => limits.frames (control + 3) + restFailed limits credit
  | .queueing _ => limits.writeTimeout + limits.frames (control + 3) + restFailed limits credit
  | .takingCredit _ _ => restChunk limits credit control
  | .serializing false => restSerialized limits credit control
  | .serializing true | .readingBody => limits.readTimeout + restSerialized limits credit control
  | .grantingCredit _ =>
    limits.writeTimeout + limits.readTimeout + restSerialized limits credit control
  | .openingStream _ =>
    2 * limits.writeTimeout + limits.readTimeout + restSerialized limits credit control

/-- The longest time without progress. -/
def bound : Int := rest limits credit control (.openingStream true)

end Rest

/-- Where a place leads without progress. -/
inductive Follows : IngressPlace → IngressPlace → Prop
  | opened (body : Bool) : Follows (.openingStream body) (.grantingCredit body)
  | openedFree (body : Bool) : Follows (.openingStream body) (.serializing body)
  | notOpened (body : Bool) : Follows (.openingStream body) .returned
  | granted (body : Bool) : Follows (.grantingCredit body) (.serializing body)
  | notGranted (body : Bool) : Follows (.grantingCredit body) .returned
  | readBody : Follows (.serializing true) .readingBody
  | bodyEnded : Follows .readingBody (.serializing false)
  | bodyFailed : Follows .readingBody (.failed true)
  | forwardCredit (body : Bool) (size : Int) :
    Follows (.serializing body) (.takingCredit body size)
  | forward (body : Bool) : Follows (.serializing body) (.queueing body)
  | abandon (body : Bool) : Follows (.serializing body) (.failed body)
  | taken (body : Bool) (size : Int) : Follows (.takingCredit body size) (.queueing body)
  | notTaken (body : Bool) (size : Int) : Follows (.takingCredit body size) (.failed body)
  | queued (body : Bool) : Follows (.queueing body) (.awaitingResult body)
  | notQueued (body : Bool) : Follows (.queueing body) (.failed body)
  | notWritten (body : Bool) : Follows (.awaitingResult body) (.failed body)
  | bodyClosed : Follows .closingBody .ending
  | requestWritten : Follows (.serializing false) (.handling .head)
  | readStream (part : ResponsePart) : Follows (.handling part) (.reading part)
  | streamRead (part : ResponsePart) : Follows (.reading part) (.returningCredit part)
  | readFails (part : ResponsePart) : Follows (.reading part) (.afterRead part)
  | headAccepted : Follows (.handling .head) .writingHead
  | headRefused : Follows (.handling .head) (.handling .drain)
  | headFails : Follows (.handling .head) .ending
  | headWritten : Follows .writingHead (.handling .body)
  | headNotWritten : Follows .writingHead (.handling .drain)
  | writePublic : Follows (.handling .body) .writingBody
  | notWrittenPublic : Follows .writingBody (.handling .drain)
  | copyDone : Follows (.handling .body) (.handling .drain)
  | responseClosed : Follows (.handling .drain) .ending
  | sendEnd : Follows .ending .sendingEnd
  | endUnsent : Follows .ending .returned
  | endSent : Follows .sendingEnd .returned

theorem Follows.holdsSlot {p q : IngressPlace} (h : Follows p q) : p.holdsSlot = true := by
  cases h <;> rfl

section Bounds

variable {limits : Limits} {credit control : Nat}

/-- Every move without progress fits into the rest of the place it leaves. -/
theorem Follows.rest_le (ht : limits.Timed) {p q : IngressPlace} (h : Follows p q) :
    p.limit limits credit control + q.rest limits credit control ≤
      p.rest limits credit control := by
  obtain ⟨hread, hwrite, hphase⟩ := ht
  have hframes := Limits.Timed.frames_nonneg ⟨hread, hwrite, hphase⟩ (control + 3)
  cases h with
  | openedFree body | granted body | forward body | forwardCredit body _ =>
    cases body <;> simp only [limit, rest, restSerialized, restChunk, restFailed, restResponse] <;>
      omega
  | abandon body | notTaken body _ | notQueued body | notWritten body =>
    cases body <;>
      simp only [failed, limit, rest, restSerialized, restChunk, restFailed, restResponse] <;> omega
  | readStream part | readFails part | streamRead part =>
    cases part <;> simp only [afterRead, limit, rest, restResponse] <;> omega
  | _ =>
    simp only [failed, limit, rest, restSerialized, restChunk, restFailed, restResponse]
    omega

/-- A stay fits into the rest of its place, and the rest of every place into the bound. -/
theorem limit_rest_bound (ht : limits.Timed) (place : IngressPlace) :
    0 ≤ place.limit limits credit control ∧
      place.limit limits credit control ≤ place.rest limits credit control ∧
      place.rest limits credit control ≤ bound limits credit control := by
  obtain ⟨hread, hwrite, hphase⟩ := ht
  have hframes := Limits.Timed.frames_nonneg ⟨hread, hwrite, hphase⟩ (control + 3)
  cases place with
  | handling kind | reading kind | serializing kind =>
    cases kind <;>
      simp only [bound, limit, rest, restSerialized, restChunk, restFailed, restResponse] <;> omega
  | _ =>
    simp only [bound, limit, rest, restSerialized, restChunk, restFailed, restResponse]
    omega

end Bounds

/-- The handler waits for the result of its data frame. -/
def awaits : IngressPlace → Bool
  | .awaitingResult _ => true
  | _ => false

@[simp] theorem awaits_failed (body : Bool) : (failed body).awaits = false := by
  cases body <;> rfl

@[simp] theorem awaits_afterRead (part : ResponsePart) : (afterRead part).awaits = false := by
  cases part <;> rfl

end IngressPlace

namespace Ingress

/-! ## What a step of the handler does -/

/-- A step of the handler that leaves the writer loop alone and does not wait for it. -/
structure Frame (limits : Limits) (s s' : Ingress) : Prop where
  writing : s'.writing = s.writing
  armed : s'.armed = s.armed ∨ s'.armed = s.stage.now
  readDeadline : s'.readDeadline = s.readDeadline ∨
    s'.readDeadline = some (s.stage.now + limits.readTimeout)
  elsewhere : s'.stage.place.awaits = false

/-- A step of the handler to another place. -/
inductive Moves (limits : Limits) (s s' : Ingress) : Prop
  | hop (place : IngressPlace) (hfollows : s.stage.place.Follows place)
      (hstage : s'.stage = s.stage.enter place) (hframe : s.Frame limits s')
  | progress (place : IngressPlace) (hstage : s'.stage = s.stage.advance place)
      (hframe : s.Frame limits s')

section Moves

variable {limits : Limits} {s s' : Ingress} {place : IngressPlace}

variable {window : Option TunnelWindow.Window} {armed : Int} {readDeadline : Option Int}

theorem Moves.enter (hfollows : s.stage.place.Follows place)
    (harmed : armed = s.armed ∨ armed = s.stage.now)
    (hread : readDeadline = s.readDeadline ∨ readDeadline = some (s.stage.now + limits.readTimeout))
    (hplace : place.awaits = false) :
    s.Moves limits { s.enter place with window, armed, readDeadline } :=
  .hop place hfollows rfl ⟨rfl, harmed, hread, hplace⟩

theorem Moves.advance (harmed : armed = s.armed ∨ armed = s.stage.now)
    (hplace : place.awaits = false) :
    s.Moves limits { s.advance place with window, armed } :=
  .progress place rfl ⟨rfl, harmed, .inl rfl, hplace⟩

/-- The handler puts its data frame into the queue. -/
def Queues (s s' : Ingress) : Prop :=
  ∃ body, s.stage.place = .queueing body ∧ s.dataWrites.length < dataWritesCapacity ∧
    s' = { s.enter (.awaitingResult body) with
      dataWrites := s.dataWrites ++ [true], overtaken := 0 }

theorem requestStep_cases {act : RequestAct} (h : s.requestStep limits act = some s') :
    s.Moves limits s' ∨ s.Queues s' := by
  cases act with
  | enqueueData =>
    simp only [requestStep] at h
    repeat' split at h
    all_goals cases h
    next body hplace hroom => exact .inr ⟨body, hplace, hroom, rfl⟩
  | _ =>
    simp only [requestStep] at h
    repeat' split at h
    all_goals cases h
    -- each branch is a move of `Follows`, or a slot or bytes of the body that the handler got
    all_goals
      first
        | exact .inl (.advance (.inl rfl) rfl)
        | exact .inl (.enter (by simp only [*]; constructor) (by simp [enter]) (by simp [enter])
            (by first | rfl | simp))

theorem responseStep_moves {act : ResponseAct} (h : s.responseStep act = some s') :
    s.Moves limits s' := by
  cases act <;> simp only [responseStep] at h
  all_goals repeat' split at h
  all_goals cases h
  -- each branch is a move of `Follows`, or bytes that begin the phase anew
  all_goals
    first
      | exact .advance (.inr rfl) rfl
      | exact .enter (by simp only [*]; constructor) (by simp) (by simp) (by first | rfl | simp)

theorem controlDone_moves {ok : Bool} (h : s.controlDone ok = some s') : s.Moves limits s' := by
  simp only [controlDone] at h
  repeat' split at h
  all_goals cases h
  all_goals
    first
      | exact .advance (.inr rfl) rfl
      | exact .enter (by simp only [*]; constructor) (by simp) (by simp) rfl

end Moves

/-! ## Waiting for the writer loop -/

/-- The handler's data frame is being written, or waits behind at most one other data frame. Each frame
    begun since it was queued took at most one write timeout. -/
inductive Queued (limits : Limits) (s : Ingress) : Prop
  | written (since : Int) (hwriting : s.writing = some ⟨true, since⟩)
      (hsince : since ≤ s.stage.since + limits.frames (s.overtaken + 2))
  | behind (before rest : List Bool) (begun : Nat) (hdata : s.dataWrites = before ++ true :: rest)
      (hbegun : before.length + begun = 1)
      (hnow : s.stage.now ≤ s.stage.since + limits.frames (s.overtaken + begun + 1))
      (hsince : ∀ w ∈ s.writing, w.since ≤ s.stage.since + limits.frames (s.overtaken + begun))

/-- The frame that is being written is within its deadline. -/
def WriteDue (limits : Limits) (s : Ingress) : Prop :=
  ∀ w ∈ s.writing, w.since ≤ s.stage.now ∧ s.stage.now ≤ w.since + limits.writeTimeout

section Queued

variable {limits : Limits} {s : Ingress}

variable (hqueued : s.Queued limits)

include hqueued

theorem Queued.now_le (ht : limits.Timed) (hdue : s.WriteDue limits) :
    s.stage.now ≤ s.stage.since + limits.frames (s.overtaken + 3) := by
  cases hqueued with
  | written since hwriting hsince =>
    have hnow := (hdue _ hwriting).2
    rw [Limits.frames_succ]
    dsimp only at hnow
    omega
  | behind before rest begun hdata hbegun hnow hsince =>
    exact Int.le_trans hnow (Int.add_le_add_left (ht.frames_mono (by omega)) _)

/-- What the handler waits for in its own place does not matter to the writer loop. -/
theorem Queued.apart {window : Option TunnelWindow.Window} {expired : Bool} :
    { s with window, expired }.Queued limits := by
  cases hqueued with
  | written since hwriting hsince => exact .written since hwriting hsince
  | behind before rest begun hdata hbegun hnow hsince =>
    exact .behind before rest begun hdata hbegun hnow hsince

omit hqueued in
/-- The writer loop does not rest before a queued data frame. -/
theorem writing_of_data (hdone : s.done = false) (hready : s.writerReady = false)
    (hdata : s.dataWrites ≠ []) : ∃ w, s.writing = some w := by
  rw [← Option.ne_none_iff_exists']
  simpa [writerReady, hdone, hdata] using hready

/-- Time passes only while the writer loop writes. -/
theorem Queued.wait {now : Int} (hdone : s.done = false) (hready : s.writerReady = false)
    (hdue : ∀ w ∈ s.writing, now ≤ w.since + limits.writeTimeout) :
    { s with stage := s.stage.wait now }.Queued limits := by
  cases hqueued with
  | written since hwriting hsince => exact .written since hwriting hsince
  | behind before rest begun hdata hbegun hnow hsince =>
    obtain ⟨w, hw⟩ := writing_of_data hdone hready (by simp [hdata])
    refine .behind before rest begun hdata hbegun ?_ hsince
    have hstep := hdue w hw
    have hstarted := hsince w hw
    simp only [Stage.wait, Limits.frames_succ]
    omega

omit hqueued in
/-- The handler has just queued its frame. -/
theorem Queued.enqueue (ht : limits.Timed) {body : Bool}
    (hroom : s.dataWrites.length < dataWritesCapacity) (hdue : s.WriteDue limits) :
    { s.enter (.awaitingResult body) with
      dataWrites := s.dataWrites ++ [true], overtaken := 0 }.Queued limits := by
  have hnow (n : Nat) : s.stage.now ≤ s.stage.now + limits.frames n :=
    Int.le_add_of_nonneg_right (ht.frames_nonneg n)
  match hdata : s.dataWrites with
  | [] => exact .behind [] [] 1 rfl rfl (hnow 2) fun w hw => Int.le_trans (hdue w hw).1 (hnow 1)
  | [other] =>
    exact .behind [other] [] 0 rfl rfl (hnow 1) fun w hw => Int.le_trans (hdue w hw).1 (hnow 0)
  | _ :: _ :: rest =>
    rw [hdata, List.length_cons, List.length_cons, dataWritesCapacity] at hroom
    omega

/-- Another stream's frame goes behind. -/
theorem Queued.otherData : { s with dataWrites := s.dataWrites ++ [false] }.Queued limits := by
  cases hqueued with
  | written since hwriting hsince => exact .written since hwriting hsince
  | behind before rest begun hdata hbegun hnow hsince =>
    exact .behind before (rest ++ [false]) begun (by simp [hdata]) hbegun hnow hsince

/-- A control frame overtakes. -/
theorem Queued.writerControl (ht : limits.Timed) (hidle : s.writing = none) :
    { s with
      writing := some ⟨false, s.stage.now⟩, overtaken := s.overtaken + 1 }.Queued limits := by
  cases hqueued with
  | written since hwriting hsince => rw [hidle] at hwriting; cases hwriting
  | behind before rest begun hdata hbegun hnow hsince =>
    have hmono := ht.frames_mono (Nat.le_succ (s.overtaken + begun + 1))
    refine .behind before rest begun hdata hbegun ?_ ?_
    · rw [Nat.add_right_comm s.overtaken]
      exact Int.le_trans hnow (Int.add_le_add_left hmono _)
    · rintro w ⟨⟩
      rw [Nat.add_right_comm s.overtaken]
      exact hnow

/-- The writer loop takes the first data frame. -/
theorem Queued.writerData (ht : limits.Timed) (hidle : s.writing = none) {mine : Bool}
    {rest : List Bool} (htaken : s.dataWrites = mine :: rest) :
    { s with writing := some ⟨mine, s.stage.now⟩, dataWrites := rest }.Queued limits := by
  cases hqueued with
  | written since hwriting hsince => rw [hidle] at hwriting; cases hwriting
  | behind before rest begun hdata hbegun hnow hsince =>
    cases before with
    | nil =>
      obtain ⟨rfl, rfl⟩ := List.cons.inj (htaken.symm.trans hdata)
      obtain rfl : begun = 1 := by simpa using hbegun
      exact .written s.stage.now rfl hnow
    | cons other before =>
      obtain ⟨rfl, rfl⟩ := List.cons.inj (htaken.symm.trans hdata)
      have hmono := ht.frames_mono (Nat.le_succ (s.overtaken + begun + 1))
      refine .behind before rest (begun + 1) rfl ?_ (Int.le_trans hnow (Int.add_le_add_left hmono _)) ?_
      · simp only [List.length_cons] at hbegun
        omega
      · rintro w ⟨⟩
        exact hnow

/-- The writer loop has written another frame. -/
theorem Queued.frameWritten (hother : ∀ since, s.writing ≠ some ⟨true, since⟩) :
    { s with writing := none }.Queued limits := by
  cases hqueued with
  | written since hwriting hsince => exact absurd hwriting (hother since)
  | behind before rest begun hdata hbegun hnow hsince =>
    exact .behind before rest begun hdata hbegun hnow (by rintro w ⟨⟩)

end Queued

/-! ## The bound along runs -/

/-- Credit, and the rest of a failed request's body, come in `credit`; at most `control` control frames
    are begun while the handler waits for its data frame. -/
def prompt (credit control : Nat) (s : Ingress) : Label → Bool
  | .tick now =>
    match s.stage.place with
    | .takingCredit _ _ => decide (now ≤ s.stage.since + (credit : Int))
    | .closingBody => s.readDeadline.isSome || decide (now ≤ s.stage.since + (credit : Int))
    | _ => true
  | .session .writerControl => !s.stage.place.awaits || decide (s.overtaken < control)
  | _ => true

/-- The handler is at its place within the limit, and the rest fits the bound. -/
abbrev InTime (limits : Limits) (credit control : Nat) (stage : Stage IngressPlace) : Prop :=
  stage.Timely (limit limits credit control)
    (rest limits credit control) (bound limits credit control)

structure Bounded (limits : Limits) (credit control : Nat) (s : Ingress) : Prop where
  since_le : s.stage.since ≤ s.stage.now
  inTime : s.stage.place.holdsSlot = true → InTime limits credit control s.stage
  armed_le : s.armed ≤ s.stage.since
  readDeadline_le : ∀ due ∈ s.readDeadline, due ≤ s.stage.since + limits.readTimeout
  writeDue : s.WriteDue limits
  queued : s.stage.place.awaits = true → s.done = false → s.Queued limits
  overtaken_le : s.stage.place.awaits = true → s.overtaken ≤ control

section Bounded

variable {limits : Limits} {credit control : Nat} {s s' : Ingress}

theorem Bounded.start (flowControlled : Bool) (now : Int) :
    (start flowControlled now).Bounded limits credit control where
  since_le := Int.le_refl now
  inTime := by rintro ⟨⟩
  armed_le := Int.le_refl now
  readDeadline_le := by rintro due ⟨⟩
  writeDue := by rintro w ⟨⟩
  queued := by rintro ⟨⟩
  overtaken_le := by rintro ⟨⟩

/-- The handler comes to a new place. -/
theorem Bounded.arrive (hs : s.Bounded limits credit control) (hnow : s'.stage.now = s.stage.now)
    (hsince : s'.stage.since = s.stage.now) (hinTime : InTime limits credit control s'.stage)
    (harmed : s'.armed = s.armed ∨ s'.armed = s.stage.now)
    (hread : s'.readDeadline = s.readDeadline ∨
      s'.readDeadline = some (s.stage.now + limits.readTimeout))
    (hdue : s'.WriteDue limits)
    (hqueued : s'.stage.place.awaits = true → s'.Queued limits ∧ s'.overtaken ≤ control) :
    s'.Bounded limits credit control where
  since_le := by rw [hnow, hsince]
  inTime := fun _ => hinTime
  armed_le := by
    have hsince_le := hs.since_le
    have harmed_le := hs.armed_le
    omega
  readDeadline_le := by
    intro due hdue
    have hsince_le := hs.since_le
    rw [hsince]
    rcases hread with h | h <;> rw [h] at hdue
    · have hdue_le := hs.readDeadline_le due hdue
      omega
    · cases hdue
      omega
  writeDue := hdue
  queued := fun hawaits _ => (hqueued hawaits).1
  overtaken_le := fun hawaits => (hqueued hawaits).2

variable (ht : limits.Timed) (hs : s.Bounded limits credit control) {now : Int}

include ht hs

theorem Bounded.moves (hmoves : s.Moves limits s') : s'.Bounded limits credit control := by
  obtain ⟨hinTime, hnow, hsince, hframe⟩ : InTime limits credit control s'.stage ∧
      s'.stage.now = s.stage.now ∧ s'.stage.since = s.stage.now ∧ s.Frame limits s' := by
    cases hmoves with
    | hop place hfollows hstage hframe =>
      rw [hstage]
      exact ⟨(hs.inTime hfollows.holdsSlot).enter (place.limit_rest_bound ht).1 (hfollows.rest_le ht),
        rfl, rfl, hframe⟩
    | progress place hstage hframe =>
      rw [hstage]
      exact ⟨.advance (place.limit_rest_bound ht).1 (place.limit_rest_bound ht).2.2, rfl, rfl, hframe⟩
  refine hs.arrive hnow hsince hinTime hframe.armed hframe.readDeadline ?_ (by simp [hframe.elsewhere])
  intro w hw
  rw [hnow]
  exact hs.writeDue w (hframe.writing ▸ hw)

theorem Bounded.queues (hqueues : s.Queues s') : s'.Bounded limits credit control := by
  obtain ⟨body, hplace, hroom, rfl⟩ := hqueues
  have hfollows : s.stage.place.Follows (.awaitingResult body) := hplace ▸ .queued body
  exact hs.arrive rfl rfl
    ((hs.inTime hfollows.holdsSlot).enter (limit_rest_bound ht _).1 (hfollows.rest_le ht))
    (.inl rfl) (.inl rfl) hs.writeDue fun _ => ⟨.enqueue ht hroom hs.writeDue, Nat.zero_le control⟩

omit ht in
/-- A step that leaves the handler where it is. -/
theorem Bounded.still (hstage : s'.stage = s.stage) (harmed : s'.armed = s.armed)
    (hread : s'.readDeadline = s.readDeadline) (hdue : s'.WriteDue limits)
    (hqueued : s.stage.place.awaits = true → s'.done = false → s'.Queued limits)
    (hovertaken : s.stage.place.awaits = true → s'.overtaken ≤ control) :
    s'.Bounded limits credit control where
  since_le := hstage ▸ hs.since_le
  inTime := hstage ▸ hs.inTime
  armed_le := by rw [harmed, hstage]; exact hs.armed_le
  readDeadline_le := by rw [hread, hstage]; exact hs.readDeadline_le
  writeDue := hdue
  queued := by rw [hstage]; exact hqueued
  overtaken_le := by rw [hstage]; exact hovertaken

omit ht in
/-- Credit that arrives and a phase that expires are no matter of the writer loop. -/
theorem Bounded.apart {window : Option TunnelWindow.Window} {expired : Bool} :
    { s with window, expired }.Bounded limits credit control :=
  { hs with queued := fun hawaits hdone => (hs.queued hawaits hdone).apart }

omit hs in
/-- A frame that is begun now is within its deadline. -/
theorem writeDue_begun {mine : Bool} {dataWrites : List Bool} {overtaken : Nat} :
    { s with writing := some ⟨mine, s.stage.now⟩, dataWrites, overtaken }.WriteDue limits := by
  rintro w ⟨⟩
  exact ⟨Int.le_refl _, Int.le_add_of_nonneg_right ht.write⟩

theorem Bounded.frameWritten (h : s.frameWritten = some s') : s'.Bounded limits credit control := by
  simp only [Ingress.frameWritten] at h
  split at h <;> cases h
  next since body hwriting hplace =>
    exact hs.arrive rfl rfl (.advance (limit_rest_bound ht _).1 (limit_rest_bound ht _).2.2)
      (.inl rfl) (.inl rfl) (by rintro w ⟨⟩) (by rintro ⟨⟩)
  next w hwriting hother =>
    refine hs.still rfl rfl rfl (by rintro w ⟨⟩) ?_ hs.overtaken_le
    intro hawaits hdone
    refine (hs.queued hawaits hdone).frameWritten ?_
    intro since hmine
    cases hplace : s.stage.place with
    | awaitingResult body =>
      obtain rfl := Option.some.inj (hwriting.symm.trans hmine)
      exact hother since body hplace rfl
    | _ => rw [hplace] at hawaits; cases hawaits

theorem Bounded.sessionStep {act : SessionAct}
    (hprompt : s.prompt credit control (.session act) = true) (h : s.sessionStep act = some s') :
    s'.Bounded limits credit control := by
  cases act
  case frameWritten => exact hs.frameWritten ht h
  all_goals
    simp only [Ingress.sessionStep] at h
    repeat' split at h
    all_goals cases h
  -- one goal for each act that is left, in their order
  · exact hs.apart
  · exact hs.apart
  · exact hs.still rfl rfl rfl hs.writeDue
      (fun hawaits hdone => (hs.queued hawaits hdone).otherData) hs.overtaken_le
  next hidle =>
    simp only [Bool.and_eq_true, Bool.not_eq_true', Option.isNone_iff_eq_none] at hidle
    refine hs.still rfl rfl rfl (writeDue_begun ht) ?_ ?_
    · intro hawaits _
      exact (hs.queued hawaits hidle.1).writerControl ht hidle.2
    · intro hawaits
      have hfewer : s.overtaken < control := by simpa [prompt, hawaits] using hprompt
      exact hfewer
  next hidle _ mine rest hdata =>
    simp only [Bool.and_eq_true, Bool.not_eq_true', Option.isNone_iff_eq_none] at hidle
    refine hs.still rfl rfl rfl (writeDue_begun ht) ?_ hs.overtaken_le
    intro hawaits _
    exact (hs.queued hawaits hidle.1).writerData ht hidle.2 hdata
  · exact hs.still rfl rfl rfl (by rintro w ⟨⟩) (by rintro _ ⟨⟩) hs.overtaken_le
  · exact hs.still rfl rfl rfl hs.writeDue (by rintro _ ⟨⟩) hs.overtaken_le

omit ht hs in
/-- What it takes for time to pass. -/
theorem passes_iff : s.passes limits now = true ↔
    s.writerReady = false ∧ s.handlerReady = false ∧ s.stage.now ≤ now ∧
      (∀ due ∈ s.placeTimers limits, now ≤ due) ∧ (∀ due ∈ s.phaseTimer limits, now ≤ due) ∧
      ∀ due ∈ s.writeTimer limits, now ≤ due := by
  simp only [passes, timers, Bool.and_eq_true, Bool.not_eq_true', Stage.passes_iff,
    List.mem_append, or_imp, forall_and, and_assoc]

/-- Time passes no further than the place allows. -/
theorem Bounded.passes_limit (hslot : s.stage.place.holdsSlot = true)
    (hprompt : s.prompt credit control (.tick now) = true) (hpasses : s.passes limits now = true)
    (hqueued : s.stage.place.awaits = true → now ≤ s.stage.since + limits.frames (control + 3)) :
    now ≤ s.stage.since + s.stage.place.limit limits credit control := by
  obtain ⟨-, hready, -, hplaceDue, hphaseDue, -⟩ := passes_iff.mp hpasses
  cases hplace : s.stage.place with
  | arriving | returned => rw [hplace] at hslot; cases hslot
  | serializing _ | handling _ | ending => simp [handlerReady, hplace] at hready
  | openingStream _ | grantingCredit _ | queueing _ | returningCredit _ | writingHead | writingBody
  | sendingEnd | readingBody => simpa [placeTimers, hplace, limit] using hplaceDue
  | takingCredit _ _ => simpa [prompt, hplace, limit] using hprompt
  | awaitingResult body => exact hqueued (by rw [hplace]; rfl)
  | closingBody =>
    have hread := ht.read
    simp only [placeTimers, hplace, Option.mem_toList] at hplaceDue
    simp only [limit]
    cases hdeadline : s.readDeadline with
    | some due =>
      have hnow := hplaceDue due hdeadline
      have hdue := hs.readDeadline_le due hdeadline
      omega
    | none =>
      have hnow : now ≤ s.stage.since + (credit : Int) := by
        simpa [prompt, hplace, hdeadline] using hprompt
      omega
  | reading part =>
    have hexpired : s.expired = false := by simpa [handlerReady, hplace] using hready
    have hnow : now ≤ s.armed + limits.responsePhaseTimeout := by
      simpa [phaseTimer, hplace, hexpired, inPhase] using hphaseDue
    have harmed := hs.armed_le
    simp only [limit]
    omega

theorem Bounded.tick (hprompt : s.prompt credit control (.tick now) = true)
    (hpasses : s.passes limits now = true) :
    { s with stage := s.stage.wait now }.Bounded limits credit control := by
  obtain ⟨hwriter, hready, hnow, -, -, hwriteDue⟩ := passes_iff.mp hpasses
  have hdue : ∀ w ∈ s.writing, now ≤ w.since + limits.writeTimeout := by
    intro w hw
    have hwriting : s.writing = some w := hw
    simpa [writeTimer, hwriting] using hwriteDue
  have hwriteDue : { s with stage := s.stage.wait now }.WriteDue limits :=
    fun w hw => ⟨Int.le_trans (hs.writeDue w hw).1 hnow, hdue w hw⟩
  have hqueued (hawaits : s.stage.place.awaits = true) (hdone : s.done = false) :
      { s with stage := s.stage.wait now }.Queued limits :=
    (hs.queued hawaits hdone).wait hdone hwriter hdue
  have hframes (hawaits : s.stage.place.awaits = true) :
      now ≤ s.stage.since + limits.frames (control + 3) := by
    have hdone : s.done = false := by
      cases hplace : s.stage.place with
      | awaitingResult body => simpa [handlerReady, hplace] using hready
      | _ => rw [hplace] at hawaits; cases hawaits
    have hmono := ht.frames_mono (Nat.add_le_add_right (hs.overtaken_le hawaits) 3)
    have hnow_le := (hqueued hawaits hdone).now_le ht hwriteDue
    exact Int.le_trans hnow_le (Int.add_le_add_left hmono _)
  exact { hs with
    since_le := Int.le_trans hs.since_le hnow
    inTime := fun hslot =>
      (hs.inTime hslot).wait (hs.passes_limit ht hslot hprompt hpasses hframes)
    writeDue := hwriteDue
    queued := hqueued }

theorem Bounded.step {label : Label} (hprompt : s.prompt credit control label = true)
    (h : s.step limits label = some s') : s'.Bounded limits credit control := by
  cases label with
  | tick now =>
    simp only [Ingress.step] at h
    split at h
    next hpasses => cases h; exact hs.tick ht hprompt hpasses
    next => cases h
  | request act =>
    rcases requestStep_cases h with hmoves | hqueues
    · exact hs.moves ht hmoves
    · exact hs.queues ht hqueues
  | response act => exact hs.moves ht (responseStep_moves h)
  | controlDone ok => exact hs.moves ht (controlDone_moves h)
  | phaseExpires =>
    simp only [Ingress.step, phaseExpires] at h
    split at h <;> cases h
    exact hs.apart
  | session act => exact hs.sessionStep ht hprompt h

omit ht hs

/-- Where credit, the client and the writer loop are prompt, the handler gives back its slot before it
    is further from its last progress than the bound. -/
theorem slot_held_within_bound (hvalid : limits.valid = true) {flowControlled : Bool} {now : Int}
    {labels : List Label}
    (hprompt : Along (step limits) (fun s label => s.prompt credit control label)
      (start flowControlled now) labels)
    (hrun : run (step limits) (start flowControlled now) labels = some s)
    (hslot : s.stage.place.holdsSlot = true) :
    s.stage.now ≤ s.stage.progress + bound limits credit control := by
  have ht := Limits.timed_of_valid hvalid
  have hs : s.Bounded limits credit control :=
    invariant_along (fun hs hprompt hstep => Bounded.step ht hs hprompt hstep)
      (Bounded.start flowControlled now) hprompt hrun
  exact (hs.inTime hslot).now_le_bound (s.stage.place.limit_rest_bound ht).2.1

/-- A bodyless request on a version 1 session, up to the wait for its response. -/
theorem slot_held_bodyless : ∃ s,
    run (step defaultLimits) (start false 0)
      [.request (.acquire false), .tick second, .controlDone true, .request (.forward 400),
        .request .enqueueData, .session .writerData, .tick (2 * second), .session .frameWritten,
        .request .requestWritten, .response .readStream, .tick (40 * second)] = some s ∧
    s.stage.place.holdsSlot = true ∧ s.stage.progress = 2 * second ∧
    s.stage.now ≤ s.stage.progress + bound defaultLimits 0 0 := by
  refine exists_run rfl fun {s} hrun => ?_
  have hslot : s.stage.place.holdsSlot = true := by cases hrun; rfl
  refine ⟨hslot, by cases hrun; rfl, ?_⟩
  exact slot_held_within_bound defaultLimits_valid (by decide +kernel) hrun hslot

end Bounded

/-! ## Time does not stop -/

/-- Steps of the handler, of its timer and of the frame it waits for; what others do is left out. -/
def Label.own : Label → Bool
  | .request _ | .response _ | .controlDone _ | .phaseExpires => true
  | .session .writerData | .session .frameFails => true
  | _ => false

section Due

variable {limits : Limits} {s : Ingress}

/-- The handler goes on when it is ready, and when the timer of its place is due. -/
theorem handler_acts
    (h : s.handlerReady = true ∨ ∃ due ∈ s.placeTimers limits, due ≤ s.stage.now) :
    ∃ label : Label, label.own = true ∧ (s.step limits label).isSome = true := by
  cases hplace : s.stage.place with
  | arriving | returned => simp [handlerReady, placeTimers, hplace] at h
  | serializing body =>
    cases body with
    | false => exact ⟨.request .requestWritten, rfl, by simp [step, requestStep, hplace]⟩
    | true => exact ⟨.request .readBody, rfl, by simp [step, requestStep, hplace]⟩
  | handling part => exact ⟨.response .readStream, rfl, by simp [step, responseStep, hplace]⟩
  | ending => exact ⟨.response (.endStream false), rfl, by simp [step, responseStep, hplace]⟩
  | reading part => exact ⟨.response .readFails, rfl, by simp [step, responseStep, hplace]⟩
  | takingCredit body size =>
    obtain ⟨window, hwindow, htake⟩ : ∃ window, s.window = some window ∧ window.take size ≠ .waits := by
      simpa [handlerReady, placeTimers, hplace, Option.any_eq_true] using h
    refine ⟨.request .takeCredit, rfl, ?_⟩
    cases hresult : window.take size with
    | waits => exact absurd hresult htake
    | _ => simp [step, requestStep, hplace, hwindow, hresult]
  | openingStream _ | grantingCredit _ | returningCredit _ | sendingEnd =>
    exact ⟨.controlDone false, rfl, by simp [step, controlDone, hplace]⟩
  | queueing _ | awaitingResult _ =>
    simp only [handlerReady, placeTimers, hplace, List.mem_singleton, List.not_mem_nil,
      exists_eq_left] at h
    exact ⟨.request .sendFails, rfl, by simpa [step, requestStep, hplace] using h⟩
  | writingHead | writingBody =>
    exact ⟨.response (.publicWritten false false), rfl, by simp [step, responseStep, hplace]⟩
  | readingBody =>
    exact ⟨.request (.bodyRead .failed), rfl, by simp [step, requestStep, hplace]⟩
  | closingBody => exact ⟨.request .bodyClosed, rfl, by simp [step, requestStep, hplace]⟩

/-- Whenever time cannot pass, the handler or the writer loop can go on: no bound holds because the
    clock stands still. -/
theorem acts_of_not_passes (h : s.passes limits (s.stage.now + 1) = false) :
    ∃ label : Label, label.own = true ∧ (s.step limits label).isSome = true := by
  cases hwriter : s.writerReady with
  | true =>
    simp only [writerReady, Bool.and_eq_true, Bool.not_eq_true', Option.isNone_iff_eq_none,
      List.isEmpty_eq_false_iff] at hwriter
    obtain ⟨⟨hdone, hidle⟩, hdata⟩ := hwriter
    obtain ⟨mine, rest, hdata⟩ := List.exists_cons_of_ne_nil hdata
    exact ⟨.session .writerData, rfl, by simp [step, sessionStep, hdone, hidle, hdata]⟩
  | false =>
    by_cases hhandler : s.handlerReady = true ∨ ∃ due ∈ s.placeTimers limits, due ≤ s.stage.now
    · exact handler_acts hhandler
    by_cases hphase : ∃ due ∈ s.phaseTimer limits, due ≤ s.stage.now
    · obtain ⟨due, hdue, hnow⟩ := hphase
      refine ⟨.phaseExpires, rfl, ?_⟩
      unfold phaseTimer at hdue
      split at hdue
      next hrunning =>
        obtain rfl := List.mem_singleton.mp hdue
        simp only [step, phaseExpires, hrunning, hnow]
        rfl
      next => cases hdue
    cases hwriting : s.writing with
    | some w => exact ⟨.session .frameFails, rfl, by simp [step, sessionStep, hwriting]⟩
    | none =>
      push Not at hhandler hphase
      have hpasses : s.passes limits (s.stage.now + 1) = true :=
        passes_iff.mpr ⟨hwriter, by simpa using hhandler.1, by omega, hhandler.2, hphase,
          by simp [writeTimer, hwriting]⟩
      rw [h] at hpasses
      cases hpasses

end Due

/-! ## Without a bound -/

/-- The request body is longer than the credit for its head, and the Agent grants nothing: the handler
    keeps its slot for as long as the client stays. -/
theorem ungrantedBody_waits (wait : Nat) : ∃ labels s,
    run (step defaultLimits) (start true 0) labels = some s ∧
    s.stage.place.holdsSlot = true ∧ s.done = false ∧ s.stage.now = s.stage.progress + wait := by
  let chunk : List Label := [.request .readBody, .request (.bodyRead .bytes),
    .request (.forward requestStreamChunkSize), .request .takeCredit, .request .enqueueData,
    .session .writerData, .session .frameWritten]
  let opened : List Label := [.request (.acquire true), .controlDone true, .controlDone true]
  let third : List Label := [.request .readBody, .request (.bodyRead .bytes),
    .request (.forward requestStreamChunkSize)]
  obtain ⟨s, hrun, hplace, hready, hwriting, hdata, hnow, hprogress, hdone⟩ : ∃ s,
      run (step defaultLimits) (start true 0) (opened ++ chunk ++ chunk ++ third) = some s ∧
      s.stage.place = .takingCredit true requestStreamChunkSize ∧ s.handlerReady = false ∧
      s.writing = none ∧ s.dataWrites = [] ∧ s.stage.now = 0 ∧ s.stage.progress = 0 ∧
      s.done = false :=
    ⟨_, rfl, rfl, rfl, rfl, rfl, rfl, rfl, rfl⟩
  have hpasses : s.passes defaultLimits wait = true := by
    rw [passes_iff]
    simp [writerReady, hready, placeTimers, phaseTimer, writeTimer, hplace, hwriting, hdata, hnow,
      inPhase]
  refine ⟨opened ++ chunk ++ chunk ++ third ++ [.tick wait], { s with stage := s.stage.wait wait },
    run_append.mpr ⟨s, hrun, ?_⟩, ?_, hdone, ?_⟩
  · simp [run_singleton, step, hpasses]
  · simp [Stage.wait, hplace, holdsSlot]
  · simp [Stage.wait, hprogress]

/-- So no time bounds how long a handler keeps its slot without progress. -/
theorem ungrantedBody_holds_slot :
    ¬ ∃ bound : Int, ∀ labels s, run (step defaultLimits) (start true 0) labels = some s →
      s.stage.place.holdsSlot = true → s.done = false → s.stage.now ≤ s.stage.progress + bound := by
  rintro ⟨bound, hbound⟩
  obtain ⟨labels, s, hrun, hslot, hdone, hnow⟩ := ungrantedBody_waits (bound.toNat + 1)
  have hle := hbound labels s hrun hslot hdone
  omega

/-- A version 1 request whose only data frame waits in the queue. -/
structure Overtaken (s : Ingress) : Prop where
  place : s.stage.place = .awaitingResult false
  progress : s.stage.progress = 0
  writing : s.writing = none
  done : s.done = false

/-- The writer loop finds a control frame each time it looks, and takes its whole deadline to write it. -/
theorem Overtaken.round {s : Ingress} (hs : s.Overtaken) : ∃ labels s',
    run (step defaultLimits) s labels = some s' ∧ s'.Overtaken ∧
      s'.stage.now = s.stage.now + defaultLimits.writeTimeout := by
  let begun : Ingress :=
    { s with writing := some ⟨false, s.stage.now⟩, overtaken := s.overtaken + 1 }
  let later : Int := s.stage.now + defaultLimits.writeTimeout
  have hbegun : step defaultLimits s (.session .writerControl) = some begun := by
    simp [step, sessionStep, hs.done, hs.writing, begun]
  have hpasses : begun.passes defaultLimits later = true := by
    rw [passes_iff]
    simp [writerReady, handlerReady, placeTimers, phaseTimer, writeTimer, begun, later, hs.place,
      hs.done, inPhase, (Limits.timed_of_valid defaultLimits_valid).write]
  have hwaited : step defaultLimits begun (.tick later) =
      some { begun with stage := begun.stage.wait later } := by
    simp [step, hpasses]
  refine ⟨[.session .writerControl, .tick later, .session .frameWritten],
    { begun with stage := begun.stage.wait later, writing := none }, ?_, ?_, rfl⟩
  · refine run_cons.mpr ⟨begun, hbegun, run_cons.mpr ⟨_, hwaited, ?_⟩⟩
    rfl
  · exact ⟨hs.place, hs.progress, rfl, hs.done⟩

/-- On version 1 as well: behind enough control traffic an accepted data frame waits for any time. -/
theorem overtakenData_holds_slot (rounds : Nat) : ∃ labels s,
    run (step defaultLimits) (start false 0) labels = some s ∧
    s.stage.place.holdsSlot = true ∧ s.done = false ∧
    s.stage.now = s.stage.progress + defaultLimits.frames rounds := by
  suffices h : ∃ labels s, run (step defaultLimits) (start false 0) labels = some s ∧
      s.Overtaken ∧ s.stage.now = defaultLimits.frames rounds by
    obtain ⟨labels, s, hrun, hs, hnow⟩ := h
    exact ⟨labels, s, hrun, by rw [hs.place]; rfl, hs.done, by rw [hs.progress, hnow, Int.zero_add]⟩
  induction rounds with
  | zero =>
    exact ⟨[.request (.acquire false), .controlDone true, .request (.forward 400),
      .request .enqueueData], _, rfl, ⟨rfl, rfl, rfl, rfl⟩, Limits.frames_zero.symm⟩
  | succ rounds ih =>
    obtain ⟨labels, s, hrun, hs, hnow⟩ := ih
    obtain ⟨more, s', hmore, hs', hlater⟩ := hs.round
    refine ⟨labels ++ more, s', run_append.mpr ⟨s, hrun, hmore⟩, hs', ?_⟩
    rw [hlater, hnow, Limits.frames_succ]

end Ingress

end Hooshix.Gateway

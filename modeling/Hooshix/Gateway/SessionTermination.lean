-- SUMMARY: Which streams a terminated session leaves unfinished.
import Hooshix.Gateway.SessionStreams

/-! # Terminated sessions

Every stream object is in the table, released, or in the hands of a call that is about to release it.
`failAll` empties the table before `done` is closed, so a terminated session has released its streams
unless a stream enters the table behind the swap: `openStreamTarget` tests neither.
-/

namespace Hooshix.Gateway

open StepSystem

/-- The call is about to release this stream. -/
def Call.holds (ref : Nat) : Call → Bool
  | .finishing held _ | .closingWindow held _ => held == ref
  | .failing refs => refs.contains ref
  | .failingWindow held refs => held == ref || refs.contains ref
  | _ => false

/-- The call has finished this stream and is about to close its window. -/
def Call.halfway (ref : Nat) : Call → Bool
  | .closingWindow held _ | .failingWindow held _ => held == ref
  | _ => false

/-- The call holds this stream or has returned it. -/
def Call.names (ref : Nat) : Call → Bool
  | .returned given => given == ref
  | call => call.holds ref

variable {call : Call} {ref : Nat}

theorem Call.names_of_holds (h : call.holds ref = true) : call.names ref = true := by
  cases call with
  | returned given => cases h
  | _ => exact h

theorem Call.holds_of_halfway (h : call.halfway ref = true) :
    call.holds ref = true := by
  cases call with
  | closingWindow held after => exact h
  | failingWindow held refs =>
    simp only [Call.holds, Bool.or_eq_true]
    exact .inl h
  | _ => cases h

/-- The call is a termination behind its swap. -/
def Call.terminating : Call → Bool
  | .failing _ | .failingWindow _ _ | .closing => true
  | _ => false

/-- The call holds no stream, has returned none and is no termination behind its swap. -/
def Call.plain : Call → Bool
  | .returned _ | .finishing _ _ | .closingWindow _ _ | .failing _ | .failingWindow _ _ | .closing =>
    false
  | _ => true

theorem Call.names_of_plain (h : call.plain = true) (ref : Nat) : call.names ref = false := by
  cases call with
  | returned given => cases h
  | finishing held after => cases h
  | closingWindow held after => cases h
  | failing refs => cases h
  | failingWindow held refs => cases h
  | _ => rfl

theorem Call.terminating_of_plain (h : call.plain = true) : call.terminating = false := by
  cases call with
  | failing refs => cases h
  | failingWindow held refs => cases h
  | closing => cases h
  | _ => rfl

theorem AfterDetach.next_plain (after : AfterDetach) (detached : Bool) :
    (after.next detached).plain = true := by
  cases after with
  | finishOnly => rfl
  | sendEnd streamID message =>
    cases detached with
    | true => rfl
    | false => rfl
  | failOpen ref err => rfl

attribute [local simp] Call.names Call.halfway

namespace SessionStreams

/-- Some running call is about to release the stream. -/
def Held (s : SessionStreams) (ref : Nat) : Prop := ∃ call ∈ s.calls, call.holds ref = true

instance (s : SessionStreams) (ref : Nat) : Decidable (s.Held ref) :=
  inferInstanceAs (Decidable (∃ call ∈ s.calls, call.holds ref = true))

/-- A call enters its stream into the table although a `failAll` has swapped it. -/
def opensLate (s : SessionStreams) : Label → Bool
  | .proceed i =>
    match s.calls[i]? with
    | some (.allocating _) =>
      s.swapped && (s.table.length : Int) < s.maxStreamsPerSession && s.nextID != 0
    | _ => false
  | _ => false

/-- Every stream is in the table, released or held; the table is empty once it was swapped. -/
structure Tracked (s : SessionStreams) : Prop where
  accounted : ∀ {ref : Nat} {stream : StreamObject}, s.streams[ref]? = some stream →
    stream.registered = true ∨ stream.released = true ∨ s.Held ref
  halfway : ∀ {call : Call} {ref : Nat} {stream : StreamObject}, call ∈ s.calls →
    call.halfway ref = true → s.streams[ref]? = some stream → stream.finished = true
  terminating : ∀ {call : Call}, call ∈ s.calls → call.terminating = true → s.swapped = true
  done : s.done = true → s.swapped = true
  emptied : s.swapped = true → ∀ {ref : Nat} {stream : StreamObject},
    s.streams[ref]? = some stream → stream.registered = false
  present : ∀ {call : Call} {ref : Nat}, call ∈ s.calls → call.names ref = true →
    ref < s.streams.length

theorem Tracked.start {flowControlled : Bool} {maxStreamsPerSession : Int} {nextID : Nat} :
    (start flowControlled maxStreamsPerSession nextID).Tracked := by
  constructor
  all_goals simp [SessionStreams.start]

section Calls

variable {s : SessionStreams} {i ref : Nat} {call call' : Call} {stream' : StreamObject}
  {f : StreamObject → StreamObject}

/-- A stream that a call lets go of when it moves on is held by another call, if at all. -/
theorem Held.goto (hcall : s.calls[i]? = some call) (h : s.Held ref) :
    (s.goto i call').Held ref ∨ (call.holds ref = true ∧ call'.holds ref = false) := by
  obtain ⟨c, hc, hcholds⟩ := h
  obtain ⟨j, hj⟩ := List.getElem?_of_mem hc
  have hi : i < s.calls.length := (List.getElem?_eq_some_iff.mp hcall).1
  by_cases hij : i = j
  · subst hij
    cases hcall.symm.trans hj
    cases hnew : call'.holds ref with
    | true => exact .inl ⟨call', List.mem_set hi call', hnew⟩
    | false => exact .inr ⟨hcholds, rfl⟩
  · have hj' : (s.calls.set i call')[j]? = some c := by
      rw [List.getElem?_set_ne hij]
      exact hj
    exact .inl ⟨c, List.mem_of_getElem? hj', hcholds⟩

/-- A call moves on and lets go of released streams only. -/
theorem Tracked.goto (hs : s.Tracked) (hcall : s.calls[i]? = some call)
    (hholds : ∀ {ref stream}, s.streams[ref]? = some stream → call.holds ref = true →
      call'.holds ref = true ∨ stream.released = true)
    (hhalfway : ∀ {ref stream}, call'.halfway ref = true → s.streams[ref]? = some stream →
      stream.finished = true)
    (hterminating : call'.terminating = true → s.swapped = true)
    (hnames : ∀ {ref}, call'.names ref = true → ref < s.streams.length) : (s.goto i call').Tracked := by
  refine { hs with accounted := ?_, halfway := ?_, terminating := ?_, present := ?_ }
  · intro ref stream hstream
    rcases hs.accounted hstream with hregistered | hreleased | hheld
    · exact .inl hregistered
    · exact .inr (.inl hreleased)
    · rcases (Held.goto hcall hheld : (s.goto i call').Held ref ∨ _) with hheld | ⟨hheld, hfree⟩
      · exact .inr (.inr hheld)
      · rcases hholds hstream hheld with hkept | hreleased
        · cases hfree.symm.trans hkept
        · exact .inr (.inl hreleased)
  · intro c ref stream hc hhalf hstream
    rcases List.mem_or_eq_of_mem_set hc with hc | rfl
    · exact hs.halfway hc hhalf hstream
    · exact hhalfway hhalf hstream
  · intro c hc hterm
    rcases List.mem_or_eq_of_mem_set hc with hc | rfl
    · exact hs.terminating hc hterm
    · exact hterminating hterm
  · intro c ref hc hname
    rcases List.mem_or_eq_of_mem_set hc with hc | rfl
    · exact hs.present hc hname
    · exact hnames hname

/-- A call moves to a plain state, and the stream that it held is released. -/
theorem Tracked.goto_plain (hs : s.Tracked) (hcall : s.calls[i]? = some call)
    (hreleased : ∀ {ref stream}, s.streams[ref]? = some stream → call.holds ref = true →
      stream.released = true) (hplain : call'.plain = true) : (s.goto i call').Tracked := by
  refine hs.goto hcall (fun hstream h => .inr (hreleased hstream h)) ?_ ?_ ?_
  · intro ref _ h _
    have hnames := Call.names_of_holds (Call.holds_of_halfway h)
    rw [Call.names_of_plain hplain ref] at hnames
    cases hnames
  · intro h
    rw [Call.terminating_of_plain hplain] at h
    cases h
  · intro ref h
    rw [Call.names_of_plain hplain ref] at h
    cases h

/-- A call begins. -/
theorem Tracked.begin (hs : s.Tracked) (hplain : call.plain = true) : (s.begin call).Tracked := by
  have hnames : ∀ ref, call.names ref = false := Call.names_of_plain hplain
  refine { hs with accounted := ?_, halfway := ?_, terminating := ?_, present := ?_ }
  · intro ref stream hstream
    rcases hs.accounted hstream with hregistered | hreleased | ⟨c, hc, hholds⟩
    · exact .inl hregistered
    · exact .inr (.inl hreleased)
    · exact .inr (.inr ⟨c, List.mem_append_left _ hc, hholds⟩)
  · intro c ref stream hc hhalf hstream
    rcases List.mem_append.mp hc with hc | hc
    · exact hs.halfway hc hhalf hstream
    · cases List.mem_singleton.mp hc
      cases (hnames ref).symm.trans (Call.names_of_holds (Call.holds_of_halfway hhalf))
  · intro c hc hterm
    rcases List.mem_append.mp hc with hc | hc
    · exact hs.terminating hc hterm
    · cases List.mem_singleton.mp hc
      cases (Call.terminating_of_plain hplain).symm.trans hterm
  · intro c ref hc hname
    rcases List.mem_append.mp hc with hc | hc
    · exact hs.present hc hname
    · cases List.mem_singleton.mp hc
      cases (hnames ref).symm.trans hname

/-- A change of a stream that takes nothing back. -/
structure Improves (f : StreamObject → StreamObject) : Prop where
  released : ∀ stream : StreamObject, stream.released = true → (f stream).released = true
  finished : ∀ stream : StreamObject, stream.finished = true → (f stream).finished = true
  registered : ∀ stream : StreamObject, stream.registered = false → (f stream).registered = false

theorem improves_detach : Improves fun stream => { stream with registered := false } where
  released := fun _ h => h
  finished := fun _ h => h
  registered := fun _ _ => rfl

theorem improves_finish : Improves fun stream => { stream with finished := true } where
  released := by
    intro stream h
    simp only [StreamObject.released, Bool.and_eq_true] at h ⊢
    exact ⟨trivial, h.2⟩
  finished := fun _ _ => rfl
  registered := fun _ h => h

theorem improves_closeWindow :
    Improves fun stream => { stream with windowClosed := stream.windowed } where
  released := by
    intro stream h
    simp only [StreamObject.released, Bool.and_eq_true] at h ⊢
    refine ⟨h.1, ?_⟩
    cases stream.windowed with
    | true => rfl
    | false => rfl
  finished := fun _ h => h
  registered := fun _ h => h

/-- A finished stream is released when its window is closed. -/
theorem released_closeWindow {stream : StreamObject} (h : stream.finished = true) :
    { stream with windowClosed := stream.windowed }.released = true := by
  simp only [StreamObject.released, h, Bool.true_and]
  cases stream.windowed with
  | true => rfl
  | false => rfl

/-- A stream changes, and leaves the table only into the hands of a call. -/
theorem Tracked.updateStream (hs : s.Tracked) (hf : Improves f)
    (hregistered : ∀ {stream}, stream.registered = true → (f stream).registered = true ∨ s.Held ref) :
    (s.updateStream ref f).Tracked := by
  -- each stream of the new state is an old one, changed by `f` or not at all
  have hold : ∀ {r stream'}, (s.streams.modify ref f)[r]? = some stream' →
      ∃ stream, s.streams[r]? = some stream ∧ stream' = if ref = r then f stream else stream := by
    intro r stream' h
    rw [List.getElem?_modify] at h
    obtain ⟨stream, hstream, rfl⟩ := Option.map_eq_some_iff.mp h
    exact ⟨stream, hstream, rfl⟩
  refine { hs with accounted := ?_, halfway := ?_, emptied := ?_, present := ?_ }
  · intro r stream' h
    obtain ⟨stream, hstream, rfl⟩ := hold h
    have haccounted := hs.accounted hstream
    split
    next heq =>
      subst heq
      rcases haccounted with hin | hreleased | hheld
      · exact (hregistered hin).imp_right .inr
      · exact .inr (.inl (hf.released stream hreleased))
      · exact .inr (.inr hheld)
    next => exact haccounted
  · intro c r stream' hc hhalf h
    obtain ⟨stream, hstream, rfl⟩ := hold h
    have hfinished := hs.halfway hc hhalf hstream
    split
    · exact hf.finished stream hfinished
    · exact hfinished
  · intro hswapped r stream' h
    obtain ⟨stream, hstream, rfl⟩ := hold h
    have hunregistered := hs.emptied hswapped hstream
    split
    · exact hf.registered stream hunregistered
    · exact hunregistered
  · intro c r hc hname
    have hlength : (s.streams.modify ref f).length = s.streams.length := List.length_modify _ _ _
    exact hlength ▸ hs.present hc hname

theorem Tracked.finish (hs : s.Tracked) : (s.finish ref).Tracked :=
  hs.updateStream improves_finish .inl

theorem Tracked.closeWindow (hs : s.Tracked) : (s.closeWindow ref).Tracked :=
  hs.updateStream improves_closeWindow .inl

/-- The stream that was changed. -/
theorem stream_of_updateStream (h : (s.updateStream ref f).streams[ref]? = some stream') :
    ∃ stream, s.streams[ref]? = some stream ∧ stream' = f stream := by
  simp only [SessionStreams.updateStream, List.getElem?_modify_eq, Option.map_eq_map] at h
  obtain ⟨stream, hstream, rfl⟩ := Option.map_eq_some_iff.mp h
  exact ⟨stream, hstream, rfl⟩

/-- A stream that some call has finished is released once its window is closed. -/
theorem Tracked.released (hs : s.Tracked) (hcall : s.calls[i]? = some call)
    (hhalf : call.halfway ref = true) (h : (s.closeWindow ref).streams[ref]? = some stream') :
    stream'.released = true := by
  obtain ⟨stream, hstream, rfl⟩ := stream_of_updateStream h
  exact released_closeWindow (hs.halfway (List.mem_of_getElem? hcall) hhalf hstream)

/-- A stream is finished before its window is closed. -/
theorem finished_finish (h : (s.finish ref).streams[ref]? = some stream') :
    stream'.finished = true := by
  obtain ⟨stream, -, rfl⟩ := stream_of_updateStream h
  rfl

end Calls

/-! ## Steps -/

section Steps

variable {s s' : SessionStreams} {i ref : Nat}

variable (hs : s.Tracked) {after : AfterDetach} {refs : List Nat}

include hs

/-- A stream that is allocated before any swap is registered. -/
theorem Tracked.allocate {datagram windowed : Bool}
    (hcall : s.calls[i]? = some (.allocating datagram)) (hearly : s.swapped = false) :
    (s.enter i windowed).Tracked := by
  have hopening : (s.goto i (.opening s.streams.length)).Tracked :=
    hs.goto_plain hcall (by simp [Call.holds]) rfl
  refine { hopening with accounted := ?_, halfway := ?_, emptied := ?_, present := ?_ }
  · intro r stream h
    rcases List.of_getElem?_concat h with hstream | ⟨-, rfl⟩
    · exact hopening.accounted hstream
    · exact .inl rfl
  · intro c r stream hc hhalf h
    rcases List.of_getElem?_concat h with hstream | ⟨rfl, -⟩
    · exact hopening.halfway hc hhalf hstream
    · -- the new stream is nobody's yet
      exact absurd (hopening.present hc (Call.names_of_holds (Call.holds_of_halfway hhalf)))
        (Nat.lt_irrefl _)
  · intro hswapped
    cases hearly.symm.trans hswapped
  · intro c r hc hname
    rw [enter, List.length_append]
    exact Nat.lt_add_right _ (hopening.present hc hname)

/-- A call takes a stream out of the table. -/
theorem Tracked.detach {streamID : Nat} (hcall : s.calls[i]? = some (.detaching streamID after))
    (hlookup : s.lookup streamID = some ref) :
    ((s.updateStream ref fun stream => { stream with registered := false }).goto i
      (.finishing ref after)).Tracked := by
  obtain ⟨stream, hstream, -, -⟩ := lookup_cases hlookup
  have hi : i < s.calls.length := (List.getElem?_eq_some_iff.mp hcall).1
  -- the call has the stream in its hands before the table gives it up
  have hfinishing : (s.goto i (.finishing ref after)).Tracked := by
    refine hs.goto hcall (by simp [Call.holds]) (by simp) (by simp [Call.terminating]) ?_
    intro r hr
    obtain rfl : ref = r := by simpa [Call.holds] using hr
    exact (List.getElem?_eq_some_iff.mp hstream).1
  refine hfinishing.updateStream improves_detach fun _ => .inr ?_
  exact ⟨_, List.mem_set hi _, by simp [Call.holds]⟩

/-- The stream that a call holds is finished. -/
theorem Tracked.finishing (hcall : s.calls[i]? = some (.finishing ref after)) :
    ((s.finish ref).goto i (.closingWindow ref after)).Tracked := by
  have hlt : ref < (s.finish ref).streams.length :=
    hs.finish.present (List.mem_of_getElem? hcall) (by simp [Call.holds])
  refine hs.finish.goto hcall (fun _ h => .inl h) ?_ (by simp [Call.terminating]) ?_
  · intro r stream h hstream
    obtain rfl : ref = r := by simpa using h
    exact finished_finish hstream
  · intro r h
    obtain rfl : ref = r := by simpa [Call.holds] using h
    exact hlt

/-- The window of a finished stream is closed, and the call lets the stream go. -/
theorem Tracked.closingWindow (hcall : s.calls[i]? = some (.closingWindow ref after)) :
    ((s.closeWindow ref).goto i (after.next true)).Tracked := by
  refine hs.closeWindow.goto_plain hcall ?_ (after.next_plain true)
  intro r stream hstream h
  obtain rfl : ref = r := by simpa [Call.holds] using h
  exact hs.released hcall (by simp) hstream

/-- The termination takes the whole table into its hands. -/
theorem Tracked.swap (hcall : s.calls[i]? = some .swapping) : (s.swap i).Tracked := by
  have hi : i < s.calls.length := (List.getElem?_eq_some_iff.mp hcall).1
  have hold : ∀ {r : Nat} {stream' : StreamObject},
      (s.streams.map fun stream => { stream with registered := false })[r]? = some stream' →
      ∃ stream, s.streams[r]? = some stream ∧ stream' = { stream with registered := false } := by
    intro r stream' h
    rw [List.getElem?_map] at h
    obtain ⟨stream, hstream, rfl⟩ := Option.map_eq_some_iff.mp h
    exact ⟨stream, hstream, rfl⟩
  constructor
  · intro r stream' h
    obtain ⟨stream, hstream, rfl⟩ := hold h
    rcases hs.accounted hstream with hregistered | hreleased | hheld
    · refine .inr (.inr ⟨.failing s.table, List.mem_set hi _, ?_⟩)
      simp only [Call.holds, List.contains_iff_mem]
      exact mem_table.mpr ⟨stream, hstream, hregistered⟩
    · exact .inr (.inl hreleased)
    · rcases (Held.goto hcall hheld : (s.goto i (.failing s.table)).Held r ∨ _) with hheld | ⟨h, -⟩
      · exact .inr (.inr hheld)
      · cases h
  · intro c r stream' hc hhalf h
    obtain ⟨stream, hstream, rfl⟩ := hold h
    rcases List.mem_or_eq_of_mem_set hc with hc | rfl
    · have hfinished := hs.halfway hc hhalf hstream
      exact hfinished
    · cases hhalf
  · intro _ _ _
    rfl
  · intro _
    rfl
  · intro _ r stream' h
    obtain ⟨stream, -, rfl⟩ := hold h
    rfl
  · intro c r hc hname
    simp only [SessionStreams.swap, List.length_map]
    rcases List.mem_or_eq_of_mem_set hc with hc | rfl
    · exact hs.present hc hname
    · have hmem : r ∈ s.table := by simpa [Call.holds] using hname
      obtain ⟨stream, hstream, -⟩ := mem_table.mp hmem
      exact (List.getElem?_eq_some_iff.mp hstream).1

theorem Tracked.failOne (hcall : s.calls[i]? = some (.failing refs)) (href : ref ∈ refs) :
    ((s.finish ref).goto i (.failingWindow ref (refs.erase ref))).Tracked := by
  have hmem := List.mem_of_getElem? hcall
  have hpresent : ∀ r ∈ refs, r < (s.finish ref).streams.length := by
    intro r hr
    exact hs.finish.present hmem (by simpa [Call.holds] using hr)
  refine hs.finish.goto hcall ?_ ?_ (fun _ => hs.terminating hmem rfl) ?_
  · intro r stream _ hholds
    left
    have hin : r ∈ refs := by simpa [Call.holds] using hholds
    simp only [Call.holds, Bool.or_eq_true, beq_iff_eq, List.contains_iff_mem]
    by_cases hr : ref = r
    · exact .inl hr
    · exact .inr ((List.mem_erase_of_ne (Ne.symm hr)).mpr hin)
  · intro r stream hhalf hstream
    obtain rfl : ref = r := by simpa using hhalf
    exact finished_finish hstream
  · intro r hname
    simp only [Call.names, Call.holds, Bool.or_eq_true, beq_iff_eq, List.contains_iff_mem] at hname
    rcases hname with rfl | hin
    · exact hpresent _ href
    · exact hpresent r (List.mem_of_mem_erase hin)

theorem Tracked.failingWindow (hcall : s.calls[i]? = some (.failingWindow ref refs)) :
    ((s.closeWindow ref).goto i (.failing refs)).Tracked := by
  have hmem := List.mem_of_getElem? hcall
  refine hs.closeWindow.goto hcall ?_ nofun (fun _ => hs.terminating hmem rfl) ?_
  · intro r stream hstream hholds
    simp only [Call.holds, Bool.or_eq_true, beq_iff_eq] at hholds ⊢
    rcases hholds with rfl | hin
    · exact .inr (hs.released hcall (by simp) hstream)
    · exact .inl hin
  · intro r hname
    refine hs.closeWindow.present hmem ?_
    simp only [Call.names, Call.holds, Bool.or_eq_true] at hname ⊢
    exact .inr hname

/-- A call returns its stream. -/
theorem Tracked.return {call : Call} (hcall : s.calls[i]? = some call)
    (hholds : ∀ r, call.holds r = false) (href : ref < s.streams.length) :
    (s.goto i (.returned ref)).Tracked := by
  refine hs.goto hcall (by simp [hholds]) nofun nofun ?_
  intro r h
  obtain rfl : ref = r := by simpa using h
  exact href

/-- Every step keeps the streams accounted for, unless a stream is opened behind a swap. -/
theorem Tracked.step {l : Label} (hearly : s.opensLate l = false) (h : s.step l = some s') :
    s'.Tracked := by
  cases steps_of_step h with
  | opens | finishes | closes | errors | terminates => exact hs.begin rfl
  | halfClose => exact hs.finish
  | allocate hcall hnext hroom =>
    have hswapped : s.swapped = false := by simpa [opensLate, hcall, hroom, hnext] using hearly
    exact hs.allocate hcall hswapped
  | @notFound _ _ after hcall => exact hs.goto_plain hcall nofun (after.next_plain false)
  | detach hcall hlookup => exact hs.detach hcall hlookup
  | finish hcall => exact hs.finishing hcall
  | closeWindow hcall => exact hs.closingWindow hcall
  | swap hcall => exact hs.swap hcall
  | failedAll hcall =>
    exact hs.goto hcall nofun nofun (fun _ => hs.terminating (List.mem_of_getElem? hcall) rfl) nofun
  | failWindow hcall => exact hs.failingWindow hcall
  | close hcall =>
    have hswapped := hs.terminating (List.mem_of_getElem? hcall) rfl
    have hended : (s.goto _ .ended).Tracked := hs.goto_plain hcall nofun rfl
    exact { hended with done := fun _ => hswapped }
  | failOne hcall href => exact hs.failOne hcall href
  | returned hcall hwaits href =>
    refine { hs.return hcall ?_ href with }
    rcases hwaits with rfl | rfl <;> exact fun _ => rfl
  | refuse hcall | abandonOpen hcall | abandonGrant hcall | abandonEnd hcall =>
    exact hs.goto_plain hcall nofun rfl
  | sendOpen hcall | sendGrant hcall | sendEnd hcall | openFails hcall | grantFails hcall | opened hcall
  | ended hcall =>
    exact { hs.goto_plain hcall nofun rfl with }
  | queueOther | expire | takeExpired | take | encodeFails | sent | answerExhausted =>
    exact { hs with }
  | exhaust | writeFails =>
    have hbegun : (s.begin .swapping).Tracked := hs.begin rfl
    exact { hbegun with }

end Steps

/-! ## Terminated sessions -/

/-- Once `done` is closed, a stream that a call returned is released or still held. -/
theorem Tracked.returned {s : SessionStreams} {ref : Nat} (hs : s.Tracked) (hdone : s.done = true)
    (href : .returned ref ∈ s.calls) :
    ∃ stream, s.streams[ref]? = some stream ∧ (stream.released = true ∨ s.Held ref) := by
  have hlt : ref < s.streams.length := hs.present href (by simp)
  have hstream : s.streams[ref]? = some s.streams[ref] := List.getElem?_eq_getElem hlt
  refine ⟨s.streams[ref], hstream, ?_⟩
  rcases hs.accounted hstream with hregistered | hreleased | hheld
  · rw [hs.emptied (hs.done hdone) hstream] at hregistered
    cases hregistered
  · exact .inl hreleased
  · exact .inr hheld

/-- In every run in which no call enters its stream into the table behind a `failAll`: once `done` is
    closed and no call that took a returned stream out of the table has yet to finish it, the stream's
    terminal channel and its window are closed. -/
theorem terminated_returned_released {flowControlled : Bool} {maxStreamsPerSession : Int} {nextID : Nat}
    {labels : List Label} {s : SessionStreams}
    (hearly : Along step (fun s l => s.opensLate l = false)
      (start flowControlled maxStreamsPerSession nextID) labels)
    (hrun : run step (start flowControlled maxStreamsPerSession nextID) labels = some s)
    (hdone : s.done = true) {ref : Nat} (href : .returned ref ∈ s.calls) (hsettled : ¬ s.Held ref) :
    ∃ stream, s.streams[ref]? = some stream ∧ stream.released = true := by
  have hs : s.Tracked := invariant_along (fun hs => hs.step) Tracked.start hearly hrun
  obtain ⟨stream, hstream, hreleased | hheld⟩ := hs.returned hdone href
  · exact ⟨stream, hstream, hreleased⟩
  · exact absurd hheld hsettled

/-- A v2 stream is opened, both of its first frames are written, and the session is terminated. -/
def terminatedLabels : List Label :=
  [.openStreamTarget false, .proceed 0, .send 0, .takeControl (errorsNew "expired"), .write .sent,
    .receive 0 none, .send 0, .takeControl (errorsNew "expired"), .write .sent, .receive 0 none,
    .terminate, .proceed 1, .failOne 1 0, .proceed 1, .proceed 1, .proceed 1]

/-- The state that `terminatedLabels` reach. -/
def terminatedState : SessionStreams where
  flowControlled := true
  maxStreamsPerSession := 8
  nextID := 2
  streams := [{ id := 1, windowed := true, registered := false, finished := true, windowClosed := true }]
  calls := [.returned 0, .ended]
  requests :=
    [{ streamID := 1, message := .streamOpen, expired := true, status := .answered none, onWire := true },
      { streamID := 1, message := .windowUpdate, expired := true, status := .answered none,
        onWire := true }]
  controlWrites := []
  writer := .idle
  swapped := true
  done := true

theorem terminated_returned_released_open :
    ∃ stream, terminatedState.streams[0]? = some stream ∧ stream.released = true :=
  have hearly : Along step (fun s l => s.opensLate l = false) (start true 8 1)
      terminatedLabels := by decide +kernel
  have hrun : run step (start true 8 1) terminatedLabels = some terminatedState := by
    decide +kernel
  terminated_returned_released hearly hrun rfl (by decide) (by decide)

/-- The table is swapped, a call then enters its stream and gets its `stream_open` written, and only
    now `done` is closed: every call has returned and the stream is not finished. -/
theorem openedBehindSwap_unfinished :
    ∃ s, run step (start false 8 1)
        [.openStreamTarget false, .terminate, .proceed 1, .proceed 0, .send 0,
          .takeControl (errorsNew "expired"), .write .sent, .receive 0 none, .proceed 1, .proceed 1] =
        some s ∧
      s.done = true ∧ s.calls = [.returned 0, .ended] ∧
      ∃ stream, s.streams[0]? = some stream ∧ stream.finished = false :=
  ⟨_, rfl, rfl, rfl, _, rfl, rfl⟩

end SessionStreams

end Hooshix.Gateway

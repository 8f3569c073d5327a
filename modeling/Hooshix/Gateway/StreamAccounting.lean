-- SUMMARY: Byte accounting of one Gateway stream.
import Hooshix.Gateway.Stream

/-! # Byte accounting of a stream

Every reserved byte is in exactly one place: queued in the channel, in the reader's hand, in the tail
that `finish` is collecting, in the terminal tail or packets, or taken out to be discarded. Each step
of a stream changes the session's and the Gateway's budgets by as much as it changes this sum, so a
release never takes more than was reserved.
-/

namespace Hooshix.Gateway

open Ledger Reader ByteBudget

/-- The reservation in the reader's hand. -/
def Reader.heldSize : Reader → Int
  | .holding _ _ size => size
  | _ => 0

@[simp] theorem Reader.heldSize_holding (c : ReadCall) (data : Bytes) (size : Int) :
    (holding c data size).heldSize = size := rfl

/-- The call the reader is in fits the kind of stream. -/
def Reader.Fits (datagram : Bool) : Reader → Prop
  | .idle => True
  | .polling c | .locking c | .waiting c | .holding c _ _ => c = .readDatagram ↔ datagram = true

/-- The bytes collected by a drain that is not yet published. -/
def FinishOnce.collected : FinishOnce → Int
  | .draining _ tail => tail.length
  | _ => 0

/-- The credit that an event returns to the sender. -/
def StreamEvent.grants : StreamEvent → Int
  | .granted size => size
  | _ => 0

attribute [local simp] FinishOnce.collected SharedBudgets.charge

namespace Stream

/-- The payload bytes the stream retains. -/
def retained (st : Stream) : Int :=
  reserved st.incoming + st.reader.heldSize + st.finishOnce.collected + st.terminalBytes +
    total id st.discarding

/-- The books of a stream are in order. -/
structure Accounted (st : Stream) : Prop where
  used : st.streamBudget.used = st.retained
  held : 0 ≤ st.reader.heldSize
  discards : ∀ size ∈ st.discarding, 0 ≤ size
  fits : st.reader.Fits st.datagram
  closed_iff : st.closed = true ↔ st.finishOnce ≠ .notStarted
  ready_iff : st.terminalReady = true ↔ st.finishOnce = .unlocked ∨ st.finishOnce = .done
  drained : st.terminalReady = true → st.incoming = []
  tail_nonneg : 0 ≤ st.terminalBytes
  packets : st.datagram = true → st.terminalBytes = reserved st.terminalPackets
  noTail : st.datagram = true → st.finishOnce.collected = 0
  unpublished : st.datagram = false → st.terminalReady = false → st.terminalBytes = 0

theorem Accounted.new (datagram : Bool) (queueFrames : Nat) (queueBytes : Int) :
    (newStream datagram queueFrames queueBytes).Accounted := by
  constructor <;>
    simp [newStream, retained, newByteBudget, heldSize, Fits]

@[simp] theorem retained_new (datagram : Bool) (queueFrames : Nat) (queueBytes : Int) :
    (newStream datagram queueFrames queueBytes).retained = 0 :=
  (Accounted.new datagram queueFrames queueBytes).used.symm

section Nonneg

variable {st : Stream}

theorem collected_nonneg (once : FinishOnce) : 0 ≤ once.collected := by
  cases once with
  | draining err tail => exact Int.natCast_nonneg _
  | _ => exact Int.le_refl 0

variable (hst : st.Accounted)

include hst

/-- No place holds less than nothing. -/
theorem Accounted.nonneg :
    0 ≤ reserved st.incoming ∧ 0 ≤ st.reader.heldSize ∧ 0 ≤ st.finishOnce.collected ∧
      0 ≤ st.terminalBytes ∧ 0 ≤ total id st.discarding :=
  ⟨reserved_nonneg _, hst.held, collected_nonneg _, hst.tail_nonneg, total_nonneg hst.discards⟩

theorem Accounted.retained_nonneg : 0 ≤ st.retained := by
  have hnonneg := hst.nonneg
  unfold retained
  omega

theorem Accounted.held_le : st.reader.heldSize ≤ st.retained := by
  have hnonneg := hst.nonneg
  unfold retained
  omega

theorem Accounted.discard_le {i : Nat} {size : Int} (h : st.discarding[i]? = some size) :
    size ≤ st.retained := by
  have hnonneg := hst.nonneg
  have hsize : id size ≤ total id st.discarding :=
    le_total hst.discards (List.mem_of_getElem? h)
  simp only [id_eq] at hsize
  unfold retained
  omega

end Nonneg

/-! ## Each step keeps the books -/

/-- The stream's books stay in order, and the shared budgets change by as much as it retains more. -/
def Balanced (sh sh' : SharedBudgets) (st st' : Stream) : Prop :=
  st'.Accounted ∧ sh' = sh.charge (st'.retained - st.retained)

section Steps

variable {sh sh' : SharedBudgets} {st st' : Stream} {ev : StreamEvent} {data : Bytes}
  {chunk : QueuedPayload} {incoming : List QueuedPayload}

theorem Balanced.of_eq (hst : st'.Accounted) (h : st'.retained = st.retained) :
    Balanced sh sh st st' := by
  refine ⟨hst, ?_⟩
  simp [h]

variable (hst : st.Accounted) {reader : Reader} {buffer : Bytes} {delta : Int}

include hst

/-- A step that changes the stream's budget by as much as it retains more. -/
theorem Accounted.charges (hbudget : st'.streamBudget = st.streamBudget.charge delta)
    (hretained : st'.retained = st.retained + delta)
    (h : st'.streamBudget.used = st'.retained → st'.Accounted) :
    Balanced sh (sh.charge delta) st st' := by
  refine ⟨h ?_, ?_⟩
  · rw [hbudget, hretained, charge_used, hst.used]
  · rw [hretained]
    congr 1
    omega

/-- A step that moves bytes from one place to another. -/
theorem Accounted.moves (hbudget : st'.streamBudget = st.streamBudget)
    (hretained : st'.retained = st.retained)
    (h : st'.streamBudget.used = st'.retained → st'.Accounted) : Balanced sh sh st st' :=
  .of_eq (h (by rw [hbudget, hretained, hst.used])) hretained

/-- An accepted payload is reserved once in each budget. -/
theorem Accounted.accepts (hopen : st.closed = false) :
    Balanced sh (sh.charge data.length) st { st with
      incoming := st.incoming ++ [QueuedPayload.ofData data]
      streamBudget := st.streamBudget.charge data.length } := by
  have hunready : st.terminalReady = false := by
    have honce : st.finishOnce = .notStarted := by simpa [hopen] using hst.closed_iff
    simpa [honce] using hst.ready_iff
  refine hst.charges rfl ?_ fun used => { hst with used, drained := by simp [hunready] }
  simp only [retained, reserved, total_append, total_cons, total_nil,
    QueuedPayload.ofData]
  omega

/-- A reader that changes its place with nothing in its hand before or after keeps the books. -/
theorem Accounted.moveReader (hbefore : st.reader.heldSize = 0)
    (hafter : reader.heldSize = 0) (hfits : reader.Fits st.datagram) :
    Balanced sh sh st { st with reader, buffer } :=
  hst.moves rfl (by simp [retained, hbefore, hafter])
    fun used => { hst with used, held := Int.le_of_eq hafter.symm, fits := hfits }

variable (hempty : st.reader.heldSize = 0) {err : Option GoError} {c : ReadCall} {o : Op}
  {size : Int} {tail : Bytes} {held : Int} {i : Nat}

include hempty

/-- A payload that moves from the channel into the reader's hand is still retained. -/
theorem Accounted.take (hfits : c = .readDatagram ↔ st.datagram = true)
    (hincoming : st.incoming = chunk :: incoming) :
    Balanced sh sh st { st with incoming, reader := .holding c chunk.data chunk.size } := by
  refine hst.moves rfl ?_ fun used =>
    { hst with used, held := chunk.size_nonneg, fits := hfits, drained := ?_ }
  · simp only [retained, reserved, hempty, hincoming, total_cons, heldSize_holding]
    omega
  · intro hready
    simp [hst.drained hready] at hincoming

/-- The terminal tail moves into the reader's hand. -/
theorem Accounted.takeTail (hfits : c = .readDatagram ↔ st.datagram = true)
    (hread : c ≠ .readDatagram) :
    Balanced sh sh st { st with
      terminalBuffer := []
      terminalBytes := 0
      reader := .holding c st.terminalBuffer st.terminalBytes } := by
  refine hst.moves rfl ?_ fun used => { hst with
    used, held := hst.tail_nonneg, fits := hfits, tail_nonneg := Int.le_refl 0,
    packets := fun hd => absurd (hfits.mpr hd) hread, unpublished := fun _ _ => rfl }
  simp only [retained, hempty, heldSize_holding]
  omega

/-- A terminal packet moves into the reader's hand. -/
theorem Accounted.takePacket {packet : QueuedPayload} {packets : List QueuedPayload}
    (hdatagram : st.datagram = true) (hpackets : st.terminalPackets = packet :: packets) :
    Balanced sh sh st { st with
      terminalPackets := packets
      terminalBytes := st.terminalBytes - packet.size
      reader := .holding .readDatagram packet.data packet.size } := by
  have hsum : st.terminalBytes - packet.size = reserved packets := by
    simp only [hst.packets hdatagram, hpackets, reserved, total_cons]
    omega
  refine hst.moves rfl ?_ fun used => { hst with
    used, held := packet.size_nonneg, fits := by simp [Fits, hdatagram],
    tail_nonneg := hsum ▸ reserved_nonneg packets, packets := fun _ => hsum,
    unpublished := by simp [hdatagram] }
  simp only [retained, hempty, heldSize_holding]
  omega

omit hempty

/-- The reader's payload leaves the stream, and its reservation all three budgets. -/
theorem Accounted.release
    (hreader : st.reader = .holding c data held) (hafter : reader.heldSize = 0)
    (hfits : reader.Fits st.datagram) :
    Balanced sh (sh.charge (-held)) st
      { st with streamBudget := st.streamBudget.charge (-held), reader, buffer } := by
  refine hst.charges rfl ?_
    fun used => { hst with used, held := Int.le_of_eq hafter.symm, fits := hfits }
  simp only [retained, hreader, hafter, heldSize_holding]
  omega

theorem Accounted.finish (honce : st.finishOnce = .notStarted) :
    Balanced sh sh st { st with closed := true, finishOnce := .draining err [] } := by
  have hunready : st.terminalReady = false := by simpa [honce] using hst.ready_iff
  exact hst.moves rfl (by simp [retained, honce]) fun used => { hst with
    used, closed_iff := by simp, ready_iff := by simp [hunready], noTail := fun _ => rfl }

/-- The drain moves a packet from the channel to the terminal packets. -/
theorem Accounted.finishPacket (hunready : st.terminalReady = false)
    (hincoming : st.incoming = chunk :: incoming) (hdatagram : st.datagram = true) :
    Balanced sh sh st { st with
      incoming
      terminalPackets := st.terminalPackets ++ [chunk]
      terminalBytes := st.terminalBytes + chunk.size } := by
  have hpackets : st.terminalBytes + chunk.size = reserved (st.terminalPackets ++ [chunk]) := by
    simp [hst.packets hdatagram, reserved]
  refine hst.moves rfl ?_ fun used => { hst with
    used, drained := by simp [hunready], tail_nonneg := hpackets ▸ reserved_nonneg _,
    packets := fun _ => hpackets, unpublished := by simp [hdatagram] }
  simp only [retained, reserved, hincoming, total_cons]
  omega

/-- The drain moves a payload from the channel into the tail. -/
theorem Accounted.finishBytes (honce : st.finishOnce = .draining err tail)
    (hincoming : st.incoming = chunk :: incoming) (hbytes : st.datagram = false) :
    Balanced sh sh st { st with incoming, finishOnce := .draining err (tail ++ chunk.data) } := by
  have hunready : st.terminalReady = false := by simpa [honce] using hst.ready_iff
  have hclosed : st.closed = true := hst.closed_iff.mpr (by simp [honce])
  refine hst.moves rfl ?_ fun used => { hst with
    used, closed_iff := by simp [hclosed], ready_iff := by simp [hunready],
    drained := by simp [hunready], noTail := by simp [hbytes] }
  simp only [retained, reserved, hincoming, honce, total_cons, FinishOnce.collected,
    List.length_append, chunk.size_eq]
  omega

/-- Publishing turns the collected tail into the terminal tail. -/
theorem Accounted.finishPublish (honce : st.finishOnce = .draining err tail)
    (hincoming : st.incoming = []) :
    Balanced sh sh st { st with
      terminalBuffer := tail
      terminalBytes := if st.datagram then st.terminalBytes else tail.length
      terminalErr := err
      terminalReady := true
      finishOnce := .unlocked } := by
  have hclosed : st.closed = true := hst.closed_iff.mpr (by simp [honce])
  have hunready : st.terminalReady = false := by simpa [honce] using hst.ready_iff
  have hbytes : (if st.datagram then st.terminalBytes else (tail.length : Int)) =
      st.terminalBytes + tail.length := by
    cases hd : st.datagram with
    | false => simp [hst.unpublished hd hunready]
    | true =>
      have hnone : (tail.length : Int) = 0 := by
        simpa [honce] using hst.noTail hd
      simp [hnone]
  refine hst.moves rfl ?_ fun used => { hst with
    used, closed_iff := by simp [hclosed], ready_iff := by simp, drained := fun _ => hincoming,
    tail_nonneg := hbytes ▸ Int.add_nonneg hst.tail_nonneg (Int.natCast_nonneg _), packets := ?_,
    noTail := fun _ => rfl, unpublished := by simp }
  · simp only [retained, honce, FinishOnce.collected, hbytes]
    omega
  · intro hd
    have hdatagram : st.datagram = true := hd
    simpa [hdatagram] using hst.packets hdatagram

theorem Accounted.finishSignal (honce : st.finishOnce = .unlocked) :
    Balanced sh sh st { st with terminal := true, finishOnce := .done } := by
  have hclosed : st.closed = true := hst.closed_iff.mpr (by simp [honce])
  have hready : st.terminalReady = true := hst.ready_iff.mpr (.inl honce)
  exact hst.moves rfl (by simp [retained, honce]) fun used => { hst with
    used, closed_iff := by simp [hclosed], ready_iff := by simp [hready], noTail := fun _ => rfl }

/-- One more size that is not negative is taken out. -/
theorem Accounted.discards_append (hsize : 0 ≤ size) :
    ∀ other ∈ st.discarding ++ [size], 0 ≤ other :=
  List.forall_mem_append.mpr ⟨hst.discards, List.forall_mem_singleton.mpr hsize⟩

theorem Accounted.discardReceive (hincoming : st.incoming = chunk :: incoming) :
    Balanced sh sh st { st with incoming, discarding := st.discarding ++ [chunk.size] } := by
  refine hst.moves rfl ?_ fun used =>
    { hst with used, discards := hst.discards_append chunk.size_nonneg, drained := ?_ }
  · simp only [retained, reserved, hincoming, total_cons, total_append,
      total_nil, id_eq]
    omega
  · intro hready
    simp [hst.drained hready] at hincoming

theorem Accounted.discardTerminal :
    Balanced sh sh st { st with
      terminalBuffer := []
      terminalPackets := []
      terminalBytes := 0
      discarding := if st.terminalBytes > 0 then st.discarding ++ [st.terminalBytes]
        else st.discarding } := by
  have htail := hst.tail_nonneg
  have htotal : total id (if st.terminalBytes > 0 then
      st.discarding ++ [st.terminalBytes] else st.discarding) =
      total id st.discarding + st.terminalBytes := by
    split
    · simp
    · have hzero : st.terminalBytes = 0 := by omega
      simp [hzero]
  refine hst.moves rfl ?_ fun used => { hst with
    used, discards := ?_, tail_nonneg := Int.le_refl 0, packets := fun _ => rfl,
    unpublished := fun _ _ => rfl }
  · simp only [retained, htotal]
    omega
  · simp only
    split
    · exact hst.discards_append htail
    · exact hst.discards

/-- A discarded size was counted under `discarding` when it was taken out. -/
theorem Accounted.discardRelease (hget : st.discarding[i]? = some size) :
    Balanced sh (sh.charge (-size)) st { st with
      discarding := st.discarding.eraseIdx i
      streamBudget := st.streamBudget.charge (-size) } := by
  refine hst.charges rfl ?_ fun used => { hst with
    used, discards := fun other hother => hst.discards other (List.mem_of_mem_eraseIdx hother) }
  simp only [retained, total_eraseIdx hget, id_eq]
  omega

/-- What the reader releases was reserved. -/
theorem Accounted.releases (hreader : st.reader = .holding c data held)
    (hrelease : releaseQueued sh st held = .next (sh', st')) :
    0 ≤ held ∧ sh' = sh.charge (-held) ∧
      st' = { st with streamBudget := st.streamBudget.charge (-held) } := by
  have hheld : 0 ≤ held := by simpa [hreader] using hst.held
  exact ⟨hheld, releaseQueued_eq_next hheld hrelease⟩

theorem Accounted.discarded (hget : st.discarding[i]? = some size)
    (hrelease : releaseQueued sh { st with discarding := st.discarding.eraseIdx i } size = .next (sh', st')) :
    0 ≤ size ∧ sh' = sh.charge (-size) ∧ st' = { st with
      discarding := st.discarding.eraseIdx i
      streamBudget := st.streamBudget.charge (-size) } := by
  have hsize : 0 ≤ size := hst.discards size (List.mem_of_getElem? hget)
  exact ⟨hsize, releaseQueued_eq_next hsize hrelease⟩

/-- Every step of a stream keeps its books. -/
theorem Accounted.step (h : st.step sh o = .next (sh', st', ev)) : Balanced sh sh' st st' := by
  have hfits := hst.fits
  cases steps_of_step h with
  | rejects | misuse => exact .of_eq hst rfl
  | accepts hopen => exact hst.accepts hopen
  | call hidle hcall => exact hst.moveReader (by rw [hidle]; rfl) rfl hcall
  | poll hreader _ hincoming | receive hreader hincoming =>
    rw [hreader] at hfits
    exact hst.take (by rw [hreader]; rfl) hfits hincoming
  | pollEmpty hreader | wait hreader | wake hreader =>
    rw [hreader] at hfits
    exact hst.moveReader (by rw [hreader]; rfl) rfl hfits
  | copy hreader | reportEnd _ hreader | cancel hreader =>
    exact hst.moveReader (by rw [hreader]; rfl) rfl trivial
  | takeTail _ hreader _ hread =>
    rw [hreader] at hfits
    exact hst.takeTail (by rw [hreader]; rfl) hfits hread
  | takePacket hreader hpackets =>
    rw [hreader] at hfits
    exact hst.takePacket (by rw [hreader]; rfl) (hfits.mp rfl) hpackets
  | keep hreader hrelease =>
    obtain ⟨-, rfl, rfl⟩ := hst.releases hreader hrelease
    rw [hreader] at hfits
    exact hst.release hreader rfl hfits
  | deliver hreader hrelease =>
    obtain ⟨-, rfl, rfl⟩ := hst.releases hreader hrelease
    exact hst.release hreader rfl trivial
  | finish honce => exact hst.finish honce
  | finishPacket honce hincoming hdatagram =>
    exact hst.finishPacket (by simpa [honce] using hst.ready_iff) hincoming hdatagram
  | finishBytes honce hincoming hbytes => exact hst.finishBytes honce hincoming hbytes
  | finishPublish honce hincoming => exact hst.finishPublish honce hincoming
  | finishSignal honce => exact hst.finishSignal honce
  | discardReceive hincoming => exact hst.discardReceive hincoming
  | discardTerminal => exact hst.discardTerminal
  | discardRelease hsize hrelease =>
    obtain ⟨-, rfl, rfl⟩ := hst.discarded hsize hrelease
    exact hst.discardRelease hsize

theorem Accounted.enqueue (h : st.enqueue sh data = .next (sh', st', ev)) :
    Balanced sh sh' st st' :=
  hst.step (o := .enqueue data) h

/-- Once the terminal state is published a stream takes no more bytes: its steps only give
    reservations back. -/
theorem Accounted.step_ready (hready : st.terminalReady = true)
    (h : st.step sh o = .next (sh', st', ev)) :
    st'.terminalReady = true ∧ st'.terminalBytes ≤ st.terminalBytes ∧
      ∃ size, 0 ≤ size ∧ sh' = sh.charge (-size) := by
  have hsame : ∃ size, 0 ≤ size ∧ sh = sh.charge (-size) :=
    ⟨0, Int.le_refl 0, by simp⟩
  have hover := hst.ready_iff.mp hready
  cases steps_of_step h with
  | accepts hopen =>
    have honce : st.finishOnce = .notStarted := by simpa [hopen] using hst.closed_iff
    simp [honce] at hover
  | finish honce | finishPacket honce | finishBytes honce | finishPublish honce =>
    -- the drain is over once the terminal state is published
    simp [honce] at hover
  | takeTail | discardTerminal => exact ⟨hready, hst.tail_nonneg, hsame⟩
  | @takePacket packet =>
    have hsize := packet.size_nonneg
    exact ⟨hready, by simp only; omega, hsame⟩
  | keep hreader hrelease | deliver hreader hrelease =>
    obtain ⟨hheld, rfl, rfl⟩ := hst.releases hreader hrelease
    exact ⟨hready, Int.le_refl _, _, hheld, rfl⟩
  | discardRelease hget hrelease =>
    obtain ⟨hsize, rfl, rfl⟩ := hst.discarded hget hrelease
    exact ⟨hready, Int.le_refl _, _, hsize, rfl⟩
  | _ => exact ⟨hready, Int.le_refl _, hsame⟩

omit hst

theorem Balanced.retained_le (h : Balanced sh sh' st st')
    (hshared : ∃ size, 0 ≤ size ∧ sh' = sh.charge (-size)) : st'.retained ≤ st.retained := by
  obtain ⟨size, hsize, rfl⟩ := hshared
  have hglobal := congrArg (fun budgets => budgets.globalBudget.used) h.2
  simp only [SharedBudgets.charge, charge_used] at hglobal
  omega

/-- Every step but `enqueue` releases no less than it grants, and no more unless it returns a packet
    or discards. -/
theorem Accounted.step_releases (hst : st.Accounted) (hother : ∀ data, o ≠ .enqueue data)
    (h : st.step sh o = .next (sh', st', ev)) :
    ∃ released, 0 ≤ released ∧ ev.grants ≤ released ∧ sh' = sh.charge (-released) ∧
      (ev.grants = released ∨ (∃ data, ev = .packet data) ∨ ∃ i, o = .discardRelease i) := by
  cases steps_of_step h with
  | rejects | accepts => exact absurd rfl (hother _)
  | keep hreader hrelease =>
    obtain ⟨hheld, rfl, rfl⟩ := hst.releases hreader hrelease
    exact ⟨_, hheld, Int.le_refl _, rfl, .inl rfl⟩
  | deliver hreader hrelease =>
    obtain ⟨hheld, rfl, rfl⟩ := hst.releases hreader hrelease
    exact ⟨_, hheld, hheld, rfl, .inr (.inl ⟨_, rfl⟩)⟩
  | discardRelease hget hrelease =>
    obtain ⟨hsize, rfl, rfl⟩ := hst.discarded hget hrelease
    exact ⟨_, hsize, hsize, rfl, .inr (.inr ⟨_, rfl⟩)⟩
  | _ =>
    -- the others leave the shared budgets as they are
    exact ⟨0, Int.le_refl 0, Int.le_refl 0, by simp, .inl rfl⟩

/-- The change of the shared budgets is that of the bytes retained. -/
theorem Balanced.retained_eq (h : Balanced sh sh' st st')
    (hcharge : sh' = sh.charge delta) : st'.retained = st.retained + delta := by
  have hglobal := congrArg (fun budgets => budgets.globalBudget.used) (h.2.symm.trans hcharge)
  simp only [SharedBudgets.charge, charge_used] at hglobal
  omega

/-- Credit is only returned for bytes that leave the stream. -/
theorem Accounted.step_credit (hst : st.Accounted) (hother : ∀ data, o ≠ .enqueue data)
    (h : st.step sh o = .next (sh', st', ev)) :
    st'.retained ≤ st.retained ∧ st'.retained + ev.grants ≤ st.retained := by
  obtain ⟨released, hnonneg, hgrants, hcharge, -⟩ := hst.step_releases hother h
  have hretained := (hst.step h).retained_eq hcharge
  constructor <;> omega

/-- Bytes leave the stream for their credit, unless a packet is returned or bytes are discarded. -/
theorem Accounted.step_grants (hst : st.Accounted) (hother : ∀ data, o ≠ .enqueue data)
    (hpacket : ∀ data, ev ≠ .packet data) (hkeep : ∀ i, o ≠ .discardRelease i)
    (h : st.step sh o = .next (sh', st', ev)) :
    0 ≤ ev.grants ∧ st'.retained + ev.grants = st.retained := by
  obtain ⟨released, hreleased, -, hcharge, hexact⟩ := hst.step_releases hother h
  have hretained := (hst.step h).retained_eq hcharge
  rcases hexact with hgrants | ⟨data, hdata⟩ | ⟨i, hdiscard⟩
  · omega
  · exact absurd hdata (hpacket data)
  · exact absurd hdiscard (hkeep i)

theorem Accounted.enqueue_retained (hst : st.Accounted)
    (h : st.enqueue sh data = .next (sh', st', ev)) :
    st'.retained ≤ st.retained + data.length := by
  have hbalanced := hst.enqueue h
  obtain ⟨-, ⟨err, -, rfl, rfl⟩ | ⟨-, -, -, hcharge, -⟩⟩ := enqueue_cases h
  · omega
  · rw [hbalanced.retained_eq hcharge]

/-- Open data with room in the stream, in its session and in the queue is refused only if the Gateway's
    budget is used up. -/
theorem enqueue_of_room (hopen : st.closed = false)
    (hstream : st.streamBudget.tryAcquire data.length ≠ none)
    (hsession : sh.sessionBudget.tryAcquire data.length ≠ none)
    (hroom : st.incoming.length < st.capacity) (h : st.enqueue sh data = .next (sh', st', ev)) :
    ev = .accepted data ∨ sh.globalBudget.tryAcquire data.length = none := by
  cases hglobal : sh.globalBudget.tryAcquire data.length with
  | none => exact .inr rfl
  | some globalBudget =>
    obtain ⟨streamBudget, hstream⟩ := Option.ne_none_iff_exists'.mp hstream
    obtain ⟨sessionBudget, hsession⟩ := Option.ne_none_iff_exists'.mp hsession
    unfold enqueue at h
    simp only [hopen, hstream, hsession, hglobal, hroom, if_true, Bool.false_eq_true, if_false] at h
    split at h <;> cases h
    exact .inl rfl

/-- Data that is not rejected is retained whole. -/
theorem Accounted.enqueue_kept (hst : st.Accounted) (h : st.enqueue sh data = .next (sh', st', ev))
    (hkept : ∀ err, ev ≠ .rejected err) :
    st'.retained = st.retained + data.length ∧ st'.datagram = st.datagram := by
  have hbalanced := hst.enqueue h
  obtain ⟨-, ⟨err, rfl, -, -⟩ | ⟨-, -, -, hcharge, rfl⟩⟩ := enqueue_cases h
  · exact absurd rfl (hkept err)
  · exact ⟨hbalanced.retained_eq hcharge, rfl⟩

/-- A later state of a stream to which nothing was added. -/
structure Keeps (st st' : Stream) : Prop where
  datagram : st'.datagram = st.datagram
  capacity : st'.capacity = st.capacity
  limit : st'.streamBudget.limit = st.streamBudget.limit
  incoming : st'.incoming.length ≤ st.incoming.length

/-- Every step but `enqueue` leaves the kind of the stream and its bounds alone, does not lengthen the
    queue, and returns packets of a UDP flow only. -/
theorem Accounted.step_keeps (hst : st.Accounted) (hother : ∀ data, o ≠ .enqueue data)
    (h : st.step sh o = .next (sh', st', ev)) :
    st.Keeps st' ∧ ∀ data, ev = .packet data → st.datagram = true := by
  cases steps_of_step h with
  | rejects | accepts => exact absurd rfl (hother _)
  | poll _ _ hincoming | receive _ hincoming | finishPacket _ hincoming | finishBytes _ hincoming
  | discardReceive hincoming => exact ⟨⟨rfl, rfl, rfl, by simp [hincoming]⟩, by simp⟩
  | keep hreader hrelease =>
    obtain ⟨-, rfl, rfl⟩ := hst.releases hreader hrelease
    exact ⟨⟨rfl, rfl, rfl, Nat.le_refl _⟩, by simp⟩
  | deliver hreader hrelease =>
    obtain ⟨-, rfl, rfl⟩ := hst.releases hreader hrelease
    refine ⟨⟨rfl, rfl, rfl, Nat.le_refl _⟩, ?_⟩
    -- the reader's call fits the kind of stream
    simpa [hreader, Fits] using hst.fits
  | discardRelease hget hrelease =>
    obtain ⟨-, rfl, rfl⟩ := hst.discarded hget hrelease
    exact ⟨⟨rfl, rfl, rfl, Nat.le_refl _⟩, by simp⟩
  | _ => exact ⟨⟨rfl, rfl, rfl, Nat.le_refl _⟩, by simp⟩

end Steps

/-! ## No step panics -/

section Panics

variable {sh : SharedBudgets} {st : Stream}

theorem enqueue_not_panics {data : Bytes} (hglobal : 0 ≤ sh.globalBudget.used)
    (hsession : 0 ≤ sh.sessionBudget.used) (hstream : 0 ≤ st.streamBudget.used) :
    ¬ (st.enqueue sh data).Panics := by
  simp only [enqueue]
  repeat' split
  · simp
  · simp
  · simp
  next hst _ _ =>
    rw [release_tryAcquire hstream hst]
    simp
  next hst _ _ hse _ _ =>
    rw [release_tryAcquire hsession hse, release_tryAcquire hstream hst]
    simp
  · simp
  next hst _ _ hse _ _ hgl _ =>
    rw [releaseQueued, release_tryAcquire hglobal hgl]
    simp [release_tryAcquire hsession hse, release_tryAcquire hstream hst]

theorem Accounted.releaseHeld_not_panics (hst : st.Accounted)
    (hglobal : st.retained ≤ sh.globalBudget.used)
    (hsession : st.retained ≤ sh.sessionBudget.used) : ¬ (st.releaseHeld sh).Panics := by
  have hle := hst.held_le
  have hnonneg := hst.held
  have hused := hst.used
  unfold Stream.releaseHeld
  split
  case h_3 => simp
  all_goals
    next held hreader =>
      simp only [hreader, heldSize_holding] at hle hnonneg
      rw [releaseQueued_of_le hnonneg (by omega) (by omega) (by omega)]
      simp

theorem Accounted.discardRelease_not_panics {i : Nat} (hst : st.Accounted)
    (hglobal : st.retained ≤ sh.globalBudget.used)
    (hsession : st.retained ≤ sh.sessionBudget.used) : ¬ (st.discardRelease sh i).Panics := by
  have hused := hst.used
  unfold Stream.discardRelease
  split
  next size hget =>
    have hle := hst.discard_le hget
    have hnonneg : 0 ≤ size := hst.discards size (List.mem_of_getElem? hget)
    rw [releaseQueued_of_le hnonneg (by omega) (by omega) (by simp only; omega)]
    simp
  next => simp

/-- No step of a stream releases more than is reserved, if the shared budgets cover what the stream
    retains. -/
theorem Accounted.step_not_panics {o : Op} (hst : st.Accounted)
    (hglobal : st.retained ≤ sh.globalBudget.used)
    (hsession : st.retained ≤ sh.sessionBudget.used) : ¬ (st.step sh o).Panics := by
  have hnonneg := hst.retained_nonneg
  have hused := hst.used
  cases o with
  | enqueue data => exact enqueue_not_panics (by omega) (by omega) (by omega)
  | releaseHeld => exact hst.releaseHeld_not_panics hglobal hsession
  | discardRelease i => exact hst.discardRelease_not_panics hglobal hsession
  | _ =>
    -- the other steps never release anything
    simp only [Stream.step, Stream.call, Stream.poll, Stream.copy, Stream.lockSection,
      Stream.receive, Stream.wake, Stream.cancel, Stream.finish, Stream.finishReceive,
      Stream.finishPublish, Stream.finishSignal, Stream.discardReceive, Stream.discardTerminal]
    repeat' split
    all_goals simp

end Panics

end Stream

end Hooshix.Gateway

-- SUMMARY: The close codes of the receive loop against the protocol's table.
import Hooshix.ContractV1.ControlContract
import Hooshix.Gateway.SessionLoop

/-! # Close codes

Section 11c of the protocol names a close code for each violation. The table is stated on the bytes of
a message; the loop arrives at a code through the errors of the codec, the sequence tracker and the
control validation.
-/

namespace Hooshix.Gateway.SessionLoop

open Contract ContractV1 StructDecode

/-! ## The table -/

/-- The header of a message is in order, its sequence number and sizes apart. -/
structure Framed (message : Bytes) : Prop where
  header : headerSize ≤ message.length
  magic : slice message 0 4 = Contract.magic
  version : byteAt message 4 = 1
  kind : byteAt message 5 = kindControl ∨ byteAt message 5 = kindData
  flags : slice message 6 2 = [0, 0]
  length : BigEndian.read (slice message 12 4) = message.length - headerSize

def sequenceOf (message : Bytes) : Nat := BigEndian.read (slice message 16 8)

def streamIDOf (message : Bytes) : Nat := BigEndian.read (slice message 8 4)

def payloadOf (message : Bytes) : Bytes := message.drop headerSize

/-- The message is a frame and the successor of the last one. -/
def InSequence (last : Nat) (message : Bytes) : Prop :=
  Framed message ∧ sequenceOf message = last + 1

/-- The payload is within the maximum of its kind. -/
def Fits (message : Bytes) : Prop :=
  (payloadOf message).length ≤ maxPayloadForKind (byteAt message 5)

/-- The payload is a JSON object without duplicate names. -/
def StrictObject (payload : Bytes) : Prop :=
  ∃ members, jsonValue payload = some (.object members) ∧ Json.UniqueNames (.object members)

/-- A message of this version whose type is none of the contract's. Nothing else in it takes the place of
    the version or the type. -/
def UnknownType (payload : Bytes) : Prop :=
  ∃ members, IsObject payload members ∧
    (∀ m ∈ members, ∀ name ∈ ["contract_version", "message_type"],
      foldName m.1 = foldName name → m.1 = name) ∧
    (∃ json, ("contract_version", json) ∈ members ∧ Denotes json (.int 1)) ∧
    ∃ type, ("message_type", .string type) ∈ members ∧ MessageType.ofName? type = none

/-- A message of the contract on a stream ID that is not in its scope. -/
def OutOfScope (now : Int) (streamID : Nat) (payload : Bytes) : Prop :=
  ∃ members type, IsObject payload members ∧ Conforms type now members ∧
    ¬ (streamID = 0 ↔ type.scope = .session)

/-- The messages an Agent may send. -/
def fromAgent (flowControlled : Bool) : MessageType → Bool
  | .ping | .pong | .healthReport | .streamClose | .streamHalfClose | .streamError => true
  | .streamWindowUpdate => flowControlled
  | _ => false

/-- A message of the contract, in its scope, that an Agent may not send. -/
def NotFromAgent (flowControlled : Bool) (now : Int) (streamID : Nat) (payload : Bytes) : Prop :=
  ∃ members type, IsObject payload members ∧ Conforms type now members ∧
    (streamID = 0 ↔ type.scope = .session) ∧ fromAgent flowControlled type = false

/-- The close code that the table has for a message, if it has one. Each row is behind those above. -/
inductive Row (env : Env) (sess : SessionView) (message : Bytes) : Int → Prop
  | frame (h : ¬ InSequence sess.inbound message) : Row env sess message statusProtocolError
  | tooBig (hframe : InSequence sess.inbound message) (h : ¬ Fits message) :
      Row env sess message statusMessageTooBig
  | payload (hframe : InSequence sess.inbound message) (hfits : Fits message)
      (hcontrol : byteAt message 5 = kindControl) (h : ¬ StrictObject (payloadOf message)) :
      Row env sess message statusInvalidFramePayloadData
  | policy (hframe : InSequence sess.inbound message) (hfits : Fits message)
      (hcontrol : byteAt message 5 = kindControl)
      (h : UnknownType (payloadOf message) ∨
        OutOfScope env.now (streamIDOf message) (payloadOf message) ∨
        NotFromAgent sess.flowControlled env.now (streamIDOf message) (payloadOf message)) :
      Row env sess message statusPolicyViolation

/-- The loop closes the session with the code of the table. -/
def FollowsTable (env : Env) (sess : SessionView) (message : Bytes) : Prop :=
  ∀ code, Row env sess message code → (receive env sess .binary message).code = some code

/-- The messages that are closed with another code than the table's. -/
inductive Misfiled (env : Env) (sess : SessionView) (message : Bytes) : Prop
  /-- a violation of the frame in a message above the read limit: 1009 -/
  | limit (hlimit : readLimit < message.length) (h : ¬ InSequence sess.inbound message)
  /-- the sequence number zero in a frame that is in order: 1007 -/
  | sequenceZero (hframed : Framed message) (hfits : Fits message) (h : sequenceOf message = 0)
  /-- a wrong sequence number in a data frame for stream zero: 1007 -/
  | dataStreamZero (hframed : Framed message) (hfits : Fits message)
      (hdata : byteAt message 5 = kindData) (hstream : streamIDOf message = 0)
      (h : sequenceOf message ≠ sess.inbound + 1)
  /-- a control frame above the control maximum but not above the data maximum: 1002 -/
  | controlSize (hframe : InSequence sess.inbound message) (hcontrol : byteAt message 5 = kindControl)
      (h : ¬ Fits message) (hlimit : message.length ≤ readLimit)
  /-- a control message of unknown type: 1007 -/
  | unknownType (hframe : InSequence sess.inbound message) (hfits : Fits message)
      (hcontrol : byteAt message 5 = kindControl) (h : UnknownType (payloadOf message))
  /-- a control message out of its scope: 1007 -/
  | outOfScope (hframe : InSequence sess.inbound message) (hfits : Fits message)
      (hcontrol : byteAt message 5 = kindControl)
      (h : OutOfScope env.now (streamIDOf message) (payloadOf message))

/-! ## Decoding -/

section Decoding

variable {message : Bytes}

theorem headerLanguage_iff : HeaderLanguage message ↔ Framed message ∧ Fits message := by
  have hlength : (payloadOf message).length = message.length - headerSize := List.length_drop
  rw [Fits, hlength]
  exact ⟨fun h => ⟨{ h with }, h.bound⟩, fun ⟨hframed, hbound⟩ => { hframed with bound := hbound }⟩

theorem validateFrameFields_plain {frame : WireFrame} {err : CodecError}
    (h : validateFrameFields frame = some err) : err.framing = false := by
  unfold validateFrameFields at h
  split_ifs at h <;>
  · obtain rfl := Option.some.inj h
    rfl

/-- Beyond its header a frame needs a sequence number, and a stream if it carries data. -/
theorem validateFrameFields_framed (hframed : Framed message) (hfits : Fits message) :
    validateFrameFields (frameFields message) = none ↔
      sequenceOf message ≠ 0 ∧ (byteAt message 5 = kindData → streamIDOf message ≠ 0) := by
  have hsequence : (frameFields message).sequence ≠ 0 ↔ sequenceOf message ≠ 0 := by
    rw [sequenceOf, ← sequence_frameFields hframed.header]
    exact not_congr ⟨fun h => by rw [h]; rfl, fun h => UInt64.toNat.inj h⟩
  have hstream : (frameFields message).streamID ≠ 0 ↔ streamIDOf message ≠ 0 := by
    rw [streamIDOf, ← streamID_frameFields hframed.header]
    exact not_congr ⟨fun h => by rw [h]; rfl, fun h => UInt32.toNat.inj h⟩
  rw [validateFrameFields_eq_none, hsequence, hstream]
  exact ⟨fun h => ⟨h.2.1, h.2.2.2⟩, fun h => ⟨hframed.kind, h.1, hfits, h.2⟩⟩

theorem length_le_readLimit (hfits : Fits message) : message.length ≤ readLimit := by
  have hmax : maxPayloadForKind (byteAt message 5) ≤ maxDataPayload := by
    unfold maxPayloadForKind
    split <;> decide
  have hlength : (payloadOf message).length ≤ maxDataPayload := Nat.le_trans hfits hmax
  rw [payloadOf, List.length_drop] at hlength
  unfold readLimit
  omega

end Decoding

/-! ## One message -/

section Receive

variable {env : Env} {sess : SessionView} {message : Bytes}

theorem receive_limit (hlibrary : env.oversize.TooBig) (h : readLimit < message.length) :
    (receive env sess .binary message).code = some statusMessageTooBig := by
  unfold Oversize.TooBig at hlibrary
  simp only [receive, readProtocolFrame, Env.sent, h, if_true]
  cases hsent : env.oversize.sent with
  | some code =>
    rw [hsent] at hlibrary
    exact congrArg some hlibrary
  | none =>
    rw [hsent] at hlibrary
    have hstatus : env.oversize.closeStatus = statusMessageTooBig := hlibrary
    rw [if_pos hstatus]
    rfl

theorem receive_framing (hlimit : message.length ≤ readLimit) (h : ¬ (Framed message ∧ Fits message)) :
    (receive env sess .binary message).code = some statusProtocolError := by
  obtain ⟨err, hdecode, hframing⟩ := decodeFrame_framing (mt headerLanguage_iff.mp h)
  simp only [receive, readProtocolFrame, Env.sent, Nat.not_lt.mpr hlimit, if_false, ne_eq,
    not_true_eq_false, hdecode, hframing, if_true]
  rfl

theorem receive_fields (hframed : Framed message) (hfits : Fits message)
    (h : ¬ (sequenceOf message ≠ 0 ∧ (byteAt message 5 = kindData → streamIDOf message ≠ 0))) :
    (receive env sess .binary message).code = some statusInvalidFramePayloadData := by
  have hlimit := Nat.not_lt.mpr (length_le_readLimit hfits)
  cases hvalidate : validateFrameFields (frameFields message) with
  | none => exact absurd ((validateFrameFields_framed hframed hfits).mp hvalidate) h
  | some err =>
    have hdecode := (headerLanguage_iff.mpr ⟨hframed, hfits⟩).decodeFrame
    rw [hvalidate] at hdecode
    simp only [receive, readProtocolFrame, Env.sent, hlimit, if_false, ne_eq, not_true_eq_false,
      hdecode, validateFrameFields_plain hvalidate, Bool.false_eq_true]
    rfl

/-- A message that is read as a frame. -/
theorem readProtocolFrame_ok (hframed : Framed message) (hfits : Fits message)
    (h : sequenceOf message ≠ 0 ∧ (byteAt message 5 = kindData → streamIDOf message ≠ 0)) :
    readProtocolFrame env.oversize .binary message = .ok (frameFields message) := by
  have hlimit := Nat.not_lt.mpr (length_le_readLimit hfits)
  have hdecode := (headerLanguage_iff.mpr ⟨hframed, hfits⟩).decodeFrame
  rw [(validateFrameFields_framed hframed hfits).mpr h] at hdecode
  simp only [readProtocolFrame, hlimit, if_false, ne_eq, not_true_eq_false, hdecode]

theorem acceptSequence_ok_iff {last sequence next : Nat} (h : sequence ≤ maxSequence) :
    acceptSequence last sequence = .ok next ↔ sequence = last + 1 ∧ next = sequence := by
  unfold acceptSequence nextSequence
  by_cases hlast : last = maxSequence
  · simp [hlast]
    omega
  · simp only [hlast, if_false]
    by_cases hnext : sequence = last + 1
    · simp [hnext, eq_comm]
    · simp [hnext]

theorem receive_sequence (hframed : Framed message) (hfits : Fits message)
    (h : sequenceOf message ≠ 0 ∧ (byteAt message 5 = kindData → streamIDOf message ≠ 0))
    (hsequence : sequenceOf message ≠ sess.inbound + 1) :
    (receive env sess .binary message).code = some statusProtocolError := by
  simp only [receive, readProtocolFrame_ok hframed hfits h]
  cases haccept : acceptSequence sess.inbound (frameFields message).sequence.toNat with
  | error err => rfl
  | ok next =>
    have hle : (frameFields message).sequence.toNat ≤ maxSequence :=
      Nat.le_of_lt_succ (frameFields message).sequence.toNat_lt
    have hnext := ((acceptSequence_ok_iff hle).mp haccept).1
    rw [sequence_frameFields hframed.header] at hnext
    exact absurd hnext hsequence

theorem receive_control (hframe : InSequence sess.inbound message) (hfits : Fits message)
    (hcontrol : byteAt message 5 = kindControl) :
    (receive env sess .binary message).code =
      match handleControl env sess (frameFields message) with
      | .error err => some (closeCodeFor err statusPolicyViolation "control violation").1
      | .ok _ => none := by
  obtain ⟨hframed, hsequence⟩ := hframe
  have hfields : sequenceOf message ≠ 0 ∧
      (byteAt message 5 = kindData → streamIDOf message ≠ 0) := by
    refine ⟨by omega, fun hdata => ?_⟩
    rw [hcontrol] at hdata
    cases hdata
  have hle : (frameFields message).sequence.toNat ≤ maxSequence :=
    Nat.le_of_lt_succ (frameFields message).sequence.toNat_lt
  have haccept := (acceptSequence_ok_iff hle).mpr
    ⟨(sequence_frameFields hframed.header).trans hsequence, rfl⟩
  have hkind : (frameFields message).kind = kindControl := hcontrol
  simp only [receive, readProtocolFrame_ok hframed hfits hfields, haccept, hkind, if_true]
  cases handleControl env sess (frameFields message) <;> rfl

end Receive

/-! ## Control messages -/

section Control

variable {env : Env} {sess : SessionView} {message : Bytes} {payload : Bytes} {streamID : Nat}
  {now : Int}

theorem receive_invalid (hframe : InSequence sess.inbound message) (hfits : Fits message)
    (hcontrol : byteAt message 5 = kindControl)
    (h : validateControlPayload (payloadOf message) (streamIDOf message) env.now ≠ .ok ()) :
    (receive env sess .binary message).code = some statusInvalidFramePayloadData := by
  have hstream := streamID_frameFields hframe.1.header
  rw [receive_control hframe hfits hcontrol, handleControl, hstream]
  cases hvalidate : validateControlPayload (payloadOf message) (streamIDOf message) env.now with
  | ok result => exact absurd hvalidate h
  | error err =>
    have hpayload : validateControlPayload (frameFields message).payload
        (BigEndian.read (slice message 8 4)) env.now = .error err := hvalidate
    rw [hpayload]
    rfl

theorem not_accepted_of_not_strict (h : ¬ StrictObject payload) :
    validateControlPayload payload streamID now ≠ .ok () := by
  intro haccepted
  obtain ⟨members, hobject, -⟩ := validateControlPayload_ok_iff.mp haccepted
  exact h ⟨members, hobject.object, hobject.unique⟩

theorem not_accepted_of_unknownType (h : UnknownType payload) :
    validateControlPayload payload streamID now ≠ .ok () := by
  intro haccepted
  obtain ⟨members, hobject, hexact, -, name, hname, hunknown⟩ := h
  obtain ⟨members', hobject', type, -, hread⟩ := validateControlPayload_ok_iff.mp haccepted
  obtain rfl := hobject.members_unique hobject'
  obtain ⟨json, hjson, hdenotes⟩ := hread.typeName
  have hslot := (slot_eq_some_iff hobject.names
    fun m hm => hexact m hm "message_type" (by decide)).mpr hname
  rw [hslot] at hjson
  obtain rfl := Option.some.inj hjson
  cases hdenotes
  rw [MessageType.ofName?_eq_some_iff.mpr rfl] at hunknown
  cases hunknown

theorem not_accepted_of_outOfScope
    (h : OutOfScope now streamID payload) : validateControlPayload payload streamID now ≠ .ok () := by
  intro haccepted
  obtain ⟨members, type, hobject, hconforms, hscope⟩ := h
  obtain ⟨members', hobject', type', hscope', hread⟩ := validateControlPayload_ok_iff.mp haccepted
  obtain rfl := hobject.members_unique hobject'
  rw [ReadAs.type_unique ((conforms_iff hobject).mp hconforms).1 hread] at hscope'
  exact hscope hscope'

/-- A message that an Agent may not send is an error without a close code of its own. -/
theorem dispatchControl_notFromAgent (env : Env) (frame : WireFrame) {type : MessageType}
    (h : fromAgent sess.flowControlled type = false) :
    ∃ err, dispatchControl env sess frame type.name = .error (unclassified err) := by
  have hname : MessageType.ofName? type.name = some type := MessageType.ofName?_eq_some_iff.mpr rfl
  simp only [dispatchControl, hname]
  cases type with
  | streamWindowUpdate =>
    have hflow : sess.flowControlled = false := h
    simp only [hflow, if_true]
    exact ⟨_, rfl⟩
  | ping | pong | healthReport | streamClose | streamHalfClose | streamError => cases h
  | _ => exact ⟨_, rfl⟩

theorem receive_notFromAgent (hframe : InSequence sess.inbound message) (hfits : Fits message)
    (hcontrol : byteAt message 5 = kindControl)
    (h : NotFromAgent sess.flowControlled env.now (streamIDOf message) (payloadOf message)) :
    (receive env sess .binary message).code = some statusPolicyViolation := by
  obtain ⟨members, type, hobject, hconforms, hscope, hagent⟩ := h
  have hread := ((conforms_iff hobject).mp hconforms).1
  have haccepted : validateControlPayload (frameFields message).payload
      (frameFields message).streamID.toNat env.now = .ok () := by
    rw [streamID_frameFields hframe.1.header]
    exact validateControlPayload_ok_iff.mpr ⟨members, hobject, type, hscope, hread⟩
  obtain ⟨-, decoded, hdecode, ⟨-, htype⟩, -⟩ := (readAs_iff hobject).mp hread
  obtain ⟨envelope, hunmarshal, hagree⟩ := exists_unmarshal typeField hobject hdecode (by decide)
    fun f hf => List.mem_append_left _ (List.mem_cons_of_mem _ hf)
  have hname : envelope.string "message_type" = type.name := by
    rw [← htype, Struct.string, Struct.string,
      hagree ⟨"message_type", .string⟩ (by decide)]
  have hpart : unmarshalMessage typeField (frameFields message).payload = .ok envelope := by
    rw [unmarshalMessage, show (frameFields message).payload = payloadOf message from rfl, hunmarshal]
    rfl
  obtain ⟨err, herr⟩ := dispatchControl_notFromAgent env (frameFields message) hagent
  rw [receive_control hframe hfits hcontrol, handleControl, haccepted]
  simp only [hpart, bind, Except.bind, hname, herr]
  rfl

end Control

/-! ## The loop against the table -/

theorem not_fits_control {message : Bytes} (hframed : Framed message) (h : ¬ Fits message)
    (hlimit : message.length ≤ readLimit) : byteAt message 5 = kindControl := by
  rcases hframed.kind with hcontrol | hdata
  · exact hcontrol
  · refine absurd ?_ h
    rw [Fits, hdata, payloadOf, List.length_drop]
    have hmax : maxPayloadForKind kindData = maxDataPayload := rfl
    rw [hmax]
    unfold readLimit at hlimit
    omega

theorem misfiled_code {env : Env} {sess : SessionView} {message : Bytes}
    (hlibrary : env.oversize.TooBig) (h : Misfiled env sess message) :
    ∃ code, Row env sess message code ∧ (receive env sess .binary message).code ≠ some code := by
  cases h with
  | limit hlimit h =>
    refine ⟨_, .frame h, ?_⟩
    rw [receive_limit hlibrary hlimit]
    decide
  | sequenceZero hframed hfits h =>
    have hframe : ¬ InSequence sess.inbound message := by
      rintro ⟨-, hsequence⟩
      omega
    refine ⟨_, .frame hframe, ?_⟩
    rw [receive_fields hframed hfits fun hfields => hfields.1 h]
    decide
  | dataStreamZero hframed hfits hdata hstream h =>
    refine ⟨_, .frame fun hframe => h hframe.2, ?_⟩
    rw [receive_fields hframed hfits fun hfields => hfields.2 hdata hstream]
    decide
  | controlSize hframe hcontrol h hlimit =>
    refine ⟨_, .tooBig hframe h, ?_⟩
    rw [receive_framing hlimit fun hboth => h hboth.2]
    decide
  | unknownType hframe hfits hcontrol h =>
    refine ⟨_, .policy hframe hfits hcontrol (.inl h), ?_⟩
    rw [receive_invalid hframe hfits hcontrol (not_accepted_of_unknownType h)]
    decide
  | outOfScope hframe hfits hcontrol h =>
    refine ⟨_, .policy hframe hfits hcontrol (.inr (.inl h)), ?_⟩
    rw [receive_invalid hframe hfits hcontrol (not_accepted_of_outOfScope h)]
    decide

/-- A message is closed with the code of the table exactly when it is none of the misfiled ones. -/
theorem followsTable_iff {env : Env} (hlibrary : env.oversize.TooBig) (sess : SessionView)
    (message : Bytes) :
    FollowsTable env sess message ↔ ¬ Misfiled env sess message := by
  constructor
  · intro h hmisfiled
    obtain ⟨code, hrow, hcode⟩ := misfiled_code hlibrary hmisfiled
    exact hcode (h code hrow)
  · intro h code hrow
    cases hrow with
    | frame hframe =>
      have hlimit : message.length ≤ readLimit := Nat.not_lt.mp fun hlimit => h (.limit hlimit hframe)
      by_cases hboth : Framed message ∧ Fits message
      · obtain ⟨hframed, hfits⟩ := hboth
        have hsequence : sequenceOf message ≠ sess.inbound + 1 := fun hsequence =>
          hframe ⟨hframed, hsequence⟩
        have hfields : sequenceOf message ≠ 0 ∧
            (byteAt message 5 = kindData → streamIDOf message ≠ 0) :=
          ⟨fun hzero => h (.sequenceZero hframed hfits hzero),
            fun hdata hzero => h (.dataStreamZero hframed hfits hdata hzero hsequence)⟩
        exact receive_sequence hframed hfits hfields hsequence
      · exact receive_framing hlimit hboth
    | tooBig hframe hfits =>
      by_cases hlimit : readLimit < message.length
      · exact receive_limit hlibrary hlimit
      · have hcontrol := not_fits_control hframe.1 hfits (Nat.not_lt.mp hlimit)
        exact absurd (.controlSize hframe hcontrol hfits (Nat.not_lt.mp hlimit)) h
    | payload hframe hfits hcontrol hstrict =>
      exact receive_invalid hframe hfits hcontrol (not_accepted_of_not_strict hstrict)
    | policy hframe hfits hcontrol hforbidden =>
      rcases hforbidden with hunknown | hscope | hagent
      · exact absurd (.unknownType hframe hfits hcontrol hunknown) h
      · exact absurd (.outOfScope hframe hfits hcontrol hscope) h
      · exact receive_notFromAgent hframe hfits hcontrol hagent

def freshSession : SessionView where
  inbound := 0
  flowControlled := false
  streams := fun _ => none
  nextID := 1
  pendingPing := ""

/-- The first data frame of stream `1`, with one byte more than a data frame may have. -/
def oversizeFrame : Bytes :=
  Contract.magic ++ [1, 2, 0, 0, 0, 0, 0, 1, 0, 16, 0, 1, 0, 0, 0, 0, 0, 0, 0, 1] ++
    List.replicate (maxDataPayload + 1) 0

theorem length_oversizeFrame : oversizeFrame.length = readLimit + 1 := by
  simp only [oversizeFrame, List.length_append, List.length_replicate]
  rfl

theorem oversizeFrame_inSequence : InSequence 0 oversizeFrame := by
  refine ⟨⟨?_, rfl, rfl, .inr rfl, rfl, ?_⟩, rfl⟩
  · rw [length_oversizeFrame]
    decide
  · rw [length_oversizeFrame]
    rfl

theorem followsTable_oversize :
    quietEnv.oversize.TooBig ∧ FollowsTable quietEnv freshSession oversizeFrame := by
  have hlibrary : quietEnv.oversize.TooBig := rfl
  refine ⟨hlibrary, (followsTable_iff hlibrary freshSession oversizeFrame).mpr fun hmisfiled => ?_⟩
  have hsize : ¬ Fits oversizeFrame := fun hfits => by
    have hlength := length_le_readLimit hfits
    rw [length_oversizeFrame] at hlength
    omega
  cases hmisfiled with
  | limit _ h => exact h oversizeFrame_inSequence
  | controlSize _ hcontrol _ _ => cases hcontrol
  | sequenceZero _ hfits _ | dataStreamZero _ hfits _ _ _ | unknownType _ hfits _ _
  | outOfScope _ hfits _ _ => exact hsize hfits

/-- A control frame with the sequence number zero and an empty payload. -/
def zeroSequenceFrame : Bytes :=
  Contract.magic ++ [1, 1, 0, 0] ++ List.replicate 16 0

/-- The sequence number zero follows no other, but the session is closed with 1007. -/
theorem zeroSequence_misfiled :
    Row quietEnv freshSession zeroSequenceFrame statusProtocolError ∧
      (receive quietEnv freshSession .binary zeroSequenceFrame).code =
        some statusInvalidFramePayloadData := by
  refine ⟨.frame fun hframe => ?_, by decide +kernel⟩
  have hzero : sequenceOf zeroSequenceFrame = 0 := by decide
  exact absurd (hzero.symm.trans hframe.2) (by decide)

end Hooshix.Gateway.SessionLoop

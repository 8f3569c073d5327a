-- SUMMARY: The control messages of an Agent session as they are marshalled, and when the Gateway accepts them.
import Hooshix.Agent.StreamServing
import Hooshix.ContractV1.ControlMarshal

/-! # Control messages of the Agent

What `sendControl` is called with once a session runs. `json.Marshal` writes the fields of a struct in
their order and leaves out an empty string where the field has `omitempty`. All texts of `stream_error`
are shorter than the 256 bytes that `sendStreamError` keeps of them.
-/

namespace Hooshix.Agent

open Contract ContractV1 StructDecode Kind

/-- An instant as `Format(time.RFC3339)` writes it, of a clock within the dates of the contract. -/
structure Stamp where
  text : String
  valid : ∃ t, parseTimestamp (codes text) = some t

/-- The version of a build, as long as the contract allows. -/
structure BuildVersion where
  text : String
  valid : text.length ≤ 64

structure HealthReport where
  reportID : String
  generatedAt : Stamp
  activeStreams : Nat
  queuedFrames : Nat
  reconnectCount : Nat
  /-- absent while `lastReconnect` is zero -/
  lastReconnectAt : Option Stamp
  agentVersion : BuildVersion

inductive ControlMessage where
  | pong (pingID : String) (receivedAt : Stamp)
  | healthReport (report : HealthReport)
  | streamError (message : StreamErrorMessage)
  | streamClose (reasonCode : String)
  | streamHalfClose
  | streamWindowUpdate (creditBytes : Nat)

/-- A string field with `omitempty`. -/
def omitEmpty (name value : String) : Members := if value = "" then [] else [(name, .string value)]

namespace ControlMessage

def type : ControlMessage → MessageType
  | pong _ _ => .pong
  | healthReport _ => .healthReport
  | streamError _ => .streamError
  | streamClose _ => .streamClose
  | streamHalfClose => .streamHalfClose
  | streamWindowUpdate _ => .streamWindowUpdate

def body : ControlMessage → Members
  | pong pingID receivedAt =>
    ("ping_id", .string pingID) :: omitEmpty "received_at" receivedAt.text
  | healthReport report =>
    [("report_id", .string report.reportID), ("generated_at", .string report.generatedAt.text),
      ("active_streams", Json.nat report.activeStreams), ("queued_frames", Json.nat report.queuedFrames),
      ("reconnect_count", Json.nat report.reconnectCount)] ++
      omitEmpty "last_reconnect_at" ((report.lastReconnectAt.map (·.text)).getD "") ++
      omitEmpty "agent_version" report.agentVersion.text
  | streamError message =>
    [("code", .string message.code), ("message", .string message.message),
      ("retryable", .bool message.retryable)]
  | streamClose reasonCode => [("reason_code", .string reasonCode)]
  | streamHalfClose => []
  | streamWindowUpdate creditBytes => [("credit_bytes", Json.nat creditBytes)]

/-- `json.Marshal` -/
def payload (message : ControlMessage) : Bytes :=
  (Json.object (marshalled message.type message.body)).bytes

end ControlMessage

/-- The frame with which a stream ends. -/
def TerminalFrame.control : TerminalFrame → ControlMessage
  | .streamClose reasonCode => .streamClose reasonCode
  | .streamError message => .streamError message

/-- `randomID`: the first characters of the nonce of 32 random bytes. -/
def randomID (start : String) (entropy : Bytes) : String :=
  start ++ "-" ++ String.ofList (((Base64.encode entropy).take 16).map Char.ofNat)

/-- The conversion to `uint32`. -/
def toUint32 (n : Int) : Nat := (n % 2 ^ 32).toNat

/-! ## What the contract asks -/

theorem Stamp.accepted (stamp : Stamp) : timestamp.Accepts (.string stamp.text) :=
  accepts_timestamp_iff.mpr stamp.valid

theorem Stamp.text_ne_empty (stamp : Stamp) : stamp.text ≠ "" := by
  intro hempty
  obtain ⟨t, ht⟩ := stamp.valid
  rw [hempty] at ht
  cases ht

theorem mem_omitEmpty {name value : String} {m : String × Json} :
    m ∈ omitEmpty name value ↔ value ≠ "" ∧ m = (name, .string value) := by
  unfold omitEmpty
  split
  next h => simp [h]
  next h => simp [h]

theorem names_omitEmpty_sublist (name value : String) :
    ((omitEmpty name value).map (·.1)).Sublist [name] := by
  unfold omitEmpty
  split
  · exact List.nil_sublist _
  · exact List.Sublist.refl _

attribute [local simp] MessageType.bodyProperties MessageType.scope mem_omitEmpty required
  valid_string

namespace ControlMessage

/-- What the contract asks of a message and the stream it is sent on. -/
def Proper (streamID : Nat) : ControlMessage → Prop
  | pong pingID _ => streamID = 0 ∧ idPattern (codes pingID) = true
  | healthReport report =>
    streamID = 0 ∧ idPattern (codes report.reportID) = true ∧ report.activeStreams ≤ 4096 ∧
      report.queuedFrames ≤ 65536 ∧ report.reconnectCount ≤ 2147483647
  | streamError message =>
    streamID ≠ 0 ∧ message.code ∈ ["local_target_unavailable", "route_revoked", "protocol_error",
        "resource_limit", "internal_error"] ∧
      1 ≤ message.message.length ∧ message.message.length ≤ 256
  | streamClose reasonCode =>
    streamID ≠ 0 ∧ reasonCode ∈ ["completed", "peer_closed", "cancelled"]
  | streamHalfClose => streamID ≠ 0
  | streamWindowUpdate creditBytes => streamID ≠ 0 ∧ 1 ≤ creditBytes ∧ creditBytes ≤ 8388608

theorem names_body_sublist (message : ControlMessage) :
    (message.body.map (·.1)).Sublist (message.type.bodyProperties.map (·.name)) := by
  cases message with
  | pong pingID receivedAt =>
    exact (names_omitEmpty_sublist "received_at" receivedAt.text).cons_cons "ping_id"
  | healthReport report =>
    have hoptional := (names_omitEmpty_sublist "last_reconnect_at"
      ((report.lastReconnectAt.map (·.text)).getD "")).append
        (names_omitEmpty_sublist "agent_version" report.agentVersion.text)
    simp only [body, List.map_append, List.append_assoc]
    exact (List.Sublist.refl ["report_id", "generated_at", "active_streams", "queued_frames",
      "reconnect_count"]).append hoptional
  | streamError | streamClose | streamHalfClose | streamWindowUpdate => exact List.Sublist.refl _

theorem marshals (message : ControlMessage) : Marshals message.type message.body where
  names := message.names_body_sublist
  complete := by
    cases message <;>
      simp [body, type, ContractV1.optional, Stamp.text_ne_empty]
  scalar := by
    cases message <;> simp [body, isScalar, Json.nat, or_imp, forall_and]
  mode := by
    cases message <;> simp [body]

/-- The time of the last reconnect is valid whenever it is written. -/
theorem lastReconnectAt_accepted (report : HealthReport)
    (h : (report.lastReconnectAt.map (·.text)).getD "" ≠ "") :
    timestamp.Accepts (.string ((report.lastReconnectAt.map (·.text)).getD "")) := by
  cases hstamp : report.lastReconnectAt with
  | none => simp [hstamp] at h
  | some stamp => exact stamp.accepted

theorem agentVersion_accepted (report : HealthReport) :
    (text 0 64).Accepts (.string report.agentVersion.text) :=
  ⟨Nat.zero_le _, report.agentVersion.valid⟩

/-- The values of a report within its bounds are valid. -/
theorem report_valid (report : HealthReport) (hid : idPattern (codes report.reportID) = true)
    (hactive : report.activeStreams ≤ 4096) (hqueued : report.queuedFrames ≤ 65536)
    (hreconnects : report.reconnectCount ≤ 2147483647) :
    ∀ p ∈ MessageType.healthReport.bodyProperties, ∀ json,
      (p.name, json) ∈ (healthReport report).body → p.kind.Valid json := by
  have hcount : ∀ {n greatest : Nat}, n ≤ greatest → (integer 0 greatest).Valid (Json.nat n) :=
    fun h => valid_nat.mpr ⟨Int.natCast_nonneg _, Int.ofNat_le.mpr h⟩
  have hstamp : ∀ stamp : Stamp, timestamp.Valid (.string stamp.text) := fun stamp =>
    valid_string.mpr stamp.accepted
  apply Marshals.valid_of_members
  intro m hm
  simp only [body, List.mem_append, List.mem_cons, List.not_mem_nil, or_false, mem_omitEmpty] at hm
  rcases hm with ((rfl | rfl | rfl | rfl | rfl) | ⟨hreconnect, rfl⟩) | ⟨-, rfl⟩
  · exact ⟨required "report_id" .id, by decide, rfl, valid_string.mpr (accepts_id_iff.mpr hid)⟩
  · exact ⟨required "generated_at" .timestamp, by decide, rfl, hstamp report.generatedAt⟩
  · exact ⟨required "active_streams" (.integer 0 4096), by decide, rfl, hcount hactive⟩
  · exact ⟨required "queued_frames" (.integer 0 65536), by decide, rfl, hcount hqueued⟩
  · exact ⟨required "reconnect_count" (.integer 0 2147483647), by decide, rfl, hcount hreconnects⟩
  · exact ⟨ContractV1.optional "last_reconnect_at" .timestamp, by decide, rfl,
      valid_string.mpr (lastReconnectAt_accepted report hreconnect)⟩
  · exact ⟨ContractV1.optional "agent_version" (.text 0 64), by decide, rfl,
      valid_string.mpr (agentVersion_accepted report)⟩

/-- The Gateway accepts exactly the proper messages, at any time. -/
theorem accepted_iff (message : ControlMessage) (streamID : Nat) (now : Int) :
    validateControlPayload message.payload streamID now = .ok () ↔ message.Proper streamID := by
  have hrule : ∀ given, message.type.Rule now given := by
    cases message <;> exact fun _ => trivial
  rw [payload, message.marshals.accepted_iff hrule]
  cases message with
  | pong pingID receivedAt =>
    simp [type, body, accepts_id_iff, receivedAt.accepted, Proper]
  | healthReport report =>
    constructor
    · rintro ⟨hscope, hvalid⟩
      have hcounts : ∀ m ∈ [("report_id", Json.string report.reportID),
          ("generated_at", .string report.generatedAt.text),
          ("active_streams", Json.nat report.activeStreams),
          ("queued_frames", Json.nat report.queuedFrames),
          ("reconnect_count", Json.nat report.reconnectCount)], m ∈ (healthReport report).body :=
        fun m hm => List.mem_append_left _ (List.mem_append_left _ hm)
      simp only [List.forall_mem_cons] at hcounts
      obtain ⟨hidMem, -, hactiveMem, hqueuedMem, hreconnectsMem, -⟩ := hcounts
      have hid := hvalid (required "report_id" .id) (List.mem_cons_self) _ hidMem
      have hactive := hvalid (required "active_streams" (.integer 0 4096))
        (show _ ∈ MessageType.healthReport.bodyProperties by decide) _ hactiveMem
      have hqueued := hvalid (required "queued_frames" (.integer 0 65536))
        (show _ ∈ MessageType.healthReport.bodyProperties by decide) _ hqueuedMem
      have hreconnects := hvalid (required "reconnect_count" (.integer 0 2147483647))
        (show _ ∈ MessageType.healthReport.bodyProperties by decide) _ hreconnectsMem
      refine ⟨hscope.mpr rfl, accepts_id_iff.mp (valid_string.mp hid), ?_, ?_, ?_⟩
      · exact_mod_cast (valid_nat.mp hactive).2
      · exact_mod_cast (valid_nat.mp hqueued).2
      · exact_mod_cast (valid_nat.mp hreconnects).2
    · rintro ⟨hzero, hid, hactive, hqueued, hreconnects⟩
      refine ⟨⟨fun _ => rfl, fun _ => hzero⟩, fun p hp json hm => ?_⟩
      exact report_valid report hid hactive hqueued hreconnects p hp json hm
  | streamError message =>
    simp [type, body, valid_bool, Accepts, Proper]
  | streamClose reasonCode =>
    simp [type, body, Accepts, Proper]
  | streamHalfClose =>
    simp [type, body, Proper]
  | streamWindowUpdate creditBytes =>
    have hcredit : (integer 1 8388608).Accepts (.int creditBytes) ↔
        1 ≤ creditBytes ∧ creditBytes ≤ 8388608 := by
      simp only [Accepts]
      omega
    simp [type, body, valid_nat, hcredit, Proper]

/-- What the Gateway accepts it decodes to a message of the same type with the same strings. -/
theorem decoded_of_accepted (message : ControlMessage) {streamID : Nat} {now : Int}
    (haccepted : validateControlPayload message.payload streamID now = .ok ()) :
    ∃ decoded, unmarshal message.type.fields message.payload = .ok decoded ∧
      decoded.string "message_type" = message.type.name ∧
      ∀ name s, ⟨name, .string⟩ ∈ message.type.fields → (name, .string s) ∈ message.body →
        decoded.string name = s := by
  obtain ⟨received, hreceives, hstrings⟩ := message.marshals.receives haccepted
  obtain ⟨decoded, hdecoded, hagree⟩ := hreceives.exists_message
  refine ⟨decoded, hdecoded, ?_, fun name s hf hm => (hagree name hf).trans (hstrings name s hf hm)⟩
  rw [hagree _ (List.mem_append_left _ (List.mem_cons_of_mem _ List.mem_cons_self)), hreceives.typeName]

theorem decoded_of_accepted_close : ∃ decoded,
    unmarshal MessageType.streamClose.fields (streamClose "completed").payload = .ok decoded ∧
      decoded.string "reason_code" = "completed" := by
  obtain ⟨decoded, hdecoded, -, hstrings⟩ :=
    decoded_of_accepted (streamClose "completed") ((accepted_iff _ 1 0).mpr (by simp [Proper]))
  exact ⟨decoded, hdecoded, hstrings _ _ (by decide) List.mem_cons_self⟩

end ControlMessage

/-! ## Identifiers of reports -/

theorem isIDChar_of_mem_encode {bytes : Bytes} {c : Nat} (h : c ∈ Base64.encode bytes) :
    isIDChar c = true ∧ c < 128 := by
  have hchar := isBase64URLChar_of_isDigit (Base64.isDigit_of_mem_encode h)
  simp only [isBase64URLChar, isIDChar, isAlnum, isUpper, isLower, Contract.isDigit,
    Bool.or_eq_true, Bool.and_eq_true, decide_eq_true_eq, beq_iff_eq] at hchar ⊢
  omega

theorem codes_randomID (start : String) (entropy : Bytes) :
    codes (randomID start entropy) = codes start ++ 45 :: (Base64.encode entropy).take 16 := by
  have hascii : ∀ c < 128, (Char.ofNat c).toNat = c := by decide
  have hnonce : ((Base64.encode entropy).take 16).map (Char.toNat ∘ Char.ofNat) =
      (Base64.encode entropy).take 16 := by
    conv_rhs => rw [← List.map_id ((Base64.encode entropy).take 16)]
    apply List.map_congr_left
    intro c hc
    exact hascii c (isIDChar_of_mem_encode (List.mem_of_mem_take hc)).2
  simp only [randomID, codes, String.toList_append, String.toList_ofList, List.map_append, List.map_map,
    List.append_assoc, hnonce]
  rfl

/-- The identifiers of reports are those of the contract. -/
theorem idPattern_randomID (entropy : Bytes) :
    idPattern (codes (randomID "report" entropy)) = true := by
  have hchars : ((Base64.encode entropy).take 16).all isIDChar = true :=
    List.all_eq_true.mpr fun c hc => (isIDChar_of_mem_encode (List.mem_of_mem_take hc)).1
  have hlength : ((Base64.encode entropy).take 16).length ≤ 16 := List.length_take_le _ _
  have hstart : codes "report" = [114, 101, 112, 111, 114, 116] := by decide
  rw [codes_randomID, hstart]
  simp only [List.cons_append, List.nil_append, idPattern, List.all_cons, hchars, List.length_cons,
    Bool.and_true, Bool.and_eq_true, decide_eq_true_eq]
  exact ⟨by decide, by omega⟩

end Hooshix.Agent

-- SUMMARY: ValidateControlPayload against the published contract: what it accepts beyond it.
import Hooshix.ContractV1.ControlReading

/-! # The validation and the contract

The validation accepts exactly the objects that read as a message of the contract. The contract asks
for more: its own names.
-/

namespace Hooshix.ContractV1

open StructDecode MessageType
open Contract (idPattern tokenPattern parseTimestamp isRawBase64)

variable {type : MessageType} {members : Members} {data : Bytes}

theorem not_ignores_of_required {p : Property} {json : Json}
    (hp : p ∈ type.properties) (hrequired : p.required = true) :
    ¬ Ignores type members p.name json := by
  rintro (⟨rfl, hname, -⟩ | ⟨rfl, hname, -⟩ | ⟨rfl, hname, -⟩ | ⟨rfl, hname, -⟩ | ⟨rfl, hname, -⟩)
  · have hping : ∀ p ∈ ping.properties, p.name ≠ "received_at" := by decide
    exact hping p hp hname
  · have hpong : ∀ p ∈ pong.properties, p.name ≠ "sent_at" := by decide
    exact hpong p hp hname
  · have hmode : ∀ p ∈ streamOpen.properties, p.required = true → p.name ≠ "mode" := by
      decide
    exact hmode p hp hrequired hname
  · have hreport : ∀ p ∈ healthReport.properties, p.required = true →
        p.name ≠ "last_reconnect_at" := by decide
    exact hreport p hp hrequired hname
  · have hready : ∀ p ∈ sessionReady.properties, p.required = true →
        p.name ≠ "resume_challenge" := by decide
    exact hready p hp hrequired hname

/-! ## The checks of the messages

A message whose fields are all required passes when each of them passes; the others say what else they
ask for.
-/

attribute [local simp] bodyProperties Kind.Checks rejectIf_eq_ok required bind_eq_ok
  check_eq_ok validateRawBase64Length_iff validateID_iff and_assoc optional validateIDs_iff

section Checks

variable {message : Struct} {data : Bytes} {now : Int}

theorem checkUTCTime_iff {name value : String} {result : Unit} :
    checkUTCTime name value = .ok result ↔ ∃ t, parseTimestamp (codes value) = some t := by
  simp only [← @parseUTCTime_ok_iff _ name, checkUTCTime]
  cases parseUTCTime name value <;> simp [Except.map]

theorem oneOfStrings_iff {value : String} {allowed : List String} :
    oneOfStrings value allowed = true ↔ value ∈ allowed := by
  rw [oneOfStrings, List.contains_iff_mem]

/-- The messages that ask for nothing but their fields. -/
theorem checkBody_plain_iff {type : MessageType} (hplain : type ∈ [.clientHello, .clientAuth,
      .streamHalfClose, .streamWindowUpdate, .streamClose, .streamError, .sessionRevoked,
      .resumeSession]) :
    type.checkBody data now message = .ok () ↔
      ∀ p ∈ type.bodyProperties, p.required = true → p.kind.Checks message p.name := by
  simp only [List.mem_cons, List.not_mem_nil, or_false] at hplain
  rcases hplain with rfl | rfl | rfl | rfl | rfl | rfl | rfl | rfl
  · simp [checkBody, checkClientHello, nonce32]
  · simp [checkBody, checkClientAuth, signature64]
  · simp [checkBody]
  · simp [checkBody, checkStreamWindowUpdate, Contract.maxWindowCreditBytes]
  · simp [checkBody, checkStreamClose, oneOfStrings_iff]
  · simp [checkBody, checkStreamError, oneOfStrings_iff, Nat.one_le_iff_ne_zero]
  · simp [checkBody, checkSessionRevoked, oneOfStrings_iff]
  · simp [checkBody, checkResumeSession, checkUTCTime_iff, nonce32, signature64]

theorem checkServerChallenge_iff : checkServerChallenge now message = .ok () ↔
    (∀ p ∈ serverChallenge.bodyProperties, p.required = true →
        p.kind.Checks message p.name) ∧
      ∀ t, parseTimestamp (codes (message.string "expires_at")) = some t → now < t := by
  simp only [checkServerChallenge, bind_eq_ok, check_eq_ok, rejectIf_eq_ok, validateID_iff,
    validateRawBase64Length_iff, parseUTCTime_ok_iff, bodyProperties, required, nonce32,
    Kind.Checks, List.forall_mem_cons, List.not_mem_nil, exists_const, not_not]
  cases parseTimestamp (codes (message.string "expires_at")) <;> simp

theorem checkSessionReady_iff : checkSessionReady data message = .ok () ↔
    (∀ p ∈ sessionReady.bodyProperties, p.required = true → p.kind.Checks message p.name) ∧
      (hasMember data "resume_challenge" = true →
        isRawBase64 32 (codes (message.string "resume_challenge")) = true) ∧
      2 * message.int "heartbeat_interval_seconds" ≤ message.int "idle_timeout_seconds" := by
  have hchecks : (∀ p ∈ sessionReady.bodyProperties, p.required = true →
      p.kind.Checks message p.name) ↔ idPattern (codes (message.string "session_id")) = true ∧
      (5 ≤ message.int "heartbeat_interval_seconds" ∧ message.int "heartbeat_interval_seconds" ≤ 60) ∧
      15 ≤ message.int "idle_timeout_seconds" ∧ message.int "idle_timeout_seconds" ≤ 300 := by
    simp
  rw [hchecks, checkSessionReady]
  by_cases hmember : hasMember data "resume_challenge" = true
  · simp only [hmember, if_true, bind_eq_ok, check_eq_ok, rejectIf_eq_ok, validateID_iff,
      validateRawBase64Length_iff, exists_const, not_or, not_lt, gt_iff_lt, forall_const]
    tauto
  · simp [hmember]

theorem checkHeartbeat_iff {time other text : String} :
    checkHeartbeat time other text message = .ok () ↔
      (idPattern (codes (message.string "ping_id")) = true ∧
        ∃ t, parseTimestamp (codes (message.string time)) = some t) ∧ message.string other = "" := by
  simp only [checkHeartbeat, bind_eq_ok, check_eq_ok, rejectIf_eq_ok, validateID_iff,
    checkUTCTime_iff, exists_const, not_or, not_not]
  constructor
  · rintro ⟨hid, ⟨-, hother⟩, htime⟩
    exact ⟨⟨hid, htime⟩, hother⟩
  · rintro ⟨⟨hid, t, ht⟩, hother⟩
    exact ⟨hid, ⟨ne_empty_of_parseTimestamp ht, hother⟩, t, ht⟩

theorem checkPing_iff : checkPing message = .ok () ↔
    (∀ p ∈ ping.bodyProperties, p.kind.Checks message p.name) ∧
      message.string "received_at" = "" := by
  rw [checkPing, checkHeartbeat_iff]
  simp

theorem checkPong_iff : checkPong message = .ok () ↔
    (∀ p ∈ pong.bodyProperties, p.kind.Checks message p.name) ∧
      message.string "sent_at" = "" := by
  rw [checkPong, checkHeartbeat_iff]
  simp

theorem checkHealthReport_iff : checkHealthReport data message = .ok () ↔
    (∀ p ∈ healthReport.bodyProperties, p.required = true → p.kind.Checks message p.name) ∧
      rejectEmptyMembers data ["last_reconnect_at"] = none ∧
      (message.string "last_reconnect_at" ≠ "" →
        ∃ t, parseTimestamp (codes (message.string "last_reconnect_at")) = some t) ∧
      (message.string "agent_version").length ≤ 64 := by
  unfold checkHealthReport
  by_cases hlast : message.string "last_reconnect_at" = ""
  all_goals simp [hlast, checkUTCTime_iff, maxStreamsPerSessionBound, maxQueuedFramesBound,
    maxHealthReconnectCount]

theorem checkStreamOpen_iff : checkStreamOpen message = .ok () ↔
    (∀ p ∈ streamOpen.bodyProperties, p.required = true → p.kind.Checks message p.name) ∧
      (message.string "mode" ≠ "" → message.string "mode" ∈ ["http", "tcp", "udp"]) := by
  simp [checkStreamOpen, oneOfStrings_iff]

theorem checkSessionResumed_iff
    (hbounds : 0 ≤ message.int "next_sequence" ∧ message.int "next_sequence" < 2 ^ 64) :
    checkSessionResumed message = .ok () ↔ ∀ p ∈ sessionResumed.bodyProperties,
      p.required = true → p.kind.Checks message p.name := by
  have hnext : ¬ message.int "next_sequence" = 0 ↔
      1 ≤ message.int "next_sequence" ∧ message.int "next_sequence" ≤ 18446744073709551615 := by
    omega
  simp [checkSessionResumed, checkUTCTime_iff, nonce32, hnext]

end Checks

/-! ## Decoded messages -/

section Decoded

variable {type : MessageType} {now : Int} {members : Members} {message : Struct}
  (hnull : ∀ m ∈ members, m.2 ≠ .null) (hdecode : decode type.fields true members = .ok message)
  {p : Property} {json : Json}

include hnull hdecode

theorem field_slot {f : Field} (hf : f ∈ type.fields) :
    (slot members f.name).elim (message f.name = f.type.zero)
      fun json => value? f.type json = some (message f.name) :=
  decode_slot type.nodup_fold hf (type.type_ne_strings f hf) hnull hdecode

theorem string_slot (name : String) (hf : ⟨name, .string⟩ ∈ type.fields) :
    slot members name = none ∧ message.string name = "" ∨
      slot members name = some (.string (message.string name)) := by
  have hslot := field_slot hnull hdecode hf
  cases hjson : slot members name with
  | none =>
    have hzero : message name = .string "" := by
      rw [hjson] at hslot
      exact hslot
    exact .inl ⟨rfl, by simp only [Struct.string, hzero]⟩
  | some json =>
    have hvalue : value? .string json = some (message name) := by
      rw [hjson] at hslot
      exact hslot
    obtain ⟨m, hm, rfl, -⟩ := mem_of_slot hjson
    obtain ⟨s, hjson2, hs⟩ := string_of_value? hvalue (hnull m hm)
    refine .inr ?_
    simp only [hjson2, Struct.string, hs]

theorem uint_bounds (name : String) (bits : Nat) (hf : ⟨name, .uint bits⟩ ∈ type.fields) :
    0 ≤ message.int name ∧ message.int name < 2 ^ bits := by
  have hslot := field_slot hnull hdecode hf
  cases hjson : slot members name with
  | none =>
    have hzero : message name = .int 0 := by
      rw [hjson] at hslot
      exact hslot
    simp only [Struct.int, hzero]
    exact ⟨Int.le_refl 0, Int.pow_pos (by decide)⟩
  | some json =>
    have hvalue : value? (.uint bits) json = some (message name) := by
      rw [hjson] at hslot
      exact hslot
    obtain ⟨n, hn, hbounds⟩ := uint_of_value? hvalue
    simp only [Struct.int, hn]
    exact hbounds

/-- What is read under the name of a property is what its field holds. -/
theorem denotes_of_slot (hp : p ∈ type.properties)
    (hslot : slot members p.name = some json) : Denotes json (message p.name) := by
  obtain ⟨f, hf, hname, -⟩ := type.exists_field p hp
  have hvalue := field_slot hnull hdecode hf
  rw [hname, hslot] at hvalue
  have hnonnull : json ≠ .null := by
    obtain ⟨m, hm, rfl, -⟩ := mem_of_slot hslot
    exact hnull m hm
  exact denotes_of_scalar (type.type_ne_strings f hf) hnonnull hvalue

omit hnull in
theorem accepts_iff_checks (hp : p ∈ type.properties) :
    p.kind.Accepts (message p.name) ↔ p.kind.Checks message p.name := by
  obtain ⟨f, hf, hname, hfits⟩ := type.exists_field p hp
  have htype := hasType_of_decode (nodup_names_of_fold type.nodup_fold) hf hdecode
  rw [hname] at htype
  exact Kind.accepts_iff_checks hfits htype

theorem valid_iff_checks (hp : p ∈ type.properties)
    (hslot : slot members p.name = some json) : p.kind.Valid json ↔ p.kind.Checks message p.name :=
  (Kind.valid_iff_of_denotes (denotes_of_slot hnull hdecode hp hslot)).trans
    (accepts_iff_checks hdecode hp)

/-- A required property whose check passes is read. -/
theorem reads_of_checks (hp : p ∈ type.properties) (hrequired : p.required = true)
    (hnamed : ∀ name ∈ type.presentNames, name ∈ members.map (·.1))
    (hchecks : p.kind.Checks message p.name) : ∃ json, Reads type members p.name json := by
  cases hslot : slot members p.name with
  | some json => exact ⟨json, hslot, not_ignores_of_required hp hrequired⟩
  | none =>
    rcases type.required_checked p hp hrequired with hzero | hname
    · obtain ⟨f, hf, hname, hfits⟩ := type.exists_field p hp
      have hvalue := field_slot hnull hdecode hf
      rw [hname, hslot] at hvalue
      have haccepts := (accepts_iff_checks hdecode hp).mpr hchecks
      rw [show message p.name = f.type.zero from hvalue] at haccepts
      exact absurd haccepts (Kind.not_accepts_zero hfits hzero)
    · obtain ⟨m, hm, hm1⟩ := List.mem_map.mp (hnamed p.name hname)
      have hfold : foldName m.1 = foldName p.name := by rw [hm1]
      exact absurd hslot (slot_ne_none hm hfold)

/-- The properties that are required or read pass their checks, and the rule holds. -/
theorem holds_iff (hnamed : ∀ name ∈ type.presentNames, name ∈ members.map (·.1)) :
    Holds type now (Reads type members) ↔
      (∀ p ∈ type.properties, (p.required = true ∨ ∃ json, Reads type members p.name json) →
        p.kind.Checks message p.name) ∧
      type.Rule now (Reads type members) := by
  constructor
  · intro h
    refine ⟨fun p hp hread => ?_, h.rule⟩
    obtain ⟨json, hjson⟩ : ∃ json, Reads type members p.name json := by
      rcases hread with hrequired | hread
      · exact h.present p hp hrequired
      · exact hread
    exact (valid_iff_checks hnull hdecode hp hjson.1).mp (h.valid p hp json hjson)
  · rintro ⟨hchecks, hrule⟩
    refine ⟨fun p hp hrequired => ?_, fun p hp json hjson => ?_, hrule⟩
    · exact reads_of_checks hnull hdecode hp hrequired hnamed (hchecks p hp (.inl hrequired))
    · exact (valid_iff_checks hnull hdecode hp hjson.1).mpr (hchecks p hp (.inr ⟨json, hjson⟩))

/-- The parts of a reading that the checks after the envelope decide. -/
structure BodyRead (type : MessageType) (now : Int) (members : Members) (message : Struct) : Prop where
  nonempty : type = .healthReport → ("last_reconnect_at", .string "") ∉ members
  others : ∀ f ∈ type.fields, f.name ∉ type.propertyNames → ∀ json, ¬ Reads type members f.name json
  checks : ∀ p ∈ type.bodyProperties, (p.required = true ∨ ∃ json, Reads type members p.name json) →
    p.kind.Checks message p.name
  rule : type.Rule now (Reads type members)

omit hnull hdecode in
/-- Where every field is a property, the optional ones are checked when they are read. -/
theorem bodyRead_iff {type : MessageType} (optionals : List Property)
    (hfields : (∀ f ∈ type.fields, f.name ∈ type.propertyNames) ∧
      (∀ p ∈ type.bodyProperties, p.required = true ∨ p ∈ optionals) ∧
      ∀ p ∈ optionals, p ∈ type.bodyProperties) :
    BodyRead type now members message ↔
      (type = .healthReport → ("last_reconnect_at", .string "") ∉ members) ∧
      (∀ p ∈ type.bodyProperties, p.required = true → p.kind.Checks message p.name) ∧
      (∀ p ∈ optionals, (p.required = true ∨ ∃ json, Reads type members p.name json) →
        p.kind.Checks message p.name) ∧
      type.Rule now (Reads type members) := by
  obtain ⟨hnames, hsplit, hoptional⟩ := hfields
  constructor
  · intro h
    exact ⟨h.nonempty, fun p hp hr => h.checks p hp (.inl hr), fun p hp => h.checks p (hoptional p hp),
      h.rule⟩
  · rintro ⟨hblank, hrequired, hread, hrule⟩
    refine ⟨hblank, fun f hf hno => absurd (hnames f hf) hno, fun p hp hgiven => ?_, hrule⟩
    exact (hsplit p hp).elim (hrequired p hp) fun hp => hread p hp hgiven

omit hnull in
theorem int_value {name : String} (hf : ⟨name, .int⟩ ∈ type.fields) :
    message name = .int (message.int name) := by
  have htype := hasType_of_decode (nodup_names_of_fold type.nodup_fold) hf hdecode
  exact (Struct.read_eq htype).symm

theorem int_of_slot (hp : p ∈ type.properties) (hf : ⟨p.name, .int⟩ ∈ type.fields)
    (hslot : slot members p.name = some json) : Denotes json (.int (message.int p.name)) := by
  rw [← int_value hdecode hf]
  exact denotes_of_slot hnull hdecode hp hslot

/-- Where the empty string counts as absent, a string is read exactly when it is not empty. -/
theorem exists_reads_iff (name : String) (hf : ⟨name, .string⟩ ∈ type.fields)
    (hignores : ∀ json, Ignores type members name json ↔ json = .string "") :
    (∃ json, Reads type members name json) ↔ message.string name ≠ "" := by
  rcases string_slot hnull hdecode name hf with ⟨hnone, hempty⟩ | hsome
  · simp [Reads, hnone, hempty]
  · simp [Reads, hsome, hignores]

end Decoded

/-! ## The checks and the reading, message by message -/

section Body

variable {data : Bytes} {now : Int} {members : Members} {message : Struct}
  (hobject : IsObject data members) {type : MessageType}

include hobject

theorem serverChallenge_bodyRead_iff
    (hdecode : decode serverChallenge.fields true members = .ok message) :
    checkServerChallenge now message = .ok () ↔ BodyRead .serverChallenge now members message := by
  have hslot := string_slot hobject.nonnull hdecode "expires_at" (by decide)
  rw [checkServerChallenge_iff, bodyRead_iff [] (by decide)]
  constructor
  · rintro ⟨hchecks, hlive⟩
    refine ⟨nofun, hchecks, nofun, ?_⟩
    intro text t hread ht
    rcases hslot with ⟨hnone, -⟩ | hsome
    · rw [hread.1] at hnone
      cases hnone
    · have htext := Json.string.inj (Option.some.inj (hread.1.symm.trans hsome))
      rw [htext] at ht
      exact hlive t ht
  · rintro ⟨-, hchecks, -, hrule⟩
    refine ⟨hchecks, fun t ht => ?_⟩
    rcases hslot with ⟨-, hempty⟩ | hsome
    · exact absurd hempty (ne_empty_of_parseTimestamp ht)
    · exact hrule _ t ⟨hsome, by simp [Ignores]⟩ ht

theorem heartbeat_bodyRead_iff (other : String)
    (hdecode : decode type.fields true members = .ok message) (hreport : type ≠ .healthReport)
    (hother : ⟨other, .string⟩ ∈ type.fields)
    (hnames : ∀ f ∈ type.fields, f.name ∉ type.propertyNames ↔ f.name = other)
    (hignores : ∀ json, Ignores type members other json ↔ json = .string "")
    (hrequired : ∀ p ∈ type.bodyProperties, p.required = true)
    (hrule : type.Rule now (Reads type members)) :
    (∀ p ∈ type.bodyProperties, p.kind.Checks message p.name) ∧ message.string other = "" ↔
      BodyRead type now members message := by
  have hreads := exists_reads_iff hobject.nonnull hdecode other hother hignores
  constructor
  · rintro ⟨hchecks, hempty⟩
    refine ⟨fun h => absurd h hreport, fun f hf hno json hread => ?_, fun p hp _ => hchecks p hp, hrule⟩
    rw [(hnames f hf).mp hno] at hread
    exact hreads.mp ⟨json, hread⟩ hempty
  · intro h
    refine ⟨fun p hp => h.checks p hp (.inl (hrequired p hp)), ?_⟩
    by_contra hne
    obtain ⟨json, hread⟩ := hreads.mpr hne
    exact h.others _ hother ((hnames _ hother).mpr rfl) json hread

theorem streamOpen_bodyRead_iff (hdecode : decode streamOpen.fields true members = .ok message) :
    checkStreamOpen message = .ok () ↔ BodyRead .streamOpen now members message := by
  have hreads := exists_reads_iff hobject.nonnull hdecode "mode" (by decide)
    (by simp [Ignores])
  rw [checkStreamOpen_iff, bodyRead_iff [optional "mode" (.enum ["http", "tcp", "udp"])] (by decide),
    List.forall_mem_singleton]
  constructor
  · rintro ⟨hchecks, hmode⟩
    exact ⟨nofun, hchecks, fun hread => hmode (hreads.mp (hread.resolve_left nofun)), trivial⟩
  · rintro ⟨-, hchecks, hmode, -⟩
    exact ⟨hchecks, fun hne => hmode (.inr (hreads.mpr hne))⟩

theorem healthReport_bodyRead_iff
    (hdecode : decode healthReport.fields true members = .ok message) :
    checkHealthReport data message = .ok () ↔ BodyRead .healthReport now members message := by
  have hreads := exists_reads_iff hobject.nonnull hdecode "last_reconnect_at" (by decide)
    (by simp [Ignores])
  have hversion := string_slot hobject.nonnull hdecode "agent_version" (by decide)
  rw [checkHealthReport_iff, rejectEmptyMembers_iff hobject.object hobject.names,
    List.forall_mem_singleton, bodyRead_iff [optional "last_reconnect_at" .timestamp,
      optional "agent_version" (.text 0 64)] (by decide), List.forall_mem_cons,
    List.forall_mem_singleton]
  constructor
  · rintro ⟨hchecks, hblank, hlast, hlength⟩
    exact ⟨fun _ => hblank, hchecks, ⟨fun hread => hlast (hreads.mp (hread.resolve_left nofun)),
      fun _ => ⟨Nat.zero_le _, hlength⟩⟩, trivial⟩
  · rintro ⟨hblank, hchecks, ⟨hlast, hlength⟩, -⟩
    refine ⟨hchecks, hblank rfl, fun hne => hlast (.inr (hreads.mpr hne)), ?_⟩
    rcases hversion with ⟨-, hempty⟩ | hsome
    · rw [hempty]
      decide
    · exact (hlength (.inr ⟨_, hsome, by simp [Ignores]⟩)).2

theorem hasMember_iff {name : String} : hasMember data name = true ↔ name ∈ members.map (·.1) := by
  simp only [hasMember, hobject.object, List.contains_iff_mem]

theorem sessionReady_bodyRead_iff (hdecode : decode sessionReady.fields true members = .ok message)
    (hnamed : ∀ name ∈ sessionReady.presentNames, name ∈ members.map (·.1)) :
    checkSessionReady data message = .ok () ↔ BodyRead .sessionReady now members message := by
  have hreads : (∃ json, Reads .sessionReady members "resume_challenge" json) ↔
      hasMember data "resume_challenge" = true := by
    rw [hasMember_iff hobject]
    constructor
    · rintro ⟨json, -, hread⟩
      simpa [Ignores] using hread
    · intro hmember
      obtain ⟨m, hm, hname⟩ := List.mem_map.mp hmember
      have hfold : foldName m.1 = foldName "resume_challenge" := by rw [hname]
      obtain ⟨json, hjson⟩ := Option.ne_none_iff_exists'.mp (slot_ne_none hm hfold)
      exact ⟨json, hjson, by simpa [Ignores] using hmember⟩
  let heartbeat := required "heartbeat_interval_seconds" (.integer 5 60)
  let idle := required "idle_timeout_seconds" (.integer 15 300)
  have hheartbeat : heartbeat ∈ sessionReady.properties := by decide
  have hidle : idle ∈ sessionReady.properties := by decide
  have hheartbeatInt : ∀ {json}, slot members heartbeat.name = some json →
      Denotes json (.int (message.int heartbeat.name)) :=
    int_of_slot hobject.nonnull hdecode hheartbeat (by decide)
  have hidleInt : ∀ {json}, slot members idle.name = some json →
      Denotes json (.int (message.int idle.name)) :=
    int_of_slot hobject.nonnull hdecode hidle (by decide)
  rw [checkSessionReady_iff, bodyRead_iff [optional "resume_challenge" nonce32] (by decide),
    List.forall_mem_singleton]
  constructor
  · rintro ⟨hchecks, hchallenge, htwice⟩
    refine ⟨nofun, hchecks, fun hread => hchallenge (hreads.mp (hread.resolve_left nofun)), ?_⟩
    intro h i heartbeatJson idleJson hheartbeatRead hidleRead hh hi
    rw [Value.int.inj (hh.unique (hheartbeatInt hheartbeatRead.1)),
      Value.int.inj (hi.unique (hidleInt hidleRead.1))]
    exact htwice
  · rintro ⟨-, hchecks, hchallenge, hrule⟩
    refine ⟨hchecks, fun hmember => hchallenge (.inr (hreads.mpr hmember)), ?_⟩
    obtain ⟨heartbeatJson, hheartbeatRead⟩ := reads_of_checks hobject.nonnull hdecode hheartbeat rfl
      hnamed (hchecks heartbeat (by decide) rfl)
    obtain ⟨idleJson, hidleRead⟩ := reads_of_checks hobject.nonnull hdecode hidle rfl hnamed
      (hchecks idle (by decide) rfl)
    exact hrule _ _ heartbeatJson idleJson hheartbeatRead hidleRead
      (hheartbeatInt hheartbeatRead.1) (hidleInt hidleRead.1)

theorem checkBody_iff (hdecode : decode type.fields true members = .ok message)
    (hnamed : ∀ name ∈ type.presentNames, name ∈ members.map (·.1)) :
    type.checkBody data now message = .ok () ↔ BodyRead type now members message := by
  cases type with
  | serverChallenge => exact serverChallenge_bodyRead_iff hobject hdecode
  | sessionReady => exact sessionReady_bodyRead_iff hobject hdecode hnamed
  | ping =>
    exact checkPing_iff.trans (heartbeat_bodyRead_iff hobject "received_at" hdecode (by simp) (by decide)
      (by decide) (by simp [Ignores]) (by decide) trivial)
  | pong =>
    exact checkPong_iff.trans (heartbeat_bodyRead_iff hobject "sent_at" hdecode (by simp) (by decide)
      (by decide) (by simp [Ignores]) (by decide) trivial)
  | healthReport => exact healthReport_bodyRead_iff hobject hdecode
  | streamOpen => exact streamOpen_bodyRead_iff hobject hdecode
  | sessionResumed =>
    have hbounds := uint_bounds hobject.nonnull hdecode "next_sequence" 64 (by decide)
    rw [checkBody, checkSessionResumed_iff hbounds, bodyRead_iff [] (by decide)]
    exact ⟨fun h => ⟨by simp, h, by simp, trivial⟩, fun h => h.2.1⟩
  | _ =>
    rw [checkBody_plain_iff (by decide), bodyRead_iff [] (by decide)]
    exact ⟨fun h => ⟨by simp, h, by simp, trivial⟩, fun h => h.2.1⟩

/-! ## What is accepted -/

omit hobject in
theorem properties_checks_iff :
    (∀ p ∈ type.properties, (p.required = true ∨ ∃ json, Reads type members p.name json) →
        p.kind.Checks message p.name) ↔
      (message.int "contract_version" = 1 ∧ message.string "message_type" = type.name) ∧
        ∀ p ∈ type.bodyProperties, (p.required = true ∨ ∃ json, Reads type members p.name json) →
          p.kind.Checks message p.name := by
  have hversion : 1 ≤ message.int "contract_version" ∧ message.int "contract_version" ≤ 1 ↔
      message.int "contract_version" = 1 := by omega
  simp only [properties, List.cons_append, List.nil_append, List.forall_mem_cons, required,
    true_or, forall_const, Kind.Checks, hversion, and_assoc]

/-- A message passes exactly when its members are read as one of its type. -/
theorem readAs_iff :
    ReadAs type now members ↔
      (∀ name ∈ type.presentNames, name ∈ members.map (·.1)) ∧
      ∃ message, decode type.fields true members = .ok message ∧
        (message.int "contract_version" = 1 ∧ message.string "message_type" = type.name) ∧
        type.checkBody data now message = .ok () := by
  have htaken := exists_decode_iff true type.nodup_fold type.type_ne_strings
    hobject.nonnull
  constructor
  · intro h
    obtain ⟨message, hdecode⟩ := htaken.mpr h.taken
    obtain ⟨hchecks, hrule⟩ := (holds_iff hobject.nonnull hdecode h.named).mp h.holds
    obtain ⟨henvelope, hbody⟩ := properties_checks_iff.mp hchecks
    refine ⟨h.named, message, hdecode, henvelope, ?_⟩
    exact (checkBody_iff hobject hdecode h.named).mpr ⟨h.nonempty, h.others, hbody, hrule⟩
  · rintro ⟨hnamed, message, hdecode, henvelope, hbody⟩
    have hread : BodyRead type now members message :=
      (checkBody_iff hobject hdecode hnamed).mp hbody
    refine ⟨htaken.mp ⟨message, hdecode⟩, hnamed, hread.nonempty, hread.others, ?_⟩
    exact (holds_iff hobject.nonnull hdecode hnamed).mpr
      ⟨properties_checks_iff.mpr ⟨henvelope, hread.checks⟩, hread.rule⟩

theorem decodeControlStrict_ok_iff {fields : List Field} :
    decodeControlStrict fields data = .ok message ↔ decode fields true members = .ok message := by
  have hstrict := validateStrictJSONObject_iff.mpr ⟨members, hobject.object, hobject.unique⟩
  simp only [decodeControlStrict, hstrict]
  exact decodeStrict_ok_iff hobject.object

theorem requirePresent_names_iff {names : List String} :
    requirePresent data names = none ↔ ∀ name ∈ names, name ∈ members.map (·.1) := by
  rw [requirePresent_iff hobject.object hobject.names]
  refine forall₂_congr fun name _ => ?_
  constructor
  · rintro ⟨json, hm, -⟩
    exact List.mem_map.mpr ⟨_, hm, rfl⟩
  · intro h
    obtain ⟨⟨_, json⟩, hm, rfl⟩ := List.mem_map.mp h
    exact ⟨json, hm, hobject.nonnull _ hm⟩

theorem validateMessage_ok_iff {streamID : Nat} :
    validateMessage type data streamID now = .ok () ↔
      (streamID = 0 ↔ type.scope = .session) ∧ ReadAs type now members := by
  simp only [validateMessage, bind_eq_ok, check_eq_ok, rejectIf_eq_ok, Scope.check_eq_none_iff,
    requirePresent_names_iff hobject, decodeControlStrict_ok_iff hobject, readAs_iff hobject,
    exists_const, not_or, not_not]
  rfl

end Body

/-- A struct with some of a message's fields is decoded wherever the message is, with its values. -/
theorem exists_unmarshal {message : Struct} (fields : List Field) (hobject : IsObject data members)
    (hdecode : decode type.fields true members = .ok message)
    (hfold : (fields.map fun f => foldName f.name).Nodup) (hsub : ∀ f ∈ fields, f ∈ type.fields) :
    ∃ part, unmarshal fields data = .ok part ∧ ∀ f ∈ fields, part f.name = message f.name := by
  have htypes : ∀ f ∈ fields, f.type ≠ .strings := fun f hf => type.type_ne_strings f (hsub f hf)
  have htaken := (exists_decode_iff true type.nodup_fold type.type_ne_strings hobject.nonnull).mp
    ⟨message, hdecode⟩
  obtain ⟨part, hpart⟩ := (exists_decode_iff false hfold htypes hobject.nonnull).mpr
    fun m hm => ⟨nofun, fun f hf hname => (htaken m hm).2 f (hsub f hf) hname⟩
  refine ⟨part, (unmarshal_ok_iff hobject.object).mpr hpart, fun f hf => ?_⟩
  exact decode_agree hfold type.nodup_fold hf (hsub f hf) (htypes f hf) hobject.nonnull hpart hdecode

/-- The validation accepts the objects that are read as some message, in the scope of that message. -/
theorem validateControlPayload_ok_iff {streamID : Nat} {now : Int} :
    validateControlPayload data streamID now = .ok () ↔
      ∃ members, IsObject data members ∧ ∃ type : MessageType,
        (streamID = 0 ↔ type.scope = .session) ∧ ReadAs type now members := by
  constructor
  · intro h
    obtain ⟨_, hstrict, h⟩ := bind_eq_ok.mp h
    obtain ⟨_, hnull, h⟩ := bind_eq_ok.mp h
    obtain ⟨envelope, -, h⟩ := bind_eq_ok.mp h
    obtain ⟨_, -, h⟩ := bind_eq_ok.mp h
    obtain ⟨members, hvalue, hunique⟩ := validateStrictJSONObject_iff.mp (check_eq_ok.mp hstrict)
    have hobject : IsObject data members :=
      ⟨hvalue, hunique, (rejectNullMembers_iff hvalue).mp (check_eq_ok.mp hnull)⟩
    split at h
    next type _ => exact ⟨members, hobject, type, (validateMessage_ok_iff hobject).mp h⟩
    next => cases h
  · rintro ⟨members, hobject, type, hscope, hread⟩
    have hstrict := validateStrictJSONObject_iff.mpr ⟨members, hobject.object, hobject.unique⟩
    have hnull := (rejectNullMembers_iff hobject.object).mpr hobject.nonnull
    obtain ⟨-, message, hdecode, ⟨hversion, htype⟩, -⟩ := (readAs_iff hobject).mp hread
    obtain ⟨envelope, hunmarshal, hagree⟩ := exists_unmarshal envelopeFields hobject
      hdecode (by decide) fun f hf => List.mem_append_left _ hf
    have hversion' : envelope.int "contract_version" = 1 := by
      rw [← hversion, Struct.int, Struct.int, hagree ⟨"contract_version", .int⟩ (by decide)]
    have htype' : envelope.string "message_type" = type.name := by
      rw [← htype, Struct.string, Struct.string, hagree ⟨"message_type", .string⟩ (by decide)]
    have hname := ofName?_eq_some_iff.mpr htype'.symm
    have hmessage := (validateMessage_ok_iff hobject).mpr ⟨hscope, hread⟩
    simp [validateControlPayload, hstrict, hnull, hunmarshal, check, bind, Except.bind, Except.mapError,
      rejectIf, protocolVersion, hversion', hname, hmessage]

end Hooshix.ContractV1

-- SUMMARY: The control validation accepts the published contract, and beyond it only objects that disguise their members.
import Hooshix.ContractV1.ControlAgreement

/-! # Accepted and published

In the contract's own names an object is read as it is written, so it is accepted exactly when it
conforms.
-/

namespace Hooshix.ContractV1

open StructDecode MessageType

/-! ## Names of properties and fields -/

namespace MessageType

variable {type : MessageType} {name : String}

theorem exists_property (h : name ∈ type.propertyNames) :
    ∃ p ∈ type.properties, p.name = name := List.mem_map.mp h

/-- The name of a property is the only one of the fields with its letters. -/
theorem eq_of_fold {f : Field} (h : name ∈ type.propertyNames)
    (hf : f ∈ type.fields) (hfold : foldName name = foldName f.name) : name = f.name := by
  obtain ⟨p, hp, rfl⟩ := exists_property h
  obtain ⟨g, hg, hname, -⟩ := type.exists_field p hp
  rw [← hname] at hfold ⊢
  rw [List.inj_on_of_nodup_map type.nodup_fold hg hf hfold]

theorem streamOpen_of_mode (h : "mode" ∈ type.propertyNames) : type = .streamOpen := by
  revert h
  cases type <;> decide

/-- The rules speak of properties. -/
theorem rule_congr {now : Int} {given given' : String → Json → Prop}
    (h : ∀ name ∈ type.propertyNames, ∀ json, given name json ↔ given' name json) :
    type.Rule now given ↔ type.Rule now given' := by
  cases type with
  | sessionReady =>
    have hheartbeat := h "heartbeat_interval_seconds" (by decide)
    have hidle := h "idle_timeout_seconds" (by decide)
    simp only [Rule, hheartbeat, hidle]
  | serverChallenge =>
    have hexpires := h "expires_at" (by decide)
    simp only [Rule, hexpires]
  | _ => exact Iff.rfl

end MessageType

variable {now : Int} {streamID : Nat} {data : Bytes}

theorem holds_congr {type : MessageType} {given given' : String → Json → Prop}
    (h : ∀ name ∈ type.propertyNames, ∀ json, given name json ↔ given' name json) :
    Holds type now given ↔ Holds type now given' := by
  have hstep : ∀ {a b : String → Json → Prop},
      (∀ name ∈ type.propertyNames, ∀ json, a name json ↔ b name json) →
      Holds type now a → Holds type now b := by
    intro a b h hholds
    have hname : ∀ p ∈ type.properties, p.name ∈ type.propertyNames := fun p hp =>
      List.mem_map.mpr ⟨p, hp, rfl⟩
    refine ⟨fun p hp hrequired => ?_, fun p hp json hjson => ?_, (rule_congr h).mp hholds.rule⟩
    · obtain ⟨json, hjson⟩ := hholds.present p hp hrequired
      exact ⟨json, (h p.name (hname p hp) json).mp hjson⟩
    · exact hholds.valid p hp json ((h p.name (hname p hp) json).mpr hjson)
  exact ⟨hstep h, hstep fun name hname json => (h name hname json).symm⟩

theorem not_valid_empty_timestamp : ¬ Kind.timestamp.Valid (.string "") := by
  rintro ⟨value, hdenotes, haccepts⟩
  cases hdenotes
  obtain ⟨-, t, ht, -⟩ := haccepts
  cases ht

/-! ## Objects in the contract's names -/

section Conforms

variable {data : Bytes} {type : MessageType} {now : Int} {members : Members}

/-- An object in the contract's names is read as it is written. -/
theorem reads_iff_mem (hobject : IsObject data members) (hplain : Plain type members)
    (hnonempty : type = .healthReport → ("last_reconnect_at", .string "") ∉ members)
    {name : String} (hname : name ∈ type.propertyNames) {json : Json} :
    Reads type members name json ↔ (name, json) ∈ members := by
  have hexact : ∀ m ∈ members, foldName m.1 = foldName name → m.1 = name := by
    intro m hm hfold
    obtain ⟨p, hp, rfl⟩ := exists_property hname
    obtain ⟨f, hf, hfname, -⟩ := type.exists_field p hp
    rw [← hfname] at hfold ⊢
    exact eq_of_fold (hplain.1 m hm) hf hfold
  rw [Reads, slot_eq_some_iff hobject.names hexact]
  refine ⟨fun h => h.1, fun hm => ⟨hm, ?_⟩⟩
  rintro (⟨rfl, rfl, -⟩ | ⟨rfl, rfl, -⟩ | ⟨-, rfl, rfl⟩ | ⟨rfl, rfl, rfl⟩ | ⟨-, rfl, hno⟩)
  · exact absurd hname (by decide)
  · exact absurd hname (by decide)
  · exact hplain.2 hm
  · exact hnonempty rfl hm
  · exact hno (List.mem_map.mpr ⟨_, hm, rfl⟩)

variable (h : Conforms type now members) {m : String × Json}

include h

theorem Conforms.valid (hm : m ∈ members) :
    ∃ p ∈ type.properties, p.name = m.1 ∧ p.kind.Valid m.2 := by
  obtain ⟨p, hp, hname⟩ := exists_property (h.only m hm)
  refine ⟨p, hp, hname, h.holds.valid p hp m.2 ?_⟩
  rw [hname]
  exact hm

theorem Conforms.taken (hm : m ∈ members) : Taken type.fields true m := by
  obtain ⟨p, hp, hname, hvalid⟩ := h.valid hm
  obtain ⟨f, hf, hfname, hfits⟩ := type.exists_field p hp
  have hfold : foldName f.name = foldName m.1 := by rw [hfname, hname]
  refine ⟨fun _ => ⟨f, hf, hfold⟩, fun g hg hgfold => ?_⟩
  rw [List.inj_on_of_nodup_map type.nodup_fold hg hf (hgfold.trans hfold.symm)]
  exact Kind.isSome_of_valid hfits hvalid

theorem Conforms.nonempty (htype : type = .healthReport) :
    ("last_reconnect_at", .string "") ∉ members := by
  subst htype
  intro hm
  exact not_valid_empty_timestamp
    (h.holds.valid (optional "last_reconnect_at" .timestamp) (by decide) _ hm)

theorem Conforms.plain : Plain type members := by
  refine ⟨h.only, fun hm => ?_⟩
  obtain rfl := streamOpen_of_mode (h.only _ hm)
  obtain ⟨value, hdenotes, haccepts⟩ :=
    h.holds.valid (optional "mode" (.enum ["http", "tcp", "udp"])) (by decide) _ hm
  cases hdenotes
  have hmode : "" ∈ ["http", "tcp", "udp"] := haccepts
  exact absurd hmode (by decide)

omit h

/-- To conform is to be read as the message, in its names. -/
theorem conforms_iff (hobject : IsObject data members) :
    Conforms type now members ↔ ReadAs type now members ∧ Plain type members := by
  constructor
  · intro h
    have hreads := fun name hname json =>
      @reads_iff_mem data type members hobject h.plain h.nonempty name hname json
    refine ⟨⟨fun m hm => h.taken hm, fun name hname => ?_, h.nonempty, fun f hf hno json hread => ?_,
      (holds_congr hreads).mpr h.holds⟩, h.plain⟩
    · obtain ⟨p, hp, rfl, hrequired⟩ := type.presentNames_required name hname
      obtain ⟨json, hjson⟩ := h.holds.present p hp hrequired
      exact List.mem_map.mpr ⟨_, hjson, rfl⟩
    · -- a field of no property: no member has its letters
      obtain ⟨m, hm, -, hfold⟩ := mem_of_slot hread.1
      have hname := eq_of_fold (h.only m hm) hf hfold
      rw [← hname] at hno
      exact hno (h.only m hm)
  · rintro ⟨hread, hplain⟩
    have hreads := fun name hname json =>
      @reads_iff_mem data type members hobject hplain hread.nonempty name hname json
    exact ⟨hplain.1, (holds_congr hreads).mp hread.holds⟩

/-- The type of a message is what is read under its name. -/
theorem ReadAs.typeName (h : ReadAs type now members) :
    ∃ json, slot members "message_type" = some json ∧ Denotes json (.string type.name) := by
  have hp : required "message_type" (.const type.name) ∈ type.properties :=
    List.mem_cons_of_mem _ List.mem_cons_self
  obtain ⟨json, hjson⟩ := h.holds.present _ hp rfl
  obtain ⟨value, hdenotes, haccepts⟩ := h.holds.valid _ hp json hjson
  refine ⟨json, hjson.1, ?_⟩
  cases hdenotes with
  | string s =>
    rw [show s = type.name from haccepts]
    exact .string type.name
  | _ => cases haccepts

/-- An object is read as a message of one type only. -/
theorem ReadAs.type_unique {other : MessageType} (h : ReadAs type now members)
    (hother : ReadAs other now members) : other = type := by
  obtain ⟨json, hjson, hdenotes⟩ := h.typeName
  obtain ⟨json', hjson', hdenotes'⟩ := hother.typeName
  rw [hjson] at hjson'
  obtain rfl := Option.some.inj hjson'
  exact eq_of_name (Value.string.inj (hdenotes'.unique hdenotes))

end Conforms

/-! ## The validation against the contract -/

/-- An object that is read as a message in its scope but is not plain: a name is written in another
    case, or one of the empty strings that count as absent is given. -/
def Disguised (data : Bytes) (streamID : Nat) (now : Int) : Prop :=
  ∃ members, IsObject data members ∧ ∃ type : MessageType,
    (streamID = 0 ↔ type.scope = .session) ∧ ReadAs type now members ∧ ¬ Plain type members

/-- Everything published is accepted. -/
theorem validateControlPayload_of_published
    (h : Published data streamID now) : validateControlPayload data streamID now = .ok () := by
  obtain ⟨members, hobject, type, hconforms, -, hscope⟩ := h
  exact validateControlPayload_ok_iff.mpr
    ⟨members, hobject, type, hscope, ((conforms_iff hobject).mp hconforms).1⟩

theorem not_published_of_disguised
    (h : Disguised data streamID now) : ¬ Published data streamID now := by
  obtain ⟨members, hobject, type, -, hread, hplain⟩ := h
  rintro ⟨members', hobject', type', hconforms, -, -⟩
  obtain rfl := hobject.members_unique hobject'
  obtain ⟨hread', hplain'⟩ := (conforms_iff hobject).mp hconforms
  rw [ReadAs.type_unique hread hread'] at hplain'
  exact hplain hplain'

/-- The validation accepts exactly the published contract, apart from the disguised objects. -/
theorem validateControlPayload_iff_published (data : Bytes) (streamID : Nat) (now : Int) :
    (validateControlPayload data streamID now = .ok () ↔ Published data streamID now) ↔
      ¬ Disguised data streamID now := by
  constructor
  · intro h hdisguised
    obtain ⟨members, hobject, type, hscope, hread, -⟩ := id hdisguised
    have haccepted := validateControlPayload_ok_iff.mpr ⟨members, hobject, type, hscope, hread⟩
    exact not_published_of_disguised hdisguised (h.mp haccepted)
  · intro h
    refine ⟨fun haccepted => ?_, validateControlPayload_of_published⟩
    obtain ⟨members, hobject, type, hscope, hread⟩ := validateControlPayload_ok_iff.mp haccepted
    have hplain : Plain type members := by
      by_contra hplain
      exact h ⟨members, hobject, type, hscope, hread, hplain⟩
    refine ⟨members, hobject, type, (conforms_iff hobject).mpr ⟨hread, hplain⟩, ?_, hscope⟩
    intro other hother
    exact ReadAs.type_unique hread ((conforms_iff hobject).mp hother).1

/-- The members of a half close with the type under another name. -/
def disguisedHalfClose : Members :=
  [("contract_version", .number ⟨['1'], by decide⟩), ("Message_Type", .string "stream_half_close")]

theorem disguisedHalfClose_isObject :
    IsObject (Json.object disguisedHalfClose).bytes disguisedHalfClose :=
  ⟨jsonValue_bytes _, (consumeJSONValue_iff _).mp (by decide +kernel), by simp [disguisedHalfClose]⟩

/-- A half close that is accepted although no message has a member of that name. -/
theorem disguisedHalfClose_accepted :
    validateControlPayload (Json.object disguisedHalfClose).bytes 1 0 = .ok () ∧
      ¬ Published (Json.object disguisedHalfClose).bytes 1 0 := by
  have hobject := disguisedHalfClose_isObject
  have hread : ReadAs .streamHalfClose 0 disguisedHalfClose := by
    refine (readAs_iff hobject).mpr ⟨nofun, _, rfl, ⟨?_, ?_⟩, rfl⟩ <;> decide +kernel
  have hplain : ¬ Plain .streamHalfClose disguisedHalfClose := by
    intro h
    exact absurd (h.1 ("Message_Type", .string "stream_half_close") (by simp [disguisedHalfClose]))
      (by decide)
  exact ⟨validateControlPayload_ok_iff.mpr
      ⟨_, hobject, .streamHalfClose, by decide, hread⟩,
    not_published_of_disguised ⟨_, hobject, .streamHalfClose, by decide, hread, hplain⟩⟩

end Hooshix.ContractV1

-- SUMMARY: Control payloads as a sender marshals them.
import Hooshix.ContractV1.ControlContract

/-! # Marshalled control messages

A sender that marshals the struct of a message writes the contract's own names in the order of the
fields. Such a payload is accepted exactly when each of its values is valid, and decoding it gives the
values back.
-/

namespace Hooshix.ContractV1

open StructDecode

/-! ## Single values -/

namespace Kind

variable {kind : Kind}

theorem valid_string {s : String} :
    kind.Valid (.string s) ↔ kind.Accepts (.string s) :=
  valid_iff_of_denotes (.string s)

theorem valid_bool {b : Bool} : kind.Valid (.bool b) ↔ kind.Accepts (.bool b) :=
  valid_iff_of_denotes (.bool b)

theorem valid_nat {n : Nat} : kind.Valid (Json.nat n) ↔ kind.Accepts (.int n) :=
  valid_iff_of_denotes (denotes_nat n)

end Kind

/-- A string, a number or a truth value. -/
def isScalar : Json → Bool
  | .string _ | .number _ | .bool _ => true
  | _ => false

theorem uniqueNames_of_isScalar {json : Json} (h : isScalar json = true) : Json.UniqueNames json := by
  cases json with
  | string s => exact .string s
  | number n => exact .number n
  | bool b => exact .bool b
  | null => cases h
  | array items => cases h
  | object members => cases h

/-! ## Marshalled messages -/

/-- The members of a message: the envelope and the body. -/
def marshalled (type : MessageType) (body : Members) : Members :=
  ("contract_version", Json.nat protocolVersion.toNat) :: ("message_type", .string type.name) :: body

/-- The members that the body of a message marshals to. Only fields that are omitted when empty may be
    missing. -/
structure Marshals (type : MessageType) (body : Members) : Prop where
  names : (body.map (·.1)).Sublist (type.bodyProperties.map (·.name))
  complete : ∀ p ∈ type.bodyProperties, p.required = true → p.name ∈ body.map (·.1)
  scalar : ∀ m ∈ body, isScalar m.2 = true
  mode : ("mode", .string "") ∉ body

theorem MessageType.nodup_propertyNames (type : MessageType) : type.propertyNames.Nodup := by
  cases type <;> decide

theorem valid_version : (Kind.integer 1 1).Valid (Json.nat protocolVersion.toNat) :=
  Kind.valid_nat.mpr ⟨Int.le_refl 1, Int.le_refl 1⟩

theorem valid_typeName (type : MessageType) : (Kind.const type.name).Valid (.string type.name) :=
  Kind.valid_string.mpr rfl

namespace Marshals

variable {type : MessageType} {body : Members} (h : Marshals type body) {now : Int} {name : String}
  {json : Json}

include h

theorem names_marshalled : ((marshalled type body).map (·.1)).Sublist type.propertyNames :=
  (h.names.cons_cons "message_type").cons_cons "contract_version"

theorem isObject : IsObject (Json.object (marshalled type body)).bytes (marshalled type body) := by
  have hscalar : ∀ m ∈ marshalled type body, isScalar m.2 = true := by
    simp only [marshalled, List.forall_mem_cons]
    exact ⟨rfl, rfl, h.scalar⟩
  refine ⟨jsonValue_bytes _, ?_, fun m hm hnull => ?_⟩
  · exact .object (type.nodup_propertyNames.sublist h.names_marshalled) fun m hm =>
      uniqueNames_of_isScalar (hscalar m hm)
  · have hm := hscalar m hm
    rw [hnull] at hm
    cases hm

theorem plain : Plain type (marshalled type body) := by
  refine ⟨fun _ hm => h.names_marshalled.subset (List.mem_map_of_mem hm), ?_⟩
  simp [marshalled, h.mode]

/-- A member is the one that its field is decoded from. -/
theorem slot_eq (hm : (name, json) ∈ marshalled type body) :
    slot (marshalled type body) name = some json := by
  refine (slot_eq_some_iff h.isObject.names fun m hm' hfold => ?_).mpr hm
  obtain ⟨p, hp, rfl⟩ := MessageType.exists_property (h.plain.1 _ hm)
  obtain ⟨f, hf, hname, -⟩ := type.exists_field p hp
  rw [← hname] at hfold ⊢
  exact MessageType.eq_of_fold (h.plain.1 m hm') hf hfold

theorem slot_typeName : slot (marshalled type body) "message_type" = some (.string type.name) :=
  h.slot_eq (List.mem_cons_of_mem _ List.mem_cons_self)

theorem member_unique {json json' : Json} (hm : (name, json) ∈ marshalled type body)
    (hm' : (name, json') ∈ marshalled type body) : json = json' :=
  Option.some.inj ((h.slot_eq hm).symm.trans (h.slot_eq hm'))

omit h

/-- What is given for a property of the body is in the body. -/
theorem mem_body {p : Property} (hp : p ∈ type.bodyProperties)
    (hm : (p.name, json) ∈ marshalled type body) : (p.name, json) ∈ body := by
  have hname : p.name ∈ type.bodyProperties.map (·.name) := List.mem_map_of_mem hp
  obtain ⟨hversion, hrest⟩ := List.nodup_cons.mp type.nodup_propertyNames
  obtain ⟨htype, -⟩ := List.nodup_cons.mp hrest
  simp only [marshalled, List.mem_cons, Prod.mk.injEq] at hm
  rcases hm with ⟨heq, -⟩ | ⟨heq, -⟩ | hm
  · rw [heq] at hname
    exact absurd (List.mem_cons_of_mem _ hname) hversion
  · rw [heq] at hname
    exact absurd hname htype
  · exact hm

/-- The payload is read as a message of no other type. -/
theorem type_eq (h : Marshals type body) {other : MessageType}
    (hread : ReadAs other now (marshalled type body)) : other = type := by
  obtain ⟨json, hslot, hdenotes⟩ := hread.typeName
  rw [h.slot_typeName] at hslot
  obtain rfl := Option.some.inj hslot
  exact MessageType.eq_of_name (Value.string.inj (hdenotes.unique (.string type.name)))

/-- Without rules that span several values, the values after the envelope decide. -/
theorem conforms_iff (h : Marshals type body) (hrule : ∀ given, type.Rule now given) :
    Conforms type now (marshalled type body) ↔
      ∀ p ∈ type.bodyProperties, ∀ json, (p.name, json) ∈ body → p.kind.Valid json := by
  have hlater : ∀ {m}, m ∈ body → m ∈ marshalled type body := fun hm =>
    List.mem_cons_of_mem _ (List.mem_cons_of_mem _ hm)
  constructor
  · intro hconforms p hp json hm
    exact hconforms.holds.valid p (List.mem_append_right _ hp) json (hlater hm)
  · intro hvalid
    refine ⟨h.plain.1, fun p hp hrequired => ?_, fun p hp json hm => ?_, hrule _⟩
    · rcases List.mem_append.mp hp with henvelope | hbody
      · simp only [List.mem_cons, List.not_mem_nil, or_false] at henvelope
        rcases henvelope with rfl | rfl
        · exact ⟨_, List.mem_cons_self⟩
        · exact ⟨_, List.mem_cons_of_mem _ List.mem_cons_self⟩
      · obtain ⟨⟨_, json⟩, hm, rfl⟩ := List.mem_map.mp (h.complete p hbody hrequired)
        exact ⟨json, hlater hm⟩
    · rcases List.mem_append.mp hp with henvelope | hbody
      · simp only [List.mem_cons, List.not_mem_nil, or_false] at henvelope
        rcases henvelope with rfl | rfl
        · rw [h.member_unique hm List.mem_cons_self]
          exact valid_version
        · rw [h.member_unique hm (List.mem_cons_of_mem _ List.mem_cons_self)]
          exact valid_typeName type
      · exact hvalid p hbody json (mem_body hbody hm)

/-- The values of a body are valid if each is valid for the property of its name. -/
theorem valid_of_members
    (h : ∀ m ∈ body, ∃ p ∈ type.bodyProperties, p.name = m.1 ∧ p.kind.Valid m.2) :
    ∀ p ∈ type.bodyProperties, ∀ json, (p.name, json) ∈ body → p.kind.Valid json := by
  intro p hp json hm
  obtain ⟨q, hq, hname, hvalid⟩ := h _ hm
  have hnodup : (type.properties.map (·.name)).Nodup := type.nodup_propertyNames
  have hsame := List.inj_on_of_nodup_map hnodup (List.mem_append_right _ hq)
    (List.mem_append_right _ hp) hname
  rw [← hsame]
  exact hvalid

theorem accepted_iff (h : Marshals type body) {streamID : Nat}
    (hrule : ∀ given, type.Rule now given) :
    validateControlPayload (Json.object (marshalled type body)).bytes streamID now = .ok () ↔
      (streamID = 0 ↔ type.scope = .session) ∧
        ∀ p ∈ type.bodyProperties, ∀ json, (p.name, json) ∈ body → p.kind.Valid json := by
  rw [validateControlPayload_ok_iff, ← h.conforms_iff hrule, ContractV1.conforms_iff h.isObject]
  constructor
  · rintro ⟨members, hobject, other, hscope, hread⟩
    obtain rfl := hobject.members_unique h.isObject
    obtain rfl := h.type_eq hread
    exact ⟨hscope, hread, h.plain⟩
  · rintro ⟨hscope, hread, -⟩
    exact ⟨_, h.isObject, type, hscope, hread⟩

end Marshals

/-! ## Reading an accepted message -/

/-- What a receiver reads from an accepted payload: a message whose required values are valid. -/
structure Receives (data : Bytes) (streamID : Nat) (type : MessageType) (message : Struct) : Prop where
  scope : streamID = 0 ↔ type.scope = .session
  /-- a struct with some of its fields is decoded with its values -/
  unmarshal : ∀ fields : List Field, (fields.map fun f => foldName f.name).Nodup →
    (∀ f ∈ fields, f ∈ type.fields) →
      ∃ part, unmarshal fields data = .ok part ∧ ∀ f ∈ fields, part f.name = message f.name
  typeName : message.string "message_type" = type.name
  checks : ∀ p ∈ type.properties, p.required = true → p.kind.Checks message p.name
  strings : ∀ members, IsObject data members → ∀ name, ⟨name, .string⟩ ∈ type.fields →
    slot members name = none ∧ message.string name = "" ∨
      slot members name = some (.string (message.string name))

theorem exists_receives {data : Bytes} {streamID : Nat} {now : Int}
    (h : validateControlPayload data streamID now = .ok ()) :
    ∃ type message, Receives data streamID type message := by
  obtain ⟨members, hobject, type, hscope, hread⟩ := validateControlPayload_ok_iff.mp h
  obtain ⟨hnamed, message, hdecode, ⟨-, htype⟩, -⟩ := (readAs_iff hobject).mp hread
  have hchecks := ((holds_iff hobject.nonnull hdecode hnamed).mp hread.holds).1
  refine ⟨type, message, hscope, fun fields hfold hsub => ?_, htype, fun p hp hrequired => ?_, ?_⟩
  · exact exists_unmarshal fields hobject hdecode hfold hsub
  · exact hchecks p hp (.inl hrequired)
  · intro members' hobject' name hf
    obtain rfl := hobject'.members_unique hobject
    exact string_slot hobject.nonnull hdecode name hf

section Receives

variable {data : Bytes} {streamID : Nat} {type : MessageType} {message : Struct}

/-- The type field alone is decoded to the type's name. -/
theorem Receives.exists_typeName (h : Receives data streamID type message) :
    ∃ envelope, ContractV1.unmarshal [⟨"message_type", .string⟩] data = .ok envelope ∧
      envelope.string "message_type" = type.name := by
  obtain ⟨envelope, henvelope, hagree⟩ := h.unmarshal [⟨"message_type", .string⟩] (by decide)
    fun f hf => List.mem_append_left _ (List.mem_cons_of_mem _ hf)
  refine ⟨envelope, henvelope, ?_⟩
  rw [← h.typeName, Struct.string, Struct.string,
    hagree ⟨"message_type", .string⟩ List.mem_cons_self]

/-- The struct of the message is decoded with its strings. -/
theorem Receives.exists_message (h : Receives data streamID type message) :
    ∃ part, ContractV1.unmarshal type.fields data = .ok part ∧
      ∀ name, ⟨name, .string⟩ ∈ type.fields → part.string name = message.string name := by
  obtain ⟨part, hpart, hagree⟩ := h.unmarshal type.fields type.nodup_fold fun _ hf => hf
  refine ⟨part, hpart, fun name hf => ?_⟩
  rw [Struct.string, Struct.string, hagree ⟨name, .string⟩ hf]

/-- A marshalled message is received with its own type and strings. -/
theorem Marshals.receives {body : Members} {now : Int} (h : Marshals type body)
    (haccepted : validateControlPayload (Json.object (marshalled type body)).bytes streamID now =
      .ok ()) :
    ∃ message, Receives (Json.object (marshalled type body)).bytes streamID type message ∧
      ∀ name s, ⟨name, .string⟩ ∈ type.fields → (name, .string s) ∈ body →
        message.string name = s := by
  obtain ⟨other, message, hreceives⟩ := exists_receives haccepted
  have hstring : ∀ name s, ⟨name, .string⟩ ∈ other.fields →
      slot (marshalled type body) name = some (.string s) → message.string name = s := by
    intro name s hf hslot
    rcases hreceives.strings _ h.isObject name hf with ⟨hnone, -⟩ | hsome
    · rw [hslot] at hnone
      cases hnone
    · rw [hslot] at hsome
      exact (Json.string.inj (Option.some.inj hsome)).symm
  have htype : message.string "message_type" = type.name :=
    hstring "message_type" type.name
      (List.mem_append_left _ (List.mem_cons_of_mem _ List.mem_cons_self)) h.slot_typeName
  obtain rfl := MessageType.eq_of_name (hreceives.typeName.symm.trans htype)
  refine ⟨message, hreceives, fun name s hf hm => hstring name s hf (h.slot_eq ?_)⟩
  exact List.mem_cons_of_mem _ (List.mem_cons_of_mem _ hm)

end Receives

end Hooshix.ContractV1

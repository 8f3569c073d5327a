-- SUMMARY: What the decoder makes of a control object, and the checks of its fields against the schema's kinds.
import Hooshix.ContractV1.ControlSchema

/-! # Control objects as the decoder reads them

The decoder takes the last member that has a field's name in some case. A few members are then not
looked at: they are read as if they were absent.
-/

namespace Hooshix.ContractV1

open StructDecode
open Contract (idPattern tokenPattern parseTimestamp isRawBase64)

/-- A member that counts as absent: the empty string in four fields, and a resume challenge under
    another name. -/
def Ignores (type : MessageType) (members : Members) (name : String) (json : Json) : Prop :=
  type = .ping ∧ name = "received_at" ∧ json = .string "" ∨
  type = .pong ∧ name = "sent_at" ∧ json = .string "" ∨
  type = .streamOpen ∧ name = "mode" ∧ json = .string "" ∨
  type = .healthReport ∧ name = "last_reconnect_at" ∧ json = .string "" ∨
  type = .sessionReady ∧ name = "resume_challenge" ∧ name ∉ members.map (·.1)

/-- What is read under a name. -/
def Reads (type : MessageType) (members : Members) (name : String) (json : Json) : Prop :=
  slot members name = some json ∧ ¬ Ignores type members name json

/-- An object that is read as a message of the contract. -/
structure ReadAs (type : MessageType) (now : Int) (members : Members) : Prop where
  taken : ∀ m ∈ members, Taken type.fields true m
  named : ∀ name ∈ type.presentNames, name ∈ members.map (·.1)
  nonempty : type = .healthReport → ("last_reconnect_at", .string "") ∉ members
  others : ∀ f ∈ type.fields, f.name ∉ type.propertyNames → ∀ json, ¬ Reads type members f.name json
  holds : Holds type now (Reads type members)

/-- An object in the contract's own names, without an empty mode. -/
def Plain (type : MessageType) (members : Members) : Prop :=
  (∀ m ∈ members, m.1 ∈ type.propertyNames) ∧ ("mode", .string "") ∉ members

/-! ## Kinds and field types -/

namespace Kind

/-- The field types that hold every value of a kind. -/
def fits : Kind → FieldType → Bool
  | integer least greatest, .int => decide (-2 ^ 63 ≤ least ∧ greatest < 2 ^ 63)
  | integer least greatest, .uint bits => decide (1 ≤ least ∧ greatest < 2 ^ bits)
  | boolean, .bool => true
  | base64url characters size, .string => decide (characters = (4 * size + 2) / 3)
  | const _, .string | id, .string | token, .string | timestamp, .string | enum _, .string
  | text _ _, .string => true
  | _, _ => false

/-- The kinds that do not accept the zero value of a field. -/
def rejectsZero : Kind → Bool
  | integer least _ => decide (0 < least)
  | const value => value != ""
  | base64url characters _ => characters != 0
  | enum values => !values.contains ""
  | text least _ => decide (0 < least)
  | boolean => false
  | id | token | timestamp => true

/-- A field as the validation checks it. -/
def Checks (kind : Kind) (message : Struct) (name : String) : Prop :=
  match kind with
  | integer least greatest => least ≤ message.int name ∧ message.int name ≤ greatest
  | const value => message.string name = value
  | id => idPattern (codes (message.string name)) = true
  | token => tokenPattern (codes (message.string name)) = true
  | base64url _ size => isRawBase64 size (codes (message.string name)) = true
  | timestamp => ∃ t, parseTimestamp (codes (message.string name)) = some t
  | enum values => message.string name ∈ values
  | text least greatest =>
    least ≤ (message.string name).length ∧ (message.string name).length ≤ greatest
  | boolean => True

end Kind

theorem length_codes (s : String) : (codes s).length = s.length := by
  rw [codes, List.length_map, String.length_toList]

variable {s : String} {kind : Kind} {json : Json}

theorem length_of_idPattern (h : idPattern (codes s) = true) :
    1 ≤ s.length ∧ s.length ≤ 64 := by
  rw [← length_codes]
  cases hs : codes s with
  | nil => rw [hs] at h; cases h
  | cons c rest =>
    rw [hs] at h
    simp only [idPattern, Bool.and_eq_true, decide_eq_true_eq] at h
    rw [List.length_cons]
    omega

theorem isBase64URLChar_of_isDigit {c : Nat} (h : Base64.isDigit c = true) :
    isBase64URLChar c = true := by
  unfold Base64.isDigit Base64.value at h
  simp only [isBase64URLChar, Contract.isAlnum, Contract.isUpper, Contract.isLower, Contract.isDigit,
    Bool.or_eq_true, Bool.and_eq_true, decide_eq_true_eq, beq_iff_eq]
  split_ifs at h
  · omega
  · omega
  · omega
  · omega
  · omega
  · cases h

theorem tokenPattern_iff :
    tokenPattern (codes s) = true ↔
      32 ≤ s.length ∧ s.length ≤ 512 ∧ ∀ c ∈ codes s, isBase64URLChar c = true := by
  simp only [tokenPattern, Bool.and_eq_true, List.all_eq_true, decide_eq_true_eq, length_codes,
    isBase64URLChar]
  exact ⟨fun ⟨⟨h, hleast⟩, hmost⟩ => ⟨hleast, hmost, h⟩, fun ⟨hleast, hmost, h⟩ => ⟨⟨h, hleast⟩, hmost⟩⟩

theorem accepts_base64url_iff {size : Nat} :
    (Kind.base64url ((4 * size + 2) / 3) size).Accepts (.string s) ↔
      isRawBase64 size (codes s) = true := by
  rw [Contract.isRawBase64_iff]
  constructor
  · intro h
    exact h.2.2
  · rintro ⟨bytes, rfl, hs⟩
    refine ⟨?_, ?_, bytes, rfl, hs⟩
    · rw [← length_codes, hs, Base64.length_encode]
    · intro c hc
      rw [hs] at hc
      exact isBase64URLChar_of_isDigit (Base64.isDigit_of_mem_encode hc)

theorem exists_parseTimestamp_iff {s : List Nat} :
    (∃ instant, parseTimestamp s = some instant) ↔
      ∃ t, Contract.matchTimestamp s = some t ∧ t.dateExists = true := by
  unfold parseTimestamp
  cases Contract.matchTimestamp s with
  | none => simp
  | some t => cases h : t.dateExists <;> simp [h]

theorem accepts_timestamp_iff :
    Kind.timestamp.Accepts (.string s) ↔ ∃ t, parseTimestamp (codes s) = some t := by
  rw [exists_parseTimestamp_iff]
  constructor
  · intro h
    exact h.2
  · rintro ⟨t, hmatch, hdate⟩
    refine ⟨?_, t, hmatch, hdate⟩
    rw [← length_codes]
    exact Contract.length_of_matchTimestamp hmatch

theorem accepts_id_iff :
    Kind.id.Accepts (.string s) ↔ idPattern (codes s) = true :=
  ⟨fun h => h.2.2, fun h => ⟨(length_of_idPattern h).1, (length_of_idPattern h).2, h⟩⟩

/-- A field that fits the kind passes its check exactly when the kind accepts the value. -/
theorem Kind.accepts_iff_checks {type : FieldType} {message : Struct} {name : String}
    (hfits : kind.fits type = true) (htype : (message name).hasType type = true) :
    kind.Accepts (message name) ↔ kind.Checks message name := by
  cases hvalue : message name with
  | int n =>
    have hint : message.int name = n := by simp only [Struct.int, hvalue]
    cases type <;> simp only [hvalue, Value.hasType, Bool.false_eq_true] at htype <;>
      cases kind <;> simp only [fits, Bool.false_eq_true] at hfits <;>
      simp only [Accepts, Checks, hint]
  | bool b =>
    cases type <;> simp only [hvalue, Value.hasType, Bool.false_eq_true] at htype
    cases kind <;> simp only [fits, Bool.false_eq_true] at hfits
    exact Iff.rfl
  | strings l =>
    cases type <;> simp only [hvalue, Value.hasType, Bool.false_eq_true] at htype
    cases kind <;> cases hfits
  | string s =>
    have hstring : message.string name = s := by simp only [Struct.string, hvalue]
    cases type <;> simp only [hvalue, Value.hasType, Bool.false_eq_true] at htype
    cases kind with
    | integer least greatest => cases hfits
    | boolean => cases hfits
    | const value => simp only [Accepts, Checks, hstring]
    | id => rw [accepts_id_iff, Checks, hstring]
    | token => simp only [Accepts, Checks, hstring, tokenPattern_iff]
    | base64url characters size =>
      have hcharacters : characters = (4 * size + 2) / 3 := of_decide_eq_true hfits
      rw [hcharacters, accepts_base64url_iff, Checks, hstring]
    | timestamp => rw [accepts_timestamp_iff, Checks, hstring]
    | enum values => simp only [Accepts, Checks, hstring]
    | text least greatest => simp only [Accepts, Checks, hstring]

theorem Kind.not_accepts_zero {type : FieldType} (hfits : kind.fits type = true)
    (hzero : kind.rejectsZero = true) : ¬ kind.Accepts type.zero := by
  have hblank : Contract.matchTimestamp (codes "") = none := rfl
  cases type <;> cases kind <;>
    simp_all [fits, rejectsZero, FieldType.zero, Accepts] <;> grind

/-- A member that a kind accepts has the type of every field that fits. -/
theorem Kind.isSome_of_valid {type : FieldType} (hfits : kind.fits type = true)
    (hvalid : kind.Valid json) :
    (value? type json).isSome = true := by
  obtain ⟨value, hdenotes, haccepts⟩ := hvalid
  cases hdenotes with
  | string s | bool b =>
    cases type <;> cases kind <;> first | rfl | (cases hfits; done) | cases haccepts
  | strings l => cases kind <;> cases haccepts
  | @int n k hn =>
    cases kind <;> try cases haccepts
    rename_i least greatest hleast hgreatest
    cases type with
    | int =>
      obtain ⟨hlow, hhigh⟩ := of_decide_eq_true hfits
      have hparse := parseInt_of_intValue hn (hlow.trans hleast) (hgreatest.trans_lt hhigh)
      simp [value?, store, hparse]
    | uint bits =>
      obtain ⟨hlow, hhigh⟩ := of_decide_eq_true hfits
      have hparse := parseUint_of_intValue hn (hlow.trans hleast) (hgreatest.trans_lt hhigh)
      simp [value?, store, hparse]
    | _ => cases hfits

theorem Kind.valid_iff_of_denotes {value : Value} (h : Denotes json value) :
    kind.Valid json ↔ kind.Accepts value := by
  constructor
  · rintro ⟨other, hother, haccepts⟩
    rw [h.unique hother]
    exact haccepts
  · intro haccepts
    exact ⟨value, h, haccepts⟩

/-! ## The tables agree -/

namespace MessageType

variable (type : MessageType)

include type

theorem nodup_fold : (type.fields.map fun f => foldName f.name).Nodup := by
  cases type <;> decide

theorem type_ne_strings : ∀ f ∈ type.fields, f.type ≠ .strings := by
  cases type <;> decide

theorem exists_field :
    ∀ p ∈ type.properties, ∃ f ∈ type.fields, f.name = p.name ∧ p.kind.fits f.type = true := by
  cases type <;> decide

/-- A required property is missed: by its value, or by its name. -/
theorem required_checked :
    ∀ p ∈ type.properties, p.required = true →
      p.kind.rejectsZero = true ∨ p.name ∈ type.presentNames := by
  cases type <;> decide

theorem presentNames_required :
    ∀ name ∈ type.presentNames, ∃ p ∈ type.properties, p.name = name ∧ p.required = true := by
  cases type <;> decide

end MessageType

end Hooshix.ContractV1

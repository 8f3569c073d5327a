-- SUMMARY: Decoding the members of a JSON object into the fields of a Go struct.
import Hooshix.Lib.JsonText
import Mathlib.Algebra.Ring.Int.Defs
import Mathlib.Algebra.Ring.Nat
import Mathlib.Data.List.Nodup
import Mathlib.Logic.Function.Basic

/-! # Struct decoding

How `encoding/json` stores the members of an object: a member goes to the field with its exact name
or, if there is none, to the first field whose name is equal under case folding. Members are stored in
order, so a later one overwrites an earlier one.
-/

namespace StructDecode

/-! ## Fields and their values -/

/-- The Go type of a field; `int` and `int64` both have 64 bits. -/
inductive FieldType where
  | int
  | uint (bits : Nat)
  | bool
  | string
  | strings
  deriving DecidableEq, Repr

inductive Value where
  | int (value : Int)
  | bool (value : Bool)
  | string (value : String)
  | strings (value : List String)
  deriving DecidableEq, Repr

def FieldType.zero : FieldType → Value
  | int | uint _ => .int 0
  | bool => .bool false
  | string => .string ""
  | strings => .strings []

structure Field where
  name : String
  type : FieldType
  deriving DecidableEq, Repr

/-! ## Values of members -/

/-- The number of a string of digits. -/
def digits? (literal : List Char) : Option Nat :=
  if literal ≠ [] ∧ literal.all Char.isDigit then some (Nat.ofDigitChars 10 literal 0) else none

/-- `strconv.ParseInt(literal, 10, 64)` for the literal of a number. -/
def parseInt (literal : List Char) : Option Int :=
  match literal with
  | '-' :: rest =>
    (digits? rest).bind fun n => if n ≤ 2 ^ 63 then some (-(n : Int)) else none
  | _ => (digits? literal).bind fun n => if n < 2 ^ 63 then some (n : Int) else none

/-- `strconv.ParseUint(literal, 10, 64)` for the literal of a number, and the overflow check of a
    field with that many bits. -/
def parseUint (bits : Nat) (literal : List Char) : Option Int :=
  (digits? literal).bind fun n => if n < 2 ^ bits then some (n : Int) else none

/-- The items of an array of strings. A null leaves the string that was there. -/
def storeStrings : List String → List Json → Option (List String)
  | _, [] => some []
  | old, .null :: rest => (storeStrings old.tail rest).map (old.headD "" :: ·)
  | old, .string value :: rest => (storeStrings old.tail rest).map (value :: ·)
  | _, _ :: _ => none

/-- What a field holds once a member is stored into it, if the types agree. A null clears a slice and
    leaves every other field as it is. -/
def store (type : FieldType) (old : Value) (json : Json) : Option Value :=
  match type, json with
  | .strings, .null => some (.strings [])
  | _, .null => some old
  | .int, .number n => (parseInt n.literal).map .int
  | .uint bits, .number n => (parseUint bits n.literal).map .int
  | .bool, .bool value => some (.bool value)
  | .string, .string value => some (.string value)
  | .strings, .array items =>
    match old with
    | .strings old => (storeStrings old items).map .strings
    | _ => (storeStrings [] items).map .strings
  | _, _ => none

/-! ## Names -/

/-- The least character of the case orbit of a character. Of the other orbits only those of `s` and
    `k` reach into the ASCII names of fields: the long s and the Kelvin sign. -/
def foldChar (c : Char) : Char :=
  if c = '\u017f' then 'S' else if c = '\u212a' then 'K' else c.toUpper

def foldName (name : String) : List Char := name.toList.map foldChar

/-- The field that a member is stored into. -/
def matchField (fields : List Field) (name : String) : Option Field :=
  (fields.find? (·.name == name)).or (fields.find? fun field => foldName field.name == foldName name)

/-! ## Decoding -/

inductive DecodeError where
  | unknownField (name : String)
  | typeMismatch (field : String)
  deriving DecidableEq, Repr

/-- The fields of a struct by name. -/
abbrev Struct := String → Value

def zero (fields : List Field) : Struct := fun name =>
  match fields.find? (·.name == name) with
  | some field => field.type.zero
  | none => .int 0

/-- One member; `strict` is `DisallowUnknownFields`. -/
def decodeMember (fields : List Field) (strict : Bool) (struct : Struct) (member : String × Json) :
    Except DecodeError Struct :=
  match matchField fields member.1 with
  | none => if strict then .error (.unknownField member.1) else .ok struct
  | some field =>
    match store field.type (struct field.name) member.2 with
    | none => .error (.typeMismatch field.name)
    | some value => .ok (Function.update struct field.name value)

def decode (fields : List Field) (strict : Bool) (members : List (String × Json)) :
    Except DecodeError Struct :=
  members.foldlM (decodeMember fields strict) (zero fields)

namespace Struct

def int (struct : Struct) (name : String) : Int :=
  match struct name with
  | .int value => value
  | _ => 0

def bool (struct : Struct) (name : String) : Bool :=
  match struct name with
  | .bool value => value
  | _ => false

def string (struct : Struct) (name : String) : String :=
  match struct name with
  | .string value => value
  | _ => ""

def strings (struct : Struct) (name : String) : List String :=
  match struct name with
  | .strings value => value
  | _ => []

end Struct

/-! ## What decoding leaves in a field -/

/-- The value that a member alone gives to a field. -/
def value? (type : FieldType) (json : Json) : Option Value := store type type.zero json

/-- The members that are stored into a field. -/
def fieldMembers (fields : List Field) (field : Field) (members : List (String × Json)) :
    List (String × Json) :=
  members.filter fun member => decide (matchField fields member.1 = some field)

section Decoding

variable {fields : List Field} {field : Field} {strict : Bool} {struct final : Struct}
  {member : String × Json} {members : List (String × Json)}

theorem mem_of_matchField {name : String} (h : matchField fields name = some field) :
    field ∈ fields := by
  rcases Option.or_eq_some_iff.mp h with h | ⟨-, h⟩ <;> exact List.mem_of_find?_eq_some h

variable (hnames : (fields.map (·.name)).Nodup)

include hnames

theorem find?_name (hfield : field ∈ fields) :
    fields.find? (·.name == field.name) = some field := by
  cases hfind : fields.find? (·.name == field.name) with
  | none =>
    have hnone := List.find?_eq_none.mp hfind field hfield
    simp at hnone
  | some other =>
    have hname : other.name = field.name := by simpa using List.find?_some hfind
    rw [List.inj_on_of_nodup_map hnames (List.mem_of_find?_eq_some hfind) hfield hname]

/-- A member under the exact name of a field goes to that field. -/
theorem matchField_name (hfield : field ∈ fields) : matchField fields field.name = some field := by
  rw [matchField, find?_name hnames hfield, Option.some_or]

theorem zero_name (hfield : field ∈ fields) : zero fields field.name = field.type.zero := by
  simp only [zero, find?_name hnames hfield]

omit hnames

theorem decodeMember_cases (h : decodeMember fields strict struct member = .ok final) :
    matchField fields member.1 = none ∧ strict = false ∧ final = struct ∨
      ∃ field value, matchField fields member.1 = some field ∧
        store field.type (struct field.name) member.2 = some value ∧
        final = Function.update struct field.name value := by
  unfold decodeMember at h
  split at h
  next hmatch =>
    cases strict with
    | true => cases h
    | false => exact .inl ⟨hmatch, rfl, (Except.ok.inj h).symm⟩
  next field hmatch =>
    split at h
    next => cases h
    next value hstore => exact .inr ⟨field, value, hmatch, hstore, (Except.ok.inj h).symm⟩

/-- A field holds what its members leave in it, in their order. -/
theorem foldlM_fieldMembers (hnames : (fields.map (·.name)).Nodup) (hfield : field ∈ fields)
    (h : members.foldlM (decodeMember fields strict) struct = .ok final) :
    (fieldMembers fields field members).foldlM (fun old m => store field.type old m.2)
      (struct field.name) = some (final field.name) := by
  induction members generalizing struct with
  | nil =>
    obtain rfl := Except.ok.inj h
    rfl
  | cons member members ih =>
    rw [List.foldlM_cons] at h
    rcases hmember : decodeMember fields strict struct member with err | next
    all_goals rw [hmember] at h
    · cases h
    have hrest := ih h
    rcases decodeMember_cases hmember with ⟨hnone, -, rfl⟩ | ⟨other, value, hmatch, hstore, rfl⟩
    · simpa [fieldMembers, hnone] using hrest
    by_cases heq : other = field
    · subst heq
      have hkeep : fieldMembers fields other (member :: members) =
          member :: fieldMembers fields other members := by
        simp [fieldMembers, hmatch]
      rw [Function.update_self] at hrest
      rw [hkeep, List.foldlM_cons, hstore]
      exact hrest
    · have hname : field.name ≠ other.name := fun hname => heq
        (List.inj_on_of_nodup_map hnames (mem_of_matchField hmatch) hfield hname.symm)
      rw [Function.update_of_ne hname] at hrest
      simpa [fieldMembers, hmatch, heq] using hrest

/-- A member of a decoded object was stored into some field. -/
theorem matchField_of_decode (h : members.foldlM (decodeMember fields true) struct = .ok final)
    (hmember : member ∈ members) : ∃ field, matchField fields member.1 = some field := by
  induction members generalizing struct with
  | nil => cases hmember
  | cons first members ih =>
    rw [List.foldlM_cons] at h
    cases hfirst : decodeMember fields true struct first with
    | error err =>
      rw [hfirst] at h
      cases h
    | ok next =>
      rw [hfirst] at h
      rcases List.mem_cons.mp hmember with rfl | hmember
      · rcases decodeMember_cases hfirst with ⟨-, hstrict, -⟩ | ⟨field, -, hmatch, -⟩
        · cases hstrict
        · exact ⟨field, hmatch⟩
      · exact ih h hmember

theorem filter_name (hmembers : (members.map (·.1)).Nodup) (hmember : member ∈ members) :
    members.filter (fun m => decide (m.1 = member.1)) = [member] := by
  induction members with
  | nil => cases hmember
  | cons first members ih =>
    obtain ⟨hfirst, hrest⟩ := List.nodup_cons.mp hmembers
    rcases List.mem_cons.mp hmember with rfl | hmember
    · have hnone : members.filter (fun m => decide (m.1 = member.1)) = [] := by
        rw [List.filter_eq_nil_iff]
        intro m hm hname
        exact hfirst (List.mem_map.mpr ⟨m, hm, of_decide_eq_true hname⟩)
      simp [hnone]
    · have hne : first.1 ≠ member.1 := fun hname =>
        hfirst (List.mem_map.mpr ⟨member, hmember, hname.symm⟩)
      simp [hne, ih hrest hmember]

/-- Under exact names, each member goes to the field of its name. -/
theorem fieldMembers_of_exact (hnames : (fields.map (·.name)).Nodup) (hfield : field ∈ fields)
    (hexact : ∀ m ∈ members, ∃ f ∈ fields, f.name = m.1) :
    fieldMembers fields field members = members.filter fun m => decide (m.1 = field.name) := by
  refine List.filter_congr fun m hm => ?_
  obtain ⟨f, hf, hname⟩ := hexact m hm
  have hmatch : matchField fields m.1 = some f := by
    rw [← hname]
    exact matchField_name hnames hf
  rw [hmatch, ← hname, decide_eq_decide]
  constructor
  · intro h
    rw [Option.some.inj h]
  · intro h
    rw [List.inj_on_of_nodup_map hnames hf hfield h]

/-- An object with exact names and no name twice gives each field the value of its member. -/
theorem decode_exact (hnames : (fields.map (·.name)).Nodup) (hfield : field ∈ fields)
    (hmembers : (members.map (·.1)).Nodup) (hexact : ∀ m ∈ members, ∃ f ∈ fields, f.name = m.1)
    (h : decode fields strict members = .ok final) :
    (∀ json, (field.name, json) ∈ members → value? field.type json = some (final field.name)) ∧
      (field.name ∉ members.map (·.1) → final field.name = field.type.zero) := by
  have hfold := foldlM_fieldMembers hnames hfield h
  rw [fieldMembers_of_exact hnames hfield hexact, zero_name hnames hfield] at hfold
  constructor
  · intro json hmember
    rw [filter_name hmembers hmember, List.foldlM_cons] at hfold
    cases hvalue : store field.type field.type.zero json with
    | none =>
      rw [hvalue] at hfold
      cases hfold
    | some value =>
      rw [hvalue] at hfold
      exact hvalue.trans hfold
  · intro hnone
    have hnil : members.filter (fun m => decide (m.1 = field.name)) = [] := by
      rw [List.filter_eq_nil_iff]
      intro m hm hname
      exact hnone (List.mem_map.mpr ⟨m, hm, of_decide_eq_true hname⟩)
    rw [hnil] at hfold
    exact (Option.some.inj hfold).symm

end Decoding

/-! ## Names in any case -/

/-- The last member that has the name in some case. -/
def slot (members : List (String × Json)) (name : String) : Option Json :=
  ((members.filter fun m => foldName m.1 == foldName name).getLast?).map (·.2)

section Slot

variable {members : List (String × Json)} {name : String} {json : Json}

theorem mem_of_slot (h : slot members name = some json) :
    ∃ m ∈ members, m.2 = json ∧ foldName m.1 = foldName name := by
  obtain ⟨m, hlast, rfl⟩ := Option.map_eq_some_iff.mp h
  obtain ⟨hm, hname⟩ := List.mem_filter.mp (List.mem_of_getLast? hlast)
  exact ⟨m, hm, rfl, beq_iff_eq.mp hname⟩

theorem slot_ne_none {m : String × Json} (hm : m ∈ members) (hname : foldName m.1 = foldName name) :
    slot members name ≠ none := by
  intro h
  have hnil := List.getLast?_eq_none_iff.mp (Option.map_eq_none_iff.mp h)
  have hmem : m ∈ members.filter fun m => foldName m.1 == foldName name :=
    List.mem_filter.mpr ⟨hm, beq_iff_eq.mpr hname⟩
  rw [hnil] at hmem
  cases hmem

/-- Where no other member has the name in some case, the slot is the member of that name. -/
theorem slot_eq_some_iff (hnames : (members.map (·.1)).Nodup)
    (hexact : ∀ m ∈ members, foldName m.1 = foldName name → m.1 = name) :
    slot members name = some json ↔ (name, json) ∈ members := by
  have hthere : ∀ {json}, slot members name = some json → (name, json) ∈ members := by
    intro json h
    obtain ⟨m, hm, rfl, hname⟩ := mem_of_slot h
    rw [← hexact m hm hname]
    exact hm
  refine ⟨hthere, fun hm => ?_⟩
  cases hslot : slot members name with
  | none => exact absurd hslot (slot_ne_none hm rfl)
  | some other =>
    have hpair := List.inj_on_of_nodup_map hnames (hthere hslot) hm rfl
    rw [(Prod.mk.inj hpair).2]

end Slot

section Folded

variable {fields : List Field} {field : Field} {strict : Bool} {final : Struct}
  {members : List (String × Json)} {json : Json} {type : FieldType} {value : Value}

theorem nodup_names_of_fold (hfold : (fields.map fun f => foldName f.name).Nodup) :
    (fields.map (·.name)).Nodup := by
  refine List.Nodup.of_map foldName ?_
  rw [List.map_map]
  exact hfold

/-- Where no two fields differ in case only, a member goes to the field with its name in some case. -/
theorem matchField_eq_some_iff (hfold : (fields.map fun f => foldName f.name).Nodup) {name : String} :
    matchField fields name = some field ↔ field ∈ fields ∧ foldName field.name = foldName name := by
  have hsame : ∀ {other}, matchField fields name = some other → foldName other.name = foldName name := by
    intro other h
    rcases Option.or_eq_some_iff.mp h with h | ⟨-, h⟩
    · have hname : other.name = name := by simpa using List.find?_some h
      rw [hname]
    · simpa using List.find?_some h
  constructor
  · intro h
    exact ⟨mem_of_matchField h, hsame h⟩
  · rintro ⟨hfield, hname⟩
    cases hmatch : matchField fields name with
    | none =>
      have hnone := (Option.or_eq_none_iff.mp hmatch).2
      have hno := List.find?_eq_none.mp hnone field hfield
      simp [hname] at hno
    | some other =>
      have hother := List.inj_on_of_nodup_map hfold (mem_of_matchField hmatch) hfield
        ((hsame hmatch).trans hname.symm)
      rw [hother]

theorem fieldMembers_of_fold (hfold : (fields.map fun f => foldName f.name).Nodup)
    (hfield : field ∈ fields) :
    fieldMembers fields field members =
      members.filter fun m => foldName m.1 == foldName field.name := by
  refine List.filter_congr fun m _ => ?_
  rw [Bool.eq_iff_iff, decide_eq_true_eq, beq_iff_eq, matchField_eq_some_iff hfold]
  exact ⟨fun h => h.2.symm, fun h => ⟨hfield, h.symm⟩⟩

/-- A value that is no null is stored regardless of what the field held. -/
theorem store_eq_value? (htype : type ≠ .strings)
    (hnull : json ≠ .null) (old : Value) : store type old json = value? type json := by
  cases type <;> cases json <;> simp_all [store, value?]

theorem string_of_value? (h : value? .string json = some value)
    (hnull : json ≠ .null) : ∃ s, json = .string s ∧ value = .string s := by
  cases json with
  | string s => exact ⟨s, rfl, (Option.some.inj h).symm⟩
  | null => exact absurd rfl hnull
  | _ => cases h

theorem uint_of_value? {bits : Nat} (h : value? (.uint bits) json = some value) :
    ∃ n : Int, value = .int n ∧ 0 ≤ n ∧ n < 2 ^ bits := by
  cases json with
  | number literal =>
    obtain ⟨n, hparse, rfl⟩ := Option.map_eq_some_iff.mp h
    obtain ⟨k, -, hk⟩ := Option.bind_eq_some_iff.mp hparse
    split at hk
    next hlt =>
      refine ⟨n, rfl, ?_⟩
      rw [← Option.some.inj hk]
      exact ⟨Int.natCast_nonneg k, by exact_mod_cast hlt⟩
    next => cases hk
  | null =>
    exact ⟨0, (Option.some.inj h).symm, Int.le_refl 0, Int.pow_pos (by decide)⟩
  | _ => cases h

theorem foldlM_store {stored : List (String × Json)} {old value : Value}
    (htype : type ≠ .strings) (hnull : ∀ m ∈ stored, m.2 ≠ .null)
    (h : stored.foldlM (fun old m => store type old m.2) old = some value) :
    (stored.getLast?).elim (value = old) fun m => value? type m.2 = some value := by
  induction stored generalizing old with
  | nil => exact (Option.some.inj h).symm
  | cons m stored ih =>
    rw [List.foldlM_cons] at h
    obtain ⟨next, hnext, hrest⟩ := Option.bind_eq_some_iff.mp h
    have hlast := ih (fun m hm => hnull m (List.mem_cons_of_mem _ hm)) hrest
    cases stored with
    | nil =>
      rw [store_eq_value? htype (hnull m List.mem_cons_self)] at hnext
      rw [show value = next from hlast]
      exact hnext
    | cons m' stored =>
      rw [List.getLast?_cons_cons]
      exact hlast

/-- What a decoded field holds: the last of its members, or zero. -/
theorem decode_slot (hfold : (fields.map fun f => foldName f.name).Nodup) (hfield : field ∈ fields)
    (htype : field.type ≠ .strings) (hnull : ∀ m ∈ members, m.2 ≠ .null)
    (h : decode fields strict members = .ok final) :
    (slot members field.name).elim (final field.name = field.type.zero)
      fun json => value? field.type json = some (final field.name) := by
  have hnames := nodup_names_of_fold hfold
  have hstore := foldlM_fieldMembers hnames hfield h
  rw [zero_name hnames hfield, fieldMembers_of_fold hfold hfield] at hstore
  have hlast := foldlM_store htype (fun m hm => hnull m (List.mem_of_mem_filter hm)) hstore
  unfold slot
  cases hget : (members.filter fun m => foldName m.1 == foldName field.name).getLast? with
  | none | some m =>
    rw [hget] at hlast
    exact hlast

/-- Decoders that share a field read the same value for it. -/
theorem decode_agree {others : List Field} {other : Bool} {struct : Struct}
    (hfold : (fields.map fun f => foldName f.name).Nodup)
    (hothers : (others.map fun f => foldName f.name).Nodup) (hfield : field ∈ fields)
    (hother : field ∈ others) (htype : field.type ≠ .strings) (hnull : ∀ m ∈ members, m.2 ≠ .null)
    (h : decode fields strict members = .ok final) (hstruct : decode others other members = .ok struct) :
    final field.name = struct field.name := by
  have hfinal := decode_slot hfold hfield htype hnull h
  have hsame := decode_slot hothers hother htype hnull hstruct
  cases hslot : slot members field.name with
  | none =>
    rw [hslot] at hfinal hsame
    exact Eq.trans (show final field.name = field.type.zero from hfinal) (Eq.symm hsame)
  | some json =>
    rw [hslot] at hfinal hsame
    exact Option.some.inj (hfinal.symm.trans hsame)

/-- A member that a decoder takes: its field has its type, and a strict decoder has a field for it. -/
def Taken (fields : List Field) (strict : Bool) (m : String × Json) : Prop :=
  (strict = true → ∃ f ∈ fields, foldName f.name = foldName m.1) ∧
    ∀ f ∈ fields, foldName f.name = foldName m.1 → (value? f.type m.2).isSome = true

theorem exists_decodeMember_iff (struct : Struct) (hfold : (fields.map fun f => foldName f.name).Nodup)
    (htypes : ∀ f ∈ fields, f.type ≠ .strings) {m : String × Json} (hnull : m.2 ≠ .null) :
    (∃ next, decodeMember fields strict struct m = .ok next) ↔ Taken fields strict m := by
  unfold decodeMember
  cases hmatch : matchField fields m.1 with
  | none =>
    have hno : ∀ f ∈ fields, foldName f.name ≠ foldName m.1 := by
      intro f hf hname
      rw [(matchField_eq_some_iff hfold).mpr ⟨hf, hname⟩] at hmatch
      cases hmatch
    cases strict with
    | true =>
      refine ⟨fun ⟨_, h⟩ => (by cases h), fun h => ?_⟩
      obtain ⟨f, hf, hname⟩ := h.1 rfl
      exact absurd hname (hno f hf)
    | false =>
      exact ⟨fun _ => ⟨nofun, fun f hf hname => absurd hname (hno f hf)⟩, fun _ => ⟨struct, rfl⟩⟩
  | some field =>
    obtain ⟨hfield, hname⟩ := (matchField_eq_some_iff hfold).mp hmatch
    have honly : ∀ f ∈ fields, foldName f.name = foldName m.1 → f = field := fun f hf h =>
      List.inj_on_of_nodup_map hfold hf hfield (h.trans hname.symm)
    simp only [store_eq_value? (htypes field hfield) hnull]
    cases hvalue : value? field.type m.2 with
    | none =>
      refine ⟨fun ⟨_, h⟩ => (by cases h), fun h => ?_⟩
      have hsome := h.2 field hfield hname
      rw [hvalue] at hsome
      cases hsome
    | some value =>
      refine ⟨fun _ => ⟨fun _ => ⟨field, hfield, hname⟩, fun f hf h => ?_⟩, fun _ => ⟨_, rfl⟩⟩
      rw [honly f hf h, hvalue]
      rfl

/-- What can be decoded: objects of which every member is taken. -/
theorem exists_decode_iff (strict : Bool) (hfold : (fields.map fun f => foldName f.name).Nodup)
    (htypes : ∀ f ∈ fields, f.type ≠ .strings) (hnull : ∀ m ∈ members, m.2 ≠ .null) :
    (∃ final, decode fields strict members = .ok final) ↔ ∀ m ∈ members, Taken fields strict m := by
  unfold decode
  generalize zero fields = struct
  induction members generalizing struct with
  | nil => exact ⟨fun _ => nofun, fun _ => ⟨struct, rfl⟩⟩
  | cons m members ih =>
    obtain ⟨hm, hmembers⟩ := List.forall_mem_cons.mp hnull
    rw [List.forall_mem_cons, List.foldlM_cons, ← exists_decodeMember_iff struct hfold htypes hm]
    cases hnext : decodeMember fields strict struct m with
    | error err => exact ⟨fun ⟨_, h⟩ => (by cases h), fun ⟨⟨_, h⟩, _⟩ => (by cases h)⟩
    | ok next =>
      rw [← ih hmembers next]
      exact ⟨fun h => ⟨⟨next, rfl⟩, h⟩, fun h => h.2⟩

end Folded

/-! ## Types of decoded values -/

def Value.hasType : Value → FieldType → Bool
  | .int _, .int | .int _, .uint _ | .bool _, .bool | .string _, .string | .strings _, .strings => true
  | _, _ => false

theorem hasType_zero (type : FieldType) : type.zero.hasType type = true := by
  cases type <;> rfl

variable {value : Value} {literal : List Char} {type : FieldType} {json : Json} {n : Int}
  {field : Field} {old : Value} {bits : Nat}

theorem hasType_of_store (h : store type old json = some value)
    (hold : old.hasType type = true) : value.hasType type = true := by
  unfold store at h
  split at h
  next => cases h; rfl
  next => cases h; exact hold
  next => obtain ⟨k, -, rfl⟩ := Option.map_eq_some_iff.mp h; rfl
  next => obtain ⟨k, -, rfl⟩ := Option.map_eq_some_iff.mp h; rfl
  next => cases h; rfl
  next => cases h; rfl
  next =>
    split at h <;>
    · obtain ⟨l, -, rfl⟩ := Option.map_eq_some_iff.mp h
      rfl
  next => cases h

theorem hasType_of_foldlM {stored : List (String × Json)}
    (h : stored.foldlM (fun old m => store type old m.2) old = some value)
    (hold : old.hasType type = true) : value.hasType type = true := by
  induction stored generalizing old with
  | nil =>
    rw [← Option.some.inj h]
    exact hold
  | cons m stored ih =>
    rw [List.foldlM_cons] at h
    obtain ⟨next, hnext, hrest⟩ := Option.bind_eq_some_iff.mp h
    exact ih hrest (hasType_of_store hnext hold)

theorem hasType_of_decode {fields : List Field} {strict : Bool}
    {members : List (String × Json)} {final : Struct} (hnames : (fields.map (·.name)).Nodup)
    (hfield : field ∈ fields) (h : decode fields strict members = .ok final) :
    (final field.name).hasType field.type = true := by
  have hfold := foldlM_fieldMembers hnames hfield h
  rw [zero_name hnames hfield] at hfold
  exact hasType_of_foldlM hfold (hasType_zero field.type)

/-- A field as its Go type reads it. -/
def Struct.read (struct : Struct) (field : Field) : Value :=
  match field.type with
  | .int | .uint _ => .int (struct.int field.name)
  | .bool => .bool (struct.bool field.name)
  | .string => .string (struct.string field.name)
  | .strings => .strings (struct.strings field.name)

theorem Struct.read_eq {struct : Struct}
    (h : (struct field.name).hasType field.type = true) : struct.read field = struct field.name := by
  unfold Struct.read Struct.int Struct.bool Struct.string Struct.strings
  cases htype : field.type <;> cases hvalue : struct field.name <;> simp_all [Value.hasType]

/-! ## What a member says -/

/-- The integer of a literal without fraction and exponent. -/
def intValue (literal : List Char) : Option Int :=
  match literal with
  | '-' :: rest => (digits? rest).map fun n : Nat => -(n : Int)
  | _ => (digits? literal).map fun n : Nat => (n : Int)

/-- The value that a JSON value stands for. Null stands for none. -/
inductive Denotes : Json → Value → Prop
  | string (value : String) : Denotes (.string value) (.string value)
  | bool (value : Bool) : Denotes (.bool value) (.bool value)
  | int {n : Json.Number} {value : Int} (h : intValue n.literal = some value) :
      Denotes (.number n) (.int value)
  | strings (value : List String) : Denotes (.array (value.map .string)) (.strings value)

theorem intValue_of_parseInt (h : parseInt literal = some n) :
    intValue literal = some n := by
  unfold parseInt at h
  unfold intValue
  split at h <;> obtain ⟨k, hdigits, hif⟩ := Option.bind_eq_some_iff.mp h <;>
    simp_all

theorem parseInt_of_intValue (h : intValue literal = some n) (hleast : -2 ^ 63 ≤ n)
    (hgreatest : n < 2 ^ 63) : parseInt literal = some n := by
  unfold intValue at h
  unfold parseInt
  split at h <;> obtain ⟨k, hdigits, rfl⟩ := Option.map_eq_some_iff.mp h
  next =>
    rw [hdigits, Option.bind_some, if_pos (by omega)]
  next =>
    rw [hdigits, Option.bind_some, if_pos (by omega)]

/-- Only a positive value rules out the literal of minus zero. -/
theorem parseUint_of_intValue (h : intValue literal = some n) (hpos : 1 ≤ n)
    (hgreatest : n < 2 ^ bits) :
    parseUint bits literal = some n := by
  unfold intValue at h
  unfold parseUint
  split at h <;> obtain ⟨k, hdigits, rfl⟩ := Option.map_eq_some_iff.mp h
  next => omega
  next =>
    have hlt : k < 2 ^ bits := by exact_mod_cast hgreatest
    rw [hdigits, Option.bind_some, if_pos hlt]

theorem digits?_minus {rest : List Char} : digits? ('-' :: rest) = none := by
  have h : ('-' :: rest).all Char.isDigit = false := by
    rw [List.all_cons]
    rfl
  rw [digits?, h]
  simp

theorem intValue_of_parseUint (h : parseUint bits literal = some n) :
    intValue literal = some n := by
  obtain ⟨k, hdigits, hif⟩ := Option.bind_eq_some_iff.mp h
  unfold intValue
  split
  next => rw [digits?_minus] at hdigits; cases hdigits
  next => simp_all

theorem storeStrings_eq {items : List Json} {old value : List String}
    (h : storeStrings old items = some value) (hold : ∀ s ∈ old, s = "") (hne : "" ∉ value) :
    items = value.map .string := by
  induction items generalizing old value with
  | nil =>
    cases h
    rfl
  | cons item items ih =>
    have htail : ∀ s ∈ old.tail, s = "" := fun s hs => hold s (List.mem_of_mem_tail hs)
    cases item with
    | null =>
      obtain ⟨rest, -, rfl⟩ := Option.map_eq_some_iff.mp h
      have hhead : old.headD "" = "" := by
        cases old with
        | nil => rfl
        | cons s old => exact hold s List.mem_cons_self
      rw [hhead] at hne
      exact absurd List.mem_cons_self hne
    | string s =>
      obtain ⟨rest, hrest, rfl⟩ := Option.map_eq_some_iff.mp h
      rw [ih hrest htail fun hmem => hne (List.mem_cons_of_mem s hmem)]
      rfl
    | _ => cases h

theorem Denotes.unique {other : Value} (h : Denotes json value) (hother : Denotes json other) :
    value = other := by
  cases h with
  | string s | bool b => cases hother; rfl
  | int hn =>
    cases hother with
    | int hm => rw [Option.some.inj (hn.symm.trans hm)]
  | strings l =>
    generalize hitems : l.map Json.string = items at hother
    cases hother with
    | strings l' =>
      rw [List.map_injective_iff.mpr (fun a b h => Json.string.inj h) hitems]

/-- A decoded value is what the member says, unless the member is null or has null items. -/
theorem denotes_of_value? (h : value? type json = some value) (hnull : json ≠ .null)
    (hitems : ∀ l, value = .strings l → "" ∉ l) : Denotes json value := by
  unfold value? store at h
  split at h
  next => exact absurd rfl hnull
  next => exact absurd rfl hnull
  next n =>
    obtain ⟨k, hk, rfl⟩ := Option.map_eq_some_iff.mp h
    exact .int (intValue_of_parseInt hk)
  next bits n =>
    obtain ⟨k, hk, rfl⟩ := Option.map_eq_some_iff.mp h
    exact .int (intValue_of_parseUint hk)
  next b =>
    cases h
    exact .bool b
  next s =>
    cases h
    exact .string s
  next items =>
    obtain ⟨l, hl, rfl⟩ := Option.map_eq_some_iff.mp h
    rw [storeStrings_eq hl (by simp) (hitems l rfl)]
    exact .strings l
  next => cases h

theorem denotes_of_scalar (htype : type ≠ .strings) (hnull : json ≠ .null)
    (h : value? type json = some value) : Denotes json value := by
  refine denotes_of_value? h hnull ?_
  rintro l rfl
  have hhas := hasType_of_store h (hasType_zero type)
  cases type <;> first | exact absurd rfl htype | cases hhas

theorem digits?_toDigits (n : Nat) : digits? (Nat.toDigits 10 n) = some n := by
  have hdigits : (Nat.toDigits 10 n).all Char.isDigit = true :=
    List.all_eq_true.mpr fun c hc => Nat.isDigit_of_mem_toDigits (by decide) (by decide) hc
  rw [digits?, if_pos ⟨Nat.toDigits_ne_nil, hdigits⟩, Nat.ofDigitChars_ten_toDigits]

theorem denotes_nat (n : Nat) : Denotes (Json.nat n) (.int n) := by
  refine .int ?_
  show intValue (Nat.toDigits 10 n) = some (n : Int)
  unfold intValue
  split
  next rest hminus =>
    have hnone := digits?_toDigits n
    rw [hminus, digits?_minus] at hnone
    cases hnone
  next =>
    rw [digits?_toDigits]
    rfl

end StructDecode

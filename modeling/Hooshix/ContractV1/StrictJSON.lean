-- SUMMARY: The strict JSON helpers of the contract packages and the strict struct decoder.
import Hooshix.Errors
import Hooshix.Lib.StructDecode
import Hooshix.Payload

/-! # Strict JSON

`strict_json.go` and `decodeStrict`. Each helper reads the bytes again. The decoder's tokens of a value
come in document order, so a walk over them is a recursion over the value; what follows the first
object, or is no JSON at all, is refused by every helper. The texts of the JSON library's own errors
are not modelled, nor is its limit of 10000 nested containers: no accepted value is nested so deep.
-/

namespace Hooshix.ContractV1

open StructDecode

/-- The members of an object in document order. -/
abbrev Members := List (String × Json)

/-- An error of the JSON library about the text. -/
def errSyntax : GoError := errorsNew "json: syntax error"

/-- `%q` of a name without characters that need escaping. -/
def quoted (name : String) : String := "\"" ++ name ++ "\""

/-! ## Duplicate names -/

mutual

/-- The loop over the members of an object, with the names it has seen. -/
def consumeJSONObject (seen : List String) : Members → Option GoError
  | [] => none
  | (key, value) :: rest =>
    if key ∈ seen then some (errorsNew ("duplicate JSON object member name: " ++ quoted key))
    else
      match consumeJSONValue value with
      | some err => some err
      | none => consumeJSONObject (key :: seen) rest

def consumeJSONValue : Json → Option GoError
  | .object members => consumeJSONObject [] members
  | .array items => consumeJSONArray items
  | _ => none

def consumeJSONArray : List Json → Option GoError
  | [] => none
  | item :: rest =>
    match consumeJSONValue item with
    | some err => some err
    | none => consumeJSONArray rest

end

/-- The JSON value of bytes that are valid UTF-8. -/
def jsonValue (data : Bytes) : Option Json := (Json.decodeUTF8 data).bind Json.parse

theorem jsonValue_bytes (value : Json) : jsonValue value.bytes = some value := by
  rw [jsonValue, Json.decodeUTF8_bytes, Option.bind_some, Json.parse_text]

def validateStrictJSONObject (data : Bytes) : Option GoError :=
  if (Json.decodeUTF8 data).isNone then some (errorsNew "JSON payload is not valid UTF-8")
  else
    match jsonValue data with
    | none => some (.wrap "invalid JSON: %w" errSyntax)
    | some (.object members) => consumeJSONObject [] members
    | some _ => some (errorsNew "JSON payload must be one object")

/-! ## Top-level members -/

/-- `scanTopLevelMembers`; the map keeps the last value of a name. -/
def scanTopLevelMembers (data : Bytes) : Except GoError Members :=
  match jsonValue data with
  | some (.object members) => .ok members.reverse
  | _ => .error (.wrap "invalid JSON: %w" errSyntax)

def isNull : Json → Bool
  | .null => true
  | _ => false

/-- The least of the names. -/
def leastName (first : String) (rest : List String) : String :=
  rest.foldl (fun least name => if name < least then name else least) first

def rejectNullMembers (data : Bytes) : Option GoError :=
  match scanTopLevelMembers data with
  | .error err => some err
  | .ok members =>
    match (members.filter fun member => isNull member.2).map (·.1) with
    | [] => none
    | first :: rest => some (errorsNew (leastName first rest ++ " must not be null"))

/-- The loop of `requirePresent` over the names. -/
def requireEach (members : Members) : List String → Option GoError
  | [] => none
  | name :: names =>
    match members.lookup name with
    | none => some (errorsNew (name ++ " is required by the contract"))
    | some .null => some (errorsNew (name ++ " must not be null"))
    | some _ => requireEach members names

def requirePresent (data : Bytes) (names : List String) : Option GoError :=
  match scanTopLevelMembers data with
  | .error err => some err
  | .ok members => requireEach members names

def rejectEmptyMembers (data : Bytes) (names : List String) : Option GoError :=
  match scanTopLevelMembers data with
  | .error err => some err
  | .ok members =>
    (names.find? fun name =>
      match members.lookup name with
      | some (.string value) => value == ""
      | _ => false).map
      fun name => errorsNew (name ++ " must not be empty when present")

/-! ## Decoding -/

def decodeError : DecodeError → GoError
  | .unknownField name => errorsNew ("json: unknown field " ++ quoted name)
  | .typeMismatch field => errorsNew ("json: cannot unmarshal into Go struct field " ++ field)

/-- `json.Unmarshal` into a struct. -/
def unmarshal (fields : List Field) (data : Bytes) : Except GoError Struct :=
  match jsonValue data with
  | some (.object members) => (decode fields false members).mapError decodeError
  | some .null => .ok (zero fields)
  | some _ => .error (decodeError (.typeMismatch ""))
  | none => .error errSyntax

def decodeStrict (fields : List Field) (data : Bytes) : Except GoError Struct :=
  match jsonValue data with
  | some (.object members) =>
    (decode fields true members).mapError fun err =>
      .wrap "strict JSON decode failed: %w" (decodeError err)
  | some .null => .ok (zero fields)
  | some _ => .error (.wrap "strict JSON decode failed: %w" (decodeError (.typeMismatch "")))
  | none => .error (.wrap "strict JSON decode failed: %w" errSyntax)

def decodeControlStrict (fields : List Field) (data : Bytes) : Except GoError Struct :=
  match validateStrictJSONObject data with
  | some err => .error err
  | none => decodeStrict fields data

attribute [local simp] consumeJSONValue consumeJSONObject

/-! ## What the helpers accept -/

open Json (UniqueNames)

mutual

theorem consumeJSONObject_iff (members : Members) (seen : List String) :
    consumeJSONObject seen members = none ↔
      (members.map (·.1)).Nodup ∧ (∀ m ∈ members, m.1 ∉ seen) ∧ ∀ m ∈ members, UniqueNames m.2 := by
  match members with
  | [] => simp
  | (key, value) :: rest =>
    have hvalue := consumeJSONValue_iff value
    have hrest := consumeJSONObject_iff rest (key :: seen)
    have hkeys : ((∀ m ∈ rest, m.1 ∉ key :: seen)) ↔
        key ∉ rest.map (·.1) ∧ ∀ m ∈ rest, m.1 ∉ seen := by
      simp only [List.mem_cons, not_or, List.mem_map, not_exists, not_and]
      exact ⟨fun h => ⟨fun m hm => (h m hm).1, fun m hm => (h m hm).2⟩,
        fun h m hm => ⟨h.1 m hm, h.2 m hm⟩⟩
    simp only [List.map_cons, List.nodup_cons, List.forall_mem_cons, ← hvalue]
    by_cases hkey : key ∈ seen
    · simp [hkey]
    · cases hconsume : consumeJSONValue value with
      | some err => simp [hkey, hconsume]
      | none =>
        simp only [consumeJSONObject, hkey, if_false, hconsume, hrest, hkeys, not_false_eq_true,
          true_and]
        exact ⟨fun ⟨hnodup, ⟨hfresh, hseen⟩, h⟩ => ⟨⟨hfresh, hnodup⟩, hseen, h⟩,
          fun ⟨⟨hfresh, hnodup⟩, hseen, h⟩ => ⟨hnodup, ⟨hfresh, hseen⟩, h⟩⟩

theorem consumeJSONValue_iff (value : Json) : consumeJSONValue value = none ↔ UniqueNames value := by
  match value with
  | .null => simp [UniqueNames.null]
  | .bool b => simp [UniqueNames.bool]
  | .number n => simp [UniqueNames.number]
  | .string s => simp [UniqueNames.string]
  | .array items =>
    rw [consumeJSONValue, consumeJSONArray_iff items]
    exact ⟨.array, fun h => by cases h with | array h => exact h⟩
  | .object members =>
    rw [consumeJSONValue, consumeJSONObject_iff members []]
    constructor
    · rintro ⟨hnames, -, h⟩
      exact .object hnames h
    · intro h
      cases h with
      | object hnames h => exact ⟨hnames, fun _ _ => List.not_mem_nil, h⟩

theorem consumeJSONArray_iff (items : List Json) :
    consumeJSONArray items = none ↔ ∀ item ∈ items, UniqueNames item := by
  match items with
  | [] => simp [consumeJSONArray]
  | item :: rest =>
    have hitem := consumeJSONValue_iff item
    have hrest := consumeJSONArray_iff rest
    rw [consumeJSONArray, List.forall_mem_cons, ← hitem, ← hrest]
    cases consumeJSONValue item <;> simp

end

theorem validateStrictJSONObject_iff {data : Bytes} :
    validateStrictJSONObject data = none ↔
      ∃ members, jsonValue data = some (.object members) ∧ UniqueNames (.object members) := by
  have hutf : (Json.decodeUTF8 data).isNone = true → jsonValue data = none := by
    intro h
    rw [jsonValue, Option.isNone_iff_eq_none.mp h, Option.bind_none]
  unfold validateStrictJSONObject
  split
  next h => simp [hutf h]
  next =>
    split
    next h => simp [h]
    next members h => simp [h, ← consumeJSONValue_iff]
    next value hne h =>
      simp only [h, Option.some.injEq]
      exact ⟨fun hsome => (by cases hsome), fun ⟨members, hobject, _⟩ => (hne members hobject).elim⟩

section Accepted

variable {data : Bytes} {members : Members} {names : List String}

theorem lookup_eq_some_iff {members : Members} (hnames : (members.map (·.1)).Nodup) {name : String}
    {value : Json} : members.lookup name = some value ↔ (name, value) ∈ members := by
  induction members with
  | nil => simp
  | cons first rest ih =>
    obtain ⟨key, json⟩ := first
    obtain ⟨hkey, hrest⟩ := List.nodup_cons.mp hnames
    rw [List.lookup_cons, List.mem_cons, Prod.mk.injEq]
    by_cases hname : name = key
    · subst hname
      have hfresh : (name, value) ∉ rest := fun h => hkey (List.mem_map.mpr ⟨_, h, rfl⟩)
      simp [hfresh, eq_comm]
    · have hbeq : (name == key) = false := beq_eq_false_iff_ne.mpr hname
      simp [hbeq, hname, ih hrest]

theorem scanTopLevelMembers_eq (h : jsonValue data = some (.object members)) :
    scanTopLevelMembers data = .ok members.reverse := by
  simp only [scanTopLevelMembers, h]

theorem validateStrictJSONObject_object (h : jsonValue data = some (.object members)) :
    validateStrictJSONObject data = consumeJSONObject [] members := by
  obtain ⟨text, htext, -⟩ := Option.bind_eq_some_iff.mp h
  simp only [validateStrictJSONObject, htext, h, Option.isNone_some, Bool.false_eq_true, if_false]

theorem rejectNullMembers_iff (h : jsonValue data = some (.object members)) :
    rejectNullMembers data = none ↔ ∀ m ∈ members, m.2 ≠ .null := by
  have hnull : ∀ {json : Json}, isNull json = true ↔ json = .null := by
    intro json
    cases json <;> simp [isNull]
  simp only [rejectNullMembers, scanTopLevelMembers_eq h]
  split
  next hnil =>
    simp only [List.map_eq_nil_iff, List.filter_eq_nil_iff, List.mem_reverse, hnull] at hnil
    simpa using hnil
  next first rest hcons =>
    simp only [reduceCtorEq, false_iff, not_forall]
    have hmem : first ∈ (members.reverse.filter fun m => isNull m.2).map (·.1) := by
      rw [hcons]
      exact List.mem_cons_self
    obtain ⟨m, hm, -⟩ := List.mem_map.mp hmem
    obtain ⟨hm, hjson⟩ := List.mem_filter.mp hm
    exact ⟨m, List.mem_reverse.mp hm, not_not.mpr (hnull.mp hjson)⟩

theorem nodup_reverse_names (hnames : (members.map (·.1)).Nodup) :
    (members.reverse.map (·.1)).Nodup := by
  rw [List.map_reverse]
  exact List.nodup_reverse.mpr hnames

theorem requireEach_iff (hnames : (members.map (·.1)).Nodup) :
    requireEach members names = none ↔
      ∀ name ∈ names, ∃ value, (name, value) ∈ members ∧ value ≠ .null := by
  induction names with
  | nil => simp [requireEach]
  | cons name names ih =>
    rw [List.forall_mem_cons, ← ih, requireEach]
    simp only [← lookup_eq_some_iff hnames]
    cases members.lookup name with
    | none => simp
    | some value => cases value <;> simp

variable (h : jsonValue data = some (.object members)) {fields : List Field} {struct : Struct}

include h

theorem requirePresent_iff (hnames : (members.map (·.1)).Nodup) :
    requirePresent data names = none ↔
      ∀ name ∈ names, ∃ value, (name, value) ∈ members ∧ value ≠ .null := by
  simp only [requirePresent, scanTopLevelMembers_eq h, requireEach_iff (nodup_reverse_names hnames),
    List.mem_reverse]

theorem rejectEmptyMembers_iff (hnames : (members.map (·.1)).Nodup) :
    rejectEmptyMembers data names = none ↔ ∀ name ∈ names, (name, .string "") ∉ members := by
  simp only [rejectEmptyMembers, scanTopLevelMembers_eq h, Option.map_eq_none_iff,
    List.find?_eq_none]
  refine forall₂_congr fun name _ => ?_
  rw [← List.mem_reverse, ← lookup_eq_some_iff (nodup_reverse_names hnames)]
  split
  next value hvalue => simp [hvalue]
  next hno => exact ⟨fun _ hblank => hno "" hblank, fun _ => nofun⟩

theorem unmarshal_ok_iff :
    unmarshal fields data = .ok struct ↔ decode fields false members = .ok struct := by
  simp only [unmarshal, h]
  cases decode fields false members <;> simp [Except.mapError]

theorem decodeStrict_ok_iff :
    decodeStrict fields data = .ok struct ↔ decode fields true members = .ok struct := by
  simp only [decodeStrict, h]
  cases decode fields true members <;> simp [Except.mapError]

end Accepted

end Hooshix.ContractV1

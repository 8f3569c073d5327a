-- SUMMARY: A record that its contract accepts can always be read into a snapshot.
import Hooshix.Gateway.Authority

/-! # Valid records

Between the contract's validation of a record and its table there are checks of the snapshot's own: it
parses the times again and needs a host name that is not empty. They refuse no valid record, so that
only a duplicate is left as a reason to refuse one.
-/

namespace Hooshix.Gateway.Authority

open Contract (parseTimestamp parseRFC3339_of_parseTimestamp)
open ContractV1 (codes validateHostname checkLabel isLetter parseUTCTime_ok_iff
  parseDeviceSessionAuthorizationRecord parseEndpointRouteAssignmentRecord parseRevocationSignal)
open ContractV2 (parseServiceEndpoint parseConnectorGrant)

/-! ## Host names -/

theorem mem_intercalate {α : Type*} {x c : α} {parts : List (List α)}
    (h : c ∈ [x].intercalate parts) : c = x ∨ ∃ part ∈ parts, c ∈ part := by
  induction parts with
  | nil => simp [List.intercalate] at h
  | cons part rest ih =>
    cases rest with
    | nil => exact .inr ⟨part, List.mem_cons_self, by simpa [List.intercalate] using h⟩
    | cons next rest =>
      simp only [List.intercalate, List.intersperse_cons_cons, List.flatten_cons, List.mem_append,
        List.mem_singleton] at h
      rcases h with hpart | hx | hrest
      · exact .inr ⟨part, List.mem_cons_self, hpart⟩
      · exact .inl hx
      · rcases ih hrest with hx | ⟨other, hother, hc⟩
        · exact .inl hx
        · exact .inr ⟨other, List.mem_cons_of_mem part hother, hc⟩

/-- The characters of a valid host name are those of its labels and the dots between them. -/
theorem char_of_validateHostname {value : String} (h : validateHostname value = none) :
    ∀ c ∈ value.toList, c = '.' ∨ isLetter c = true ∨ c.isDigit = true ∨ c = '-' := by
  intro c hc
  unfold validateHostname at h
  split at h
  · cases h
  dsimp only at h
  split at h
  · cases h
  split at h
  · cases h
  next hlabels =>
    have hjoin : ['.'].intercalate (value.toList.splitOn '.') = value.toList :=
      List.intercalate_splitOn '.'
    rw [← hjoin] at hc
    refine (mem_intercalate hc).imp_right ?_
    rintro ⟨part, hpart, hmem⟩
    have hlabel := List.findSome?_eq_none_iff.mp hlabels _ (List.mem_map.mpr ⟨part, hpart, rfl⟩)
    simp only [checkLabel] at hlabel
    split at hlabel
    · cases hlabel
    split at hlabel
    · cases hlabel
    next hany =>
      simp only [String.toList_ofList, List.any_eq_true, not_exists, not_and,
        Bool.not_eq_true, Bool.not_eq_false', Bool.or_eq_true, beq_iff_eq] at hany
      exact or_assoc.mp (hany c hmem)

/-- Characters that `canonicalHostname` neither trims nor cuts at. -/
def Kept (c : Char) : Prop := isSpace c = false ∧ c ≠ ':' ∧ c ≠ '.'

instance : DecidablePred Kept := fun _ => inferInstanceAs (Decidable (_ ∧ _ ∧ _))

variable {table : Char → Char}

theorem kept_toLower {c : Char}
    (h : isLetter c = true ∨ c.isDigit = true ∨ c = '-') : Kept (toLower table c) := by
  have hascii : ∀ n < 128, (isLetter (Char.ofNat n) = true ∨ (Char.ofNat n).isDigit = true ∨
      Char.ofNat n = '-') → Kept (Char.ofNat n).toLower := by decide +kernel
  have hsmall : c.toNat < 128 := by
    rcases h with h | h | rfl
    · change (decide (65 ≤ c.val ∧ c.val ≤ 90) || 97 ≤ c.val && c.val ≤ 122) = true at h
      simp only [Bool.or_eq_true, Bool.and_eq_true, decide_eq_true_eq, UInt32.le_iff_toNat_le] at h
      change c.val.toNat < 128
      rcases h with ⟨-, h⟩ | ⟨-, h⟩ <;> exact lt_of_le_of_lt h (by decide)
    · simp only [Char.isDigit, Bool.and_eq_true, decide_eq_true_eq, UInt32.le_iff_toNat_le] at h
      exact lt_of_le_of_lt h.2 (by decide)
    · decide
  rw [toLower, if_pos hsmall]
  have hkept := hascii c.toNat hsmall
  rw [Char.ofNat_toNat] at hkept
  exact hkept h

theorem trimSpace_cons {d : Char} (rest : List Char) (hd : isSpace d = false) :
    ∃ more, trimSpace (d :: rest) = d :: more := by
  unfold trimSpace
  rw [List.dropWhile_cons_of_neg (by simp [hd]), List.reverse_cons, List.dropWhile_append]
  split
  · exact ⟨[], by simp [hd]⟩
  · exact ⟨((rest.reverse).dropWhile isSpace).reverse, by simp⟩

theorem canonicalHostname_ne_empty (table : Char → Char) {value : String}
    (h : validateHostname value = none) : canonicalHostname table value ≠ "" := by
  have hchars := char_of_validateHostname h
  have hhead : value.toList.head? ≠ some '.' ∧ value.toList ≠ [] := by
    unfold validateHostname at h
    split at h
    next => cases h
    next hedges =>
      refine ⟨fun hdot => hedges (.inr (.inr (.inl hdot))), fun hnil => hedges (.inl ?_)⟩
      rw [String.toList_eq_nil_iff.mp hnil]
      rfl
  unfold canonicalHostname
  cases hvalue : value.toList with
  | nil => exact absurd hvalue hhead.2
  | cons c rest =>
    rw [hvalue] at hchars hhead
    obtain ⟨hspace, hcolon, hdot⟩ : Kept (toLower table c) :=
      kept_toLower ((hchars c List.mem_cons_self).resolve_left fun hc => hhead.1 (by rw [hc]; rfl))
    obtain ⟨more, htrim⟩ := trimSpace_cons (rest.map (toLower table)) hspace
    simp only [List.map_cons, htrim, List.takeWhile_cons, bne_iff_ne, ne_eq, hcolon,
      not_false_eq_true, if_true]
    -- the first character is kept, and it is not the dot that is cut off at the end
    cases more.takeWhile (· != ':') with
    | nil => simp [hdot]
    | cons next more => split <;> simp

/-! ## Reading valid records -/

/-- What a valid record declares: itself, with the instants that its texts name. -/
def Category.Declares (table : Char → Char) (data : Bytes) (d : Declared) : Category → Prop
  | .authorizations => ∃ record, parseDeviceSessionAuthorizationRecord data = .ok record ∧
      ∃ notBefore, parseTimestamp (codes record.notBefore) = some notBefore ∧
      ∃ expiresAt, parseTimestamp (codes record.expiresAt) = some expiresAt ∧
        d = .authorization ⟨record, notBefore, expiresAt⟩
  | .routes => ∃ record, parseEndpointRouteAssignmentRecord data = .ok record ∧
      ∃ notBefore, parseTimestamp (codes record.notBefore) = some notBefore ∧
      ∃ expiresAt, parseTimestamp (codes record.expiresAt) = some expiresAt ∧
        d = .route (canonicalHostname table record.publicHostname) ⟨record, notBefore, expiresAt⟩
  | .revocations => ∃ signal, parseRevocationSignal data = .ok signal ∧
      ∃ effectiveAt, parseTimestamp (codes signal.effectiveAt) = some effectiveAt ∧
        d = .revocation ⟨signal.subjectKind, signal.subjectID⟩ effectiveAt signal.reasonCode
  | .serviceEndpoints => ∃ record, parseServiceEndpoint data = .ok record ∧ d = .serviceEndpoint record
  | .connectorGrants => ∃ record, parseConnectorGrant data = .ok record ∧ d = .connectorGrant record

section Times

variable {data : Bytes}

theorem times_of_authorization {record : ContractV1.DeviceSessionAuthorization}
    (h : parseDeviceSessionAuthorizationRecord data = .ok record) :
    (∃ t, parseTimestamp (codes record.notBefore) = some t) ∧
      ∃ t, parseTimestamp (codes record.expiresAt) = some t := by
  simp only [parseDeviceSessionAuthorizationRecord, bind_eq_ok] at h
  obtain ⟨_, -, _, -, _, -, _, -, _, hvalidate, hreturn⟩ := h
  cases hreturn
  simp only [ContractV1.DeviceSessionAuthorization.validate, bind_eq_ok, parseUTCTime_ok_iff] at hvalidate
  obtain ⟨_, -, _, -, _, -, _, -, _, -, notBefore, hnotBefore, expiresAt, hexpiresAt, -⟩ := hvalidate
  exact ⟨⟨notBefore, hnotBefore⟩, expiresAt, hexpiresAt⟩

theorem times_of_route {record : ContractV1.EndpointRouteAssignment}
    (h : parseEndpointRouteAssignmentRecord data = .ok record) :
    validateHostname record.publicHostname = none ∧
      (∃ t, parseTimestamp (codes record.notBefore) = some t) ∧
      ∃ t, parseTimestamp (codes record.expiresAt) = some t := by
  simp only [parseEndpointRouteAssignmentRecord, bind_eq_ok] at h
  obtain ⟨_, -, _, -, _, -, _, -, _, hvalidate, hreturn⟩ := h
  cases hreturn
  simp only [ContractV1.EndpointRouteAssignment.validate, bind_eq_ok, check_eq_ok,
    parseUTCTime_ok_iff] at hvalidate
  obtain ⟨_, -, _, -, _, hhostname, notBefore, hnotBefore, expiresAt, hexpiresAt, -⟩ := hvalidate
  exact ⟨hhostname, ⟨notBefore, hnotBefore⟩, expiresAt, hexpiresAt⟩

theorem time_of_revocation {signal : ContractV1.RevocationSignal}
    (h : parseRevocationSignal data = .ok signal) :
    ∃ t, parseTimestamp (codes signal.effectiveAt) = some t := by
  simp only [parseRevocationSignal, bind_eq_ok] at h
  obtain ⟨_, -, _, -, _, -, _, hvalidate, hreturn⟩ := h
  cases hreturn
  simp only [ContractV1.RevocationSignal.validate, bind_eq_ok, parseUTCTime_ok_iff] at hvalidate
  obtain ⟨_, -, _, -, _, -, _, -, _, -, effectiveAt, heffectiveAt, -⟩ := hvalidate
  exact ⟨effectiveAt, heffectiveAt⟩

/-- The snapshot's own reading of a time is that of the contract. -/
theorem timeParse_ok_iff {what value : String} (h : ∃ t, parseTimestamp (codes value) = some t)
    {instant : Int} :
    timeParse what value = .ok instant ↔ parseTimestamp (codes value) = some instant := by
  obtain ⟨t, ht⟩ := h
  rw [timeParse, parseRFC3339_of_parseTimestamp ht, ht]
  simp

end Times

/-- A record is read as what it declares. -/
theorem read_eq_ok_iff {category : Category} {data : Bytes} {d : Declared} :
    category.read table data = .ok d ↔ category.Declares table data d := by
  have hreturn : ∀ d', (pure d' : Except GoError Declared) = .ok d ↔ d = d' := fun d' =>
    ⟨fun h => (Except.ok.inj h).symm, fun h => congrArg Except.ok h.symm⟩
  cases category with
  | authorizations =>
    simp only [Category.read, readAuthorization, bind_eq_ok, Category.Declares, hreturn]
    refine exists_congr fun record => and_congr_right fun h => ?_
    obtain ⟨hnotBefore, hexpiresAt⟩ := times_of_authorization h
    simp only [timeParse_ok_iff hnotBefore, timeParse_ok_iff hexpiresAt]
  | routes =>
    simp only [Category.read, readRoute, bind_eq_ok, rejectIf_eq_ok, Category.Declares, hreturn]
    refine exists_congr fun record => and_congr_right fun h => ?_
    obtain ⟨hhostname, hnotBefore, hexpiresAt⟩ := times_of_route h
    simp only [timeParse_ok_iff hnotBefore, timeParse_ok_iff hexpiresAt,
      canonicalHostname_ne_empty table hhostname, not_false_eq_true, true_and, exists_const]
  | revocations =>
    simp only [Category.read, readRevocation, bind_eq_ok, Category.Declares, hreturn]
    refine exists_congr fun signal => and_congr_right fun h => ?_
    simp only [timeParse_ok_iff (time_of_revocation h)]
  | serviceEndpoints | connectorGrants =>
    simp only [Category.read, bind_eq_ok, Category.Declares, hreturn]

end Hooshix.Gateway.Authority

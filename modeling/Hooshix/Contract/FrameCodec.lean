-- SUMMARY: The frame codec of the contract, and that it is a bijection onto the frame language.
import Hooshix.Contract
import Hooshix.Errors
import Hooshix.Lib.BigEndian
import Hooshix.Payload

/-! # Frame codec

`EncodeFrame` and `DecodeFrame`. A frame is a header of 24 bytes and its payload; the fields have the
widths of the Go type. A framing error is one that Go types as `FrameError`: the header, kind, version,
flags or payload length. What `validateFrameFields` refuses is a plain error.
-/

namespace Hooshix.Contract

open BigEndian

def headerSize : Nat := 24

def protocolVersion : Nat := 1

/-- The first bytes of every frame, `HXT1`. -/
def magic : Bytes := [72, 88, 84, 49]

def kindControl : UInt8 := 1

def kindData : UInt8 := 2

/-- `contractv1.Frame` with the widths of its fields. -/
structure WireFrame where
  kind : UInt8
  streamID : UInt32
  sequence : UInt64
  payload : Bytes
  deriving DecidableEq, Repr

/-- An error of the codec, and whether it is a `FrameError`. -/
structure CodecError where
  framing : Bool
  err : GoError
  deriving DecidableEq, Repr

def frameErrorf (message : String) : CodecError := ⟨true, errorsNew message⟩

def plainError (message : String) : CodecError := ⟨false, errorsNew message⟩

/-- `Kind.String` -/
def kindString (kind : UInt8) : String :=
  if kind = kindControl then "control"
  else if kind = kindData then "data"
  else s!"kind({kind})"

/-- The verb `%04x`. -/
def hex4 (n : Nat) : String :=
  let digits := Nat.toDigits 16 n
  String.ofList (List.replicate (4 - digits.length) '0' ++ digits)

def maxPayloadForKind (kind : UInt8) : Nat :=
  if kind = kindControl then maxControlPayload else maxDataPayload

def validateFrameFields (frame : WireFrame) : Option CodecError :=
  if frame.kind ≠ kindControl ∧ frame.kind ≠ kindData then
    some (plainError s!"unknown frame kind: {frame.kind}")
  else if frame.sequence = 0 then some (plainError "sequence must start at 1")
  else if maxPayloadForKind frame.kind < frame.payload.length then
    some (plainError
      s!"payload exceeds {kindString frame.kind} limit: {frame.payload.length}")
  else if frame.kind = kindData ∧ frame.streamID = 0 then
    some (plainError "data frame stream ID must be non-zero")
  else none

/-- The bytes of a frame. The length field is the `uint32` of the payload's length. -/
def frameBytes (frame : WireFrame) : Bytes :=
  magic ++ (UInt8.ofNat protocolVersion :: frame.kind :: (pack 2 0 ++
    (pack 4 frame.streamID.toNat ++
      (pack 4 (UInt32.ofNat frame.payload.length).toNat ++
        (pack 8 frame.sequence.toNat ++ frame.payload)))))

def encodeFrame (frame : WireFrame) : Except CodecError Bytes :=
  match validateFrameFields frame with
  | some err => .error err
  | none => .ok (frameBytes frame)

/-- `encoded[start:start+size]` -/
def slice (encoded : Bytes) (start size : Nat) : Bytes := (encoded.drop start).take size

/-- `encoded[i]`; all uses are behind the length check. -/
def byteAt (encoded : Bytes) (i : Nat) : UInt8 := encoded.getD i 0

/-- The fields that `DecodeFrame` reads. -/
def frameFields (encoded : Bytes) : WireFrame where
  kind := byteAt encoded 5
  streamID := UInt32.ofNat (read (slice encoded 8 4))
  sequence := UInt64.ofNat (read (slice encoded 16 8))
  payload := encoded.drop headerSize

def decodeFrame (encoded : Bytes) : Except CodecError WireFrame :=
  if encoded.length < headerSize then
    .error (frameErrorf s!"frame shorter than {headerSize}-byte header")
  else if slice encoded 0 4 ≠ magic then .error (frameErrorf "invalid frame magic")
  else
    let version := byteAt encoded 4
    if version.toNat ≠ protocolVersion then
      .error (frameErrorf s!"unsupported protocol version: {version}")
    else
      let kind := byteAt encoded 5
      if kind ≠ kindControl ∧ kind ≠ kindData then
        .error (frameErrorf s!"unknown frame kind: {kind}")
      else
        let flags := read (slice encoded 6 2)
        if flags ≠ 0 then
          .error (frameErrorf s!"reserved flags must be zero: 0x{hex4 flags}")
        else
          let payloadLength := read (slice encoded 12 4)
          let actual := encoded.length - headerSize
          if payloadLength ≠ actual then
            .error (frameErrorf
              s!"payload length mismatch: header={payloadLength} actual={actual}")
          else if maxPayloadForKind kind < payloadLength then
            .error (frameErrorf
              s!"payload exceeds {kindString kind} limit: {payloadLength}")
          else
            match validateFrameFields (frameFields encoded) with
            | some err => .error err
            | none => .ok (frameFields encoded)

/-! ## The frame language -/

/-- The frames of the protocol, over their bytes. -/
structure FrameLanguage (encoded : Bytes) : Prop where
  header : headerSize ≤ encoded.length
  magic : slice encoded 0 4 = magic
  version : byteAt encoded 4 = 1
  kind : byteAt encoded 5 = kindControl ∨ byteAt encoded 5 = kindData
  flags : slice encoded 6 2 = [0, 0]
  length : read (slice encoded 12 4) = encoded.length - headerSize
  bound : encoded.length - headerSize ≤ maxPayloadForKind (byteAt encoded 5)
  sequence : slice encoded 16 8 ≠ List.replicate 8 0
  streamID : byteAt encoded 5 = kindData → slice encoded 8 4 ≠ List.replicate 4 0

/-- The part of the language that `DecodeFrame` checks by itself. -/
structure HeaderLanguage (encoded : Bytes) : Prop where
  header : headerSize ≤ encoded.length
  magic : slice encoded 0 4 = magic
  version : byteAt encoded 4 = 1
  kind : byteAt encoded 5 = kindControl ∨ byteAt encoded 5 = kindData
  flags : slice encoded 6 2 = [0, 0]
  length : read (slice encoded 12 4) = encoded.length - headerSize
  bound : encoded.length - headerSize ≤ maxPayloadForKind (byteAt encoded 5)

section Slices

variable {encoded : Bytes} {start size : Nat}

theorem length_slice (h : start + size ≤ encoded.length) :
    (slice encoded start size).length = size := by
  rw [slice, List.length_take, List.length_drop]
  omega

theorem slice_append_drop (start size : Nat) :
    slice encoded start size ++ encoded.drop (start + size) = encoded.drop start := by
  rw [slice, ← List.drop_drop, List.take_append_drop]

theorem byteAt_cons_drop {i : Nat} (h : i < encoded.length) :
    byteAt encoded i :: encoded.drop (i + 1) = encoded.drop i := by
  rw [List.drop_eq_getElem_cons h, byteAt, List.getD_eq_getElem?_getD, List.getElem?_eq_getElem h,
    Option.getD_some]

/-- The slice of a field of the header that is packed at its place. -/
theorem slice_append {front field rest : Bytes} (hstart : front.length = start)
    (hsize : field.length = size) : slice (front ++ (field ++ rest)) start size = field := by
  subst hstart hsize
  rw [slice, List.drop_left, List.take_left]

/-- A field of the header that is not zero. -/
theorem read_slice_ne_zero (h : start + size ≤ encoded.length) :
    read (slice encoded start size) ≠ 0 ↔
      slice encoded start size ≠ List.replicate size 0 := by
  rw [ne_eq, read_eq_zero_iff, length_slice h]

theorem read_slice_lt (h : start + size ≤ encoded.length) :
    read (slice encoded start size) < 256 ^ size := by
  have hlt := read_lt (slice encoded start size)
  rwa [length_slice h] at hlt

theorem pack_read_slice (h : start + size ≤ encoded.length) :
    pack size (read (slice encoded start size)) = slice encoded start size := by
  have hpack := pack_read (slice encoded start size)
  rwa [length_slice h] at hpack

end Slices

variable {frame : WireFrame}

theorem validateFrameFields_eq_none :
    validateFrameFields frame = none ↔
      (frame.kind = kindControl ∨ frame.kind = kindData) ∧ frame.sequence ≠ 0 ∧
      frame.payload.length ≤ maxPayloadForKind frame.kind ∧
      (frame.kind = kindData → frame.streamID ≠ 0) := by
  unfold validateFrameFields
  split
  next hkind => simp [hkind]
  next hkind =>
    split
    next hsequence => simp [hsequence]
    next hsequence =>
      split
      next hlength => simp [Nat.not_le.mpr hlength]
      next hlength =>
        split
        next hstream => simp [hstream]
        next hstream => grind

/-! ## The fields of an encoded frame -/

section Fields

variable (frame : WireFrame)

/-- The header up to the stream ID. -/
def frameStart : Bytes :=
  magic ++ [UInt8.ofNat protocolVersion, frame.kind] ++ pack 2 0

theorem length_frameStart : (frameStart frame).length = 8 := by simp [frameStart, magic]

theorem frameBytes_eq : frameBytes frame = frameStart frame ++ (pack 4 frame.streamID.toNat ++
      (pack 4 (UInt32.ofNat frame.payload.length).toNat ++
        (pack 8 frame.sequence.toNat ++ frame.payload))) := by
  simp [frameBytes, frameStart]

theorem length_frameBytes : (frameBytes frame).length = headerSize + frame.payload.length := by
  simp only [frameBytes_eq, List.length_append, length_frameStart, length_pack, headerSize]
  omega

theorem slice_magic_frameBytes : slice (frameBytes frame) 0 4 = magic := by
  simp [frameBytes, slice, magic]

theorem version_frameBytes : byteAt (frameBytes frame) 4 = 1 := by
  simp [frameBytes, byteAt, magic, protocolVersion]

theorem kind_frameBytes : byteAt (frameBytes frame) 5 = frame.kind := by
  simp [frameBytes, byteAt, magic]

theorem slice_flags_frameBytes : slice (frameBytes frame) 6 2 = [0, 0] := by
  simp [frameBytes, slice, magic, List.take_append, pack_zero]

theorem slice_streamID_frameBytes :
    slice (frameBytes frame) 8 4 = pack 4 frame.streamID.toNat := by
  rw [frameBytes_eq]
  exact slice_append (length_frameStart frame) (length_pack 4 _)

theorem slice_length_frameBytes : slice (frameBytes frame) 12 4 =
    pack 4 (UInt32.ofNat frame.payload.length).toNat := by
  rw [frameBytes_eq, ← List.append_assoc]
  apply slice_append
  · simp [length_frameStart]
  · simp

theorem slice_sequence_frameBytes :
    slice (frameBytes frame) 16 8 = pack 8 frame.sequence.toNat := by
  rw [frameBytes_eq, ← List.append_assoc, ← List.append_assoc]
  apply slice_append
  · simp [length_frameStart]
  · simp

theorem drop_frameBytes : (frameBytes frame).drop headerSize = frame.payload := by
  rw [frameBytes_eq, ← List.append_assoc, ← List.append_assoc, ← List.append_assoc]
  apply List.drop_left'
  simp [length_frameStart, headerSize]

end Fields

/-- Reading the fields back. -/
theorem frameFields_frameBytes (frame : WireFrame) : frameFields (frameBytes frame) = frame := by
  have hstream : frame.streamID.toNat < 256 ^ 4 := frame.streamID.toNat_lt
  have hsequence : frame.sequence.toNat < 256 ^ 8 := frame.sequence.toNat_lt
  unfold frameFields
  rw [kind_frameBytes, slice_streamID_frameBytes, slice_sequence_frameBytes, drop_frameBytes,
    read_pack hstream, read_pack hsequence, UInt32.ofNat_toNat,
    UInt64.ofNat_toNat]

/-- The bound of either kind fits the length field. -/
theorem maxPayloadForKind_lt (kind : UInt8) : maxPayloadForKind kind < 2 ^ 32 := by
  unfold maxPayloadForKind maxControlPayload maxDataPayload
  split <;> decide

theorem frameLanguage_frameBytes (h : validateFrameFields frame = none) :
    FrameLanguage (frameBytes frame) := by
  obtain ⟨hkind, hsequence, hbound, hstream⟩ := validateFrameFields_eq_none.mp h
  have hlength : frame.payload.length < 2 ^ 32 :=
    Nat.lt_of_le_of_lt hbound (maxPayloadForKind_lt frame.kind)
  have hpayload : (frameBytes frame).length - headerSize = frame.payload.length := by
    rw [length_frameBytes, Nat.add_sub_cancel_left]
  have hheader : headerSize ≤ (frameBytes frame).length := by
    rw [length_frameBytes]
    exact Nat.le_add_right _ _
  exact {
    header := hheader
    magic := slice_magic_frameBytes frame
    version := version_frameBytes frame
    kind := by rwa [kind_frameBytes]
    flags := slice_flags_frameBytes frame
    length := by
      have hfits : (UInt32.ofNat frame.payload.length).toNat = frame.payload.length := by
        simpa using hlength
      rw [slice_length_frameBytes, hfits, read_pack hlength, hpayload]
    bound := by rwa [kind_frameBytes, hpayload]
    sequence := by
      rw [← read_slice_ne_zero hheader, slice_sequence_frameBytes,
        read_pack frame.sequence.toNat_lt]
      exact fun hzero => hsequence (UInt64.toNat.inj hzero)
    streamID := by
      intro hdata
      rw [← read_slice_ne_zero (Nat.le_trans (by decide) hheader), slice_streamID_frameBytes,
        read_pack frame.streamID.toNat_lt]
      rw [kind_frameBytes] at hdata
      exact fun hzero => hstream hdata (UInt32.toNat.inj hzero) }

/-! ## Decoding -/

section Decode

variable {encoded : Bytes}

theorem streamID_frameFields (h : headerSize ≤ encoded.length) :
    (frameFields encoded).streamID.toNat = read (slice encoded 8 4) := by
  have hlt : read (slice encoded 8 4) < 256 ^ 4 :=
    read_slice_lt (Nat.le_trans (by decide) h)
  simpa [frameFields] using hlt

theorem sequence_frameFields (h : headerSize ≤ encoded.length) :
    (frameFields encoded).sequence.toNat = read (slice encoded 16 8) := by
  have hlt : read (slice encoded 16 8) < 256 ^ 8 := read_slice_lt h
  simpa [frameFields] using hlt

theorem length_payload_frameFields :
    (frameFields encoded).payload.length = encoded.length - headerSize := by
  simp [frameFields]

theorem FrameLanguage.lengthField (h : FrameLanguage encoded) :
    (UInt32.ofNat (frameFields encoded).payload.length).toNat =
      read (slice encoded 12 4) := by
  have hlt : (frameFields encoded).payload.length < 2 ^ 32 := by
    rw [length_payload_frameFields]
    exact Nat.lt_of_le_of_lt h.bound (maxPayloadForKind_lt _)
  rw [h.length, ← length_payload_frameFields]
  simpa using hlt

/-- A frame is what its fields pack to. -/
theorem FrameLanguage.frameBytes_frameFields (h : FrameLanguage encoded) :
    frameBytes (frameFields encoded) = encoded := by
  have hheader : 24 ≤ encoded.length := h.header
  have hversion : UInt8.ofNat protocolVersion = byteAt encoded 4 := h.version.symm
  have hkind : (frameFields encoded).kind = byteAt encoded 5 := rfl
  have hflags : pack 2 0 = slice encoded 6 2 := by rw [h.flags]; rfl
  have hpayload : (frameFields encoded).payload = encoded.drop (16 + 8) := rfl
  rw [frameBytes, streamID_frameFields h.header, sequence_frameFields h.header, h.lengthField,
    pack_read_slice (by omega), pack_read_slice (by omega), pack_read_slice (by omega), hflags,
    hpayload, slice_append_drop, slice_append_drop 12 4, slice_append_drop 8 4,
    slice_append_drop 6 2, hkind, byteAt_cons_drop (by omega), hversion,
    byteAt_cons_drop (by omega), ← h.magic, slice_append_drop 0 4, List.drop_zero]

/-- What `validateFrameFields` checks again after decoding. -/
theorem FrameLanguage.validated (h : FrameLanguage encoded) :
    validateFrameFields (frameFields encoded) = none := by
  have hheader : 24 ≤ encoded.length := h.header
  rw [validateFrameFields_eq_none]
  refine ⟨h.kind, ?_, ?_, ?_⟩
  · intro hzero
    have hread := sequence_frameFields h.header
    rw [hzero] at hread
    exact (read_slice_ne_zero hheader).mpr h.sequence hread.symm
  · rw [length_payload_frameFields]
    exact h.bound
  · intro hdata hzero
    have hread := streamID_frameFields h.header
    rw [hzero] at hread
    exact (read_slice_ne_zero (by omega)).mpr (h.streamID hdata) hread.symm

/-- After the header the fields are checked once more. -/
theorem HeaderLanguage.decodeFrame (h : HeaderLanguage encoded) :
    decodeFrame encoded =
      match validateFrameFields (frameFields encoded) with
      | some err => .error err
      | none => .ok (frameFields encoded) := by
  have hflags : read (slice encoded 6 2) = 0 := by rw [h.flags]; rfl
  have hkind : ¬ (byteAt encoded 5 ≠ kindControl ∧ byteAt encoded 5 ≠ kindData) := by
    have hkind := h.kind
    tauto
  have hbound : ¬ maxPayloadForKind (byteAt encoded 5) < encoded.length - headerSize :=
    Nat.not_lt.mpr h.bound
  have hversion : (byteAt encoded 4).toNat = protocolVersion := by rw [h.version]; rfl
  simp only [Contract.decodeFrame, Nat.not_lt.mpr h.header, h.magic, hversion, hkind, hflags,
    h.length, hbound, ne_eq, not_true_eq_false, if_false]

/-- Each check of the header fails with a framing error. -/
theorem decodeFrame_framing (h : ¬ HeaderLanguage encoded) :
    ∃ err, decodeFrame encoded = .error err ∧ err.framing = true := by
  unfold Contract.decodeFrame
  split
  · exact ⟨_, rfl, rfl⟩
  next hheader =>
  split
  · exact ⟨_, rfl, rfl⟩
  next hmagic =>
  simp only
  split
  · exact ⟨_, rfl, rfl⟩
  next hversion =>
  split
  · exact ⟨_, rfl, rfl⟩
  next hkind =>
  split
  · exact ⟨_, rfl, rfl⟩
  next hflags =>
  split
  · exact ⟨_, rfl, rfl⟩
  next hlength =>
  split
  · exact ⟨_, rfl, rfl⟩
  next hbound =>
  have hsize : 24 ≤ encoded.length := Nat.not_lt.mp hheader
  have hzero := read_eq_zero_iff.mp (not_not.mp hflags)
  rw [length_slice (by omega)] at hzero
  rw [not_not.mp hlength] at hbound
  exact absurd ⟨hsize, not_not.mp hmagic, UInt8.toNat.inj (not_not.mp hversion), by tauto, hzero,
    not_not.mp hlength, Nat.not_lt.mp hbound⟩ h

theorem FrameLanguage.decodeFrame (h : FrameLanguage encoded) :
    decodeFrame encoded = .ok (frameFields encoded) := by
  have hheader : HeaderLanguage encoded :=
    ⟨h.header, h.magic, h.version, h.kind, h.flags, h.length, h.bound⟩
  rw [hheader.decodeFrame, h.validated]

/-- What `DecodeFrame` accepts is in the frame language. -/
theorem frameLanguage_of_decodeFrame {frame : WireFrame}
    (h : decodeFrame encoded = .ok frame) : FrameLanguage encoded ∧ frame = frameFields encoded := by
  have hheader : HeaderLanguage encoded := by
    by_contra hnot
    obtain ⟨err, herr, -⟩ := decodeFrame_framing hnot
    cases h.symm.trans herr
  rw [hheader.decodeFrame] at h
  split at h
  · cases h
  next hvalid =>
  cases h
  have hsize : 24 ≤ encoded.length := hheader.header
  obtain ⟨-, hsequence, -, hstream⟩ := validateFrameFields_eq_none.mp hvalid
  refine ⟨{ hheader with sequence := ?_, streamID := ?_ }, rfl⟩
  · rw [← read_slice_ne_zero hsize, ← sequence_frameFields hsize]
    exact fun hzero => hsequence (UInt64.toNat.inj hzero)
  · intro hdata
    rw [← read_slice_ne_zero (by omega), ← streamID_frameFields hsize]
    exact fun hzero => hstream hdata (UInt32.toNat.inj hzero)

/-- `EncodeFrame` and `DecodeFrame` are inverse to each other, and `DecodeFrame` accepts the frame
    language and nothing else. -/
theorem frameCodec_bijective :
    (∀ frame encoded, encodeFrame frame = .ok encoded → decodeFrame encoded = .ok frame) ∧
    (∀ encoded frame, decodeFrame encoded = .ok frame → encodeFrame frame = .ok encoded) ∧
    ∀ encoded, (∃ frame, decodeFrame encoded = .ok frame) ↔ FrameLanguage encoded := by
  refine ⟨?_, ?_, ?_⟩
  · intro frame encoded h
    unfold encodeFrame at h
    split at h <;> cases h
    next hvalid => rw [(frameLanguage_frameBytes hvalid).decodeFrame, frameFields_frameBytes]
  · intro encoded frame h
    obtain ⟨hlanguage, rfl⟩ := frameLanguage_of_decodeFrame h
    rw [encodeFrame, hlanguage.validated, hlanguage.frameBytes_frameFields]
  · intro encoded
    constructor
    · rintro ⟨frame, h⟩
      exact (frameLanguage_of_decodeFrame h).1
    · intro h
      exact ⟨_, h.decodeFrame⟩

end Decode

end Hooshix.Contract

-- SUMMARY: The limits block of the Agent's settings file and the range of the limits it admits.
import Hooshix.Agent.Limits
import Hooshix.Errors

/-! # Limits from the settings file

`Config.ApplyLimits`: the fields that the block sets override the base, one after the other, and the
result is validated. What Go's `strings`, `strconv` and `time` make of a text is a parameter.
-/

namespace Hooshix.Agent

/-- The library functions that read the texts of the block. -/
structure TextLibrary where
  /-- `strings.TrimSpace` -/
  trimSpace : String → String
  /-- `strings.ToUpper` -/
  toUpper : String → String
  /-- `strconv.ParseInt(value, 10, 64)` -/
  parseInt : String → Except GoError Int
  /-- `time.ParseDuration`, in nanoseconds -/
  parseDuration : String → Except GoError Int
  /-- the verb `%q` -/
  quote : String → String

/-- `LimitsConfig`, without the supervisor's retry delay. A zero or blank field is absent. -/
structure LimitsConfig where
  maxStreams : Int
  maxQueueFrames : Int
  maxTunnels : Int
  streamQueueBytes : String
  sessionQueueBytes : String
  dialTimeout : String
  handshakeTimeout : String
  writeTimeout : String
  idleTimeout : String
  reconnectMin : String
  reconnectMax : String
  deriving DecidableEq, Repr

def maxConfigStreams : Int := 256
def maxConfigQueueFrames : Int := 256
def maxConfigTunnels : Int := 8
def maxConfigQueueBytes : Int := 256 * 2 ^ 20
def minConfigTimeout : Int := second
def maxConfigTimeout : Int := 15 * 60 * second
def maxConfigReconnectSpan : Int := 60 * 60 * second

/-! ## Texts -/

def hasSuffix (value suffix : String) : Bool := suffix.toList.isSuffixOf value.toList

def trimSuffix (value suffix : String) : String :=
  if hasSuffix value suffix then
    String.ofList (value.toList.take (value.toList.length - suffix.toList.length))
  else value

def byteSuffixes : List (String × Int) :=
  [("GIB", 2 ^ 30), ("MIB", 2 ^ 20), ("KIB", 2 ^ 10)]

/-- `math.MaxInt64` -/
def maxInt64 : Int := 2 ^ 63 - 1

/-- The text of a duration that is a ceiling or the floor. -/
def durationText (duration : Int) : String :=
  if duration = minConfigTimeout then "1s"
  else if duration = maxConfigTimeout then "15m0s"
  else "1h0m0s"

def formatByteSize (size : Int) : String :=
  if size ≥ 2 ^ 30 ∧ size % 2 ^ 30 = 0 then s!"{size / 2 ^ 30}GiB"
  else if size ≥ 2 ^ 20 ∧ size % 2 ^ 20 = 0 then s!"{size / 2 ^ 20}MiB"
  else if size ≥ 2 ^ 10 ∧ size % 2 ^ 10 = 0 then s!"{size / 2 ^ 10}KiB"
  else s!"{size} bytes"

section Library

variable (text : TextLibrary)

def parseByteSize (raw : String) : Except GoError Int :=
  let value := text.toUpper (text.trimSpace raw)
  let (value, multiplier) :=
    match byteSuffixes.find? fun suffix => hasSuffix value suffix.1 with
    | some (name, multiplier) => (text.trimSpace (trimSuffix value name), multiplier)
    | none => (value, 1)
  if value = "" then .error (errorsNew s!"empty byte size {text.quote raw}")
  else match text.parseInt value with
  | .error _ =>
    .error (errorsNew
      s!"byte size {text.quote raw} must be a number of bytes or carry a KiB/MiB/GiB suffix")
  | .ok size =>
    if size < 1 then .error (errorsNew s!"byte size {text.quote raw} must be at least 1")
    else if multiplier > 1 ∧ size > maxInt64 / multiplier then
      .error (errorsNew s!"byte size {text.quote raw} overflows")
    else .ok (size * multiplier)

def parseConfigDuration (name raw : String) (ceiling : Int) : Except GoError Int :=
  match text.parseDuration (text.trimSpace raw) with
  | .error err => .error (.wrap s!"limits.{name}: %w" err)
  | .ok duration =>
    if duration < minConfigTimeout ∨ duration > ceiling then
      .error (errorsNew
        s!"limits.{name} must be between {durationText minConfigTimeout} and {durationText ceiling}")
    else .ok duration

/-! ## Overrides -/

/-- One row of a table of overrides. -/
structure LimitEntry (α : Type) where
  name : String
  value : α
  ceiling : Int
  override : Limits → Int → Limits

def counters (config : LimitsConfig) : List (LimitEntry Int) :=
  [⟨"max_streams", config.maxStreams, maxConfigStreams, fun l n => { l with maxStreams := n }⟩,
    ⟨"max_queue_frames", config.maxQueueFrames, maxConfigQueueFrames,
      fun l n => { l with maxQueueFrames := n }⟩,
    ⟨"max_tunnels", config.maxTunnels, maxConfigTunnels, fun l n => { l with maxTunnels := n }⟩]

def sizes (config : LimitsConfig) : List (LimitEntry String) :=
  [⟨"stream_queue_bytes", config.streamQueueBytes, maxConfigQueueBytes,
      fun l n => { l with maxStreamQueueBytes := n }⟩,
    ⟨"session_queue_bytes", config.sessionQueueBytes, maxConfigQueueBytes,
      fun l n => { l with maxSessionQueueBytes := n }⟩]

def durations (config : LimitsConfig) : List (LimitEntry String) :=
  [⟨"dial_timeout", config.dialTimeout, maxConfigTimeout, fun l n => { l with dialTimeout := n }⟩,
    ⟨"handshake_timeout", config.handshakeTimeout, maxConfigTimeout,
      fun l n => { l with handshakeTimeout := n }⟩,
    ⟨"write_timeout", config.writeTimeout, maxConfigTimeout, fun l n => { l with writeTimeout := n }⟩,
    ⟨"idle_timeout", config.idleTimeout, maxConfigTimeout, fun l n => { l with idleTimeout := n }⟩,
    ⟨"reconnect_min", config.reconnectMin, maxConfigReconnectSpan,
      fun l n => { l with reconnectMin := n }⟩,
    ⟨"reconnect_max", config.reconnectMax, maxConfigReconnectSpan,
      fun l n => { l with reconnectMax := n }⟩]

def overrideCounter (limits : Limits) (counter : LimitEntry Int) : Except GoError Limits :=
  if counter.value = 0 then .ok limits
  else if counter.value < 1 ∨ counter.value > counter.ceiling then
    .error (errorsNew s!"limits.{counter.name} must be between 1 and {counter.ceiling}")
  else .ok (counter.override limits counter.value)

def overrideSize (limits : Limits) (size : LimitEntry String) : Except GoError Limits :=
  if text.trimSpace size.value = "" then .ok limits
  else match parseByteSize text size.value with
  | .error err => .error (.wrap s!"limits.{size.name}: %w" err)
  | .ok bytes =>
    if bytes > size.ceiling then
      .error (errorsNew s!"limits.{size.name} must not exceed {formatByteSize size.ceiling}")
    else .ok (size.override limits bytes)

def overrideDuration (limits : Limits) (entry : LimitEntry String) : Except GoError Limits :=
  if text.trimSpace entry.value = "" then .ok limits
  else match parseConfigDuration text entry.name entry.value entry.ceiling with
  | .error err => .error err
  | .ok duration => .ok (entry.override limits duration)

def describeLimitsProblem (limits : Limits) : String :=
  if limits.maxStreams < 1 ∨ limits.maxQueueFrames < 1 ∨ limits.maxTunnels < 1 then
    "stream, frame and tunnel counts must all be at least 1"
  else if limits.maxSessionQueueBytes < limits.maxStreamQueueBytes then
    "session_queue_bytes must be at least stream_queue_bytes"
  else if limits.dialTimeout < minConfigTimeout ∨ limits.handshakeTimeout < minConfigTimeout ∨
      limits.writeTimeout < minConfigTimeout ∨ limits.idleTimeout < minConfigTimeout then
    "every timeout must be at least " ++ durationText minConfigTimeout
  else if limits.reconnectMax < limits.reconnectMin then
    "reconnect_max must be at least reconnect_min"
  else "the result must satisfy every Agent limit invariant"

/-- `Config.ApplyLimits`; without a block the base is kept. -/
def applyLimits (config : Option LimitsConfig) (base : Limits) : Except GoError Limits :=
  match config with
  | none => .ok base
  | some config => do
    let limits ← (counters config).foldlM overrideCounter base
    let limits ← (sizes config).foldlM (overrideSize text) limits
    let limits ← (durations config).foldlM (overrideDuration text) limits
    if limits.valid then .ok limits
    else .error (errorsNew
      s!"limits in the settings file are internally inconsistent: {describeLimitsProblem limits}")

end Library

/-! ## Admitted limits -/

/-- The range of limits that a settings file can reach from the defaults. -/
structure Limits.Admitted (l : Limits) : Prop where
  maxStreams : 0 < l.maxStreams ∧ l.maxStreams ≤ maxConfigStreams
  maxQueueFrames : 0 < l.maxQueueFrames ∧ l.maxQueueFrames ≤ maxConfigQueueFrames
  maxTunnels : 0 < l.maxTunnels ∧ l.maxTunnels ≤ maxConfigTunnels
  maxStreamQueueBytes : 0 < l.maxStreamQueueBytes ∧ l.maxStreamQueueBytes ≤ maxConfigQueueBytes
  maxSessionQueueBytes : 0 < l.maxSessionQueueBytes ∧ l.maxSessionQueueBytes ≤ maxConfigQueueBytes
  idleTimeout : minConfigTimeout ≤ l.idleTimeout ∧ l.idleTimeout ≤ maxConfigTimeout

theorem admitted_defaultLimits : defaultLimits.Admitted := by
  constructor <;> decide

section Admitted

variable {text : TextLibrary} {α : Type} {P : Limits → Prop} {limits limits' : Limits}
  {config : LimitsConfig} {entry : LimitEntry String}

/-- What each override keeps, a table of overrides keeps. -/
theorem foldlM_keeps {override : Limits → α → Except GoError Limits} {entries : List α}
    (hkeep : ∀ entry ∈ entries, ∀ {l l'}, P l → override l entry = .ok l' → P l')
    (hP : P limits) (h : entries.foldlM override limits = .ok limits') : P limits' := by
  induction entries generalizing limits with
  | nil =>
    cases h
    exact hP
  | cons entry entries ih =>
    rw [List.foldlM_cons] at h
    cases hentry : override limits entry with
    | error err =>
      rw [hentry] at h
      cases h
    | ok next =>
      rw [hentry] at h
      exact ih (fun e he => hkeep e (List.mem_cons_of_mem _ he))
        (hkeep entry List.mem_cons_self hP hentry) h

theorem overrideCounter_ok {counter : LimitEntry Int} (h : overrideCounter limits counter = .ok limits') :
    limits' = limits ∨
      0 < counter.value ∧ counter.value ≤ counter.ceiling ∧
        limits' = counter.override limits counter.value := by
  simp only [overrideCounter] at h
  split at h
  · exact .inl (Except.ok.inj h).symm
  split at h
  · cases h
  next hrange =>
    refine .inr ⟨?_, ?_, (Except.ok.inj h).symm⟩ <;> omega

theorem parseByteSize_pos {raw : String} {size : Int} (h : parseByteSize text raw = .ok size) :
    0 < size := by
  have hpos : ∀ suffix ∈ byteSuffixes, 0 < suffix.2 := by decide
  simp only [parseByteSize] at h
  repeat' split at h
  all_goals cases h
  next hfind _ _ _ _ _ _ =>
    have hmultiplier := hpos _ (List.mem_of_find?_eq_some hfind)
    exact Int.mul_pos (by omega) hmultiplier
  next => omega

theorem overrideSize_ok {size : LimitEntry String} (h : overrideSize text limits size = .ok limits') :
    limits' = limits ∨ ∃ n, 0 < n ∧ n ≤ size.ceiling ∧ limits' = size.override limits n := by
  simp only [overrideSize] at h
  repeat' split at h
  all_goals cases h
  · exact .inl rfl
  next n hparse _ => exact .inr ⟨n, parseByteSize_pos hparse, by omega, rfl⟩

theorem overrideDuration_ok (h : overrideDuration text limits entry = .ok limits') :
    limits' = limits ∨
      ∃ d, minConfigTimeout ≤ d ∧ d ≤ entry.ceiling ∧ limits' = entry.override limits d := by
  simp only [overrideDuration, parseConfigDuration] at h
  split at h
  · exact .inl (Except.ok.inj h).symm
  split at h
  · cases h
  next d hparse =>
    repeat' split at hparse
    all_goals cases hparse
    exact .inr ⟨d, by omega, by omega, (Except.ok.inj h).symm⟩

theorem Limits.Admitted.counter (hP : limits.Admitted) {counter : LimitEntry Int}
    (hcounter : counter ∈ counters config) (h : overrideCounter limits counter = .ok limits') :
    limits'.Admitted := by
  rcases overrideCounter_ok h with rfl | ⟨hpos, hle, rfl⟩
  · exact hP
  simp only [counters, List.mem_cons, List.not_mem_nil, or_false] at hcounter
  rcases hcounter with rfl | rfl | rfl
  · exact { hP with maxStreams := ⟨hpos, hle⟩ }
  · exact { hP with maxQueueFrames := ⟨hpos, hle⟩ }
  · exact { hP with maxTunnels := ⟨hpos, hle⟩ }

theorem Limits.Admitted.size (hP : limits.Admitted) {size : LimitEntry String}
    (hsize : size ∈ sizes config) (h : overrideSize text limits size = .ok limits') :
    limits'.Admitted := by
  rcases overrideSize_ok h with rfl | ⟨n, hpos, hle, rfl⟩
  · exact hP
  simp only [sizes, List.mem_cons, List.not_mem_nil, or_false] at hsize
  rcases hsize with rfl | rfl
  · exact { hP with maxStreamQueueBytes := ⟨hpos, hle⟩ }
  · exact { hP with maxSessionQueueBytes := ⟨hpos, hle⟩ }

theorem Limits.Admitted.duration (hP : limits.Admitted)
    (hentry : entry ∈ durations config) (h : overrideDuration text limits entry = .ok limits') :
    limits'.Admitted := by
  rcases overrideDuration_ok h with rfl | ⟨d, hmin, hle, rfl⟩
  · exact hP
  simp only [durations, List.mem_cons, List.not_mem_nil, or_false] at hentry
  rcases hentry with rfl | rfl | rfl | rfl | rfl | rfl
  · exact { hP with }
  · exact { hP with }
  · exact { hP with }
  · exact { hP with idleTimeout := ⟨hmin, hle⟩ }
  · exact { hP with }
  · exact { hP with }

/-- Every settings file that is accepted over the defaults stays in the admitted range. -/
theorem admitted_of_applyLimits {config : Option LimitsConfig}
    (h : applyLimits text config defaultLimits = .ok limits) : limits.Admitted := by
  cases config with
  | none =>
    cases h
    exact admitted_defaultLimits
  | some config =>
    simp only [applyLimits, bind, Except.bind] at h
    repeat' split at h
    all_goals cases h
    next first hfirst _ second hsecond _ hthird _ =>
      have hcounters : first.Admitted := foldlM_keeps (fun _ he _ _ hl hle => hl.counter he hle)
        admitted_defaultLimits hfirst
      have hsizes : second.Admitted := foldlM_keeps (fun _ he _ _ hl hle => hl.size he hle)
        hcounters hsecond
      exact foldlM_keeps (fun _ he _ _ hl hle => hl.duration he hle) hsizes hthird

end Admitted

end Hooshix.Agent

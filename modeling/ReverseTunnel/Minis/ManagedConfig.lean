import ReverseTunnel.Arduino.Number

/-!
# The managed configuration

`refreshConfig` fetches `cfg.txt` and queues the settings in it. The text is parsed where it lies: lines
and values are ended by writing zeros into the buffer, and what is kept of a text value is a **pointer**
into that buffer until the values are copied to the queue.

A buffer is a list of bytes and a pointer is a position in it.
-/

namespace ReverseTunnel

namespace Minis

/-- `CONFIG_BUFFER_SIZE` -/
def configBufferSize : ℕ := 768

/-- `MAX_CONFIG_HOST_LENGTH` -/
def maxConfigHostLength : ℕ := 253

/-- `MAX_MAC_VENDOR_LENGTH` -/
def maxMacVendorLength : ℕ := 16

/-- `MIN_HEARTBEAT_INTERVAL_MIN` -/
def minHeartbeatIntervalMin : UInt32 := 2

/-- `MAX_HEARTBEAT_INTERVAL_MIN` -/
def maxHeartbeatIntervalMin : UInt32 := 1440

/-- A blank or a tab. -/
def isBlank (c : UInt8) : Bool := c == chr ' ' || c == chr '\t'

/-- A blank, a tab or a carriage return. -/
def isGap (c : UInt8) : Bool := isBlank c || c == chr '\r'

/-! ### Values -/

/-- The end of `parseUnsigned`, behind the digits. -/
def numberEnds (text : Text) : Bool :=
  match text.dropWhile isGap with
  | [] => true
  | c :: _ => c == chr '\n' || c == chr '#'

/-- The loop of `parseUnsigned`. -/
def parseDigits (parsed : UInt32) : Text → Option UInt32
  | [] => some parsed
  | c :: rest =>
    if isDigit c then
      let digit := (c - chr '0').toUInt32
      -- the next step would not fit into 32 bits
      if parsed > (4294967295 - digit) / 10 then none
      else parseDigits (parsed * 10 + digit) rest
    else if numberEnds (c :: rest) then some parsed
    else none

/-- `parseUnsigned` of a C string -/
def parseUnsigned (text : Text) : Option UInt32 :=
  match text with
  | [] => none
  | c :: _ => if isDigit c then parseDigits 0 text else none

/-- `equalsIgnoreCase` -/
def equalsIgnoreCase (left right : Text) : Bool := left.toLowerCase == right.toLowerCase

/-- `parseBoolean` -/
def parseBoolean (value : Text) : Option Bool :=
  if value == ascii "1" || equalsIgnoreCase value (ascii "yes") ||
    equalsIgnoreCase value (ascii "true") || equalsIgnoreCase value (ascii "on") then some true
  else if value == ascii "0" || equalsIgnoreCase value (ascii "no") ||
    equalsIgnoreCase value (ascii "false") || equalsIgnoreCase value (ascii "off") then some false
  else none

/-- The characters of a host. -/
def isHostByte (value : UInt8) : Bool :=
  (chr 'a' ≤ value && value ≤ chr 'z') || (chr 'A' ≤ value && value ≤ chr 'Z') ||
    (chr '0' ≤ value && value ≤ chr '9') || value == chr '.' || value == chr '-' ||
    value == chr ':' || value == chr '[' || value == chr ']'

/-- `isValidConfigHost` -/
def isValidConfigHost (host : Text) : Bool :=
  host.length ≠ 0 && host.length ≤ maxConfigHostLength && host.all isHostByte

/-- `isValidMacVendor` -/
def isValidMacVendor (vendor : Text) : Bool :=
  equalsIgnoreCase vendor (ascii "ORIGINAL") || equalsIgnoreCase vendor (ascii "ESP32") ||
    equalsIgnoreCase vendor (ascii "CISCO") || equalsIgnoreCase vendor (ascii "HP")

/-! ### Settings -/

/-- The C string at a position. -/
def cAt (buf : Text) (p : ℕ) : Text := Text.cString (buf.drop p)

/-- What follows the `=` of a setting with this key, and blanks: the common part of `parseSetting` and
`parseTextSetting`. -/
def settingValue (key line : Text) : Option Text :=
  if key.isPrefixOf line then
    match (line.drop key.length).dropWhile isBlank with
    | [] => none
    | c :: rest => if c = chr '=' then some (rest.dropWhile isBlank) else none
  else none

/-- `parseSetting`: `none` is `NotFound`, and `some none` is `Invalid`. -/
def parseSetting (line key : Text) : Option (Option UInt32) :=
  (settingValue key line).map parseUnsigned

/-- A value without the blanks, tabs and carriage returns behind it. -/
def trimEnd (value : Text) : Text := value.rdropWhile isGap

/-- `parseTextSetting`: `none` is `NotFound`, `some none` is `Invalid`, and a valid value is given by its
position. The value is ended in the buffer. -/
def parseTextSetting (buf : Text) (line : ℕ) (key : Text) : Text × Option (Option ℕ) :=
  match settingValue key (cAt buf line) with
  | none => (buf, none)
  | some value =>
    -- The value is the rest of the line.
    let start := line + ((cAt buf line).length - value.length)
    let buf := buf.set (start + (trimEnd value).length) 0
    if cAt buf start = [] then (buf, some none) else (buf, some (some start))

/-! ### Parsing -/

/-- Three variables of `ParsedConfig` for one setting: whether it is present, whether it is valid, and its
value. -/
structure Field (α : Type) where
  /-- `...Present` -/
  present : Bool := false
  /-- `...Valid` -/
  valid : Bool := false
  /-- The value. -/
  value : α
  deriving DecidableEq

/-- A line has this setting, with a value or with an invalid one, or does not have it. The result is
`false` if the setting was already present. -/
def Field.note {α : Type} (f : Field α) : Option (Option α) → Field α × Bool
  | none => (f, true)
  | some none => ({ f with present := true, valid := false }, !f.present)
  | some (some v) => ({ present := true, valid := true, value := v }, !f.present)

/-- `ParsedConfig`, with what stands for a text value as a parameter -/
structure ParsedConfig (P : Type) where
  /-- `heartbeatInterval...` -/
  heartbeatInterval : Field UInt16 := { value := 0 }
  /-- `tunnelEnabled...` -/
  tunnelEnabled : Field Bool := { value := false }
  /-- `sshHost...` -/
  sshHost : Field (Option P) := { value := none }
  /-- `sshPort...` -/
  sshPort : Field UInt16 := { value := 0 }
  /-- `remoteBindHost...` -/
  remoteBindHost : Field (Option P) := { value := none }
  /-- `remoteBindPort...` -/
  remoteBindPort : Field UInt16 := { value := 0 }
  /-- `localHost...` -/
  localHost : Field (Option P) := { value := none }
  /-- `localPort...` -/
  localPort : Field UInt16 := { value := 0 }
  /-- `macVendor...` -/
  macVendor : Field (Option P) := { value := none }

/-- What a line has of a numeric setting. -/
def numberSetting (line key : Text) (least greatest : UInt32) : Option (Option UInt16) :=
  (parseSetting line key).map fun value ↦
    (value.filter fun v ↦ v ≥ least && v ≤ greatest).map UInt32.toUInt16

/-- What a line has of a text setting; `check` says which texts are valid. -/
def textSetting (buf : Text) (line : ℕ) (key : Text) (check : Text → Bool) :
    Text × Option (Option (Option ℕ)) :=
  let (buf, result) := parseTextSetting buf line key
  (buf, result.map fun value ↦ (value.filter fun p ↦ check (cAt buf p)).map some)

/-- What a line has of `TUNNEL_ENABLED`. -/
def booleanSetting (buf : Text) (line : ℕ) (key : Text) : Text × Option (Option Bool) :=
  let (buf, result) := parseTextSetting buf line key
  (buf, result.map fun value ↦ value.bind fun p ↦ parseBoolean (cAt buf p))

/-- The part of `parseConfig` for a line that is neither empty nor a comment. -/
def parseLine (buf : Text) (line : ℕ) (parsed : ParsedConfig ℕ) : Text × ParsedConfig ℕ × Bool :=
  let (heartbeatInterval, ok₁) := parsed.heartbeatInterval.note
    (numberSetting (cAt buf line) (ascii "HB_INTERVAL_MIN") minHeartbeatIntervalMin
      maxHeartbeatIntervalMin)
  let (buf, enabled) := booleanSetting buf line (ascii "TUNNEL_ENABLED")
  let (tunnelEnabled, ok₂) := parsed.tunnelEnabled.note enabled
  let (buf, host) := textSetting buf line (ascii "SSH_HOST") isValidConfigHost
  let (sshHost, ok₃) := parsed.sshHost.note host
  let (sshPort, ok₄) := parsed.sshPort.note
    (numberSetting (cAt buf line) (ascii "SSH_PORT") 1 65535)
  let (buf, host) := textSetting buf line (ascii "REMOTE_BIND_HOST") isValidConfigHost
  let (remoteBindHost, ok₅) := parsed.remoteBindHost.note host
  let (remoteBindPort, ok₆) := parsed.remoteBindPort.note
    (numberSetting (cAt buf line) (ascii "REMOTE_BIND_PORT") 1 65535)
  let (buf, host) := textSetting buf line (ascii "LOCAL_HOST") isValidConfigHost
  let (localHost, ok₇) := parsed.localHost.note host
  let (localPort, ok₈) := parsed.localPort.note
    (numberSetting (cAt buf line) (ascii "LOCAL_PORT") 1 65535)
  let (buf, vendor) := textSetting buf line (ascii "MAC_VENDOR") isValidMacVendor
  let (macVendor, ok₉) := parsed.macVendor.note vendor
  (buf,
    { heartbeatInterval := heartbeatInterval, tunnelEnabled := tunnelEnabled, sshHost := sshHost,
      sshPort := sshPort, remoteBindHost := remoteBindHost, remoteBindPort := remoteBindPort,
      localHost := localHost, localPort := localPort, macVendor := macVendor },
    ok₁ && ok₂ && ok₃ && ok₄ && ok₅ && ok₆ && ok₇ && ok₈ && ok₉)

/-- The loop of `parseConfig`, in at most so many rounds. -/
def parseLines : ℕ → Text → ℕ → ParsedConfig ℕ → Bool → Text × ParsedConfig ℕ × Bool
  | 0, buf, _, parsed, structurallyValid => (buf, parsed, structurallyValid)
  | rounds + 1, buf, line, parsed, structurallyValid =>
    if cAt buf line = [] then (buf, parsed, structurallyValid)
    else
      let nextLine := line + ((cAt buf line).takeWhile (· ≠ chr '\n')).length
      let last := decide (chr '\n' ∉ cAt buf line)
      let buf := if last then buf else buf.set nextLine 0
      let start := line + ((cAt buf line).takeWhile isGap).length
      let (buf, parsed, ok) :=
        if (cAt buf start).head? = none ∨ (cAt buf start).head? = some (chr '#') then
          (buf, parsed, true)
        else parseLine buf start parsed
      if last then (buf, parsed, structurallyValid && ok)
      else parseLines rounds buf (nextLine + 1) parsed (structurallyValid && ok)

/-- `parseConfig`. A round moves on by a byte at least. -/
def parseConfig (config : Text) : Text × ParsedConfig ℕ × Bool :=
  parseLines (config.length + 1) config 0 {} true

/-- `hasCompleteTunnelConfig` -/
def hasCompleteTunnelConfig {P : Type} (parsed : ParsedConfig P) : Bool :=
  parsed.tunnelEnabled.present && parsed.sshHost.present && parsed.sshPort.present &&
    parsed.remoteBindHost.present && parsed.remoteBindPort.present && parsed.localHost.present &&
    parsed.localPort.present && parsed.tunnelEnabled.valid && parsed.sshHost.valid &&
    parsed.sshPort.valid && parsed.remoteBindHost.valid && parsed.remoteBindPort.valid &&
    parsed.localHost.valid && parsed.localPort.valid &&
    (!parsed.macVendor.present || parsed.macVendor.valid)

/-! ### The queue -/

/-- `QueuedManagedConfig`, with the character arrays as the C strings in them -/
structure QueuedManagedConfig where
  /-- `enabled` -/
  enabled : Bool
  /-- `sshPort` -/
  sshPort : UInt16
  /-- `remoteBindPort` -/
  remoteBindPort : UInt16
  /-- `localPort` -/
  localPort : UInt16
  /-- `macVendorPresent` -/
  macVendorPresent : Bool
  /-- `sshHost` -/
  sshHost : Text
  /-- `remoteBindHost` -/
  remoteBindHost : Text
  /-- `localHost` -/
  localHost : Text
  /-- `macVendor` -/
  macVendor : Text := []
  deriving DecidableEq

/-- `strlcpy(array, text, size)` into a zeroed array -/
def strlcpy (text : Text) (size : ℕ) : Text := text.take (size - 1)

/-- The text that a pointer stands for. A null pointer is not read. -/
def pointee (buf : Text) (p : Option ℕ) : Text := (p.map (cAt buf)).getD []

/-- `queueManagedConfig`: what is written to the queue -/
def queuedConfig (buf : Text) (parsed : ParsedConfig ℕ) : QueuedManagedConfig where
  enabled := parsed.tunnelEnabled.value
  sshPort := parsed.sshPort.value
  remoteBindPort := parsed.remoteBindPort.value
  localPort := parsed.localPort.value
  macVendorPresent := parsed.macVendor.present
  sshHost := strlcpy (pointee buf parsed.sshHost.value) (maxConfigHostLength + 1)
  remoteBindHost := strlcpy (pointee buf parsed.remoteBindHost.value) (maxConfigHostLength + 1)
  localHost := strlcpy (pointee buf parsed.localHost.value) (maxConfigHostLength + 1)
  macVendor :=
    if parsed.macVendor.present then
      strlcpy (pointee buf parsed.macVendor.value) (maxMacVendorLength + 1)
    else []

/-- What `refreshConfig` works with. -/
structure MinisState where
  /-- `heartbeatIntervalMin` -/
  heartbeatIntervalMin : UInt16
  /-- `managedConfigQueue`: `none` when it does not exist, otherwise what is in it -/
  managedConfigQueue : Option (Option QueuedManagedConfig)
  deriving DecidableEq

/-- `refreshConfig`, when `performGet` gave this status, this buffer and this length -/
def refreshConfig (s : MinisState) (connected : Bool) (status : Int) (config : Text)
    (configLength : ℕ) : Bool × MinisState :=
  if !connected then (false, s)
  else if status ≠ 200 then (false, s)
  else
    let (buf, parsed, structurallyValid) := parseConfig config
    if configLength = 0 || !structurallyValid then (false, s)
    else if !parsed.heartbeatInterval.present || !parsed.heartbeatInterval.valid ||
      !hasCompleteTunnelConfig parsed then (false, s)
    else
      let s := { s with heartbeatIntervalMin := parsed.heartbeatInterval.value }
      match s.managedConfigQueue with
      | none => (false, s)
      | some _ => (true, { s with managedConfigQueue := some (some (queuedConfig buf parsed)) })

end Minis

end ReverseTunnel

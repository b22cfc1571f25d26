import ReverseTunnel.Provisioning.DeviceConfig
import ReverseTunnel.Provisioning.Flash

/-!
# The configuration file

`writeConfig` prints the configuration to a temporary file, moves the old file out of the way and the new
one in its place. `loadConfig` first makes up for a replacement that was cut short, then reads the file
line by line: `name=value`, with the value percent-encoded.

What a setting means is decided after all lines were read. A file without the tunnel settings, or with
some that are not valid, is loaded as far as the WiFi goes.
-/

namespace ReverseTunnel

open Traced

namespace Provisioning

/-! ### Writing -/

/-- `file.println(data)` -/
def println (path : Path) (data : Text) : FlashM Unit := do
  let _ ← print path data
  let _ ← print path (ascii "\r\n")
  pure ()

/-- `writeValue` -/
def writeValue (name : String) (value : Text) : FlashM Unit := do
  let _ ← print .configTemp (ascii name)
  let _ ← print .configTemp (ascii "=")
  println .configTemp (encode value)

/-- `value ? "1" : "0"` -/
def flag (value : Bool) : Text := if value then ascii "1" else ascii "0"

/-- The name of an authentication method in the file. -/
def authName : SSHAuthMethod → Text
  | .privateKey => ascii "key"
  | .password => ascii "password"

/-- The part of `writeConfig` that prints the tunnel settings. -/
def writeTunnelSettings (c : DeviceRuntimeConfig) : FlashM Unit := do
  writeValue "ssh_host" c.sshHost
  writeValue "ssh_port" (Text.decimal c.sshPort)
  writeValue "ssh_user" c.sshUsername
  writeValue "ssh_auth" (authName c.sshAuthMethod)
  writeValue "ssh_password" c.sshPassword
  writeValue "ssh_key_passphrase" c.sshKeyPassphrase
  writeValue "tunnel_enabled" (flag c.tunnelEnabled)
  writeValue "remote_host" c.remoteBindHost
  writeValue "remote_port" (Text.decimal c.remoteBindPort)
  writeValue "local_host" c.localHost
  writeValue "local_port" (Text.decimal c.localPort)

/-- The part of `writeConfig` that prints. -/
def writeSettings (c : DeviceRuntimeConfig) : FlashM Unit := do
  println .configTemp (ascii "version=4")
  println .configTemp (if c.setupComplete then ascii "setup_complete=1" else ascii "setup_complete=0")
  writeValue "wifi_ssid" c.wifiSsid
  writeValue "wifi_password" c.wifiPassword
  writeValue "mac_vendor" c.macVendor.configValue
  if c.setupComplete then writeTunnelSettings c else pure ()

/-- The roll-back of `writeConfig`. -/
def restoreBackup (hadExistingConfig : Bool) : FlashM Unit := do
  if hadExistingConfig then
    let _ ← rename .configBackup .config
    pure ()
  else pure ()

/-- The part of `writeConfig` that moves the new file in its place. -/
def installConfig (hadExistingConfig : Bool) : FlashM Bool := do
  let done ← rename .configTemp .config
  if !done then
    restoreBackup hadExistingConfig
    removeIfExists .configTemp
    pure false
  else
    removeIfExists .configBackup
    pure true

/-- The part of `writeConfig` after the file was closed. -/
def replaceConfig : FlashM Bool := do
  removeIfExists .configBackup
  let hadExistingConfig ← fileExists .config
  if hadExistingConfig then
    let keptOut ← rename .config .configBackup
    if !keptOut then
      -- the old file is still in its place
      removeIfExists .configTemp
      pure false
    else installConfig hadExistingConfig
  else installConfig hadExistingConfig

/-- `writeConfig` -/
def writeConfig (c : DeviceRuntimeConfig) : FlashM Bool := do
  let opened ← openWrite .configTemp
  if !opened then pure false
  else
    writeSettings c
    replaceConfig

/-! ### Reading -/

/-- `loadKeys`: whether both keys are good, and what is in the two variables then. -/
def loadKeys (fs : Flash) (privateKey publicKey : Text) : Bool × Text × Text :=
  match fs .key with
  | none => (false, privateKey, publicKey)
  | some file =>
    if file.length = 0 ∨ file.length > maxKeySize then (false, privateKey, publicKey)
    else if !validKey file then (false, file, publicKey)
    else match fs .publicKey with
      -- the public key may be missing, but not be empty
      | none => (true, file, [])
      | some pub =>
        if pub.length = 0 ∨ pub.length > maxPublicKeySize then (false, file, [])
        else (validPublicKey pub, file, pub)

/-- The variables of `loadConfig`. -/
structure Loading where
  /-- `c` -/
  c : DeviceRuntimeConfig
  /-- `version` -/
  version : Int := 0
  /-- `complete` -/
  complete : Text := []
  /-- `sshPort` -/
  sshPort : Text := []
  /-- `remotePort` -/
  remotePort : Text := []
  /-- `localPort` -/
  localPort : Text := []
  /-- `auth` -/
  auth : Text := []
  /-- `tunnelEnabled` -/
  tunnelEnabled : Text := []
  /-- `macVendor` -/
  macVendor : Text := []

namespace Loading

/-- What becomes of a setting. -/
def assign (l : Loading) (name value : Text) : Loading :=
  if name.equals "version" then { l with version := value.toInt }
  else if name.equals "setup_complete" then { l with complete := value }
  else if name.equals "wifi_ssid" then { l with c := { l.c with wifiSsid := value } }
  else if name.equals "wifi_password" then { l with c := { l.c with wifiPassword := value } }
  else if name.equals "mac_vendor" then { l with macVendor := value }
  else if name.equals "ssh_host" then { l with c := { l.c with sshHost := value } }
  else if name.equals "ssh_port" then { l with sshPort := value }
  else if name.equals "ssh_user" then { l with c := { l.c with sshUsername := value } }
  else if name.equals "ssh_auth" then { l with auth := value }
  else if name.equals "ssh_password" then { l with c := { l.c with sshPassword := value } }
  else if name.equals "ssh_key_passphrase" then
    { l with c := { l.c with sshKeyPassphrase := value } }
  else if name.equals "tunnel_enabled" then { l with tunnelEnabled := value }
  else if name.equals "remote_host" then { l with c := { l.c with remoteBindHost := value } }
  else if name.equals "remote_port" then { l with remotePort := value }
  else if name.equals "local_host" then { l with c := { l.c with localHost := value } }
  else if name.equals "local_port" then { l with localPort := value }
  else l

/-- One round of the loop: `none` when the value does not decode. -/
def readLine (l : Loading) (line : Text) : Option Loading :=
  let line : Text := if line.getLast? = some (chr '\r') then line.dropLast else line
  let pos := line.cString.indexOf '='
  -- neither a line without `=` nor one without a name is an error
  if pos ≤ 0 then some l
  else match decode (line.substring (pos + 1)) with
    | none => none
    | some value => some (l.assign (line.substringTo pos) value)

/-- The loop over the lines: `false` when it was left because a value does not decode. -/
def readLines (l : Loading) : List Text → Bool × Loading
  | [] => (true, l)
  | line :: rest =>
    match l.readLine line with
    | none => (false, l)
    | some l => l.readLines rest

/-- The rest of `loadConfig` from the keys on. -/
def finishKeys (fs : Flash) (c : DeviceRuntimeConfig) : Bool × DeviceRuntimeConfig :=
  if c.sshAuthMethod = .privateKey then
    let keys := loadKeys fs c.sshPrivateKey c.sshPublicKey
    let c := { c with sshPrivateKey := keys.2.1, sshPublicKey := keys.2.2 }
    -- `true` for the WiFi, which is good whatever the keys are
    if !keys.1 then (true, c) else (true, { c with setupComplete := validDeviceConfig c })
  else (true, { c with setupComplete := validDeviceConfig c })

/-- The rest of `loadConfig` for a complete setup, from the authentication on. -/
def finishTunnel (fs : Flash) (l : Loading) : Bool × DeviceRuntimeConfig :=
  let c := { l.c with
    sshAuthMethod := if l.auth.equals "key" then .privateKey else .password }
  match parsePort l.sshPort with
  | none => (true, c)
  | some port =>
    let c := { c with sshPort := port }
    match parsePort l.remotePort with
    | none => (true, c)
    | some port =>
      let c := { c with remoteBindPort := port }
      match parsePort l.localPort with
      | none => (true, c)
      | some port => finishKeys fs { c with localPort := port }

/-- The rest of `loadConfig` once the version and the MAC vendor are known. -/
def finishSetup (fs : Flash) (l : Loading) : Bool × DeviceRuntimeConfig :=
  -- the first version knew nothing but the WiFi
  if l.version = 1 ∨ !l.complete.equals "1" then (true, l.c)
  else if l.version ≥ 3 then
    if !l.tunnelEnabled.equals "0" && !l.tunnelEnabled.equals "1" then (true, l.c)
    else finishTunnel fs { l with c := { l.c with tunnelEnabled := l.tunnelEnabled.equals "1" } }
  else finishTunnel fs l

/-- The part of `loadConfig` behind the loop. -/
def finish (fs : Flash) (l : Loading) : Bool × DeviceRuntimeConfig :=
  if l.version < 1 ∨ l.version > 4 ∨ l.c.wifiSsid.isEmpty ∨ l.c.wifiSsid.length > 32 ∨
    l.c.wifiPassword.length > 63 then (false, l.c)
  else if l.version ≥ 4 then
    match MacVendor.parse l.macVendor with
    | none => (false, l.c)
    | some vendor => finishSetup fs { l with c := { l.c with macVendor := vendor } }
  else finishSetup fs { l with c := { l.c with macVendor := .original } }

end Loading

/-- What `loadConfig` makes of the text of the file. -/
def readConfig (fs : Flash) (text : Text) (c : DeviceRuntimeConfig) : Bool × DeviceRuntimeConfig :=
  let read := Loading.readLines { c := c } text.fileLines
  if !read.1 then (false, read.2.c) else read.2.finish fs

/-- The part of `loadConfig` that makes up for a replacement that was cut short. -/
def recoverConfig : FlashM Unit := do
  let present ← fileExists .config
  let backup ← fileExists .configBackup
  -- the power was lost between the two renames
  if !present && backup then
    let _ ← rename .configBackup .config
    pure ()
  else if present then removeIfExists .configBackup
  else pure ()

/-- `loadConfig` -/
def loadConfig (c : DeviceRuntimeConfig) : FlashM (Bool × DeviceRuntimeConfig) := do
  recoverConfig
  let fs ← Prog.get
  match fs .config with
  | none => pure (false, c)
  | some text => pure (readConfig fs text c)

end Provisioning

end ReverseTunnel

import ReverseTunnel.Arduino.Number
import ReverseTunnel.Provisioning.Percent

/-!
# The configuration of the device

What the device is set up with, when it is valid, and how the lines of its file are read. A file that
does not belong to a complete setup is still good for the WiFi part: the loader returns `true` with
`setupComplete` off, in several places.
-/

namespace ReverseTunnel

/-! ### MAC vendors -/

/-- `MacVendor` -/
inductive MacVendor where
  | original
  | cisco
  | hp
  deriving DecidableEq

namespace MacVendor

/-- `mac_vendor::configValue` -/
def configValue : MacVendor → Text
  | cisco => ascii "CISCO"
  | hp => ascii "HP"
  | original => ascii "ORIGINAL"

/-- `mac_vendor::parse` -/
def parse (value : Text) : Option MacVendor :=
  let normalized := value.trim.toUpperCase
  if normalized.equals "ORIGINAL" || normalized.equals "ESP32" then some original
  else if normalized.equals "CISCO" then some cisco
  else if normalized.equals "HP" || normalized.equals "HEWLETT-PACKARD" ||
    normalized.equals "HEWLETT_PACKARD" then some hp
  else none

/-- What is written is accepted. -/
@[simp] theorem parse_configValue (vendor : MacVendor) : parse vendor.configValue = some vendor := by
  cases vendor <;> decide

end MacVendor

/-- `SSHAuthMethod` -/
inductive SSHAuthMethod where
  | password
  | privateKey
  deriving DecidableEq

/-- `DeviceRuntimeConfig` -/
structure DeviceRuntimeConfig where
  /-- `wifiSsid` -/
  wifiSsid : Text := []
  /-- `wifiPassword` -/
  wifiPassword : Text := []
  /-- `macVendor` -/
  macVendor : MacVendor := .original
  /-- `setupComplete` -/
  setupComplete : Bool := false
  /-- `sshHost` -/
  sshHost : Text := []
  /-- `sshPort` -/
  sshPort : Int := 22
  /-- `sshUsername` -/
  sshUsername : Text := []
  /-- `sshAuthMethod` -/
  sshAuthMethod : SSHAuthMethod := .password
  /-- `sshPassword` -/
  sshPassword : Text := []
  /-- `sshPrivateKey` -/
  sshPrivateKey : Text := []
  /-- `sshPublicKey` -/
  sshPublicKey : Text := []
  /-- `sshKeyPassphrase` -/
  sshKeyPassphrase : Text := []
  /-- `tunnelEnabled` -/
  tunnelEnabled : Bool := true
  /-- `remoteBindHost` -/
  remoteBindHost : Text := ascii "127.0.0.1"
  /-- `remoteBindPort` -/
  remoteBindPort : Int := 23180
  /-- `localHost` -/
  localHost : Text := ascii "192.168.1.1"
  /-- `localPort` -/
  localPort : Int := 22
  deriving DecidableEq

namespace Provisioning

/-- `MAX_KEY_SIZE` -/
def maxKeySize : ℕ := 16384

/-- `MAX_PUBLIC_KEY_SIZE` -/
def maxPublicKeySize : ℕ := 4096

/-! ### What is valid -/

/-- `parsePort` -/
def parsePort (value : Text) : Option Int :=
  if value.isEmpty then none
  else if !value.all isDigit then none
  else
    let parsed := value.toInt
    if parsed < 1 ∨ parsed > 65535 then none else some parsed

/-- `validKey` -/
def validKey (key : Text) : Bool :=
  0 < key.length && key.length ≤ maxKeySize && key.contains (ascii "-----BEGIN") &&
    key.contains (ascii "PRIVATE KEY-----") && key.contains (ascii "-----END")

/-- `validPublicKey` -/
def validPublicKey (key : Text) : Bool :=
  if key.isEmpty then true
  else if key.length > maxPublicKeySize then false
  else
    let trimmed := key.trim
    let separator := trimmed.cString.indexOf ' '
    if separator ≤ 0 ∨ separator = trimmed.length - 1 then false
    else
      let algorithm := trimmed.substringTo separator
      algorithm.equals "ssh-rsa" || algorithm.equals "ecdsa-sha2-nistp256" ||
        algorithm.equals "ecdsa-sha2-nistp384" || algorithm.equals "ecdsa-sha2-nistp521"

/-- A port number. -/
def validPort (port : Int) : Bool := 1 ≤ port && port ≤ 65535

/-- `validDeviceConfig` -/
def validDeviceConfig (c : DeviceRuntimeConfig) : Bool :=
  if c.sshHost.isEmpty || c.sshHost.length > 253 || c.sshUsername.isEmpty ||
    c.sshUsername.length > 128 || !validPort c.sshPort || c.remoteBindHost.isEmpty ||
    !validPort c.remoteBindPort || c.localHost.isEmpty || !validPort c.localPort then false
  else
    if c.sshAuthMethod = .password then !c.sshPassword.isEmpty
    else validKey c.sshPrivateKey && validPublicKey c.sshPublicKey

end Provisioning

end ReverseTunnel

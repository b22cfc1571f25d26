import ReverseTunnel.Minis.ManagedConfig
import ReverseTunnel.Provisioning.ConfigFile
import ReverseTunnel.Session.HostKey

/-!
# Applying a managed configuration

The main loop takes a managed configuration from the queue and compares it with the configuration
the device runs with. When something differs, the merged configuration is stored and the device
**restarts**; it is only then that the new settings are used. The user name is always the SID of the
device.
-/

namespace ReverseTunnel

open Traced

namespace Minis

/-! ### What the control center manages -/

/-- `buildSid`: the low half of the chip's number in eight hexadecimal digits -/
def buildSid (chipId : UInt64) : Text :=
  (List.range 8).map fun i ↦ hexDigit (chipId.toNat % 2 ^ 32 / 16 ^ (7 - i) % 16)

theorem isXDigit_of_mem_buildSid {chipId : UInt64} {b : UInt8} (hb : b ∈ buildSid chipId) :
    isXDigit b = true := by
  have hdigit : ∀ n < 16, isXDigit (hexDigit n) = true := by decide +kernel
  obtain ⟨i, -, rfl⟩ := List.mem_map.1 hb
  exact hdigit _ (Nat.mod_lt _ (by decide))

/-- `ManagedTunnelConfig` -/
structure ManagedTunnelConfig where
  /-- `enabled` -/
  enabled : Bool := false
  /-- `sshHost` -/
  sshHost : Text := []
  /-- `sshPort` -/
  sshPort : UInt16 := 0
  /-- `remoteBindHost` -/
  remoteBindHost : Text := []
  /-- `remoteBindPort` -/
  remoteBindPort : UInt16 := 0
  /-- `localHost` -/
  localHost : Text := []
  /-- `localPort` -/
  localPort : UInt16 := 0
  /-- `macVendorPresent` -/
  macVendorPresent : Bool := false
  /-- `macVendor` -/
  macVendor : Text := []

/-- What `takeManagedTunnelConfig` makes of an element of the queue. -/
def ManagedTunnelConfig.ofQueued (queued : QueuedManagedConfig) : ManagedTunnelConfig where
  enabled := queued.enabled
  sshHost := queued.sshHost
  sshPort := queued.sshPort
  remoteBindHost := queued.remoteBindHost
  remoteBindPort := queued.remoteBindPort
  localHost := queued.localHost
  localPort := queued.localPort
  macVendorPresent := queued.macVendorPresent
  macVendor := if queued.macVendorPresent then queued.macVendor else []

/-- `takeManagedTunnelConfig` -/
def takeManagedTunnelConfig (s : MinisState) : Option ManagedTunnelConfig × MinisState :=
  match s.managedConfigQueue with
  -- there is no queue yet, or it could not be created
  | none => (none, s)
  | some none => (none, s)
  | some (some queued) => (some (.ofQueued queued), { s with managedConfigQueue := some none })

open Provisioning

/-! ### Storing it -/

/-- `FIRMWARE_VERSION` -/
def firmwareVersion : Text := ascii "1.0.0-beta.1"

/-- `markConfigAppliedNotice` -/
def markConfigAppliedNotice : FlashM Bool := do
  let opened ← openWrite .configAppliedNotice
  if !opened then pure false
  else
    let written ← print .configAppliedNotice firmwareVersion
    pure (written ≠ 0)

/-- `saveManagedConfig` -/
def saveManagedConfig (config : DeviceRuntimeConfig) : FlashM Bool :=
  if !config.setupComplete then pure false else writeConfig config

/-! ### Applying it -/

/-- `==` between two strings -/
def sameText (left right : Text) : Bool :=
  left.length == right.length && left.cString == right.cString

/-- `managedMacVendor`: `none` when it is not supported -/
def managedMacVendor (deviceConfig : DeviceRuntimeConfig) (managed : ManagedTunnelConfig) :
    Option MacVendor :=
  if managed.macVendorPresent then MacVendor.parse managed.macVendor else some deviceConfig.macVendor

/-- `unchanged` -/
def unchanged (deviceConfig : DeviceRuntimeConfig) (managed : ManagedTunnelConfig)
    (managedUsername : Text) (vendor : MacVendor) : Bool :=
  deviceConfig.setupComplete && deviceConfig.tunnelEnabled == managed.enabled &&
    sameText deviceConfig.sshHost managed.sshHost &&
    deviceConfig.sshPort == managed.sshPort.toNat &&
    sameText deviceConfig.sshUsername managedUsername &&
    sameText deviceConfig.remoteBindHost managed.remoteBindHost &&
    deviceConfig.remoteBindPort == managed.remoteBindPort.toNat &&
    sameText deviceConfig.localHost managed.localHost &&
    deviceConfig.localPort == managed.localPort.toNat &&
    deviceConfig.macVendor == vendor

/-- `next` -/
def managedNext (deviceConfig : DeviceRuntimeConfig) (managed : ManagedTunnelConfig)
    (managedUsername : Text) (vendor : MacVendor) : DeviceRuntimeConfig :=
  { deviceConfig with
    setupComplete := true
    tunnelEnabled := managed.enabled
    sshHost := managed.sshHost
    sshPort := managed.sshPort.toNat
    sshUsername := managedUsername
    remoteBindHost := managed.remoteBindHost
    remoteBindPort := managed.remoteBindPort.toNat
    localHost := managed.localHost
    localPort := managed.localPort.toNat
    macVendor := vendor }

/-- How `applyPendingMinisConfig` ends. -/
inductive Applied where
  /-- There was nothing in the queue. -/
  | nothing
  /-- The MAC vendor is not supported. -/
  | unsupportedVendor
  /-- The device runs with this configuration. -/
  | unchanged
  /-- The device does not use a key. -/
  | keyRequired
  /-- The configuration could not be stored. -/
  | notStored
  /-- The device restarts, with or without the notice. -/
  | restart (noticed : Bool)
  deriving DecidableEq

/-- `applyPendingMinisConfig` on a device with this chip -/
def applyPendingMinisConfig (chipId : UInt64) (deviceConfig : DeviceRuntimeConfig) (s : MinisState) :
    FlashM (Applied × MinisState) :=
  match takeManagedTunnelConfig s with
  | (none, s) => pure (.nothing, s)
  -- taken from the queue, however this ends
  | (some managed, s) =>
    match managedMacVendor deviceConfig managed with
    | none => pure (.unsupportedVendor, s)
    | some vendor =>
      let managedUsername := buildSid chipId
      if unchanged deviceConfig managed managedUsername vendor then pure (.unchanged, s)
      else if deviceConfig.sshAuthMethod ≠ .privateKey then pure (.keyRequired, s)
      else do
        let stored ← saveManagedConfig (managedNext deviceConfig managed managedUsername vendor)
        if !stored then pure (.notStored, s)
        else
          let noticed ← markConfigAppliedNotice
          pure (.restart noticed, s)

/-- The firmware takes the keys and the password out of the configuration once the tunnel has them
(`configureSSHTunnel`), and puts in the pair of keys that it finds or generates for a setup that is
not complete (`ensure`). Unless someone saves another WiFi on the setup page, nothing else in it
changes before the next restart. -/
def AtRuntime (loaded deviceConfig : DeviceRuntimeConfig) : Prop :=
  ∃ auth password privateKey publicKey passphrase, deviceConfig =
    { loaded with
      sshAuthMethod := auth
      sshPassword := password
      sshPrivateKey := privateKey
      sshPublicKey := publicKey
      sshKeyPassphrase := passphrase }

end Minis

end ReverseTunnel

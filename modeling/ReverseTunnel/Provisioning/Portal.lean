import ReverseTunnel.Lib.Escaping
import ReverseTunnel.Lib.Refinement
import ReverseTunnel.Provisioning.Identity

/-!
# The setup portal

Two pages, each with a form. The first one asks for a WiFi network and stores it once the device has
been connected to it; the second one asks for the SSH server and the tunnel. It shows what is stored, but
never a secret: a field for one that comes back **empty** leaves what is stored.

What is submitted is a function from names to texts, and a request is answered with another page or by a
restart. What the device page shows comes back from a browser as it was, whatever characters it has
(`readAttribute_escapeHtml`).
-/

namespace ReverseTunnel

open Traced

namespace Provisioning

/-- `server->arg(name)`. A field that was not sent is empty. -/
abbrev FormArgs := String → Text

/-- How a request is answered. -/
inductive PortalAnswer where
  /-- `sendWifiPage(error)` -/
  | wifiPage (error : String)
  /-- `sendDevicePage(error)` -/
  | devicePage (error : String)
  /-- The WiFi was stored, and the device page comes next. -/
  | proceed
  /-- `ESP.restart()` -/
  | restart
  deriving DecidableEq

/-! ### The device page -/

/-- `value.replace("\r\n", "\n")`, for a text without zeros. -/
def unixLines : Text → Text
  | a :: b :: rest =>
    if a = chr '\r' ∧ b = chr '\n' then chr '\n' :: unixLines rest
    else a :: unixLines (b :: rest)
  | t => t

/-- The secrets of `/save-device`. -/
def submitSecrets (current c : DeviceRuntimeConfig) (arg : FormArgs) : DeviceRuntimeConfig :=
  let storedAuthMethod := current.sshAuthMethod
  let submittedPassword := arg "ssh_password"
  let submittedKey := unixLines (arg "ssh_private_key")
  let submittedPublicKey := unixLines (arg "ssh_public_key")
  let submittedPassphrase := arg "ssh_key_passphrase"
  if c.sshAuthMethod = .password then
    -- with another method nothing is stored that an empty field could stand for
    if !submittedPassword.isEmpty || decide (storedAuthMethod ≠ .password) then
      { c with sshPassword := submittedPassword }
    else c
  else if !submittedKey.isEmpty then
    { c with
      sshPrivateKey := submittedKey
      sshPublicKey := submittedPublicKey
      sshKeyPassphrase := submittedPassphrase }
  else if storedAuthMethod = .privateKey then
    -- what goes with the stored key can be replaced alone
    let c := if !submittedPublicKey.isEmpty then { c with sshPublicKey := submittedPublicKey } else c
    if !submittedPassphrase.isEmpty then { c with sshKeyPassphrase := submittedPassphrase } else c
  else c

/-- The configuration that `/save-device` makes of a form with these ports. -/
def formDevice (current : DeviceRuntimeConfig) (arg : FormArgs) (sshPort remotePort localPort : Int) :
    DeviceRuntimeConfig :=
  let c := { current with
    sshHost := arg "ssh_host"
    sshUsername := arg "ssh_user"
    remoteBindHost := arg "remote_host"
    localHost := arg "local_host"
    sshPort := sshPort
    remoteBindPort := remotePort
    localPort := localPort
    sshAuthMethod := if (arg "ssh_auth").equals "key" then .privateKey else .password }
  { submitSecrets current c arg with
    setupComplete := true
    tunnelEnabled := true }

/-- The configuration that `/save-device` takes from a form, or its complaint. -/
def submitDevice (current : DeviceRuntimeConfig) (arg : FormArgs) :
    Except String DeviceRuntimeConfig :=
  match parsePort (arg "ssh_port"), parsePort (arg "remote_port"), parsePort (arg "local_port") with
  | some sshPort, some remotePort, some localPort =>
    let c := formDevice current arg sshPort remotePort localPort
    if !validDeviceConfig c then
      .error (if c.sshAuthMethod = .privateKey then
        "Enter a valid private key and optional OpenSSH public-key line."
        else "Complete all fields and enter an SSH password.")
    else .ok c
  | _, _, _ => .error "Every port must be between 1 and 65535."

/-- What is stored of it: the secrets of the other method are forgotten. -/
def forStorage (c : DeviceRuntimeConfig) : DeviceRuntimeConfig :=
  if c.sshAuthMethod = .privateKey then { c with sshPassword := [] }
  else { c with
    sshPrivateKey := []
    sshPublicKey := []
    sshKeyPassphrase := [] }

/-- The end of `/save-device`. -/
def storeDevice (c : DeviceRuntimeConfig) : FlashM PortalAnswer := do
  let written ← writeConfig c
  if !written then pure (.devicePage "The configuration could not be stored.")
  else pure .restart

/-- `/save-device` -/
def saveDevice (current : DeviceRuntimeConfig) (arg : FormArgs) : FlashM PortalAnswer :=
  match submitDevice current arg with
  | .error error => pure (.devicePage error)
  | .ok c =>
    if c.sshAuthMethod = .privateKey then do
      let saved ← saveKeys c.sshPrivateKey c.sshPublicKey
      if !saved then pure (.devicePage "The SSH keys could not be stored.")
      else storeDevice (forStorage c)
    else do
      -- the keys are gone also when the configuration is not stored afterwards
      removeIfExists .key
      removeIfExists .publicKey
      storeDevice (forStorage c)

/-! ### Saving the WiFi -/

/-- What `handleWifiSave` finds. -/
structure WifiPortal where
  /-- `*current` -/
  current : DeviceRuntimeConfig
  /-- `wifiResetRequested` -/
  wifiResetRequested : Bool
  /-- `mac_vendor::appliedVendor()` -/
  appliedVendor : MacVendor

/-- A WiFi network: its name, its password and the vendor that the device pretends to be of. -/
abbrev Network := Text × Text × MacVendor

/-- A name that was typed in goes before one that was selected. -/
def submittedSsid (arg : FormArgs) : Text :=
  if (arg "custom_ssid").isEmpty then arg "ssid" else arg "custom_ssid"

/-- The network that `handleWifiSave` takes from a form, or its complaint. -/
def submitWifi (arg : FormArgs) : Except String Network :=
  let ssid := submittedSsid arg
  let password := arg "password"
  match MacVendor.parse (arg "mac_vendor") with
  | none => .error "Select a valid MAC vendor."
  | some selectedVendor =>
    if ssid.isEmpty || ssid.length > 32 then .error "The SSID is missing or too long."
    else if !password.isEmpty && (password.length < 8 || password.length > 63) then
      .error "A WiFi password must contain 8 to 63 characters."
    else .ok (ssid, password, selectedVendor)

/-- `*current` once the device was connected to this network. -/
def WifiPortal.connected (portal : WifiPortal) (ssid password : Text) (vendor : MacVendor) :
    DeviceRuntimeConfig :=
  let preserveDeviceConfig := portal.wifiResetRequested && portal.current.setupComplete
  { portal.current with
    wifiSsid := ssid
    wifiPassword := password
    macVendor := vendor
    setupComplete := if !preserveDeviceConfig then false else portal.current.setupComplete }

/-- `handleWifiSave`, where `connects` says whether the network can be reached. The variables are what
they are afterwards. -/
def handleWifiSave (portal : WifiPortal) (arg : FormArgs) (connects : Bool) :
    FlashM (PortalAnswer × WifiPortal) :=
  match submitWifi arg with
  | .error error => pure (.wifiPage error, portal)
  | .ok (ssid, password, selectedVendor) =>
    if !connects then
      pure (.wifiPage "Connection failed. Check the SSID and password.", portal)
    else do
      let preserveDeviceConfig := portal.wifiResetRequested && portal.current.setupComplete
      let vendorChanged := decide (selectedVendor ≠ portal.appliedVendor)
      let current := portal.connected ssid password selectedVendor
      let written ← writeConfig current
      if !written then
        -- `*current` is ahead of the file from here on
        pure (.wifiPage "WiFi worked, but the configuration could not be stored.",
          { portal with current := current })
      else
        let portal := { portal with
          current := current
          wifiResetRequested := false }
        if preserveDeviceConfig || vendorChanged then pure (.restart, portal)
        else pure (.proceed, portal)

/-! ### Reading a page -/

/-- `mode`, while a portal is active. -/
inductive PortalMode where
  /-- `Wifi` -/
  | wifi
  /-- `Device` -/
  | device

/-- A portal that is active. -/
structure ActivePortal where
  /-- `mode` -/
  mode : PortalMode
  /-- `transitionPending` -/
  transitionPending : Bool := false
  /-- `automaticIdentityAttempted` -/
  automaticIdentityAttempted : Bool := false
  /-- The variables of the requests. -/
  portal : WifiPortal

/-- The files, and the portal, unless none is active. -/
structure SetupState where
  /-- The files. -/
  fs : Flash
  /-- The portal. -/
  active : Option ActivePortal

/-- What happens to a device that is set up. -/
inductive PortalStep where
  /-- It starts. -/
  | start
  /-- `/save-wifi`, and whether the network can be reached. -/
  | saveWifi (arg : FormArgs) (connects : Bool)
  /-- `transitionPending` is up. -/
  | transition
  /-- The main loop provides it with an identity, as far as these of its files can be opened for
  reading and mbed TLS answers like this. -/
  | ensure (m : MbedTls) (opens : Path → Bool)
  /-- `/save-device` -/
  | saveDevice (arg : FormArgs)

/-- How it turned out: what was returned, unless the power was lost before, and what was done to the
files. -/
inductive PortalEvent where
  /-- `loadConfig` -/
  | started (r : Option (Bool × DeviceRuntimeConfig)) (done : FlashTrace)
  /-- `handleWifiSave` -/
  | wifiSaved (r : Option (PortalAnswer × WifiPortal)) (done : FlashTrace)
  /-- The mode may have changed. -/
  | changed
  /-- `ensure` -/
  | identified (r : Option (Bool × DeviceRuntimeConfig)) (done : FlashTrace)
  /-- `/save-device` -/
  | deviceSaved (r : Option PortalAnswer) (done : FlashTrace)

/-- What was done to the files. -/
def PortalEvent.done : PortalEvent → FlashTrace
  | .started _ done => done
  | .wifiSaved _ done => done
  | .changed => []
  | .identified _ done => done
  | .deviceSaved _ done => done

/-- What `begin` and `startDeviceSetup` leave active. Without a configuration, and when the WiFi is to be
reset, it is not the device page. -/
def startedPortal (r : Option (Bool × DeviceRuntimeConfig)) (active : Option ActivePortal) : Prop :=
  ∀ a, active = some a → a.transitionPending = false ∧ a.automaticIdentityAttempted = false ∧
    ∃ loaded, r = some (loaded, a.portal.current) ∧
      (a.portal.wifiResetRequested = true ∨ loaded = false → a.mode = .wifi) ∧
      a.portal.appliedVendor = a.portal.current.macVendor

/-- What a WiFi request leaves active. -/
def wifiPortalAfter (a : ActivePortal) : Option (PortalAnswer × WifiPortal) → Option ActivePortal
  | none => none
  | some (.restart, _) => none
  | some (.proceed, portal) => some { a with
      transitionPending := true
      portal := portal }
  | some (_, portal) => some { a with portal := portal }

/-- What an identity leaves active. `deviceConfig` is the configuration that the portal works on. -/
def identityAfter (a : ActivePortal) : Option (Bool × DeviceRuntimeConfig) → Option ActivePortal
  | none => none
  | some (_, config) => some { a with
      automaticIdentityAttempted := true
      portal := { a.portal with current := config } }

/-- What a device request leaves active. -/
def devicePortalAfter (a : ActivePortal) : Option PortalAnswer → Option ActivePortal
  | none => none
  | some .restart => none
  | some _ => some a

/-- The steps of a device that is set up. -/
def portalStep (s : SetupState) : PortalStep → PortalEvent → SetupState → Prop
  | .start, .started r done, s' =>
    Halts (loadConfig {}) (powerOn s.fs) r s'.fs done ∧ startedPortal r s'.active
  | .saveWifi arg connects, .wifiSaved r done, s' => ∃ a, s.active = some a ∧ a.mode = .wifi ∧
    Halts (handleWifiSave a.portal arg connects) (powerOn s.fs) r s'.fs done ∧
    s'.active = wifiPortalAfter a r
  | .transition, .changed, s' => ∃ a, s.active = some a ∧ a.transitionPending = true ∧ s'.fs = s.fs ∧
    (s'.active = none ∨ s'.active = some { a with
      mode := .device
      transitionPending := false })
  -- in `setup` the device page comes after it, which makes no difference before the first request
  | .ensure m opens, .identified r done, s' => ∃ a, s.active = some a ∧
    a.portal.current.setupComplete = false ∧ a.automaticIdentityAttempted = false ∧
    Halts (ensure m opens a.portal.current) (powerOn s.fs) r s'.fs done ∧
    s'.active = identityAfter a r
  | .saveDevice arg, .deviceSaved r done, s' => ∃ a, s.active = some a ∧ a.mode = .device ∧
    Halts (saveDevice a.portal.current arg) (powerOn s.fs) r s'.fs done ∧
    s'.active = devicePortalAfter a r
  | _, _, _ => False

/-- A device that is set up, started and cut off in any order. -/
def portalSystem : Refinement.System PortalStep PortalEvent SetupState := ⟨portalStep⟩

/-- Requests and starts, latest first. -/
abbrev PortalHistory := List (PortalStep × PortalEvent)

end Provisioning

end ReverseTunnel

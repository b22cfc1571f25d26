import ReverseTunnel.Guarantees.ConfigAcceptance
import ReverseTunnel.Guarantees.ConfigRoundTrip
import ReverseTunnel.Minis.ApplyConfig

/-!
# A managed configuration restarts the device once

Every value of a managed configuration goes a long way: from a line of the body into the queue, from
the queue into the configuration of the device, from there into a file, and back at the next start. A
value that came back different would be found **changed** by the next heartbeat, and the device would
store it and restart again, for ever.

None does. What the parser accepts is valid for the loader, so the next start has a complete setup
with exactly these values, and then the same body changes nothing.
-/

namespace ReverseTunnel

namespace Minis

open Traced Provisioning

/-! ### MAC vendors -/

/-- Texts that differ in their letter case only are the same in capitals. -/
theorem toUpperCase_trim {t u : Text} (h : equalsIgnoreCase t u = true)
    (hu : ∀ b ∈ u.toLowerCase, isSpace b = false) : t.trim.toUpperCase = u.toUpperCase := by
  have hupper : ∀ b, upperByte (lowerByte b) = upperByte b := by decide +kernel
  have hspace : ∀ b, isSpace (lowerByte b) = isSpace b := by decide +kernel
  have hcase : ∀ v : Text, v.toLowerCase.toUpperCase = v.toUpperCase := by
    intro v
    rw [Text.toLowerCase, Text.toUpperCase, List.map_map]
    exact List.map_congr_left fun b _ ↦ hupper b
  have hlower : t.toLowerCase = u.toLowerCase := eq_of_beq h
  have hblank : ∀ b ∈ t, isSpace b = false := by
    intro b hb
    rw [← hspace b]
    refine hu _ ?_
    rw [← hlower]
    exact List.mem_map_of_mem hb
  rw [Text.trim_eq_self hblank, ← hcase t, hlower, hcase u]

/-- **A vendor that the parser of `cfg.txt` lets pass is one.** -/
theorem parse_of_isValidMacVendor {vendor : Text} (h : isValidMacVendor vendor = true) :
    ∃ mac, MacVendor.parse vendor = some mac := by
  rw [isValidMacVendor, Bool.or_eq_true, Bool.or_eq_true, Bool.or_eq_true] at h
  rcases h with ((h | h) | h) | h
  · refine ⟨.original, ?_⟩
    rw [MacVendor.parse, toUpperCase_trim h (by decide +kernel)]
    decide +kernel
  · refine ⟨.original, ?_⟩
    rw [MacVendor.parse, toUpperCase_trim h (by decide +kernel)]
    decide +kernel
  · refine ⟨.cisco, ?_⟩
    rw [MacVendor.parse, toUpperCase_trim h (by decide +kernel)]
    decide +kernel
  · refine ⟨.hp, ?_⟩
    rw [MacVendor.parse, toUpperCase_trim h (by decide +kernel)]
    decide +kernel

/-! ### The body -/

section Body

variable {body : Text} {s : MinisState}

/-- The buffer is read up to the first zero of the body. -/
theorem fetched_eq (hlen : body.length < configBufferSize) :
    ∃ more, fetched body = body.cString ++ 0 :: more := by
  have hreplicate : fetched body =
      body ++ 0 :: List.replicate (configBufferSize - body.length - 1) 0 := by
    rw [fetched, ← List.replicate_succ]
    congr 2
    omega
  have hsplit : body = body.cString ++ body.dropWhile (· ≠ 0) := List.takeWhile_append_dropWhile.symm
  rcases hrest : body.dropWhile (· ≠ 0) with - | ⟨c, rest⟩
  · refine ⟨List.replicate (configBufferSize - body.length - 1) 0, ?_⟩
    rw [hrest, List.append_nil] at hsplit
    rw [hreplicate, ← hsplit]
  · have hc : c = 0 := by
      have hhead := List.head_dropWhile_not (· ≠ (0 : UInt8)) (l := body)
        (by rw [hrest]; exact List.cons_ne_nil _ _)
      simp only [hrest] at hhead
      exact not_not.1 (of_decide_eq_false hhead)
    refine ⟨rest ++ 0 :: List.replicate (configBufferSize - body.length - 1) 0, ?_⟩
    rw [hreplicate]
    nth_rewrite 1 [hsplit]
    rw [hrest, hc, List.append_assoc, List.cons_append]

theorem zero_notMem_cString (t : Text) : (0 : UInt8) ∉ t.cString := by
  intro h
  simpa using List.mem_takeWhile_imp h

/-- **A refresh** with any body: what is behind its first zero does not count. -/
theorem refreshed_cString (hlen : body.length < configBufferSize) {q : Option QueuedManagedConfig}
    (hqueue : s.managedConfigQueue = some q) :
    refreshed s body =
      let read := readLines body.cString.fileLines {} true
      if acceptable read.1 read.2 then
        (true, { heartbeatIntervalMin := read.1.heartbeatInterval.value
                 managedConfigQueue := some (some (queuedText read.1)) })
      else (false, s) := by
  obtain ⟨more, hmore⟩ := fetched_eq hlen
  rw [refreshed, hmore]
  refine refreshConfig_eq more (zero_notMem_cString body) (fun hzero ↦ ?_) hqueue
  rw [List.length_eq_zero_iff.1 hzero]
  rfl

/-- Without a queue nothing is accepted. -/
theorem refreshed_of_none (hqueue : s.managedConfigQueue = none) : (refreshed s body).1 = false := by
  rw [refreshed, refreshConfig]
  simp only [hqueue, Bool.not_true, Bool.false_eq_true, if_false, ne_eq, not_true_eq_false]
  split
  · rfl
  · split <;> rfl

/-- What is described is accepted, if there is a queue. -/
theorem refreshed_of_describes_cString {interval : UInt16} {queued : QueuedManagedConfig}
    (hlen : body.length < configBufferSize) (h : Describes body.cString interval queued)
    {q : Option QueuedManagedConfig} (hqueue : s.managedConfigQueue = some q) :
    refreshed s body = (true, ⟨interval, some (some queued)⟩) := by
  rw [refreshed_cString hlen hqueue, h.readLines]
  dsimp only
  rw [if_pos (Describes.acceptable interval queued), h.queuedText]
  rfl

/-- What is accepted is described. -/
theorem describes_of_refreshed (hlen : body.length < configBufferSize)
    (h : (refreshed s body).1 = true) : ∃ interval queued,
      Describes body.cString interval queued ∧
        refreshed s body = (true, ⟨interval, some (some queued)⟩) := by
  rcases hqueue : s.managedConfigQueue with - | q
  · rw [refreshed_of_none hqueue] at h
    cases h
  · have hread := h
    rw [refreshed_cString hlen hqueue] at hread
    dsimp only at hread
    split at hread
    · next haccept =>
      obtain ⟨interval, queued, hdescribes⟩ := exists_describes haccept
      exact ⟨interval, queued, hdescribes, refreshed_of_describes_cString hlen hdescribes hqueue⟩
    · cases hread

end Body

/-! ### What is loaded -/

section Loaded

variable {c : DeviceRuntimeConfig} {fs : Flash} {l : Loading}

/-- The WiFi settings are as long as they may be. -/
def HasWifi (c : DeviceRuntimeConfig) : Prop :=
  (1 ≤ c.wifiSsid.length ∧ c.wifiSsid.length ≤ 32) ∧ c.wifiPassword.length ≤ 63

theorem hasWifi_finishKeys (h : HasWifi c) : HasWifi (Loading.finishKeys fs c).2 := by
  rw [Loading.finishKeys]
  split
  · dsimp only
    split <;> exact h
  · exact h

theorem hasWifi_finishTunnel (h : HasWifi l.c) : HasWifi (l.finishTunnel fs).2 := by
  rw [Loading.finishTunnel]
  dsimp only
  split
  · exact h
  · split
    · exact h
    · split
      · exact h
      · exact hasWifi_finishKeys h

theorem hasWifi_finishSetup (h : HasWifi l.c) : HasWifi (l.finishSetup fs).2 := by
  rw [Loading.finishSetup]
  split
  · exact h
  · split
    · split
      · exact h
      · exact hasWifi_finishTunnel h
    · exact hasWifi_finishTunnel h

/-- What the loader reports as good has a WiFi. -/
theorem hasWifi_finish (hok : (l.finish fs).1 = true) : HasWifi (l.finish fs).2 := by
  revert hok
  rw [Loading.finish]
  split
  · exact fun hno ↦ (by cases hno)
  · next hwifi =>
    have hssid : HasWifi l.c := by
      simp only [not_or, List.isEmpty_iff] at hwifi
      obtain ⟨-, -, hne, hssid, hpassword⟩ := hwifi
      have hpos := List.length_pos_iff.2 hne
      exact ⟨⟨hpos, by omega⟩, by omega⟩
    split
    · split
      · exact fun hno ↦ (by cases hno)
      · exact fun _ ↦ hasWifi_finishSetup hssid
    · exact fun _ ↦ hasWifi_finishSetup hssid

/-- **What is loaded has a WiFi**, from whatever file. -/
theorem hasWifi_loadConfig {e : Env FileCall FileReply} {d : DeviceRuntimeConfig}
    (h : ((loadConfig d).run e (powerOn fs)).1 = (true, c)) : HasWifi c := by
  have hload : wp (loadConfig d) (fun r _ ↦ r.1 = true → HasWifi r.2) (powerOn fs) := by
    refine wp_bind (wp_mono (wp_recoverConfig (powerOn fs)) fun _ w _ ↦ wp_get_bind.2 ?_)
    rcases w.st .config with - | text
    · exact wp_pure fun hno ↦ (by cases hno)
    · refine wp_pure ?_
      rw [readConfig]
      split
      · exact fun hno ↦ (by cases hno)
      · exact hasWifi_finish
  have hc := hload e
  rw [h] at hc
  exact hc rfl

/-- Key files that are good hold the keys that are read from them. -/
theorem holdsKeys_of_loadKeys {key publicKey : Text}
    (h : loadKeys fs [] [] = (true, key, publicKey)) (hkey : c.sshPrivateKey = key)
    (hpublic : c.sshPublicKey = publicKey) :
    HoldsKeys fs c ∧ validKey c.sshPrivateKey = true ∧ validPublicKey c.sshPublicKey = true := by
  rw [← hkey, ← hpublic, loadKeys] at h
  split at h
  · cases h
  · next file hfile =>
    split at h
    · cases h
    · split at h
      · cases h
      · next hvalid =>
        rw [Bool.not_eq_true, Bool.not_eq_false'] at hvalid
        split at h
        · next hnone =>
          obtain ⟨-, hfirst, hsecond⟩ : True ∧ file = c.sshPrivateKey ∧ [] = c.sshPublicKey := by
            simpa using h
          rw [← hfirst, ← hsecond]
          exact ⟨⟨hfirst ▸ hfile, by rw [← hsecond, hnone]; rfl⟩, hvalid, rfl⟩
        · next pub hpub =>
          split at h
          · cases h
          · next hsize =>
            obtain ⟨hgood, hfirst, hsecond⟩ : validPublicKey pub = true ∧
                file = c.sshPrivateKey ∧ pub = c.sshPublicKey := by simpa using h
            have hne : c.sshPublicKey ≠ [] := by
              rintro hnil
              rw [hsecond, hnil] at hsize
              exact hsize (.inl rfl)
            rw [← hfirst, ← hsecond]
            refine ⟨⟨hfirst ▸ hfile, ?_⟩, hvalid, hgood⟩
            rw [if_neg hne, hpub, hsecond]

end Loaded

/-! ### The managed settings -/

/-- The configuration of a device with this chip has the managed settings. Where they say nothing
about the MAC vendor it is the one that there was. -/
structure Managed (chipId : UInt64) (queued : QueuedManagedConfig) (kept : MacVendor)
    (c : DeviceRuntimeConfig) : Prop where
  /-- The setup is complete. -/
  setupComplete : c.setupComplete = true
  /-- `TUNNEL_ENABLED` -/
  tunnelEnabled : c.tunnelEnabled = queued.enabled
  /-- `SSH_HOST` -/
  sshHost : c.sshHost = queued.sshHost
  /-- `SSH_PORT` -/
  sshPort : c.sshPort = queued.sshPort.toNat
  /-- The user is the device. -/
  sshUsername : c.sshUsername = buildSid chipId
  /-- `REMOTE_BIND_HOST` -/
  remoteBindHost : c.remoteBindHost = queued.remoteBindHost
  /-- `REMOTE_BIND_PORT` -/
  remoteBindPort : c.remoteBindPort = queued.remoteBindPort.toNat
  /-- `LOCAL_HOST` -/
  localHost : c.localHost = queued.localHost
  /-- `LOCAL_PORT` -/
  localPort : c.localPort = queued.localPort.toNat
  /-- `MAC_VENDOR` -/
  macVendor : (if queued.macVendorPresent then MacVendor.parse queued.macVendor else some kept) =
    some c.macVendor

section Settings

variable {chipId : UInt64} {body key : Text} {interval : UInt16} {queued : QueuedManagedConfig}
  {kept vendor : MacVendor} {c d : DeviceRuntimeConfig}

/-- The hosts of a managed configuration are hosts for the loader. -/
theorem HasOne.length_host {host : Text} (h : HasOne body key IsHost host) :
    host.isEmpty = false ∧ host.length ≤ 253 := by
  obtain ⟨value, -, hhost⟩ := h
  refine ⟨?_, hhost.length.2⟩
  rw [List.isEmpty_eq_false_iff]
  exact List.length_pos_iff.1 hhost.length.1

/-- The ports of a managed configuration are ports for the loader. -/
theorem HasOne.validPort {port : UInt16} (h : HasOne body key (IsNumberIn 1 65535) port) :
    validPort port.toNat = true := by
  obtain ⟨value, -, -, hmin, hmax⟩ := h
  rw [Provisioning.validPort, Bool.and_eq_true, decide_eq_true_eq, decide_eq_true_eq]
  omega

@[simp] theorem length_buildSid (chipId : UInt64) : (buildSid chipId).length = 8 := by
  rw [buildSid, List.length_map, List.length_range]

/-- **The loader finds a managed configuration valid**, if the keys are. -/
theorem Managed.storable (h : Managed chipId queued kept c) (hbody : Describes body interval queued)
    (hwifi : HasWifi c) (hauth : c.sshAuthMethod = .privateKey)
    (hkey : validKey c.sshPrivateKey = true) (hpublic : validPublicKey c.sshPublicKey = true) :
    Storable c := by
  refine ⟨h.setupComplete, ?_, hwifi.1, hwifi.2⟩
  obtain ⟨hssh, hsshLength⟩ := hbody.sshHost.length_host
  obtain ⟨hremote, -⟩ := hbody.remoteBindHost.length_host
  obtain ⟨hlocal, -⟩ := hbody.localHost.length_host
  have huser : (buildSid chipId).isEmpty = false := by
    rw [List.isEmpty_eq_false_iff]
    exact List.ne_nil_of_length_eq_add_one (length_buildSid chipId)
  rw [validDeviceConfig, h.sshHost, h.sshUsername, h.remoteBindHost, h.localHost, h.sshPort,
    h.remoteBindPort, h.localPort, hssh, hremote, hlocal, huser, hbody.sshPort.validPort,
    hbody.remoteBindPort.validPort, hbody.localPort.validPort, length_buildSid,
    decide_eq_false (Nat.not_lt.2 hsshLength), hauth, hkey, hpublic]
  rfl

@[simp] theorem sameText_self (t : Text) : sameText t t = true := by
  rw [sameText, beq_self_eq_true, beq_self_eq_true]
  rfl

theorem managedMacVendor_ofQueued (d : DeviceRuntimeConfig) (queued : QueuedManagedConfig) :
    managedMacVendor d (.ofQueued queued) =
      if queued.macVendorPresent then MacVendor.parse queued.macVendor else some d.macVendor := by
  rw [managedMacVendor, ManagedTunnelConfig.ofQueued]
  dsimp only
  split <;> rfl

/-- **A device that has the managed settings finds them unchanged.** -/
theorem Managed.unchanged (h : Managed chipId queued kept c) (hd : AtRuntime c d) :
    managedMacVendor d (.ofQueued queued) = some d.macVendor ∧
      Minis.unchanged d (.ofQueued queued) (buildSid chipId) d.macVendor = true := by
  obtain ⟨_, _, _, _, _, rfl⟩ := hd
  constructor
  · rw [managedMacVendor_ofQueued]
    have hvendor := h.macVendor
    split at hvendor
    · next hpresent =>
      rw [if_pos hpresent]
      exact hvendor
    · next hmissing => rw [if_neg hmissing]
  · rw [Minis.unchanged, ManagedTunnelConfig.ofQueued]
    dsimp only
    rw [h.setupComplete, h.tunnelEnabled, h.sshHost, h.sshPort, h.sshUsername, h.remoteBindHost,
      h.remoteBindPort, h.localHost, h.localPort]
    simp only [beq_self_eq_true, sameText_self, Bool.and_self]

/-- The merged configuration has them. -/
theorem managed_managedNext (chipId : UInt64)
    (h : managedMacVendor d (.ofQueued queued) = some vendor) (privateKey publicKey : Text) :
    Managed chipId queued d.macVendor
      { managedNext d (.ofQueued queued) (buildSid chipId) vendor with
        sshPrivateKey := privateKey
        sshPublicKey := publicKey } where
  setupComplete := rfl
  tunnelEnabled := rfl
  sshHost := rfl
  sshPort := rfl
  sshUsername := rfl
  remoteBindHost := rfl
  remoteBindPort := rfl
  localHost := rfl
  localPort := rfl
  macVendor := by
    rw [← managedMacVendor_ofQueued]
    exact h

end Settings

/-! ### Applying them -/

/-- What was printed to a file. -/
def printsTo (path : Path) (done : FlashTrace) : FlashTrace :=
  done.filter fun
    | .call _ _ _ (.print p _) _ => p = path
    | _ => false

section Applying

variable {chipId : UInt64} {d c : DeviceRuntimeConfig} {s : MinisState}
  {queued : QueuedManagedConfig} {vendor : MacVendor} {w : FlashWorld}

/-- `writeConfig` prints to the temporary file only. -/
theorem preserves_printsTo_writeConfig (c : DeviceRuntimeConfig) :
    Preserves (fun w : FlashWorld ↦
      PrintedInFull (printsTo .configTemp w.trace) → PrintedInFull w.trace) (writeConfig c) := by
  refine preserves_writeConfig_of ?_ (fun data ↦ ?_) (fun source target _ _ ↦ ?_) (fun p _ ↦ ?_) c
  · intro w hw
    refine wp_call_bind fun (r : Bool) t _ ↦ wp_ite (fun _ ↦ wp_modify_bind.2 (wp_pure ?_))
      fun _ ↦ wp_pure ?_
    · exact fun h ↦ ⟨trivial, hw h⟩
    · exact fun h ↦ ⟨trivial, hw h⟩
  · intro w hw
    refine wp_call_bind fun r t _ ↦ wp_modify_bind.2 (wp_pure ?_)
    exact fun h ↦ ⟨h.1, hw h.2⟩
  · intro w hw
    refine wp_call_bind fun r t _ ↦ wp_get_bind.2 (wp_ite (fun _ ↦ wp_modify_bind.2 (wp_pure ?_))
      fun _ ↦ wp_pure ?_)
    · exact fun h ↦ ⟨trivial, hw h⟩
    · exact fun h ↦ ⟨trivial, hw h⟩
  · refine .bind (.get_bind fun _ ↦ .ret) fun _ ↦ .ite ?_ .ret
    intro w hw
    refine wp_call_bind fun (r : Bool) t _ ↦ wp_ite (fun _ ↦ wp_modify ?_) fun _ ↦ wp_pure ?_
    · exact fun h ↦ ⟨trivial, hw h⟩
    · exact fun h ↦ ⟨trivial, hw h⟩

/-- The notice is a file of its own. -/
theorem preserves_markConfigAppliedNotice {I : Flash → Prop}
    (hother : ∀ fs fs' : Flash, (∀ q, q ≠ .configAppliedNotice → fs' q = fs q) → I fs → I fs') :
    Preserves (fun w : FlashWorld ↦ PrintedInFull (printsTo .configTemp w.trace) → I w.st)
      markConfigAppliedNotice := by
  refine .bind ?_ fun _ ↦ .ite .ret (.bind ?_ fun _ ↦ .ret)
  · intro w hw
    refine wp_call_bind fun (r : Bool) t _ ↦ wp_ite (fun _ ↦ wp_modify_bind.2 (wp_pure ?_))
      fun _ ↦ wp_pure hw
    exact fun h ↦ hother _ _ (fun q hq ↦ Flash.write_ne hq) (hw h)
  · intro w hw
    refine wp_call_bind fun r t _ ↦ wp_modify_bind.2 (wp_pure ?_)
    exact fun h ↦ hother _ _ (fun q hq ↦ Flash.append_ne hq) (hw h)

/-- The configuration is stored, and the keys are those that there were. -/
structure StoredNext (fs : Flash) (c : DeviceRuntimeConfig) (fs' : Flash) : Prop where
  /-- The configuration. -/
  config : fs' .config = some (serialize c)
  /-- The private key. -/
  key : fs' .key = fs .key
  /-- The public key. -/
  publicKey : fs' .publicKey = fs .publicKey

/-- A configuration that was printed in full is stored. -/
theorem wp_saveManagedConfig (fs : Flash) (hc : c.setupComplete = true) :
    wp (saveManagedConfig c) (fun ok w' ↦ ok = true →
      PrintedInFull (printsTo .configTemp w'.trace) → StoredNext fs c w'.st) (powerOn fs) := by
  have hwrite : saveManagedConfig c = writeConfig c := by
    rw [saveManagedConfig, hc]
    rfl
  have hend := (wpc_writeConfig fs c).wp
  have hprints := preserves_printsTo_writeConfig c (powerOn fs) fun _ ↦ trivial
  have hkey := preserves_writeConfig (q := .key) (by decide) (by decide) (by decide) c
    (powerOn fs) rfl
  have hpublic := preserves_writeConfig (q := .publicKey) (by decide) (by decide) (by decide) c
    (powerOn fs) rfl
  rw [hwrite]
  refine wp_mono (wp_and hend (wp_and hprints (wp_and hkey hpublic))) ?_
  rintro ok w' ⟨hend, hprints, hkey, hpublic⟩ rfl hfull
  exact ⟨(hend.done rfl).2.2 (hprints hfull), hkey, hpublic⟩

/-- **A restart follows a configuration that is stored.** -/
theorem wp_applyPendingMinisConfig (chipId : UInt64) (d : DeviceRuntimeConfig) (fs : Flash)
    (hs : s.managedConfigQueue = some (some queued)) :
    wp (applyPendingMinisConfig chipId d s) (fun r w' ↦ ∀ noticed, r.1 = .restart noticed →
      ∃ vendor, managedMacVendor d (.ofQueued queued) = some vendor ∧
        d.sshAuthMethod = .privateKey ∧
        (PrintedInFull (printsTo .configTemp w'.trace) →
          StoredNext fs (managedNext d (.ofQueued queued) (buildSid chipId) vendor) w'.st))
      (powerOn fs) := by
  have htake : takeManagedTunnelConfig s =
      (some (.ofQueued queued), { s with managedConfigQueue := some none }) := by
    rw [takeManagedTunnelConfig, hs]
  rw [applyPendingMinisConfig, htake]
  dsimp only
  rcases managedMacVendor d (.ofQueued queued) with - | vendor
  · exact wp_pure nofun
  refine wp_ite (fun _ ↦ wp_pure nofun) fun _ ↦ ?_
  refine wp_ite (fun _ ↦ wp_pure nofun) fun hauth ↦ ?_
  refine wp_bind (wp_mono (wp_saveManagedConfig fs rfl) fun ok w' hstored ↦ ?_)
  refine wp_ite (fun _ ↦ wp_pure nofun) fun hok ↦ ?_
  rw [Bool.not_eq_true, Bool.not_eq_false'] at hok
  refine wp_bind (wp_mono (preserves_markConfigAppliedNotice ?_ w' (hstored hok)) ?_)
  · intro fs₁ fs₂ hsame h
    exact ⟨(hsame _ (by decide)).trans h.config, (hsame _ (by decide)).trans h.key,
      (hsame _ (by decide)).trans h.publicKey⟩
  · exact fun noticed w'' h ↦ wp_pure fun _ _ ↦ ⟨vendor, rfl, not_not.1 hauth, h⟩

/-- When nothing has changed, nothing is done. -/
theorem applyPendingMinisConfig_unchanged (hs : s.managedConfigQueue = some (some queued))
    (hvendor : managedMacVendor d (.ofQueued queued) = some vendor)
    (hsame : unchanged d (.ofQueued queued) (buildSid chipId) vendor = true) :
    applyPendingMinisConfig chipId d s =
      pure (.unchanged, { s with managedConfigQueue := some none }) := by
  have htake : takeManagedTunnelConfig s =
      (some (.ofQueued queued), { s with managedConfigQueue := some none }) := by
    rw [takeManagedTunnelConfig, hs]
  rw [applyPendingMinisConfig, htake]
  dsimp only
  rw [hvendor]
  dsimp only
  rw [if_pos hsame]

end Applying

/-! ### One restart -/

/-- The device restarts because of a body: it runs with a configuration that it has loaded, its key
files are good, whatever else has happened to its files since, and it stored what the body says in
full. -/
structure ManagedRestart (chipId : UInt64) (body : Text) (d : DeviceRuntimeConfig) (fs : Flash)
    (w : FlashWorld) : Prop where
  /-- The configuration was loaded. -/
  loaded : ∃ fs₀ e c, ((loadConfig {}).run e (powerOn fs₀)).1 = (true, c) ∧ AtRuntime c d
  /-- The key files are good. -/
  keys : (loadKeys fs [] []).1 = true
  /-- The body fits into the buffer. -/
  length : body.length < configBufferSize
  /-- It was accepted and applied. -/
  applied : ∃ s e noticed s', (refreshed s body).1 = true ∧
    (applyPendingMinisConfig chipId d (refreshed s body).2).run e (powerOn fs) =
      ((.restart noticed, s'), w)
  /-- There was room for the new configuration. -/
  full : PrintedInFull (printsTo .configTemp w.trace)

/-- A device with this chip that has loaded `c` has nothing to do for the body: a refresh with it is
accepted, and applying it changes nothing. -/
def Settled (chipId : UInt64) (body : Text) (c : DeviceRuntimeConfig) : Prop :=
  ∀ d s, AtRuntime c d → s.managedConfigQueue.isSome = true →
    (refreshed s body).1 = true ∧ ∀ e w,
      (applyPendingMinisConfig chipId d (refreshed s body).2).run e w =
        ((.unchanged, { (refreshed s body).2 with managedConfigQueue := some none }), w)

section Once

variable {chipId : UInt64} {body : Text} {interval : UInt16} {queued : QueuedManagedConfig}
  {kept vendor : MacVendor} {c d : DeviceRuntimeConfig} {fs fs' : Flash} {privateKey publicKey : Text}

theorem AtRuntime.refl (c : DeviceRuntimeConfig) : AtRuntime c c := ⟨_, _, _, _, _, rfl⟩

/-- The running firmware leaves the WiFi alone. -/
theorem AtRuntime.hasWifi (hd : AtRuntime c d) (h : HasWifi c) : HasWifi d := by
  obtain ⟨_, _, _, _, _, rfl⟩ := hd
  exact h

/-- **The next start loads the merged configuration**, with the keys that are in the files. -/
theorem loadConfig_managedNext (e : Env FileCall FileReply)
    (hbody : Describes body interval queued) (hwifi : HasWifi d)
    (hauth : d.sshAuthMethod = .privateKey)
    (hvendor : managedMacVendor d (.ofQueued queued) = some vendor)
    (hkeys : loadKeys fs [] [] = (true, privateKey, publicKey))
    (hstored : StoredNext fs (managedNext d (.ofQueued queued) (buildSid chipId) vendor) fs') :
    ((loadConfig {}).run e (powerOn fs')).1 =
      (true, { managedNext d (.ofQueued queued) (buildSid chipId) vendor with
        sshPrivateKey := privateKey
        sshPublicKey := publicKey }) := by
  have hmanaged := managed_managedNext chipId hvendor privateKey publicKey
  have hsame : loadKeys fs' [] [] = (true, privateKey, publicKey) := by
    rw [loadKeys, hstored.key, hstored.publicKey]
    exact hkeys
  obtain ⟨hholds, hkey, hpublic⟩ := holdsKeys_of_loadKeys
    (c := { managedNext d (.ofQueued queued) (buildSid chipId) vendor with
      sshPrivateKey := privateKey
      sshPublicKey := publicKey }) hsame rfl rfl
  refine loadConfig_serialize e (hmanaged.storable hbody hwifi hauth hkey hpublic) (fun _ ↦ hholds)
    (fun hpassword ↦ ?_) hstored.config
  exact absurd (hauth.symm.trans hpassword) (by decide)

/-- **A body is settled once the device has its settings.** -/
theorem Managed.settled (h : Managed chipId queued kept c) (hlen : body.length < configBufferSize)
    (hbody : Describes body.cString interval queued) : Settled chipId body c := by
  intro d s hd hqueue
  obtain ⟨q, hq⟩ := Option.isSome_iff_exists.1 hqueue
  obtain ⟨hvendor, hsame⟩ := h.unchanged hd
  have hrefreshed := refreshed_of_describes_cString hlen hbody hq
  rw [hrefreshed]
  refine ⟨rfl, fun e w ↦ ?_⟩
  dsimp only
  rw [applyPendingMinisConfig_unchanged rfl hvendor hsame]
  rfl

end Once

/-- **A managed configuration restarts the device once.** The next start loads a complete setup with
exactly the settings of the body, and from then on the body is settled: it is compared, and nothing is
written and nothing restarts. A vendor that the parser lets pass is one that the device knows. -/
theorem managed_config_restarts_once :
    (∀ vendor, isValidMacVendor vendor = true → ∃ mac, MacVendor.parse vendor = some mac) ∧
      ∀ chipId body d fs w, ManagedRestart chipId body d fs w → ∃ interval queued c,
        Describes body.cString interval queued ∧
          (∀ e, ((loadConfig {}).run e (powerOn w.st)).1 = (true, c)) ∧
          c.setupComplete = true ∧ Managed chipId queued d.macVendor c ∧
          c.wifiSsid = d.wifiSsid ∧ c.wifiPassword = d.wifiPassword ∧ Settled chipId body c := by
  refine ⟨fun _ ↦ parse_of_isValidMacVendor, ?_⟩
  intro chipId body d fs w h
  obtain ⟨fs₀, e₀, c₀, hload, hd⟩ := h.loaded
  obtain ⟨s, e, noticed, s', haccept, hrun⟩ := h.applied
  obtain ⟨interval, queued, hbody, hrefreshed⟩ := describes_of_refreshed h.length haccept
  have hwifi := hd.hasWifi (hasWifi_loadConfig hload)
  -- The run of the whole has stored the merged configuration.
  have hqueued : (MinisState.mk interval (some (some queued))).managedConfigQueue =
      some (some queued) := rfl
  have happly := wp_applyPendingMinisConfig chipId d fs hqueued e
  rw [hrefreshed] at hrun
  rw [hrun] at happly
  obtain ⟨vendor, hvendor, hauth, hstored⟩ := happly noticed rfl
  obtain ⟨privateKey, publicKey, hkeys⟩ : ∃ privateKey publicKey,
      loadKeys fs [] [] = (true, privateKey, publicKey) := ⟨_, _, Prod.ext h.keys rfl⟩
  have hmanaged := managed_managedNext chipId hvendor privateKey publicKey
  refine ⟨interval, queued, _, hbody, fun e' ↦ ?_, rfl, hmanaged, rfl, rfl,
    hmanaged.settled h.length hbody⟩
  exact loadConfig_managedNext e' hbody hwifi hauth hvendor hkeys (hstored h.full)

/-- A device that is set up with a key. -/
def keyDevice : Flash
  | .config => some (serialize oddConfig)
  | .key => some oddConfig.sshPrivateKey
  | _ => none

/-- What it leaves when it applies a body. -/
def keyDeviceAfter (body : Text) : FlashWorld :=
  (applyPendingMinisConfig 0 oddConfig (refreshed ⟨60, some none⟩ body).2).exec sunny
    (powerOn keyDevice)

theorem loadConfig_keyDevice :
    ((loadConfig {}).run sunny (powerOn keyDevice)).1 = (true, oddConfig) :=
  loadConfig_serialize sunny ⟨by decide, by decide +kernel, by decide, by decide⟩
    (fun _ ↦ ⟨rfl, by decide⟩) (fun h ↦ absurd h (by decide)) rfl

theorem run_of_applied {m : FlashM (Applied × MinisState)} {e : Env FileCall FileReply}
    {w : FlashWorld} {a : Applied} (h : (m.run e w).1.1 = a) :
    m.run e w = ((a, (m.run e w).1.2), m.exec e w) :=
  Prod.ext (Prod.ext h rfl) rfl

theorem managed_config_restarts_once_plainBody :
    ∃ queued c, ((loadConfig {}).run sunny (powerOn (keyDeviceAfter plainBody).st)).1 = (true, c) ∧
      Managed 0 queued .hp c ∧ Settled 0 plainBody c := by
  obtain ⟨-, queued, c, -, hload, -, hmanaged, -, -, hsettled⟩ := managed_config_restarts_once.2 0
    plainBody oddConfig keyDevice (keyDeviceAfter plainBody)
    { loaded := ⟨keyDevice, sunny, oddConfig, loadConfig_keyDevice, .refl _⟩
      keys := by decide +kernel
      length := by decide +kernel
      applied := ⟨⟨60, some none⟩, sunny, true, _, by decide +kernel,
        run_of_applied (by decide +kernel)⟩
      full := by decide +kernel }
  exact ⟨queued, c, hload sunny, hmanaged, hsettled⟩

end Minis

end ReverseTunnel

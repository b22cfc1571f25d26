import ReverseTunnel.Guarantees.SetupPortal

/-!
# The network is not lost

A device that is set up can be cut off at any time, in the middle of a request as well, and it starts
again then. What it must not lose is the network it can be reached in. It never does: from the first
network that was saved on, every start finds the **last** one, or one whose saving was cut off. What else
is stored depends on why the network was changed. A WiFi reset keeps the whole setup; otherwise the tunnel
has to be set up again.
-/

namespace ReverseTunnel

open Traced

namespace Provisioning

/-! ### What the loader makes of a network -/

section Loader

variable {c : DeviceRuntimeConfig} {fs : Flash} {l : Loading}

/-- The keys do not change the network. -/
theorem network_finishKeys (fs : Flash) (c : DeviceRuntimeConfig) :
    (Loading.finishKeys fs c).1 = true ∧ network (Loading.finishKeys fs c).2 = network c := by
  rw [Loading.finishKeys]
  split
  · simp only
    split <;> exact ⟨rfl, rfl⟩
  · exact ⟨rfl, rfl⟩

/-- Nor do the settings of the tunnel, whether they are valid or not. -/
theorem network_finishTunnel (fs : Flash) (l : Loading) :
    (l.finishTunnel fs).1 = true ∧ network (l.finishTunnel fs).2 = network l.c := by
  rw [Loading.finishTunnel]
  simp only
  split
  · exact ⟨rfl, rfl⟩
  · split
    · exact ⟨rfl, rfl⟩
    · split
      · exact ⟨rfl, rfl⟩
      · exact network_finishKeys _ _

theorem network_finishSetup (fs : Flash) (l : Loading) :
    (l.finishSetup fs).1 = true ∧ network (l.finishSetup fs).2 = network l.c := by
  rw [Loading.finishSetup]
  split
  · exact ⟨rfl, rfl⟩
  · split
    · split
      · exact ⟨rfl, rfl⟩
      · exact network_finishTunnel _ _
    · exact network_finishTunnel _ _

/-- What is loaded has a network. -/
theorem networked_finish (h : (l.finish fs).1 = true) : Networked (l.finish fs).2 := by
  rw [Loading.finish] at h ⊢
  split at h
  · cases h
  · next hgood =>
    have hl : ∀ vendor, Networked { l.c with macVendor := vendor } := by
      intro vendor
      simp only [not_or, List.isEmpty_iff] at hgood
      obtain ⟨-, -, hsome, hlong, hpassword⟩ := hgood
      have hpos : 0 < l.c.wifiSsid.length := List.length_pos_iff.2 hsome
      exact ⟨⟨hpos, not_lt.1 hlong⟩, not_lt.1 hpassword⟩
    rw [if_neg hgood]
    split at h
    · next hversion =>
      rw [if_pos hversion]
      split at h
      · cases h
      · next vendor hvendor =>
        exact (hl vendor).of_network (network_finishSetup _ _).2
    · next hversion =>
      rw [if_neg hversion]
      exact (hl .original).of_network (network_finishSetup _ _).2

/-- What is done with a file of the present version. -/
theorem finish_of_networked {vendor : MacVendor} (hversion : l.version = 4) (hl : Networked l.c)
    (hvendor : MacVendor.parse l.macVendor = some vendor) :
    l.finish fs = Loading.finishSetup fs { l with c := { l.c with macVendor := vendor } } := by
  have hsome : l.c.wifiSsid.isEmpty = false := by
    rw [List.isEmpty_eq_false_iff]
    exact List.length_pos_iff.1 hl.ssid.1
  have hgood : ¬(l.version < 1 ∨ l.version > 4 ∨ l.c.wifiSsid.isEmpty = true ∨
      l.c.wifiSsid.length > 32 ∨ l.c.wifiPassword.length > 63) := by
    have hssid := hl.ssid
    have hpassword := hl.password
    rw [hversion, hsome]
    simp only [Bool.false_eq_true, false_or]
    omega
  rw [Loading.finish, if_neg hgood, if_pos (by omega), hvendor]

/-- An incomplete setup is left at that. -/
theorem finishSetup_incomplete (h : l.complete.equals "1" = false) :
    l.finishSetup fs = (true, l.c) := by
  rw [Loading.finishSetup, if_pos]
  rw [h]
  exact .inr rfl

/-- What is known when the lines of an incomplete configuration were read. -/
def storedNetwork (c : DeviceRuntimeConfig) : Loading where
  c := { wifiSsid := c.wifiSsid, wifiPassword := c.wifiPassword }
  version := 4
  complete := ascii "0"
  macVendor := c.macVendor.configValue

theorem readLines_incomplete (hc : c.setupComplete = false) :
    Loading.readLines { c := {} } (serialize c).fileLines = (true, storedNetwork c) := by
  have hversion : (ascii "4").toInt = 4 := by decide
  rw [serialize, fileLines_settingLines, readLines_settings, settings, hc, storedNetwork, ← hversion]
  rfl

/-- An incomplete configuration is loaded as far as the network goes. -/
theorem readConfig_incomplete (hc : c.setupComplete = false) (hnetwork : Networked c) :
    readConfig fs (serialize c) {} = (true, {
      wifiSsid := c.wifiSsid
      wifiPassword := c.wifiPassword
      macVendor := c.macVendor }) := by
  have hvendor : MacVendor.parse (storedNetwork c).macVendor = some c.macVendor :=
    MacVendor.parse_configValue _
  have hzero : (ascii "0").equals "1" = false := by decide
  rw [readConfig, readLines_incomplete hc]
  show (storedNetwork c).finish fs = _
  rw [finish_of_networked rfl ⟨hnetwork.ssid, hnetwork.password⟩ hvendor]
  exact finishSetup_incomplete hzero

/-- **The network is read as it was written**, whatever became of the rest. -/
theorem network_readConfig (fs : Flash) (h : Networked c) :
    (readConfig fs (serialize c) {}).1 = true ∧
      network (readConfig fs (serialize c) {}).2 = network c := by
  cases hc : c.setupComplete with
  | false =>
    rw [readConfig_incomplete hc h]
    exact ⟨rfl, rfl⟩
  | true =>
    have hvendor : MacVendor.parse (stored c {}).macVendor = some c.macVendor :=
      MacVendor.parse_configValue _
    rw [readConfig, readLines_serialize hc]
    show ((stored c {}).finish fs).1 = true ∧ network ((stored c {}).finish fs).2 = _
    rw [finish_of_networked rfl ⟨h.ssid, h.password⟩ hvendor]
    exact network_finishSetup _ _

/-- A start that is cut off has not done anything, and what it loads has a network. -/
theorem wpc_loadConfig (fs : Flash) :
    wpc (loadConfig {}) (fun r w ↦ (r.1 = true → Networked r.2) ∧ (¬Refused w.trace →
        w.st .config = nextConfig fs ∧
        ∀ text, nextConfig fs = some text → r = readConfig w.st text {}))
      (fun s _ ↦ s = fs) (powerOn fs) := by
  have hload : wpc (loadConfig {}) (fun r _ ↦ r.1 = true → Networked r.2) (fun s _ ↦ s = fs)
      (powerOn fs) := by
    have hrecover : wpc recoverConfig (fun _ _ ↦ True) (fun s _ ↦ s = fs) (powerOn fs) := by
      refine wpc_fileExists_bind (wpc_fileExists_bind (wpc_ite ?_ ?_))
      · intro _
        exact wpc_rename_bind rfl (fun _ _ ↦ wpc_pure trivial) fun _ _ _ ↦ wpc_pure trivial
      · intro _
        refine wpc_ite ?_ fun _ ↦ wpc_pure trivial
        intro _
        have hpure : removeIfExists .configBackup = (removeIfExists .configBackup >>= pure) := rfl
        rw [hpure]
        exact wpc_cleared_bind rfl fun w' _ ↦ wpc_pure trivial
    refine wpc_bind (wpc_mono hrecover ?_ fun _ _ h ↦ h)
    intro _ w _
    refine wpc_get_bind ?_
    cases w.st .config with
    | none =>
      refine wpc_pure fun h ↦ ?_
      cases h
    | some text =>
      refine wpc_pure fun h ↦ ?_
      simp only [readConfig] at h ⊢
      split at h
      · cases h
      · next hgood =>
        rw [if_neg hgood]
        exact networked_finish h
  refine wpc_mono (hload.and_wp (wp_loadConfig fs {})) ?_ fun _ _ h ↦ h
  rintro r w ⟨hnetworked, hnext, -⟩
  exact ⟨hnetworked, fun hcalm ↦ hnext (.inl hcalm)⟩

end Loader

/-! ### One WiFi request -/

section Wifi

variable {c : DeviceRuntimeConfig} {arg : FormArgs} {connects : Bool} {portal portal' : WifiPortal}
  {fs fs' : Flash} {n : Network} {answer : PortalAnswer} {done : FlashTrace}

/-- What is taken from a form is a network. -/
theorem submitWifi_ok (portal : WifiPortal) (h : submitWifi arg = .ok n) :
    network (portal.connected n.1 n.2.1 n.2.2) = n ∧ Networked (portal.connected n.1 n.2.1 n.2.2) := by
  simp only [submitWifi] at h
  split at h
  · cases h
  · split at h
    · cases h
    · next hssid =>
      split at h
      · cases h
      · next hpassword =>
        rw [← Except.ok.inj h]
        simp only [Bool.or_eq_true, List.isEmpty_iff, decide_eq_true_eq, not_or, not_lt] at hssid
        refine ⟨rfl, ⟨List.length_pos_iff.2 hssid.1, hssid.2⟩, ?_⟩
        show (arg "password").length ≤ 63
        simp only [Bool.and_eq_true, Bool.not_eq_true', List.isEmpty_eq_false_iff, Bool.or_eq_true,
          decide_eq_true_eq, not_and, not_or, not_lt] at hpassword
        by_cases hempty : arg "password" = []
        · rw [hempty]
          exact Nat.zero_le _
        · exact (hpassword hempty).2

/-- The network of this request is the one to be stored. -/
structure Accepted (arg : FormArgs) (connects : Bool) (n : Network) : Prop where
  /-- It was taken from the form. -/
  submitted : submitWifi arg = .ok n
  /-- It can be reached. -/
  connects : connects = true

/-- How a WiFi request ends. -/
structure WifiEnd (portal : WifiPortal) (arg : FormArgs) (connects : Bool) (fs : Flash)
    (r : PortalAnswer × WifiPortal) (w : FlashWorld) : Prop where
  /-- Nothing is stored without a network. -/
  rejected : (∀ n, ¬Accepted arg connects n) → r.1 ≠ .restart ∧ r.1 ≠ .proceed ∧ r.2 = portal ∧
    w.st = fs
  /-- The network is stored. -/
  accepted : ∀ n, Accepted arg connects n → r.1 = .restart ∨ r.1 = .proceed →
    r.2 = { portal with
      current := portal.connected n.1 n.2.1 n.2.2
      wifiResetRequested := false } ∧
    r.1 = (if portal.wifiResetRequested && portal.current.setupComplete ||
      decide (n.2.2 ≠ portal.appliedVendor) then .restart else .proceed) ∧
    (PrintedInFull w.trace → w.st .config = some (serialize (portal.connected n.1 n.2.1 n.2.2)))
  /-- A page that complains. -/
  refused : r.1 ≠ .restart → r.1 ≠ .proceed → (∃ n, Accepted arg connects n) → Refused w.trace

/-- What is left of a WiFi request that was cut off. -/
def WifiCut (portal : WifiPortal) (arg : FormArgs) (connects : Bool) (fs : Flash) :
    CrashCondition Flash FileCall FileReply Empty := fun s done ↦
  ∃ n, Accepted arg connects n ∧ (Kept (fs .config) s ∨ (PrintedInFull done →
    s .config = some (serialize (portal.connected n.1 n.2.1 n.2.2))))

/-- A request without a network. -/
theorem wifiEnd_rejected {error : String} (h : ∀ n, ¬Accepted arg connects n) :
    WifiEnd portal arg connects fs (.wifiPage error, portal) (powerOn fs) := by
  refine ⟨fun _ ↦ ⟨?_, ?_, rfl, rfl⟩, fun n hn ↦ absurd hn (h n), fun _ _ hn ↦ ?_⟩
  · intro heq
    cases heq
  · intro heq
    cases heq
  · obtain ⟨n, hn⟩ := hn
    exact absurd hn (h n)

/-- A request whose network is stored. -/
theorem wifiEnd_stored {w : FlashWorld} (hn : Accepted arg connects n)
    (hanswer : answer = if portal.wifiResetRequested && portal.current.setupComplete ||
      decide (n.2.2 ≠ portal.appliedVendor) then .restart else .proceed)
    (hstored : PrintedInFull w.trace →
      w.st .config = some (serialize (portal.connected n.1 n.2.1 n.2.2))) :
    WifiEnd portal arg connects fs (answer, { portal with
      current := portal.connected n.1 n.2.1 n.2.2
      wifiResetRequested := false }) w := by
  refine ⟨fun hnone ↦ absurd hn (hnone n), ?_, ?_⟩
  · intro n' hn' _
    have hsame : n' = n := Except.ok.inj (hn'.submitted.symm.trans hn.submitted)
    rw [hsame]
    exact ⟨rfl, hanswer, hstored⟩
  · intro hrestart hproceed _
    rw [hanswer] at hrestart hproceed
    split at hrestart
    · exact absurd rfl hrestart
    · next hagain =>
      rw [if_neg hagain] at hproceed
      exact absurd rfl hproceed

theorem wpc_handleWifiSave (portal : WifiPortal) (arg : FormArgs) (connects : Bool) (fs : Flash) :
    wpc (handleWifiSave portal arg connects) (WifiEnd portal arg connects fs)
      (WifiCut portal arg connects fs) (powerOn fs) := by
  rw [handleWifiSave]
  cases hsubmit : submitWifi arg with
  | error error =>
    refine wpc_pure (wifiEnd_rejected fun n hn ↦ ?_)
    rw [hn.submitted] at hsubmit
    cases hsubmit
  | ok n =>
    obtain ⟨ssid, password, vendor⟩ := n
    refine wpc_ite ?_ ?_
    · intro hfail
      refine wpc_pure (wifiEnd_rejected fun n hn ↦ ?_)
      rw [hn.connects] at hfail
      cases hfail
    · intro hconnects
      have hn : Accepted arg connects (ssid, password, vendor) := ⟨hsubmit, by simpa using hconnects⟩
      have hwrite := wpc_writeConfig fs (portal.connected ssid password vendor)
      refine wpc_bind (wpc_mono hwrite ?_ fun s done h ↦ ⟨_, hn, h⟩)
      intro written w h
      refine wpc_ite ?_ ?_
      · intro hrefused
        have hfalse : written = false := by simpa using hrefused
        obtain ⟨hrefused, -⟩ := h.kept hfalse
        refine wpc_pure ⟨fun hnone ↦ absurd hn (hnone _), ?_, fun _ _ _ ↦ hrefused⟩
        rintro _ _ (hanswer | hanswer) <;> cases hanswer
      · intro hdone
        have htrue : written = true := by simpa using hdone
        have hstored := (h.done htrue).2.2
        refine wpc_ite ?_ ?_
        · intro hagain
          exact wpc_pure (wifiEnd_stored hn (if_pos hagain).symm hstored)
        · intro honce
          exact wpc_pure (wifiEnd_stored hn (if_neg honce).symm hstored)

end Wifi

/-! ### Whole runs -/

/-- All prints went in, and nothing was refused. -/
def PortalEvent.Calm (event : PortalEvent) : Prop := PrintedInFull event.done ∧ ¬Refused event.done

/-- The networks that may be stored after one more step. -/
def stepCandidates (old : List (Option Network)) :
    PortalStep × PortalEvent → List (Option Network)
  | (.saveWifi arg true, .wifiSaved r _) =>
    match submitWifi arg with
    | .error _ => old
    | .ok n => if r.isSome then [some n] else some n :: old
  | _ => old

/-- **The networks that may be stored**: the last one that was saved, and those whose saving was cut off
since. `none` is what was there in the beginning. -/
def candidates : PortalHistory → List (Option Network)
  | [] => [none]
  | x :: past => stepCandidates (candidates past) x

/-- The next start finds this network. -/
def Finds (fs : Flash) (n : Option Network) : Prop :=
  ∀ m, n = some m → ∃ c, nextConfig fs = some (serialize c) ∧ Networked c ∧ network c = m

/-- While a portal is active the configuration is in its place, and the variable has the same network. -/
structure Serving (fs : Flash) (n : Option Network) (a : ActivePortal) : Prop where
  /-- The files. -/
  stored : ∀ m, n = some m → ∃ c, fs .config = some (serialize c) ∧ Networked c ∧ network c = m
  /-- `*current` -/
  current : ∀ m, n = some m → network a.portal.current = m
  /-- The device page needs a network. -/
  networked : a.mode = .device ∨ a.transitionPending = true → Networked a.portal.current

/-- What is true of every state. -/
structure SetupInvariant (n : Option Network) (s : SetupState) : Prop where
  /-- The next start. -/
  finds : Finds s.fs n
  /-- The portal. -/
  serving : ∀ a, s.active = some a → Serving s.fs n a

section Steps

variable {n : Option Network} {a : ActivePortal}
  {arg : FormArgs} {connects : Bool} {done : FlashTrace}
  {old : List (Option Network)}

/-- A configuration that is in its place is found. -/
theorem Finds.of_config {fs : Flash} (h : ∀ m, n = some m → ∃ c, fs .config = some (serialize c) ∧
    Networked c ∧ network c = m) : Finds fs n := by
  intro m hm
  obtain ⟨c, hstored, hnetwork⟩ := h m hm
  exact ⟨c, nextConfig_of_config hstored, hnetwork⟩

/-- A configuration that was in its place is found after a step that kept it. -/
theorem Finds.of_kept {fs fs' : Flash} (h : ∀ m, n = some m → ∃ c, fs .config = some (serialize c) ∧
    Networked c ∧ network c = m) (hkept : Kept (fs .config) fs') : Finds fs' n := by
  intro m hm
  obtain ⟨c, hstored, hnetwork⟩ := h m hm
  rw [hstored] at hkept
  exact ⟨c, nextConfig_of_kept hkept, hnetwork⟩

/-- **A start** finds the network. -/
theorem invariant_start {r : Option (Bool × DeviceRuntimeConfig)} {fs fs' : Flash}
    {active : Option ActivePortal} (h : Finds fs n)
    (hload : Halts (loadConfig {}) (powerOn fs) r fs' done) (hcalm : ¬Refused done)
    (hactive : startedPortal r active) : SetupInvariant n ⟨fs', active⟩ := by
  have hwpc := wpc_loadConfig fs
  cases hload with
  | returned e =>
    obtain ⟨hnetworked, hnext⟩ := (hwpc e).1
    obtain ⟨hconfig, hread⟩ := hnext hcalm
    have hstored : ∀ m, n = some m → ∃ c, ((loadConfig {}).exec e (powerOn fs)).st .config =
        some (serialize c) ∧ Networked c ∧ network c = m := by
      intro m hm
      obtain ⟨c, hc, hnetwork⟩ := h m hm
      exact ⟨c, hconfig.trans hc, hnetwork⟩
    refine ⟨.of_config hstored, fun a ha ↦ ⟨hstored, ?_, ?_⟩⟩
    · intro m hm
      obtain ⟨-, -, loaded, hr, -, -⟩ := hactive a ha
      obtain ⟨c, hc, hnetworked', hnetwork⟩ := h m hm
      have hcurrent := hread _ hc
      rw [Option.some.inj hr] at hcurrent
      rw [show a.portal.current = _ from congrArg Prod.snd hcurrent, ← hnetwork]
      exact (network_readConfig _ hnetworked').2
    · intro hdevice
      obtain ⟨hidle, -, loaded, hr, hmode, -⟩ := hactive a ha
      rw [Option.some.inj hr] at hnetworked
      refine hnetworked (Bool.not_eq_false _ ▸ fun hfail ↦ ?_)
      rcases hdevice with hdevice | hpending
      · rw [hmode (.inr hfail)] at hdevice
        cases hdevice
      · rw [hidle] at hpending
        cases hpending
  | cut e x past hx =>
    have hsame : x.pre = fs := (hwpc e).2 x past hx
    rw [hsame]
    refine ⟨h, fun a ha ↦ ?_⟩
    obtain ⟨-, -, loaded, hr, -⟩ := hactive a ha
    cases hr

/-- A network that was saved is the only one. -/
theorem stepCandidates_saved {m : Network} (hm : Accepted arg connects m)
    (r : PortalAnswer × WifiPortal) :
    stepCandidates old (.saveWifi arg connects, .wifiSaved (some r) done) = [some m] := by
  rw [hm.connects, stepCandidates, hm.submitted]
  rfl

/-- One whose saving was cut off is one more. -/
theorem stepCandidates_cut {m : Network} (hm : Accepted arg connects m) :
    stepCandidates old (.saveWifi arg connects, .wifiSaved none done) = some m :: old := by
  rw [hm.connects, stepCandidates, hm.submitted]
  rfl

/-- Nothing new without a network. -/
theorem stepCandidates_rejected (h : ∀ n, ¬Accepted arg connects n)
    (r : Option (PortalAnswer × WifiPortal)) :
    stepCandidates old (.saveWifi arg connects, .wifiSaved r done) = old := by
  cases connects with
  | false => rfl
  | true =>
    cases hsubmit : submitWifi arg with
    | error error => rw [stepCandidates, hsubmit]
    | ok m => exact absurd ⟨hsubmit, rfl⟩ (h m)

/-- The variables that a request leaves are those of the portal from then on. -/
theorem portal_of_wifiPortalAfter {a' : ActivePortal} {r : PortalAnswer × WifiPortal}
    (h : wifiPortalAfter a (some r) = some a') :
    a'.portal = r.2 ∧ (r.1 ≠ .proceed → a' = { a with portal := r.2 }) := by
  obtain ⟨answer, portal⟩ := r
  cases answer with
  | restart => cases h
  | proceed =>
    rw [← Option.some.inj h]
    exact ⟨rfl, fun hne ↦ absurd rfl hne⟩
  | wifiPage error =>
    rw [← Option.some.inj h]
    exact ⟨rfl, fun _ ↦ rfl⟩
  | devicePage error =>
    rw [← Option.some.inj h]
    exact ⟨rfl, fun _ ↦ rfl⟩

/-- **A WiFi request** leaves the network that was stored, or its own. -/
theorem invariant_saveWifi {r : Option (PortalAnswer × WifiPortal)} {fs fs' : Flash}
    (h : Serving fs n a) (hn : n ∈ old)
    (hsave : Halts (handleWifiSave a.portal arg connects) (powerOn fs) r fs' done)
    (hcalm : (PortalEvent.wifiSaved r done).Calm) :
    ∃ n' ∈ stepCandidates old (.saveWifi arg connects, .wifiSaved r done),
      SetupInvariant n' ⟨fs', wifiPortalAfter a r⟩ := by
  obtain ⟨hfull, hcalm⟩ := hcalm
  have hwpc := wpc_handleWifiSave a.portal arg connects fs
  by_cases haccepted : ∃ n, Accepted arg connects n
  · obtain ⟨m, hm⟩ := haccepted
    obtain ⟨hsame, hnetworked⟩ := submitWifi_ok a.portal hm.submitted
    cases hsave with
    | returned e =>
      have hanswer : ((handleWifiSave a.portal arg connects).run e (powerOn fs)).1.1 = .restart ∨
          ((handleWifiSave a.portal arg connects).run e (powerOn fs)).1.1 = .proceed := by
        by_contra hpage
        rw [not_or] at hpage
        exact hcalm ((hwpc e).1.refused hpage.1 hpage.2 ⟨m, hm⟩)
      obtain ⟨hportal, -, hstored⟩ := (hwpc e).1.accepted m hm hanswer
      have hstored' : ∀ m', some m = some m' → ∃ c,
          ((handleWifiSave a.portal arg connects).exec e (powerOn fs)).st .config =
            some (serialize c) ∧ Networked c ∧ network c = m' := by
        rintro m' hm'
        exact ⟨_, hstored hfull, hnetworked, hsame.trans (Option.some.inj hm')⟩
      refine ⟨some m, ?_, .of_config hstored', fun a' ha' ↦ ?_⟩
      · rw [stepCandidates_saved hm]
        exact List.mem_singleton.2 rfl
      · have ha : a'.portal.current = a.portal.connected m.1 m.2.1 m.2.2 := by
          rw [(portal_of_wifiPortalAfter ha').1, hportal]
        refine ⟨hstored', fun m' hm' ↦ ?_, fun _ ↦ ?_⟩
        · rw [ha, hsame, Option.some.inj hm']
        · rw [ha]
          exact hnetworked
    | cut e x past hx =>
      obtain ⟨m', hm', hcut⟩ := (hwpc e).2 x past hx
      obtain ⟨hsame', hnetworked'⟩ := submitWifi_ok a.portal hm'.submitted
      have hoff : ∀ a', wifiPortalAfter a none = some a' → False := by
        intro a' ha'
        cases ha'
      rw [stepCandidates_cut hm']
      rcases hcut with hkept | hnew
      · exact ⟨n, List.mem_cons_of_mem _ hn, .of_kept h.stored hkept,
          fun a' ha' ↦ (hoff a' ha').elim⟩
      · refine ⟨some m', List.mem_cons_self .., .of_config fun m'' hm'' ↦ ?_,
          fun a' ha' ↦ (hoff a' ha').elim⟩
        exact ⟨_, hnew hfull, hnetworked', hsame'.trans (Option.some.inj hm'')⟩
  · have hnone : ∀ n, ¬Accepted arg connects n := fun n hn ↦ haccepted ⟨n, hn⟩
    rw [stepCandidates_rejected hnone]
    refine ⟨n, hn, ?_⟩
    cases hsave with
    | returned e =>
      obtain ⟨-, hproceed, hportal, hsame⟩ := (hwpc e).1.rejected hnone
      rw [show ((handleWifiSave a.portal arg connects).exec e (powerOn fs)).st = fs from hsame]
      refine ⟨.of_config h.stored, fun a' ha' ↦ ?_⟩
      rw [(portal_of_wifiPortalAfter ha').2 hproceed, hportal]
      exact h
    | cut e x past hx =>
      obtain ⟨m, hm, -⟩ := (hwpc e).2 x past hx
      exact absurd hm (hnone m)

/-- **A pair is stored** beside the configuration, wherever that ends. -/
theorem wpc_persistKeyPair_config (w : FlashWorld) (p q : Text) :
    wpc (persistKeyPair p q) (fun _ w' ↦ w'.st .config = w.st .config) (Untouched (w.st .config))
      w := by
  have hdiscard : ∀ {w' : FlashWorld} (path : Path), path ≠ .config → w'.st .config = w.st .config →
      wpc (discardKeys path) (fun _ w' ↦ w'.st .config = w.st .config) (Untouched (w.st .config))
        w' := by
    intro w' path hpath hw
    refine wpc_removeFile_bind hw fun w₁ h₁ _ ↦ ?_
    have hw₁ : w₁.st .config = w.st .config := (h₁ _ hpath.symm).trans hw
    exact wpc_removeFile_bind hw₁ fun w₂ h₂ _ ↦ wpc_pure ((h₂ _ (by decide)).trans hw₁)
  refine wpc_removeFile_bind rfl fun w₁ h₁ _ ↦ ?_
  have hw₁ : w₁.st .config = w.st .config := h₁ _ (by decide)
  refine wpc_removeFile_bind hw₁ fun w₂ h₂ _ ↦ ?_
  have hw₂ : w₂.st .config = w.st .config := (h₂ _ (by decide)).trans hw₁
  refine wpc_writeFile_bind (fun s _ hs ↦ (hs _ (by decide)).trans hw₂) ?_ ?_
  · intro w₃ h₃ _
    have hw₃ : w₃.st .config = w.st .config := (h₃ _ (by decide)).trans hw₂
    refine wpc_writeFile_bind (fun s _ hs ↦ (hs _ (by decide)).trans hw₃) ?_ ?_
    · intro w₄ h₄ _
      have hw₄ : w₄.st .config = w.st .config := (h₄ _ (by decide)).trans hw₃
      refine wpc_removeFile_bind hw₄ fun w₅ h₅ _ ↦ ?_
      have hw₅ : w₅.st .config = w.st .config := (h₅ _ (by decide)).trans hw₄
      refine wpc_removeFile_bind hw₅ fun w₆ h₆ _ ↦ ?_
      have hw₆ : w₆.st .config = w.st .config := (h₆ _ (by decide)).trans hw₅
      refine wpc_renameFile_bind (by decide) hw₆ ?_ ?_
      · intro w₇ h₇ _ _
        have hw₇ : w₇.st .config = w.st .config := (h₇ _ (by decide) (by decide)).trans hw₆
        refine wpc_renameFile_bind (by decide) hw₇ ?_ ?_
        · intro w₈ h₈ _ _
          exact wpc_pure ((h₈ _ (by decide) (by decide)).trans hw₇)
        · intro w₈ h₈
          exact hdiscard _ (by decide) (by rw [h₈, hw₇])
      · intro w₇ h₇
        exact hdiscard _ (by decide) (by rw [h₇, hw₆])
    · intro w₄ h₄
      exact hdiscard _ (by decide) ((h₄ _ (by decide)).trans hw₃)
  · intro w₃ h₃
    exact hdiscard _ (by decide) ((h₃ _ (by decide)).trans hw₂)

/-- What is stored and what is known of the network stay when the device gets an identity. -/
theorem wpc_ensure_config (m : MbedTls) (opens : Path → Bool) (config : DeviceRuntimeConfig)
    (fs : Flash) :
    wpc (ensure m opens config)
      (fun r w ↦ network r.2 = network config ∧ w.st .config = fs .config) (Untouched (fs .config))
      (powerOn fs) := by
  refine wpc_get_bind ?_
  rcases loadExisting opens (powerOn fs).st with - | ⟨privateKey, publicKey⟩
  · rcases generateKeyPair m with - | ⟨privateKey, publicKey⟩
    · exact wpc_pure ⟨rfl, rfl⟩
    · refine wpc_bind (wpc_mono (wpc_persistKeyPair_config _ _ _) ?_ fun _ _ hK ↦ hK)
      intro persisted w hw
      exact wpc_ite (fun _ ↦ wpc_pure ⟨rfl, hw⟩) fun _ ↦ wpc_pure ⟨rfl, hw⟩
  · exact wpc_pure ⟨rfl, rfl⟩

/-- **An identity** leaves the network. -/
theorem invariant_ensure {m : MbedTls} {opens : Path → Bool}
    {r : Option (Bool × DeviceRuntimeConfig)} {fs fs' : Flash} (h : Serving fs n a)
    (hensure : Halts (ensure m opens a.portal.current) (powerOn fs) r fs' done) :
    SetupInvariant n ⟨fs', identityAfter a r⟩ := by
  have hwpc := wpc_ensure_config m opens a.portal.current fs
  have hstored : fs' .config = fs .config → ∀ m', n = some m' → ∃ c, fs' .config =
      some (serialize c) ∧ Networked c ∧ network c = m' := by
    intro hsame m' hm'
    rw [hsame]
    exact h.stored m' hm'
  cases hensure with
  | returned e =>
    obtain ⟨hnetwork, hsame⟩ := (hwpc e).1
    refine ⟨.of_config (hstored hsame), fun a' ha' ↦ ?_⟩
    rw [← Option.some.inj ha']
    exact ⟨hstored hsame, fun m' hm' ↦ hnetwork.trans (h.current m' hm'),
      fun hdevice ↦ (h.networked hdevice).of_network hnetwork⟩
  | cut e x past hx =>
    refine ⟨.of_config (hstored ((hwpc e).2 x past hx)), fun a' ha' ↦ ?_⟩
    cases ha'

/-- After a page the portal goes on. -/
theorem devicePortalAfter_page {answer : PortalAnswer} (h : answer ≠ .restart) :
    devicePortalAfter a (some answer) = some a := by
  cases answer with
  | restart => exact absurd rfl h
  | wifiPage error => rfl
  | devicePage error => rfl
  | proceed => rfl

/-- **A device request** leaves the network. -/
theorem invariant_saveDevice {r : Option PortalAnswer} {fs fs' : Flash} (h : Serving fs n a)
    (hdevice : a.mode = .device)
    (hsave : Halts (saveDevice a.portal.current arg) (powerOn fs) r fs' done)
    (hcalm : (PortalEvent.deviceSaved r done).Calm) :
    SetupInvariant n ⟨fs', devicePortalAfter a r⟩ := by
  obtain ⟨hfull, hcalm⟩ := hcalm
  have hwpc := wpc_saveDevice a.portal.current arg (powerOn fs)
  have hnetworked := h.networked (.inl hdevice)
  -- What is stored has the network of the variable, which is the one that was stored.
  have hsubmitted : ∀ c, submitDevice a.portal.current arg = .ok c →
      fs' .config = some (serialize (forStorage c)) → Finds fs' n := by
    intro c hsubmit hstored
    have hsame : network (forStorage c) = network a.portal.current :=
      (forStorage_spec c).2.1.trans (submitDevice_ok hsubmit).2.2
    refine .of_config fun m hm ↦ ⟨_, hstored, hnetworked.of_network hsame, ?_⟩
    rw [hsame, h.current m hm]
  cases hsave with
  | returned e =>
    obtain ⟨hrestart, hpage⟩ := (hwpc e).1
    by_cases hanswer : ((saveDevice a.portal.current arg).run e (powerOn fs)).1 = .restart
    · obtain ⟨c, hsubmit, hstored, -⟩ := hrestart hanswer
      rw [hanswer]
      refine ⟨hsubmitted c hsubmit (hstored hfull), fun a' ha' ↦ ?_⟩
      cases ha'
    · rcases hpage hanswer with hsame | ⟨-, hrefused⟩
      · have hstored : ∀ m, n = some m → ∃ c,
            ((saveDevice a.portal.current arg).exec e (powerOn fs)).st .config = some (serialize c) ∧
              Networked c ∧ network c = m := by
          intro m hm
          obtain ⟨c, hc, hnetwork⟩ := h.stored m hm
          exact ⟨c, hsame.trans hc, hnetwork⟩
        refine ⟨.of_config hstored, fun a' ha' ↦ ?_⟩
        rw [devicePortalAfter_page hanswer] at ha'
        rw [← Option.some.inj ha']
        exact ⟨hstored, h.current, h.networked⟩
      · exact absurd hrefused hcalm
  | cut e x past hx =>
    refine ⟨?_, fun a' ha' ↦ ?_⟩
    · rcases (hwpc e).2 x past hx with hkept | ⟨c, hsubmit, hstored⟩
      · exact .of_kept h.stored hkept
      · exact hsubmitted c hsubmit (hstored hfull)
    · cases ha'

/-- **One step** keeps the invariant, for one of the networks that may be stored then. -/
theorem invariant_step {s s' : SetupState} {op : PortalStep} {ans : PortalEvent} (hn : n ∈ old)
    (h : SetupInvariant n s) (hstep : portalSystem.step s op ans s') (hcalm : ans.Calm) :
    ∃ n' ∈ stepCandidates old (op, ans), SetupInvariant n' s' := by
  obtain ⟨fs, active⟩ := s
  obtain ⟨fs', active'⟩ := s'
  cases op with
  | start =>
    cases ans with
    | started r done =>
      obtain ⟨hload, hactive⟩ := hstep
      exact ⟨n, hn, invariant_start h.finds hload hcalm.2 hactive⟩
    | wifiSaved r done => exact hstep.elim
    | changed => exact hstep.elim
    | identified r done => exact hstep.elim
    | deviceSaved r done => exact hstep.elim
  | saveWifi arg connects =>
    cases ans with
    | wifiSaved r done =>
      obtain ⟨a, ha, -, hsave, hafter⟩ := hstep
      rw [show active' = _ from hafter]
      exact invariant_saveWifi (h.serving a ha) hn hsave hcalm
    | started r done => exact hstep.elim
    | changed => exact hstep.elim
    | identified r done => exact hstep.elim
    | deviceSaved r done => exact hstep.elim
  | transition =>
    cases ans with
    | changed =>
      obtain ⟨a, ha, hpending, hsame, hafter⟩ := hstep
      refine ⟨n, hn, ?_, fun a' ha' ↦ ?_⟩
      · rw [show fs' = fs from hsame]
        exact h.finds
      · obtain ⟨hstored, hcurrent, hnetworked⟩ := h.serving a ha
        rw [show fs' = fs from hsame]
        rcases hafter with hnone | hdevice
        · rw [show active' = none from hnone] at ha'
          cases ha'
        · rw [show active' = _ from hdevice] at ha'
          rw [← Option.some.inj ha']
          exact ⟨hstored, hcurrent, fun _ ↦ hnetworked (.inr hpending)⟩
    | started r done => exact hstep.elim
    | wifiSaved r done => exact hstep.elim
    | identified r done => exact hstep.elim
    | deviceSaved r done => exact hstep.elim
  | ensure m opens =>
    cases ans with
    | identified r done =>
      obtain ⟨a, ha, -, -, hensure, hafter⟩ := hstep
      rw [show active' = _ from hafter]
      exact ⟨n, hn, invariant_ensure (h.serving a ha) hensure⟩
    | started r done => exact hstep.elim
    | wifiSaved r done => exact hstep.elim
    | changed => exact hstep.elim
    | deviceSaved r done => exact hstep.elim
  | saveDevice arg =>
    cases ans with
    | deviceSaved r done =>
      obtain ⟨a, ha, hdevice, hsave, hafter⟩ := hstep
      rw [show active' = _ from hafter]
      exact ⟨n, hn, invariant_saveDevice (h.serving a ha) hdevice hsave hcalm⟩
    | started r done => exact hstep.elim
    | wifiSaved r done => exact hstep.elim
    | changed => exact hstep.elim
    | identified r done => exact hstep.elim

/-- **The network is not lost.** A device that is set up is started, asked, provided with an identity and
cut off in any order, with any forms. As long as no operation of the file system is refused and what is
printed goes in, every start finds the network that was saved last, or one whose saving was cut off since
then; a start that is not refused anything itself comes up with it. -/
theorem network_is_kept {s s' : SetupState} {l : PortalHistory} (hs : s.active = none)
    (h : portalSystem.Run s l s') (hcalm : ∀ x ∈ l, x.2.Calm) :
    ∃ n ∈ candidates l, ∀ m, n = some m → ∀ e : Env FileCall FileReply,
      ¬Refused ((loadConfig {}).exec e (powerOn s'.fs)).trace →
        ((loadConfig {}).run e (powerOn s'.fs)).1.1 = true ∧
        network ((loadConfig {}).run e (powerOn s'.fs)).1.2 = m := by
  have hinvariant : ∃ n ∈ candidates l, SetupInvariant n s' := by
    induction h with
    | refl =>
      refine ⟨none, List.mem_singleton.2 rfl, fun m hm ↦ ?_, fun a ha ↦ ?_⟩
      · cases hm
      · rw [hs] at ha
        cases ha
    | @step l t u op ans hrun hstep ih =>
      obtain ⟨n, hn, hinv⟩ := ih fun x hx ↦ hcalm x (List.mem_cons_of_mem _ hx)
      exact invariant_step hn hinv hstep (hcalm _ (List.mem_cons_self ..))
  obtain ⟨n, hn, hinv⟩ := hinvariant
  refine ⟨n, hn, fun m hm e hcalm' ↦ ?_⟩
  obtain ⟨c, hc, hnetworked, hnetwork⟩ := hinv.finds m hm
  have hread := ((wpc_loadConfig s'.fs e).1.2 hcalm').2 _ hc
  rw [hread, ← hnetwork]
  exact network_readConfig _ hnetworked

/-- The form of a network. -/
def homeForm : FormArgs
  | "custom_ssid" => ascii "home"
  | "password" => ascii "12345678"
  | "mac_vendor" => ascii "ORIGINAL"
  | _ => []

/-- A device without files. -/
def unconfigured : SetupState := ⟨fun _ ↦ none, none⟩

/-- The portal that it starts. -/
def firstPortal : ActivePortal where
  mode := .wifi
  portal := ⟨{}, false, .original⟩

/-- The first start. -/
def firstLoad : (Bool × DeviceRuntimeConfig) × FlashWorld :=
  (loadConfig {}).run sunny (powerOn unconfigured.fs)

/-- The first request. -/
def firstSave : (PortalAnswer × WifiPortal) × FlashWorld :=
  (handleWifiSave firstPortal.portal homeForm true).run sunny (powerOn firstLoad.2.st)

theorem network_is_kept_unconfigured :
    network ((loadConfig {}).run sunny (powerOn firstSave.2.st)).1.2 =
      (ascii "home", ascii "12345678", .original) := by
  have hstart : portalSystem.step unconfigured .start (.started (some firstLoad.1) firstLoad.2.trace)
      ⟨firstLoad.2.st, some firstPortal⟩ := by
    refine ⟨.returned sunny, fun a ha ↦ ?_⟩
    rw [← Option.some.inj ha]
    exact ⟨rfl, rfl, false, rfl, fun _ ↦ rfl, rfl⟩
  have hsave : portalSystem.step ⟨firstLoad.2.st, some firstPortal⟩ (.saveWifi homeForm true)
      (.wifiSaved (some firstSave.1) firstSave.2.trace)
      ⟨firstSave.2.st, wifiPortalAfter firstPortal (some firstSave.1)⟩ :=
    ⟨firstPortal, rfl, rfl, .returned sunny, rfl⟩
  have hcalm : PrintedInFull firstLoad.2.trace ∧ ¬Refused firstLoad.2.trace ∧
      PrintedInFull firstSave.2.trace ∧ ¬Refused firstSave.2.trace := by decide +kernel
  have hcandidates : ∀ n ∈ candidates [(.saveWifi homeForm true, .wifiSaved (some firstSave.1)
      firstSave.2.trace), (.start, .started (some firstLoad.1) firstLoad.2.trace)],
      n = some (ascii "home", ascii "12345678", MacVendor.original) := by
    intro n hn
    exact List.mem_singleton.1 hn
  obtain ⟨n, hn, hload⟩ := network_is_kept (s := unconfigured) rfl ((Refinement.System.Run.refl.step
    hstart).step hsave) (by
      intro x hx
      rcases List.mem_cons.1 hx with rfl | hx
      · exact ⟨hcalm.2.2.1, hcalm.2.2.2⟩
      · rw [List.mem_singleton.1 hx]
        exact ⟨hcalm.1, hcalm.2.1⟩)
  exact (hload _ (hcandidates n hn) sunny (by decide +kernel)).2

end Steps

/-! ### Another network, and the rest of the setup -/

section Reset

variable {arg : FormArgs} {connects : Bool} {portal portal' : WifiPortal} {fs fs' : Flash}
  {answer : PortalAnswer} {done : FlashTrace} {q : Path} {content : Option Text}

/-- The files of the keys have nothing to do with the network. -/
theorem preserves_handleWifiSave (hq : q ≠ .config) (hq' : q ≠ .configTemp) (hq'' : q ≠ .configBackup)
    (portal : WifiPortal) (arg : FormArgs) (connects : Bool) :
    Preserves (fun w : FlashWorld ↦ w.st q = content) (handleWifiSave portal arg connects) := by
  rw [handleWifiSave]
  split
  · exact .ret
  · refine .ite .ret (.bind (preserves_writeConfig hq hq' hq'' _) fun _ ↦ .ite .ret (.ite .ret .ret))

/-- **A WiFi reset keeps the setup.** When the device goes on with another network, all prints being
complete, that network is stored. If the WiFi was to be reset, and the setup is complete, the device
restarts with all of the setup as it was; otherwise only the network is left of the configuration. -/
theorem wifi_reset_keeps_setup
    (h : Halts (handleWifiSave portal arg connects) (powerOn fs) (some (answer, portal')) fs' done)
    (hanswer : answer = .restart ∨ answer = .proceed) (hfull : PrintedInFull done) :
    ∃ ssid password vendor, submitWifi arg = .ok (ssid, password, vendor) ∧ connects = true ∧
      portal'.wifiResetRequested = false ∧
      (∀ e, ((loadConfig {}).run e (powerOn fs')).1.1 = true ∧
        network ((loadConfig {}).run e (powerOn fs')).1.2 = (ssid, password, vendor)) ∧
      (portal.wifiResetRequested = true → Storable portal.current →
        (portal.current.sshAuthMethod = .privateKey → HoldsKeys fs portal.current) →
        (portal.current.sshAuthMethod = .password →
          portal.current.sshPrivateKey = [] ∧ portal.current.sshPublicKey = []) →
        answer = .restart ∧ ∀ e, ((loadConfig {}).run e (powerOn fs')).1 = (true, { portal.current with
          wifiSsid := ssid
          wifiPassword := password
          macVendor := vendor })) ∧
      (¬(portal.wifiResetRequested = true ∧ portal.current.setupComplete = true) →
        (answer = .restart ↔ vendor ≠ portal.appliedVendor) ∧
        ∀ e, ((loadConfig {}).run e (powerOn fs')).1 = (true, {
          wifiSsid := ssid
          wifiPassword := password
          macVendor := vendor })) := by
  obtain ⟨e, hr, rfl, rfl⟩ := h.exists_run
  have hend := ((wpc_handleWifiSave portal arg connects fs) e).1
  have haccepted : ∃ n, Accepted arg connects n := by
    by_contra hnone
    obtain ⟨hrestart, hproceed, -⟩ := hend.rejected fun n hn ↦ hnone ⟨n, hn⟩
    rw [hr] at hrestart hproceed
    exact hanswer.elim hrestart hproceed
  obtain ⟨⟨ssid, password, vendor⟩, hn⟩ := haccepted
  obtain ⟨hsubmitted, hnetworked⟩ := submitWifi_ok portal hn.submitted
  obtain ⟨hportal, hanswer', hstored⟩ := hend.accepted _ hn (by rw [hr]; exact hanswer)
  rw [hr] at hportal hanswer'
  have hportal : portal' = _ := hportal
  -- the keys are not touched
  have hkeep : ∀ q, q ≠ .config → q ≠ .configTemp → q ≠ .configBackup →
      ((handleWifiSave portal arg connects).exec e (powerOn fs)).st q = fs q :=
    fun q hq hq' hq'' ↦ preserves_handleWifiSave hq hq' hq'' portal arg connects (powerOn fs) rfl e
  have hnew : ((handleWifiSave portal arg connects).exec e (powerOn fs)).st .config =
      some (serialize (portal.connected ssid password vendor)) := hstored hfull
  refine ⟨ssid, password, vendor, hn.submitted, hn.connects, by rw [hportal], ?_, ?_, ?_⟩
  · intro e'
    obtain ⟨fs'', hread, -⟩ := loadConfig_stored e' hnew
    obtain ⟨hok, hnetwork⟩ := network_readConfig fs'' hnetworked
    rw [hread, hok, hnetwork, hsubmitted]
    exact ⟨rfl, rfl⟩
  · intro hreset hcurrent hkeys hnokeys
    have hpreserve : (portal.wifiResetRequested && portal.current.setupComplete) = true := by
      rw [hreset, hcurrent.complete]
      rfl
    have hsame : portal.connected ssid password vendor = { portal.current with
        wifiSsid := ssid
        wifiPassword := password
        macVendor := vendor } := by
      rw [WifiPortal.connected, hpreserve]
      rfl
    refine ⟨?_, fun e' ↦ ?_⟩
    · rw [show answer = _ from hanswer', hpreserve]
      rfl
    · have hstorable : Storable (portal.connected ssid password vendor) := by
        rw [hsame] at hnetworked ⊢
        exact ⟨hcurrent.complete, hcurrent.valid, hnetworked.ssid, hnetworked.password⟩
      rw [← hsame]
      refine loadConfig_serialize e' hstorable (fun hauth ↦ ?_) (fun hauth ↦ ?_) hnew
      · have hholds := hkeys hauth
        exact ⟨(hkeep _ (by decide) (by decide) (by decide)).trans hholds.key,
          (hkeep _ (by decide) (by decide) (by decide)).trans hholds.publicKey⟩
      · exact hnokeys hauth
  · intro hplain
    have hpreserve : (portal.wifiResetRequested && portal.current.setupComplete) = false := by
      rw [Bool.and_eq_false_iff]
      simpa only [not_and_or, Bool.not_eq_true] using hplain
    refine ⟨?_, fun e' ↦ ?_⟩
    · rw [show answer = _ from hanswer', hpreserve, Bool.false_or]
      by_cases hvendor : vendor = portal.appliedVendor
      · simp [hvendor]
      · simp [hvendor]
    -- without the mark of a complete setup nothing but the network is stored
    · have hincomplete : (portal.connected ssid password vendor).setupComplete = false := by
        simp only [WifiPortal.connected, hpreserve, Bool.not_false, if_true]
      obtain ⟨fs'', hread, -⟩ := loadConfig_stored e' hnew
      rw [hread]
      exact readConfig_incomplete hincomplete hnetworked

/-- A device with a complete setup whose WiFi is to be reset. -/
def resetPortal : WifiPortal := ⟨quotedConfig, true, .original⟩

theorem wifi_reset_keeps_setup_resetPortal :
    ((loadConfig {}).run sunny (powerOn ((handleWifiSave resetPortal homeForm true).exec sunny
      (powerOn fun _ ↦ none)).st)).1 = (true, { quotedConfig with
        wifiSsid := ascii "home"
        wifiPassword := ascii "12345678" }) := by
  have hanswer : ((handleWifiSave resetPortal homeForm true).run sunny (powerOn fun _ ↦ none)).1.1 =
      .restart := by decide +kernel
  have hhalt := Halts.returned (m := handleWifiSave resetPortal homeForm true)
    (w := powerOn fun _ ↦ none) sunny
  rcases hrun : ((handleWifiSave resetPortal homeForm true).run sunny (powerOn fun _ ↦ none)).1 with
    ⟨answer, portal'⟩
  rw [hrun] at hhalt hanswer
  obtain ⟨ssid, password, vendor, hsubmit, -, -, -, hkeep, -⟩ := wifi_reset_keeps_setup hhalt
    (.inl hanswer) (by decide +kernel)
  obtain ⟨-, hload⟩ := hkeep rfl ⟨rfl, by decide +kernel, by decide, by decide⟩
    (fun h ↦ absurd h (by decide)) (by decide)
  have hform : submitWifi homeForm = .ok (ascii "home", ascii "12345678", .original) := rfl
  rw [hform] at hsubmit
  cases hsubmit
  exact hload sunny

end Reset

end Provisioning

end ReverseTunnel

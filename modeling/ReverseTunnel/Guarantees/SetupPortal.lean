import ReverseTunnel.Guarantees.ConfigRoundTrip
import ReverseTunnel.Guarantees.DeviceIdentity
import ReverseTunnel.Provisioning.Portal

/-!
# What the setup portal stores

A request to the portal ends with a page or with a restart, and it works on several files on the way. A
restart means that the next start **loads** what was submitted, with the setup complete; everything else,
a complaint, a failure or a loss of power, leaves the configuration that was there. What a page shows can
be sent back without loss, so a page that was not changed changes nothing; and new WiFi credentials leave
a complete setup complete.
-/

namespace ReverseTunnel

open Traced

namespace Provisioning

section Stores

variable {c current : DeviceRuntimeConfig} {arg : FormArgs} {fs s : Flash} {w : FlashWorld}
  {p q : Text}

/-! ### Writing files on the way -/

/-- How `writeConfig` ends in the middle of something else. -/
def WriteStep (old : Option Text) (c : DeviceRuntimeConfig) (ok : Bool) :
    Assertion Flash FileCall FileReply Empty := fun w ↦
  (ok = true → PrintedInFull w.trace → w.st .config = some (serialize c)) ∧
    (ok = false → Kept old w.st ∧ Refused w.trace)

/-- The old configuration is there, or the new one. -/
def OldOrNew (old : Option Text) (c : DeviceRuntimeConfig) :
    CrashCondition Flash FileCall FileReply Empty :=
  fun s done ↦ Kept old s ∨ (PrintedInFull done → s .config = some (serialize c))

theorem wpc_writeStep (w : FlashWorld) (c : DeviceRuntimeConfig) :
    wpc (writeConfig c) (WriteStep (w.st .config) c) (OldOrNew (w.st .config) c) w := by
  refine wpc_openWrite_bind (.inl (.inl rfl)) ?_ ?_
  · intro t
    obtain ⟨pieces, hpieces, hprints⟩ := Prints.writeSettings c
    refine wpc_bind (hprints ?_ ?_)
    · intro some w' h
      exact .inl (.inl (h.st_ne (by decide)))
    · intro w' h
      have hold : w'.st .config = w.st .config := h.st_ne (by decide)
      have hempty : (w.st.write .configTemp []) .configTemp = some [] := Flash.write_same
      obtain ⟨text, htext, -, hfull⟩ := h.exists_text hempty
      rw [List.nil_append] at htext
      rw [hpieces] at hfull
      refine wpc_mono (wpc_replaceConfig hold htext) ?_ ?_
      · intro ok w₂ h₂
        refine ⟨fun hok hdone ↦ ?_, fun hok ↦ h₂.kept hok⟩
        rw [(h₂.done hok).1, (hfull.1 (h₂.full.1 hdone)).2]
      · intro s done h₂
        rcases h₂.config with hkept | hnew
        · exact .inl hkept
        · refine .inr fun hdone ↦ ?_
          rw [hnew, (hfull.1 (h₂.full.1 hdone)).2]
  · intro t
    refine wpc_pure ⟨?_, fun _ ↦ ⟨.inl rfl, .inl rfl⟩⟩
    intro hok
    cases hok

/-- How `saveKeys` ends. -/
def SaveEnd (old : Option Text) (p q : Text) (ok : Bool) : Assertion Flash FileCall FileReply Empty :=
  fun w ↦ w.st .config = old ∧ (ok = true → w.st .key = some p ∧
    (w.st .publicKey = (if q = [] then none else some q) ∨ stuck .publicKey w.trace = true))

/-- The configuration is not touched. -/
def Untouched (old : Option Text) : CrashCondition Flash FileCall FileReply Empty :=
  fun s _ ↦ s .config = old

variable {old : Option Text}

/-- A failure leaves the configuration as well. -/
theorem saveEnd_false (h : w.st .config = old) : SaveEnd old p q false w := by
  refine ⟨h, ?_⟩
  intro hok
  cases hok

theorem wpc_installKeys_from (hconfig : w.st .config = old) (hkey : w.st .keyTemp = some p)
    (hpublic : q ≠ [] → w.st .publicKeyTemp = some q) :
    wpc (installKeys q) (SaveEnd old p q) (Untouched old) w := by
  refine wpc_removeFile_bind hconfig fun w₁ h₁ _ ↦ ?_
  have hconfig₁ : w₁.st .config = old := (h₁ _ (by decide)).trans hconfig
  have hkey₁ : w₁.st .keyTemp = some p := (h₁ _ (by decide)).trans hkey
  refine wpc_renameFile_bind (by decide) hconfig₁ ?_ ?_
  · intro w₂ h₂ _ htarget₂
    have hconfig₂ : w₂.st .config = old := (h₂ _ (by decide) (by decide)).trans hconfig₁
    refine wpc_removeFile_bind hconfig₂ fun w₃ h₃ hgone₃ ↦ wpc_ite ?_ ?_
    · intro hnone
      have hconfig₃ : w₃.st .config = old := (h₃ _ (by decide)).trans hconfig₂
      have hkey₃ : w₃.st .key = some p := (h₃ _ (by decide)).trans (htarget₂.trans hkey₁)
      refine wpc_pure ⟨hconfig₃, fun _ ↦ ⟨hkey₃, hgone₃.imp (fun hgone ↦ ?_) And.right⟩⟩
      rw [if_pos (List.isEmpty_iff.1 hnone), hgone]
    · intro hsome
      have hne : q ≠ [] := by simpa using hsome
      have hconfig₃ : w₃.st .config = old := (h₃ _ (by decide)).trans hconfig₂
      have hkey₃ : w₃.st .key = some p := (h₃ _ (by decide)).trans (htarget₂.trans hkey₁)
      have hpublic₃ : w₃.st .publicKeyTemp = some q := by
        rw [h₃ .publicKeyTemp (by decide), h₂ .publicKeyTemp (by decide) (by decide),
          h₁ .publicKeyTemp (by decide), hpublic hne]
      have hpure : rename .publicKeyTemp .publicKey =
          (rename .publicKeyTemp .publicKey >>= pure) := rfl
      rw [hpure]
      refine wpc_renameFile_bind (by decide) hconfig₃ ?_ ?_
      · intro w₄ h₄ _ htarget₄
        have hconfig₄ : w₄.st .config = old := (h₄ _ (by decide) (by decide)).trans hconfig₃
        have hkey₄ : w₄.st .key = some p := (h₄ _ (by decide) (by decide)).trans hkey₃
        refine wpc_pure ⟨hconfig₄, fun _ ↦ ⟨hkey₄, .inl ?_⟩⟩
        rw [if_neg hne, htarget₄, hpublic₃]
      · intro w₄ h₄
        exact wpc_pure (saveEnd_false (by rw [h₄, hconfig₃]))
  · intro w₂ h₂
    have hconfig₂ : w₂.st .config = old := by rw [h₂, hconfig₁]
    refine wpc_removeFile_bind hconfig₂ fun w₃ h₃ _ ↦ wpc_pure (saveEnd_false ?_)
    exact (h₃ _ (by decide)).trans hconfig₂

/-- **Keys are saved** whatever files there were before. -/
theorem wpc_saveKeys_from (w : FlashWorld) (p q : Text) :
    wpc (saveKeys p q) (SaveEnd (w.st .config) p q) (Untouched (w.st .config)) w := by
  refine wpc_removeFile_bind rfl fun w₁ h₁ _ ↦ ?_
  have hconfig₁ : w₁.st .config = w.st .config := h₁ _ (by decide)
  refine wpc_removeFile_bind hconfig₁ fun w₂ h₂ _ ↦ ?_
  have hconfig₂ : w₂.st .config = w.st .config := (h₂ _ (by decide)).trans hconfig₁
  refine wpc_writeFile_bind (fun s _ hs ↦ (hs _ (by decide)).trans hconfig₂) ?_ ?_
  · intro w₃ h₃ hkey₃
    have hconfig₃ : w₃.st .config = w.st .config := (h₃ _ (by decide)).trans hconfig₂
    refine wpc_bind (wpc_ite ?_ ?_)
    · intro hnone
      have hempty : q = [] := List.isEmpty_iff.1 hnone
      exact wpc_pure (wpc_installKeys_from hconfig₃ hkey₃ fun hne ↦ absurd hempty hne)
    · intro _
      have hpure : writeKeyFile .publicKeyTemp q = (writeKeyFile .publicKeyTemp q >>= pure) := rfl
      rw [hpure]
      refine wpc_writeFile_bind (fun s _ hs ↦ (hs _ (by decide)).trans hconfig₃) ?_ ?_
      · intro w₄ h₄ hpublic₄
        have hconfig₄ : w₄.st .config = w.st .config := (h₄ _ (by decide)).trans hconfig₃
        exact wpc_pure (wpc_installKeys_from hconfig₄ ((h₄ _ (by decide)).trans hkey₃) fun _ ↦ hpublic₄)
      · intro w₄ h₄
        have hconfig₄ : w₄.st .config = w.st .config := (h₄ _ (by decide)).trans hconfig₃
        refine wpc_pure (wpc_removeFile_bind hconfig₄ fun w₅ h₅ _ ↦ wpc_pure (saveEnd_false ?_))
        exact (h₅ _ (by decide)).trans hconfig₄
  · intro w₃ h₃
    exact wpc_pure (saveEnd_false ((h₃ _ (by decide)).trans hconfig₂))

/-! ### Saving the device -/

/-- The keys that belong to a configuration are in their files, if it has any. -/
def KeysStored (c : DeviceRuntimeConfig) (w : FlashWorld) : Prop :=
  stuck .publicKey w.trace = true ∨ (c.sshAuthMethod = .privateKey → HoldsKeys w.st c)

/-- A request that ends with a page leaves the configuration where it is; only when an operation was
refused it may be the backup. -/
def PageEnd (old : Option Text) : Assertion Flash FileCall FileReply Empty := fun w ↦
  w.st .config = old ∨ Kept old w.st ∧ Refused w.trace

/-- How a request ends. -/
def SubmitEnd (current : DeviceRuntimeConfig) (arg : FormArgs) (old : Option Text)
    (answer : PortalAnswer) : Assertion Flash FileCall FileReply Empty := fun w ↦
  (answer = .restart → ∃ c, submitDevice current arg = .ok c ∧
      (PrintedInFull w.trace → w.st .config = some (serialize (forStorage c))) ∧
      KeysStored (forStorage c) w) ∧
    (answer ≠ .restart → PageEnd old w)

/-- What is left of a request that was cut off. -/
def SubmitCut (current : DeviceRuntimeConfig) (arg : FormArgs) (old : Option Text) :
    CrashCondition Flash FileCall FileReply Empty := fun s done ↦
  Kept old s ∨ ∃ c, submitDevice current arg = .ok c ∧
    (PrintedInFull done → s .config = some (serialize (forStorage c)))

/-- A complaint is the end of a request that left the configuration. -/
theorem submitEnd_page {error : String} (h : PageEnd old w) :
    SubmitEnd current arg old (.devicePage error) w := by
  refine ⟨?_, fun _ ↦ h⟩
  intro hanswer
  cases hanswer

/-- Writing the configuration leaves the keys. -/
theorem wp_writeConfig_keysStored (d : DeviceRuntimeConfig) (hkeys : KeysStored c w) :
    wp (writeConfig d) (fun _ w' ↦ KeysStored c w') w := by
  rcases hkeys with hstuck | hkeys
  · refine wpc.wp (K := fun _ _ ↦ True) ?_
    refine wpc_of_trace (P := fun done ↦ stuck .publicKey done = true) (stuck_append hstuck) ?_ ?_
    · exact fun _ _ h ↦ .inl h
    · exact fun _ _ _ ↦ trivial
  · intro e
    have hkeep : ∀ q, q ≠ .config → q ≠ .configTemp → q ≠ .configBackup →
        ((writeConfig d).run e w).2.st q = w.st q :=
      fun q hq hq' hq'' ↦ preserves_writeConfig hq hq' hq'' d w rfl e
    refine .inr fun hauth ↦ ⟨?_, ?_⟩
    · exact (hkeep _ (by decide) (by decide) (by decide)).trans (hkeys hauth).key
    · exact (hkeep _ (by decide) (by decide) (by decide)).trans (hkeys hauth).publicKey

/-- The end of a request, from where the keys are stored. -/
theorem wpc_storeDevice (hsubmit : submitDevice current arg = .ok c) (hold : w.st .config = old)
    (hkeys : KeysStored (forStorage c) w) :
    wpc (storeDevice (forStorage c)) (SubmitEnd current arg old) (SubmitCut current arg old) w := by
  have hwrite := (wpc_writeStep w (forStorage c)).and_wp
    (wp_writeConfig_keysStored (forStorage c) hkeys)
  rw [hold] at hwrite
  refine wpc_bind (wpc_mono hwrite ?_ fun _ _ h ↦ h.imp id fun hnew ↦ ⟨c, hsubmit, hnew⟩)
  rintro written w' ⟨⟨hnew, hkept⟩, hkeys'⟩
  refine wpc_ite ?_ ?_
  · intro hfail
    have hfalse : written = false := by simpa using hfail
    exact wpc_pure (submitEnd_page (.inr (hkept hfalse)))
  · intro hdone
    have htrue : written = true := by simpa using hdone
    exact wpc_pure ⟨fun _ ↦ ⟨c, hsubmit, hnew htrue, hkeys'⟩, fun hanswer ↦ absurd rfl hanswer⟩

/-- What a valid configuration has for keys is what it is stored with. -/
theorem keysStored_of_saveKeys (h : SaveEnd old c.sshPrivateKey c.sshPublicKey true w) :
    KeysStored c w := by
  obtain ⟨hkey, hpublic | hstuck⟩ := h.2 rfl
  · exact .inr fun _ ↦ ⟨hkey, hpublic⟩
  · exact .inl hstuck

/-- **One request**, with any form. -/
theorem wpc_saveDevice (current : DeviceRuntimeConfig) (arg : FormArgs) (w : FlashWorld) :
    wpc (saveDevice current arg) (SubmitEnd current arg (w.st .config))
      (SubmitCut current arg (w.st .config)) w := by
  rw [saveDevice]
  cases hsubmit : submitDevice current arg with
  | error error => exact wpc_pure (submitEnd_page (.inl rfl))
  | ok c =>
    refine wpc_ite ?_ ?_
    · intro hauth
      have hsame : (forStorage c).sshPrivateKey = c.sshPrivateKey ∧
          (forStorage c).sshPublicKey = c.sshPublicKey := by
        rw [forStorage, if_pos hauth]
        exact ⟨rfl, rfl⟩
      refine wpc_bind (wpc_mono (wpc_saveKeys_from w _ _) ?_ fun s done h ↦ .inl (.inl h))
      intro saved w' h
      refine wpc_ite ?_ ?_
      · intro _
        exact wpc_pure (submitEnd_page (.inl h.1))
      · intro hsaved
        have htrue : saved = true := by simpa using hsaved
        rw [htrue, ← hsame.1, ← hsame.2] at h
        exact wpc_storeDevice hsubmit h.1 (keysStored_of_saveKeys h)
    · intro hauth
      have hpassword : (forStorage c).sshAuthMethod ≠ .privateKey := by
        rw [forStorage, if_neg hauth]
        exact hauth
      refine wpc_removeFile_bind (.inl (.inl rfl)) fun w₁ h₁ _ ↦ ?_
      have hconfig₁ : w₁.st .config = w.st .config := h₁ _ (by decide)
      refine wpc_removeFile_bind (.inl (.inl hconfig₁)) fun w₂ h₂ _ ↦ ?_
      have hconfig₂ : w₂.st .config = w.st .config := (h₂ _ (by decide)).trans hconfig₁
      exact wpc_storeDevice hsubmit hconfig₂ (.inr fun h ↦ absurd h hpassword)

/-! ### What a restart loads -/

/-- The network that a configuration names. -/
def network (c : DeviceRuntimeConfig) : Network := (c.wifiSsid, c.wifiPassword, c.macVendor)

/-- The loader takes the network for one. -/
structure Networked (c : DeviceRuntimeConfig) : Prop where
  /-- There is a name. -/
  ssid : 1 ≤ c.wifiSsid.length ∧ c.wifiSsid.length ≤ 32
  /-- The password is not too long. -/
  password : c.wifiPassword.length ≤ 63

theorem Networked.of_network (h : Networked c) (hsame : network current = network c) :
    Networked current := by
  obtain ⟨hssid, hpassword⟩ := Prod.mk.inj hsame
  obtain ⟨hpassword, -⟩ := Prod.mk.inj hpassword
  refine ⟨?_, ?_⟩
  · rw [hssid]
    exact h.ssid
  · rw [hpassword]
    exact h.password

/-- The secrets have nothing to do with the network. -/
theorem network_submitSecrets : network (submitSecrets current c arg) = network c := by
  simp only [submitSecrets]
  split
  · split <;> rfl
  · split
    · rfl
    · split
      · split <;> split <;> rfl
      · rfl

/-- What is taken from a form is complete and valid, and in the same network. -/
theorem submitDevice_ok (h : submitDevice current arg = .ok c) : c.setupComplete = true ∧
    validDeviceConfig c = true ∧ network c = network current := by
  rw [submitDevice] at h
  split at h
  · simp only at h
    split at h
    · cases h
    · next hvalid =>
      rw [Bool.not_eq_true, Bool.not_eq_false'] at hvalid
      rw [← Except.ok.inj h]
      exact ⟨rfl, hvalid, network_submitSecrets⟩
  · cases h

/-- What is stored of a configuration. -/
theorem forStorage_spec (c : DeviceRuntimeConfig) :
    (forStorage c).setupComplete = c.setupComplete ∧ network (forStorage c) = network c ∧
      validDeviceConfig (forStorage c) = validDeviceConfig c ∧
      ((forStorage c).sshAuthMethod = .password →
        (forStorage c).sshPrivateKey = [] ∧ (forStorage c).sshPublicKey = []) := by
  rw [forStorage]
  split
  · next hauth =>
    refine ⟨rfl, rfl, ?_, ?_⟩
    · simp only [validDeviceConfig, hauth, reduceCtorEq, if_false]
    · intro hpassword
      rw [hauth] at hpassword
      cases hpassword
  · next hauth =>
    have hpassword : c.sshAuthMethod = .password := by
      cases h : c.sshAuthMethod with
      | password => rfl
      | privateKey => exact absurd h hauth
    refine ⟨rfl, rfl, ?_, fun _ ↦ ⟨rfl, rfl⟩⟩
    simp only [validDeviceConfig, hpassword, if_true]

theorem storable_forStorage (h : submitDevice current arg = .ok c) (hcurrent : Networked current) :
    Storable (forStorage c) := by
  obtain ⟨hcomplete, hvalid, hnetwork⟩ := submitDevice_ok h
  obtain ⟨hcomplete', hnetwork', hvalid', -⟩ := forStorage_spec c
  have hnetworked : Networked (forStorage c) :=
    hcurrent.of_network (hnetwork'.trans hnetwork)
  exact ⟨hcomplete'.trans hcomplete, hvalid'.trans hvalid, hnetworked.ssid, hnetworked.password⟩

/-- What the next start loads when the device restarts. -/
theorem load_of_restart {fs' : Flash} {done : FlashTrace} (hcurrent : Networked current)
    (h : Halts (saveDevice current arg) (powerOn fs) (some .restart) fs' done)
    (hfull : PrintedInFull done) (hfree : stuck .publicKey done = false) :
    ∃ c, submitDevice current arg = .ok c ∧ c.setupComplete = true ∧ validDeviceConfig c = true ∧
      ∀ e, ((loadConfig {}).run e (powerOn fs')).1 = (true, forStorage c) := by
  have hend := (wpc_iff (P := fun r s done ↦ ∀ answer, r = some answer →
    SubmitEnd current arg (fs .config) answer ⟨⟨s, 0, 0⟩, done⟩)).1 ?_ _ _ _ h _ rfl
  · obtain ⟨c, hsubmit, hstored, hkeys⟩ := hend.1 rfl
    obtain ⟨hcomplete, hvalid, -⟩ := submitDevice_ok hsubmit
    refine ⟨c, hsubmit, hcomplete, hvalid, fun e ↦ ?_⟩
    refine loadConfig_serialize e (storable_forStorage hsubmit hcurrent) ?_
      (forStorage_spec c).2.2.2 (hstored hfull)
    rcases hkeys with hstuck | hkeys
    · exact absurd (hfree.symm.trans hstuck) Bool.false_ne_true
    · exact hkeys
  · refine wpc_mono (wpc_saveDevice current arg (powerOn fs)) ?_ ?_
    · intro answer w h answer' heq
      rw [← Option.some.inj heq]
      exact h
    · intro s done _ answer heq
      cases heq

/-- **A restart loads what was submitted.** However a request for the device page ends: when the device
restarts, all prints went in and the old public key could be removed, the next start loads what was taken
from the form, as a complete setup. When another page is shown the old configuration is still there, and
when the power was lost it is, or the new one is in its place. -/
theorem portal_restart_loads {r : Option PortalAnswer} {fs' : Flash} {done : FlashTrace}
    (hcurrent : Networked current) (h : Halts (saveDevice current arg) (powerOn fs) r fs' done) :
    (r = some .restart → PrintedInFull done → stuck .publicKey done = false →
      ∃ c, submitDevice current arg = .ok c ∧ c.setupComplete = true ∧ validDeviceConfig c = true ∧
        ∀ e, ((loadConfig {}).run e (powerOn fs')).1 = (true, forStorage c)) ∧
    (∀ answer, r = some answer → answer ≠ .restart → Kept (fs .config) fs') ∧
    (r = none → PrintedInFull done → Kept (fs .config) fs' ∨
      ∃ c, submitDevice current arg = .ok c ∧ fs' .config = some (serialize (forStorage c))) := by
  have hwpc := wpc_saveDevice current arg (powerOn fs)
  refine ⟨?_, ?_, ?_⟩
  · rintro rfl hfull hfree
    exact load_of_restart hcurrent h hfull hfree
  · rintro answer rfl hanswer
    cases h with
    | returned e =>
      rcases (hwpc e).1.2 hanswer with hsame | hkept
      · exact .inl hsame
      · exact hkept.1
  · rintro rfl hfull
    cases h with
    | cut e x past hx =>
      exact ((hwpc e).2 x past hx).imp id fun ⟨c, hsubmit, hstored⟩ ↦ ⟨c, hsubmit, hstored hfull⟩

/-- A form with a password. -/
def passwordForm : FormArgs
  | "ssh_host" => ascii "host"
  | "ssh_port" => ascii "22"
  | "ssh_user" => ascii "root"
  | "ssh_auth" => ascii "password"
  | "ssh_password" => ascii "secret"
  | "remote_host" => ascii "127.0.0.1"
  | "remote_port" => ascii "8080"
  | "local_host" => ascii "<local>"
  | "local_port" => ascii "80"
  | _ => []

/-- A device that was just connected to a network. -/
def justConnected : DeviceRuntimeConfig where
  wifiSsid := ascii "home"

theorem portal_restart_loads_passwordForm :
    ∃ c, submitDevice justConnected passwordForm = .ok c ∧ c.setupComplete = true ∧
      validDeviceConfig c = true ∧
      ∀ e, ((loadConfig {}).run e
        (powerOn ((saveDevice justConnected passwordForm).exec sunny (powerOn fun _ ↦ none)).st)).1 =
        (true, forStorage c) :=
  (portal_restart_loads ⟨by decide, by decide⟩ (.returned sunny)).1 (by decide +kernel)
    (by decide +kernel) (by decide +kernel)

/-! ### The page comes back -/

/-- A stored configuration with characters that a page has to escape. -/
def quotedConfig : DeviceRuntimeConfig where
  wifiSsid := ascii "home"
  setupComplete := true
  sshHost := ascii "a'b&amp;<c>"
  sshUsername := ascii "\"root\""
  sshPassword := ascii "secret"

end Stores

end Provisioning

end ReverseTunnel

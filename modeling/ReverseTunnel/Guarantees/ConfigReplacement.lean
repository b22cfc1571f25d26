import ReverseTunnel.Provisioning.ConfigWriting

/-!
# The stored configuration is replaced, or it stays

`writeConfig` moves the old file out of the way before it moves the new one in, so for a moment there is
no configuration in its place; `loadConfig` takes the backup then. Together they never leave the device
without a configuration, whenever the power is lost and whichever renames fail, **if what was printed is
complete**.

That is not checked. The result of `writeConfig` says whether opening or renaming a file was refused, and
nothing about the prints: on a full flash it replaces a good configuration by a truncated one.
-/

namespace ReverseTunnel

open Traced

namespace Provisioning

variable {fs s : Flash} {A : Text} {B d : DeviceRuntimeConfig} {done : FlashTrace}

/-- A configuration is stored. -/
def configured : Flash
  | .config => some (ascii "version=1\r\nwifi_ssid=home\r\n")
  | _ => none

/-- **A replacement survives.** However it ends or is cut short, the next start finds the old
configuration or the new one, and the one that the result told if there was a result. -/
theorem config_replacement_survives {r : Option Bool} (hA : fs .config = some A)
    (hwrite : Halts (writeConfig B) (powerOn fs) r s done) (hfull : PrintedInFull done)
    (e : Env FileCall FileReply) (hrecover : ¬Refused ((loadConfig d).exec e (powerOn s)).trace) :
    ∃ text, (text = A ∨ text = serialize B) ∧
      ((loadConfig d).exec e (powerOn s)).st .config = some text ∧
      ((loadConfig d).run e (powerOn s)).1 =
        readConfig ((loadConfig d).exec e (powerOn s)).st text d ∧
      (r = some true → text = serialize B) ∧ (r = some false → text = A) := by
  have hload := ((wp_loadConfig s d) e).1 (.inl hrecover)
  have hfind : ∀ text, nextConfig s = some text →
      ((loadConfig d).exec e (powerOn s)).st .config = some text ∧
      ((loadConfig d).run e (powerOn s)).1 =
        readConfig ((loadConfig d).exec e (powerOn s)).st text d :=
    fun text htext ↦ ⟨hload.1.trans htext, hload.2 text htext⟩
  have hkeptFind : Kept (fs .config) s → nextConfig s = some A := by
    rw [hA]
    exact nextConfig_of_kept
  cases hwrite with
  | returned e' =>
    have hend := (wpc_writeConfig fs B).wp e'
    cases hok : ((writeConfig B).run e' (powerOn fs)).1 with
    | true =>
      have hnew := ((hend.done hok).2.2 hfull)
      obtain ⟨hconfig, hread⟩ := hfind _ (nextConfig_of_config hnew)
      exact ⟨_, .inr rfl, hconfig, hread, fun _ ↦ rfl, nofun⟩
    | false =>
      obtain ⟨hconfig, hread⟩ := hfind _ (hkeptFind (hend.kept hok).2)
      exact ⟨_, .inl rfl, hconfig, hread, nofun, fun _ ↦ rfl⟩
  | cut e' x past hx =>
    rcases (wpc_writeConfig fs B e').2 x past hx with hkept | hnew
    · obtain ⟨hconfig, hread⟩ := hfind _ (hkeptFind hkept)
      exact ⟨_, .inl rfl, hconfig, hread, nofun, nofun⟩
    · obtain ⟨hconfig, hread⟩ := hfind _ (nextConfig_of_config (hnew hfull))
      exact ⟨_, .inr rfl, hconfig, hread, nofun, nofun⟩

/-- What `writeConfig` has done when everything works and only the backup is left to be removed, the
latest first: it has just moved the new file in. -/
def movedIn : FlashTrace := ((writeConfig {}).act sunny (powerOn configured).toMachine).out.drop 1

/-- The files right before: the old one is out of the way, and none is in its place. -/
def betweenRenames : Flash
  | .configTemp => some (serialize {})
  | .configBackup => configured .config
  | _ => none

/-- The power may be lost there. -/
theorem halts_betweenRenames :
    Halts (writeConfig {}) (powerOn configured) none betweenRenames (movedIn.tail ++ []) := by
  obtain ⟨x, past, hmoved⟩ : ∃ x past, movedIn = x :: past :=
    List.exists_cons_of_ne_nil fun hno ↦ absurd (congrArg List.length hno) (by decide +kernel)
  have hpre : x.pre = betweenRenames := by
    funext path
    have hfile : movedIn.head?.map (·.pre path) = some (betweenRenames path) := by
      cases path <;> decide +kernel
    rw [hmoved] at hfile
    exact Option.some.inj hfile
  have hsuffix : x :: past <:+ ((writeConfig {}).act sunny (powerOn configured).toMachine).out := by
    rw [← hmoved]
    exact List.drop_suffix 1 _
  rw [← hpre, hmoved]
  exact .cut sunny x past hsuffix

theorem config_replacement_survives_betweenRenames :
    betweenRenames .config = none ∧
      ∃ text, (text = ascii "version=1\r\nwifi_ssid=home\r\n" ∨ text = serialize {}) ∧
        ((loadConfig {}).exec sunny (powerOn betweenRenames)).st .config = some text :=
  ⟨rfl, (config_replacement_survives rfl halts_betweenRenames (by decide +kernel) sunny
    (by decide +kernel)).imp fun _ h ↦ ⟨h.1, h.2.1⟩⟩

/-! ### Short writes -/

/-- The next start reads this configuration, unless its rename is refused. -/
def ReadsNext (A : Text) (s : Flash) : Prop :=
  ∀ (e : Env FileCall FileReply) (d : DeviceRuntimeConfig),
    ¬Refused ((loadConfig d).exec e (powerOn s)).trace →
      ((loadConfig d).exec e (powerOn s)).st .config = some A ∧
      ((loadConfig d).run e (powerOn s)).1 =
        readConfig ((loadConfig d).exec e (powerOn s)).st A d

theorem readsNext_of_kept (h : Kept (some A) s) : ReadsNext A s := by
  intro e d hrecover
  have hload := ((wp_loadConfig s d) e).1 (.inl hrecover)
  have hnext := nextConfig_of_kept h
  exact ⟨hload.1.trans hnext, hload.2 A hnext⟩

/-- The result of `writeConfig` can be trusted: `true` means that the complete new configuration is in
its place, and `false` that the old one will be read. -/
def Trustworthy (A : Text) (B : DeviceRuntimeConfig) (ok : Bool) (s : Flash) : Prop :=
  (ok = true → s .config = some (serialize B)) ∧ (ok = false → ReadsNext A s)

/-- **When the result can be trusted**: when every print wrote everything, and also when opening or
renaming a file was refused. -/
theorem trustworthy_iff (hA : fs .config = some A) (B : DeviceRuntimeConfig)
    (e : Env FileCall FileReply) :
    Trustworthy A B ((writeConfig B).run e (powerOn fs)).1
        ((writeConfig B).exec e (powerOn fs)).st ↔
      PrintedInFull ((writeConfig B).exec e (powerOn fs)).trace ∨
        Refused ((writeConfig B).exec e (powerOn fs)).trace := by
  have hend := (wpc_writeConfig fs B).wp e
  rw [hA] at hend
  cases hok : ((writeConfig B).run e (powerOn fs)).1 with
  | true =>
    obtain ⟨hcalm, hnew⟩ := hend.done hok
    constructor
    · intro h
      exact .inl (hnew.1 (h.1 rfl))
    · rintro (hfull | hrefused)
      · exact ⟨fun _ ↦ hnew.2 hfull, nofun⟩
      · exact absurd hrefused hcalm
  | false =>
    obtain ⟨hrefused, hkept⟩ := hend.kept hok
    exact ⟨fun _ ↦ .inr hrefused, fun _ ↦ ⟨nofun, fun _ ↦ readsNext_of_kept hkept⟩⟩

theorem trustworthy_iff_sunny :
    Trustworthy (ascii "version=1\r\nwifi_ssid=home\r\n") {}
      ((writeConfig {}).run sunny (powerOn configured)).1
      ((writeConfig {}).exec sunny (powerOn configured)).st :=
  (trustworthy_iff rfl {} sunny).2 (.inl (by decide +kernel))

/-- The new configuration is **empty**, the old one is lost, and `writeConfig` reports success. -/
theorem not_trustworthy_fullFlash :
    ((writeConfig {}).run fullFlash (powerOn configured)).1 = true ∧
      ((writeConfig {}).exec fullFlash (powerOn configured)).st .config = some [] ∧
      ((writeConfig {}).exec fullFlash (powerOn configured)).st .configBackup = none ∧
      ¬Trustworthy (ascii "version=1\r\nwifi_ssid=home\r\n") {}
        ((writeConfig {}).run fullFlash (powerOn configured)).1
        ((writeConfig {}).exec fullFlash (powerOn configured)).st := by
  have hok : ((writeConfig {}).run fullFlash (powerOn configured)).1 = true := by decide +kernel
  have hempty : ((writeConfig {}).exec fullFlash (powerOn configured)).st .config = some [] := by
    decide +kernel
  refine ⟨hok, hempty, by decide +kernel, ?_⟩
  intro h
  have hnew := h.1 hok
  rw [hempty] at hnew
  exact absurd (Option.some.inj hnew) (by decide +kernel)

end Provisioning

end ReverseTunnel

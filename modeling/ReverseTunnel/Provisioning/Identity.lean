import ReverseTunnel.Lib.Refinement
import ReverseTunnel.Provisioning.ConfigWriting
import ReverseTunnel.Provisioning.OpenSshKey

/-!
# The identity of the device

A device that has no key pair generates one and stores it, once: `ensure` is called at every start as
long as there is no configuration, and loads what is stored if it can. A factory reset removes the files
of the pair with the rest. Both may find that an operation fails, and both may lose their power anywhere.

`identitySystem` is a device that starts again and again, each time with an mbed TLS of its own.
-/

namespace ReverseTunnel

open Traced

/-- The configuration with these keys. -/
def DeviceRuntimeConfig.withIdentity (config : DeviceRuntimeConfig) (privateKey publicKey : Text) :
    DeviceRuntimeConfig :=
  { config with
    sshAuthMethod := .privateKey
    sshPrivateKey := privateKey
    sshPublicKey := publicKey
    sshKeyPassphrase := [] }

namespace Provisioning

/-- `loadExisting`, when these of the files can be opened for reading -/
def loadExisting (opens : Path → Bool) (fs : Flash) : Option (Text × Text) :=
  match fs .key, fs .publicKey with
  | some privateFile, some publicFile =>
    if !opens .key ∨ !opens .publicKey ∨ privateFile.length = 0 ∨ publicFile.length = 0 then none
    else
      let privateKey := privateFile.trim
      let publicKey := publicFile.trim
      if privateKey.contains beginEcPrivateKey && privateKey.contains endEcPrivateKey &&
        publicKey.startsWith (algorithm ++ ascii " ") then some (privateKey, publicKey) else none
  | _, _ => none

/-- `ensure`. A pair that is there but cannot be opened is replaced by a new one. -/
def ensure (m : MbedTls) (opens : Path → Bool) (config : DeviceRuntimeConfig) :
    FlashM (Bool × DeviceRuntimeConfig) := do
  let fs ← Prog.get
  match loadExisting opens fs with
  | some (privateKey, publicKey) => pure (true, config.withIdentity privateKey publicKey)
  | none =>
    match generateKeyPair m with
    | none => pure (false, config)
    | some (privateKey, publicKey) =>
      let persisted ← persistKeyPair privateKey publicKey
      if !persisted then pure (false, config)
      else pure (true, config.withIdentity privateKey publicKey)

/-- The files that `pollConfigResetButton` removes for a factory reset. -/
def factoryReset : FlashM Unit := do
  removeIfExists .config
  removeIfExists .configTemp
  removeIfExists .configBackup
  removeIfExists .key
  removeIfExists .keyTemp
  removeIfExists .publicKey
  removeIfExists .publicKeyTemp
  removeIfExists .configAppliedNotice

/-! ### Starts -/

/-- What a device does with its keys. -/
inductive IdentityStep where
  /-- It starts, these of its files can be opened for reading, and mbed TLS would answer like this. -/
  | ensure (m : MbedTls) (opens : Path → Bool) (config : DeviceRuntimeConfig)
  /-- It is reset. -/
  | factoryReset

/-- How it turned out: what was returned, unless the power was lost before, and what was done to the
files. -/
inductive IdentityEvent where
  /-- `ensure` -/
  | ensured (r : Option (Bool × DeviceRuntimeConfig)) (done : FlashTrace)
  /-- A factory reset. -/
  | reset (done : FlashTrace)

/-- The steps of the device. -/
def identityStep (fs : Flash) : IdentityStep → IdentityEvent → Flash → Prop
  | .ensure m opens config, .ensured r done, fs' =>
    m.Documented ∧ Halts (ensure m opens config) (powerOn fs) r fs' done
  | .factoryReset, .reset done, fs' => ∃ r, Halts factoryReset (powerOn fs) r fs' done
  | _, _, _ => False

/-- A device that starts again and again. -/
def identitySystem : Refinement.System IdentityStep IdentityEvent Flash := ⟨identityStep⟩

/-- Starts and resets, latest first. -/
abbrev IdentityHistory := List (IdentityStep × IdentityEvent)

/-! ### What is generated -/

section Generated

variable {m : MbedTls} {privateKey publicKey : Text}

/-- A pair that was generated as a whole. -/
structure Generated (m : MbedTls) (privateKey publicKey : Text) : Prop where
  /-- mbed TLS does what it says. -/
  documented : m.Documented
  /-- The two belong together. -/
  generated : generateKeyPair m = some (privateKey, publicKey)

theorem generateKeyPair_some (h : generateKeyPair m = some (privateKey, publicKey)) :
    m.pkWriteKeyPem.1 = 0 ∧ privateKey = Text.cString m.pkWriteKeyPem.2 ∧
      buildOpenSshPublicKey m = some publicKey := by
  rw [generateKeyPair] at h
  split at h
  · cases h
  · split at h
    · cases h
    · split at h
      · cases h
      · split at h
        · cases h
        · next hpem =>
          simp only at h
          split at h
          · cases h
          · next hbuild =>
            split at h
            · obtain ⟨rfl, rfl⟩ := Prod.mk.inj (Option.some.inj h)
              exact ⟨not_not.1 hpem, rfl, hbuild⟩
            · cases h

/-- What the two texts look like. -/
theorem Generated.shape (h : Generated m privateKey publicKey) :
    (∃ body, privateKey = beginEcPrivateKey ++ body ++ endEcPrivateKey ++ ascii "\n") ∧
      privateKey.length < privatePemBufferSize ∧ (0 : UInt8) ∉ privateKey ∧
      ∃ point, IsPoint point ∧ publicKey = opensshLine point := by
  obtain ⟨hpem, rfl, hbuild⟩ := generateKeyPair_some h.generated
  obtain ⟨body, hbody, hlength⟩ := h.documented.pem hpem
  obtain ⟨-, -, point, hpoint, -, hline⟩ := buildOpenSshPublicKey_some h.documented hbuild
  exact ⟨⟨body, hbody⟩, hlength, Text.notMem_cString, point, hpoint, hline⟩

/-- The line break behind the private key is trimmed, and nothing else. -/
theorem Generated.trim (h : Generated m privateKey publicKey) :
    ∃ body, privateKey.trim = beginEcPrivateKey ++ body ++ endEcPrivateKey ∧
      privateKey = privateKey.trim ++ ascii "\n" ∧ privateKey.trim.trim = privateKey.trim := by
  obtain ⟨⟨body, hbody⟩, -⟩ := h.shape
  have hself : Text.trim (beginEcPrivateKey ++ body ++ endEcPrivateKey) =
      beginEcPrivateKey ++ body ++ endEcPrivateKey := by
    have hfront : (beginEcPrivateKey ++ body ++ endEcPrivateKey).dropWhile isSpace =
        beginEcPrivateKey ++ body ++ endEcPrivateKey := rfl
    rw [Text.trim, hfront]
    refine List.rdropWhile_eq_self_iff.2 fun hne ↦ ?_
    rw [List.getLast_append_of_ne_nil _ (show endEcPrivateKey ≠ [] from List.cons_ne_nil _ _)]
    decide +kernel
  have htrim : privateKey.trim = beginEcPrivateKey ++ body ++ endEcPrivateKey := by
    have hbreak := @Text.trim_between (beginEcPrivateKey ++ body ++ endEcPrivateKey) [] (ascii "\n")
      (fun _ hb ↦ absurd hb List.not_mem_nil) (by decide +kernel)
    rw [List.nil_append] at hbreak
    rw [hbody, hbreak, hself]
  refine ⟨body, htrim, ?_, ?_⟩
  · rw [htrim, hbody]
  · rw [htrim, hself]

/-- **A generated pair that is stored is loaded.** -/
theorem loadExisting_of_generated {opens : Path → Bool} {fs : Flash}
    (h : Generated m privateKey publicKey) (hkey : fs .key = some privateKey)
    (hpublic : fs .publicKey = some publicKey) (hopens : opens .key = true)
    (hopens' : opens .publicKey = true) :
    loadExisting opens fs = some (privateKey.trim, publicKey) := by
  obtain ⟨body, htrim, hnewline, -⟩ := h.trim
  obtain ⟨-, -, hzero, point, hpoint, rfl⟩ := h.shape
  have hplain : Text.cString privateKey.trim = privateKey.trim :=
    Text.cString_of_notMem fun hmem ↦ hzero (Text.mem_of_mem_trim hmem)
  have hbegin : privateKey.trim.contains beginEcPrivateKey = true := by
    rw [Text.contains, hplain, htrim, List.append_assoc]
    exact decide_eq_true (List.prefix_append _ _).isInfix
  have hend : privateKey.trim.contains endEcPrivateKey = true := by
    rw [Text.contains, hplain, htrim]
    exact decide_eq_true (List.suffix_append _ _).isInfix
  have hstart : (opensshLine point).startsWith (algorithm ++ ascii " ") = true := by
    rw [Text.startsWith, List.isPrefixOf_iff_prefix]
    exact ⟨Base64.padded (Wire.strings [algorithm, curve, point]), by rw [List.append_assoc]; rfl⟩
  have hne : ¬ (!opens .key ∨ !opens .publicKey ∨ privateKey.length = 0 ∨
      (opensshLine point).length = 0) := by
    rw [hopens, hopens', length_opensshLine hpoint.length, hnewline, List.length_append]
    show ¬ (false = true ∨ false = true ∨ privateKey.trim.length + 1 = 0 ∨ 160 = 0)
    simp
  rw [loadExisting, hkey, hpublic]
  simp only [trim_opensshLine, hbegin, hend, hstart, Bool.and_self, if_true]
  rw [if_neg hne]

end Generated

end Provisioning

end ReverseTunnel

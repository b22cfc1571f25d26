import ReverseTunnel.Provisioning.ConfigFile

/-!
# The key files

The private key and the public key are two files, and a pair may do without the second one. Both
`saveKeys`, for a pair that was submitted, and `persistKeyPair`, for one that was generated, write two
temporary files first; that part is checked. Then they remove the old files and rename the new ones,
one by one.
-/

namespace ReverseTunnel

open Traced

namespace Provisioning

/-- A pair of keys that the device accepts. -/
structure KeyPair where
  /-- The private key. -/
  privateKey : Text
  /-- The public key, or nothing. -/
  publicKey : Text
  /-- The private key is valid. -/
  valid : validKey privateKey = true
  /-- So is the public key. -/
  validPublic : validPublicKey publicKey = true

namespace KeyPair

/-- What `loadKeys` gives for the pair. -/
def texts (k : KeyPair) : Text × Text := (k.privateKey, k.publicKey)

/-- The file of the public key, if there is one. -/
def publicFile (k : KeyPair) : Option Text := if k.publicKey = [] then none else some k.publicKey

/-- The pair is stored. -/
structure Stored (k : KeyPair) (fs : Flash) : Prop where
  /-- The private key. -/
  key : fs .key = some k.privateKey
  /-- The public key. -/
  publicKey : fs .publicKey = k.publicFile

end KeyPair

/-! ### Reading them -/

/-- The pair that `loadKeys` reads. -/
def readPair (fs : Flash) : Option (Text × Text) :=
  let keys := loadKeys fs [] []
  if keys.1 then some keys.2 else none

section Reading

variable {fs : Flash} {key publicKey : Text}

theorem length_of_validKey (h : validKey key = true) :
    0 < key.length ∧ key.length ≤ maxKeySize := by
  simp only [validKey, Bool.and_eq_true, decide_eq_true_eq] at h
  exact h.1.1.1

theorem length_of_validPublicKey (h : validPublicKey publicKey = true) :
    publicKey.length ≤ maxPublicKeySize := by
  by_contra hbig
  have hne : publicKey ≠ [] := fun hnil ↦ by
    rw [hnil] at hbig
    exact hbig (Nat.zero_le _)
  rw [validPublicKey, if_neg (by simpa using hne), if_pos (by omega)] at h
  cases h

/-- A private key alone is a pair. -/
theorem loadKeys_private (hfile : fs .key = some key) (hpublic : fs .publicKey = none)
    (hvalid : validKey key = true) (a b : Text) : loadKeys fs a b = (true, key, []) := by
  have hsize := length_of_validKey hvalid
  rw [loadKeys, hfile, hpublic]
  simp only [hvalid, Bool.not_true, Bool.false_eq_true, if_false]
  rw [if_neg (by omega)]

/-- Both keys are read. -/
theorem loadKeys_both (hfile : fs .key = some key) (hpublic : fs .publicKey = some publicKey)
    (hvalid : validKey key = true) (hvalid' : validPublicKey publicKey = true)
    (hne : publicKey ≠ []) (a b : Text) : loadKeys fs a b = (true, key, publicKey) := by
  have hsize := length_of_validKey hvalid
  have hsize' := length_of_validPublicKey hvalid'
  have hpos : 0 < publicKey.length := List.length_pos_iff.2 hne
  rw [loadKeys, hfile, hpublic]
  simp only [hvalid, hvalid', Bool.not_true, Bool.false_eq_true, if_false]
  rw [if_neg (by omega), if_neg (by omega)]

/-- An empty public key file is worse than none. -/
theorem readPair_empty (hpublic : fs .publicKey = some []) : readPair fs = none := by
  rw [readPair, loadKeys, hpublic]
  split
  · rfl
  · split
    · rfl
    · split <;> rfl

/-- Without the private key there is no pair. -/
theorem readPair_none (hfile : fs .key = none) : readPair fs = none := by
  rw [readPair, loadKeys, hfile]
  rfl

theorem readPair_of_loadKeys (h : loadKeys fs [] [] = (true, key, publicKey)) :
    readPair fs = some (key, publicKey) := by
  rw [readPair, h]
  rfl

end Reading

/-! ### Writing them -/

/-- `writeKeyFile` -/
def writeKeyFile (path : Path) (key : Text) : FlashM Bool := do
  let opened ← openWrite path
  if !opened then pure false
  else
    let written ← print path key
    pure (written = key.length)

/-- The second write of `saveKeys`. -/
def writePublicTemp (publicKey : Text) : FlashM Bool :=
  if publicKey.isEmpty then pure true else writeKeyFile .publicKeyTemp publicKey

/-- The part of `saveKeys` after both files were written. -/
def installKeys (publicKey : Text) : FlashM Bool := do
  -- from here on the old key is gone, whatever happens
  removeIfExists .key
  let renamed ← rename .keyTemp .key
  if !renamed then
    removeIfExists .publicKeyTemp
    pure false
  else
    removeIfExists .publicKey
    if publicKey.isEmpty then pure true
    else
      let renamed ← rename .publicKeyTemp .publicKey
      pure renamed

/-- `saveKeys` -/
def saveKeys (privateKey publicKey : Text) : FlashM Bool := do
  removeIfExists .keyTemp
  removeIfExists .publicKeyTemp
  let written ← writeKeyFile .keyTemp privateKey
  if !written then pure false
  else
    let written ← writePublicTemp publicKey
    if !written then
      removeIfExists .keyTemp
      pure false
    else installKeys publicKey

/-- The end of `persistKeyPair` when something failed. -/
def discardKeys (path : Path) : FlashM Bool := do
  removeIfExists path
  removeIfExists .publicKeyTemp
  pure false

/-- The part of `persistKeyPair` after both files were written. -/
def installKeyPair : FlashM Bool := do
  removeIfExists .key
  removeIfExists .publicKey
  let renamed ← rename .keyTemp .key
  if !renamed then discardKeys .keyTemp
  else
    let renamed ← rename .publicKeyTemp .publicKey
    -- a private key without its public key is removed again
    if !renamed then discardKeys .key else pure true

/-- `persistKeyPair`, whose `writeFile` is `writeKeyFile` -/
def persistKeyPair (privateKey publicKey : Text) : FlashM Bool := do
  removeIfExists .keyTemp
  removeIfExists .publicKeyTemp
  let written ← writeKeyFile .keyTemp privateKey
  if !written then discardKeys .keyTemp
  else
    let written ← writeKeyFile .publicKeyTemp publicKey
    if !written then discardKeys .keyTemp else installKeyPair

end Provisioning

end ReverseTunnel

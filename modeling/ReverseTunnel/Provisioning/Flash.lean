import ReverseTunnel.Lib.Crash
import ReverseTunnel.Arduino.Text

/-!
# Files in flash memory

The part of LittleFS that holds the configuration, the SSH keys, and the notice that a managed
configuration was applied. Opening, renaming and removing a file either happen as a whole or fail, and
printing to a file that is being written appends **as many bytes as there was room for**. A file that
exists can be read.

All of these operations can fail at any time, so what the firmware does to its files is a program in
the sense of `Traced`: its trace says which operations failed, and it can lose its power between them.
-/

namespace ReverseTunnel

open Traced

namespace Provisioning

/-- The files. -/
inductive Path where
  /-- `CONFIG_PATH` -/
  | config
  /-- `CONFIG_TEMP` -/
  | configTemp
  /-- `CONFIG_BACKUP` -/
  | configBackup
  /-- `KEY_PATH` -/
  | key
  /-- `KEY_TEMP` -/
  | keyTemp
  /-- `PUBLIC_KEY_PATH` -/
  | publicKey
  /-- `PUBLIC_KEY_TEMP` -/
  | publicKeyTemp
  /-- `CONFIG_APPLIED_NOTICE_PATH` -/
  | configAppliedNotice
  deriving DecidableEq

/-- The contents of the files that exist. -/
abbrev Flash := Path → Option Text

/-- What can fail. -/
inductive FileCall where
  /-- `LittleFS.open(path, "w")` -/
  | openWrite (path : Path)
  /-- `file.print(data)` for a file opened for writing -/
  | print (path : Path) (data : Text)
  /-- `LittleFS.rename(source, target)` -/
  | rename (source target : Path)
  /-- `LittleFS.remove(path)` -/
  | remove (path : Path)

/-- How it can turn out: whether it was done, or how many bytes were written. -/
def FileReply : FileCall → Type
  | .openWrite _ => Bool
  | .print _ data => Fin (data.length + 1)
  | .rename _ _ => Bool
  | .remove _ => Bool

/-- Programs that work on files. -/
abbrev FlashM := Prog Flash FileCall FileReply Empty

/-- A flash memory and what was done to it. -/
abbrev FlashWorld := World Flash FileCall FileReply Empty

/-- What was done to the files, newest first. -/
abbrev FlashTrace := Trace Flash FileCall FileReply Empty

namespace Flash

/-- The file gets new contents. -/
def write (fs : Flash) (path : Path) (data : Text) : Flash := Function.update fs path (some data)

/-- The file is gone. -/
def erase (fs : Flash) (path : Path) : Flash := Function.update fs path none

/-- The file has another name. A file of that name is replaced. -/
def move (fs : Flash) (source target : Path) : Flash :=
  Function.update (Function.update fs target (fs source)) source none

/-- More is written to a file. -/
def append (fs : Flash) (path : Path) (data : Text) : Flash :=
  Function.update fs path ((fs path).map (· ++ data))

variable {fs : Flash} {p q source target : Path} {data : Text}

@[simp] theorem write_same : fs.write p data p = some data := Function.update_self ..

@[simp] theorem write_ne (h : q ≠ p) : fs.write p data q = fs q := Function.update_of_ne h ..

@[simp] theorem erase_same : fs.erase p p = none := Function.update_self ..

@[simp] theorem erase_ne (h : q ≠ p) : fs.erase p q = fs q := Function.update_of_ne h ..

@[simp] theorem append_same : fs.append p data p = (fs p).map (· ++ data) :=
  Function.update_self ..

@[simp] theorem append_ne (h : q ≠ p) : fs.append p data q = fs q := Function.update_of_ne h ..

@[simp] theorem move_source : fs.move source target source = none := Function.update_self ..

@[simp] theorem move_target (h : target ≠ source) : fs.move source target target = fs source := by
  rw [move, Function.update_of_ne h, Function.update_self]

@[simp] theorem move_ne (h : q ≠ source) (h' : q ≠ target) : fs.move source target q = fs q := by
  rw [move, Function.update_of_ne h, Function.update_of_ne h']

end Flash

/-! ### Operations -/

/-- What the file system makes of it. -/
def attempt (c : FileCall) : FlashM (FileReply c) := Prog.call c

/-- `LittleFS.exists(path)` -/
def fileExists (path : Path) : FlashM Bool := do
  let fs ← Prog.get
  pure (fs path).isSome

/-- `LittleFS.open(path, "w")` -/
def openWrite (path : Path) : FlashM Bool := do
  let ok : Bool ← attempt (.openWrite path)
  if ok then
    Prog.modify (·.write path [])
    pure true
  else pure false

/-- `file.print(data)` -/
def print (path : Path) (data : Text) : FlashM ℕ := do
  let written : Fin (data.length + 1) ← attempt (.print path data)
  Prog.modify (·.append path (data.take written.val))
  pure written.val

/-- `LittleFS.rename(source, target)` -/
def rename (source target : Path) : FlashM Bool := do
  let ok : Bool ← attempt (.rename source target)
  let fs ← Prog.get
  if ok && (fs source).isSome then
    Prog.modify (·.move source target)
    pure true
  else pure false

/-- `LittleFS.remove(path)` -/
def remove (path : Path) : FlashM Unit := do
  let ok : Bool ← attempt (.remove path)
  if ok then Prog.modify (·.erase path) else pure ()

/-- `removeIfExists` -/
def removeIfExists (path : Path) : FlashM Unit := do
  if ← fileExists path then remove path else pure ()

/-! ### Executing them -/

section Rules

variable {α : Type} {Q : α → Assertion Flash FileCall FileReply Empty}
  {K : CrashCondition Flash FileCall FileReply Empty} {w : FlashWorld} {p : Path}

theorem wpc_fileExists_bind {f : Bool → FlashM α} (h : wpc (f (w.st p).isSome) Q K w) :
    wpc (fileExists p >>= f) Q K w :=
  wpc_bind (wpc_get_bind (wpc_pure h))

/-- Opening a file for writing empties it. -/
theorem wpc_openWrite_bind {f : Bool → FlashM α} (hK : K w.st w.trace)
    (hok : ∀ t, wpc (f true) Q K ((w.after (.openWrite p) true t).update (·.write p [])))
    (hfail : ∀ t, wpc (f false) Q K (w.after (.openWrite p) false t)) :
    wpc (openWrite p >>= f) Q K w := by
  refine wpc_bind (wpc_call_bind hK ?_)
  intro r t _
  cases r with
  | true => exact wpc_modify_bind (wpc_pure (hok t))
  | false => exact wpc_pure (hfail t)

/-- Some of the bytes are appended. -/
theorem wpc_print_bind {data : Text} {f : ℕ → FlashM α} (hK : K w.st w.trace)
    (h : ∀ (r : Fin (data.length + 1)) (t : ℕ), wpc (f r.val) Q K
      ((w.after (.print p data) r t).update (·.append p (data.take r.val)))) :
    wpc (print p data >>= f) Q K w := by
  refine wpc_bind (wpc_call_bind hK ?_)
  intro r t _
  exact wpc_modify_bind (wpc_pure (h r t))

/-- A file that exists is renamed, or it stays as it is. -/
theorem wpc_rename_bind {source target : Path} {f : Bool → FlashM α} (hK : K w.st w.trace)
    (hok : ∀ t, (w.st source).isSome = true → wpc (f true) Q K
      ((w.after (.rename source target) true t).update (·.move source target)))
    (hfail : ∀ (r : Bool) (t : ℕ), (r = true → w.st source = none) →
      wpc (f false) Q K (w.after (.rename source target) r t)) :
    wpc (rename source target >>= f) Q K w := by
  refine wpc_bind (wpc_call_bind hK ?_)
  intro r t _
  refine wpc_get_bind (wpc_ite ?_ ?_)
  · intro hdone
    obtain ⟨rfl, hsome⟩ := Bool.and_eq_true_iff.1 hdone
    exact wpc_modify_bind (wpc_pure (hok t hsome))
  · intro hdone
    refine wpc_pure (hfail r t ?_)
    rintro rfl
    rwa [Bool.true_and, Bool.not_eq_true, Option.isSome_eq_false_iff, Option.isNone_iff_eq_none]
      at hdone

/-- A file that exists is removed, or it stays as it is. -/
theorem wpc_removeIfExists_bind {f : Unit → FlashM α} (hK : K w.st w.trace)
    (hnone : w.st p = none → wpc (f ()) Q K w)
    (hok : ∀ t, (w.st p).isSome = true → wpc (f ()) Q K
      ((w.after (.remove p) true t).update (·.erase p)))
    (hfail : ∀ t, (w.st p).isSome = true → wpc (f ()) Q K (w.after (.remove p) false t)) :
    wpc (removeIfExists p >>= f) Q K w := by
  refine wpc_bind (wpc_fileExists_bind (wpc_ite ?_ ?_))
  · intro hsome
    refine wpc_call_bind hK ?_
    intro r t _
    cases r with
    | true =>
      rw [if_pos rfl]
      exact wpc_modify (hok t hsome)
    | false => exact wpc_pure (hfail t hsome)
  · intro hmissing
    rw [Bool.not_eq_true, Option.isSome_eq_false_iff, Option.isNone_iff_eq_none] at hmissing
    exact wpc_pure (hnone hmissing)

end Rules

end Provisioning

end ReverseTunnel

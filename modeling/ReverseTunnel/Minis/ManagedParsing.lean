import ReverseTunnel.Minis.ManagedConfig

/-!
# Parsing line by line

What `parseConfig` finds, said without a buffer: `readLine` notes the settings of one line, given as a
text of its own, and keeps text values as texts. Parsing in place **refines** reading the lines: a value
that was found stays where it is, ended by a zero, since everything that is written later lies behind it,
and since no line is a setting of two keys.
-/

namespace ReverseTunnel

namespace Minis

/-! ### Buffers -/

section Buffers

variable {a b t buf : Text} {p : ℕ}

/-- A text that is ended by a zero is a C string. -/
theorem cAt_append (ht : (0 : UInt8) ∉ t) : cAt (a ++ (t ++ 0 :: b)) a.length = t := by
  have hne : ∀ c ∈ t, decide (c ≠ 0) = true := by
    intro c hc
    exact decide_eq_true fun heq ↦ ht (heq ▸ hc)
  rw [cAt, List.drop_left, Text.cString, List.takeWhile_append_of_pos hne,
    List.takeWhile_cons_of_neg (by decide), List.append_nil]

/-- The text `t` is in the buffer at the position `p`, ended by a zero. -/
def Ends (buf : Text) (p : ℕ) (t : Text) : Prop :=
  ∃ a b, buf = a ++ (t ++ 0 :: b) ∧ p = a.length ∧ (0 : UInt8) ∉ t

theorem Ends.cAt_eq (h : Ends buf p t) : cAt buf p = t := by
  obtain ⟨a, b, rfl, rfl, ht⟩ := h
  exact cAt_append ht

theorem Ends.append (h : Ends buf p t) (more : Text) : Ends (buf ++ more) p t := by
  obtain ⟨a, b, rfl, rfl, ht⟩ := h
  exact ⟨a, b ++ more, by simp only [List.append_assoc, List.cons_append], rfl, ht⟩

end Buffers

/-! ### Settings of a line -/

section Settings

variable {key key' line value cur : Text}

theorem settingValue_of_not_prefix (h : ¬key <+: line) : settingValue key line = none := by
  rw [settingValue, if_neg]
  rwa [List.isPrefixOf_iff_prefix]

/-- What is left behind the blanks does not begin with one. -/
theorem head?_dropWhile_isBlank (rest : Text) :
    ∀ c ∈ (rest.dropWhile isBlank).head?, isBlank c = false := by
  intro c hc
  have hhead := List.head?_dropWhile_not isBlank rest
  rw [Option.mem_def.1 hc] at hhead
  exact hhead

/-- A text that does not begin with a blank stays. -/
theorem dropWhile_isBlank_eq (h : ∀ c ∈ value.head?, isBlank c = false) :
    value.dropWhile isBlank = value := by
  rcases value with - | ⟨c, rest⟩
  · rfl
  · exact List.dropWhile_cons_of_neg (by rw [h c rfl]; exact Bool.false_ne_true)

/-- **A setting**: the key, blanks, a `=`, blanks and the value. -/
theorem settingValue_eq_some_iff :
    settingValue key line = some value ↔
      ∃ blanks blanks', line = key ++ (blanks ++ chr '=' :: (blanks' ++ value)) ∧
        (∀ c ∈ blanks, isBlank c = true) ∧ (∀ c ∈ blanks', isBlank c = true) ∧
        ∀ c ∈ value.head?, isBlank c = false := by
  constructor
  · intro h
    rw [settingValue] at h
    split at h
    · next hkey =>
      obtain ⟨rest, hrest⟩ := List.isPrefixOf_iff_prefix.1 hkey
      rw [← hrest, List.drop_left] at h
      split at h
      · cases h
      · next c rest' hdrop =>
        split at h
        · next hc =>
          have hvalue := Option.some.inj h
          refine ⟨rest.takeWhile isBlank, rest'.takeWhile isBlank, ?_,
            fun c hc ↦ List.mem_takeWhile_imp hc, fun c hc ↦ List.mem_takeWhile_imp hc, ?_⟩
          · rw [← hvalue, List.takeWhile_append_dropWhile, ← hc, ← hdrop,
              List.takeWhile_append_dropWhile, hrest]
          · rw [← hvalue]
            exact head?_dropWhile_isBlank rest'
        · cases h
    · cases h
  · rintro ⟨blanks, blanks', rfl, hblanks, hblanks', hvalue⟩
    rw [settingValue, if_pos (List.isPrefixOf_iff_prefix.2 (List.prefix_append ..)), List.drop_left,
      List.dropWhile_append_of_pos hblanks, List.dropWhile_cons_of_neg (by decide)]
    show (if chr '=' = chr '=' then some ((blanks' ++ value).dropWhile isBlank) else none) = _
    rw [if_pos rfl, List.dropWhile_append_of_pos hblanks', dropWhile_isBlank_eq hvalue]

/-- The value is the end of the line, and the key is in front of it. -/
theorem settingValue_eq_some (h : settingValue key line = some value) :
    ∃ front, line = front ++ value ∧ key <+: front := by
  obtain ⟨blanks, blanks', rfl, -⟩ := settingValue_eq_some_iff.1 h
  refine ⟨key ++ (blanks ++ chr '=' :: blanks'), ?_, List.prefix_append ..⟩
  simp only [List.append_assoc, List.cons_append]

/-- The keys of settings. -/
def keys : List Text :=
  [ascii "HB_INTERVAL_MIN", ascii "TUNNEL_ENABLED", ascii "SSH_HOST", ascii "SSH_PORT",
    ascii "REMOTE_BIND_HOST", ascii "REMOTE_BIND_PORT", ascii "LOCAL_HOST", ascii "LOCAL_PORT",
    ascii "MAC_VENDOR"]

/-- The keys of the settings whose values are ended in the buffer. -/
def textKeys : List Text :=
  [ascii "TUNNEL_ENABLED", ascii "SSH_HOST", ascii "REMOTE_BIND_HOST", ascii "LOCAL_HOST",
    ascii "MAC_VENDOR"]

theorem textKeys_subset : textKeys ⊆ keys := by
  decide +kernel

/-- No key begins with another one. -/
theorem keys_prefixFree : ∀ key ∈ keys, ∀ key' ∈ keys, key <+: key' → key = key' := by
  decide +kernel

/-- A line that begins with a key is not a setting of another one. -/
theorem settingValue_other (hkey : key ∈ keys) (hkey' : key' ∈ keys) (hne : key' ≠ key)
    (hline : key <+: line) : settingValue key' line = none := by
  refine settingValue_of_not_prefix fun hline' ↦ hne ?_
  rcases List.prefix_or_prefix_of_prefix hline hline' with h | h
  · exact (keys_prefixFree _ hkey _ hkey' h).symm
  · exact keys_prefixFree _ hkey' _ hkey h

end Settings

/-! ### The end of a value -/

section Cutting

variable {key l value before rest : Text}

theorem trimEnd_front (value : Text) : trimEnd value <+: value := List.rdropWhile_prefix _ _

/-- **Ending a value in the buffer**: what is in front of the line and what is behind it stay, the value
is a C string of its own, and the line still begins with its key. -/
theorem parseTextSetting_some (before rest : Text) (hl : (0 : UInt8) ∉ l)
    (h : settingValue key l = some value) :
    ∃ p before', parseTextSetting (before ++ (l ++ 0 :: rest)) before.length key =
        (before' ++ rest, some (if trimEnd value = [] then none else some p)) ∧
      before'.length = before.length + l.length + 1 ∧ before <+: before' ∧
      Ends before' p (trimEnd value) ∧ key <+: cAt (before' ++ rest) before.length := by
  obtain ⟨front, rfl, hkey⟩ := settingValue_eq_some h
  obtain ⟨trail, htrail⟩ := trimEnd_front value
  -- The byte behind the value is the first one of what is trimmed, or the end of the line.
  obtain ⟨c, pad, hpad⟩ : ∃ c pad, trail ++ [0] = c :: pad :=
    List.exists_cons_of_ne_nil (by simp)
  have hlen : pad.length = trail.length := by
    have hlength := congrArg List.length hpad
    rw [List.length_append, List.length_cons, List.length_cons, List.length_nil] at hlength
    omega
  have hvalue : (0 : UInt8) ∉ trimEnd value := by
    intro hmem
    exact hl (List.mem_append_right _ ((trimEnd_front value).subset hmem))
  have hfront : (0 : UInt8) ∉ front := fun hmem ↦ hl (List.mem_append_left _ hmem)
  have hset : (before ++ ((front ++ value) ++ 0 :: rest)).set
      (before.length + front.length + (trimEnd value).length) 0 =
      (before ++ (front ++ (trimEnd value ++ 0 :: pad))) ++ rest := by
    have hsplit : before ++ ((front ++ value) ++ 0 :: rest) =
        (before ++ (front ++ trimEnd value)) ++ (c :: (pad ++ rest)) := by
      rw [← List.cons_append, ← hpad]
      conv_lhs => rw [← htrail]
      simp only [List.append_assoc, List.cons_append, List.nil_append]
    rw [hsplit, List.set_append_right _ _ (by simp only [List.length_append]; omega)]
    simp only [List.length_append, Nat.add_assoc, Nat.sub_self, List.set_cons_zero,
      List.append_assoc, List.cons_append]
  have hends : Ends (before ++ (front ++ (trimEnd value ++ 0 :: pad)))
      (before.length + front.length) (trimEnd value) := by
    refine ⟨before ++ front, pad, ?_, ?_, hvalue⟩
    · rw [List.append_assoc]
    · rw [List.length_append]
  refine ⟨before.length + front.length, before ++ (front ++ (trimEnd value ++ 0 :: pad)), ?_, ?_,
    List.prefix_append .., hends, ?_⟩
  · have hstart : before.length + ((front ++ value).length - value.length) =
        before.length + front.length := by
      rw [List.length_append]
      omega
    rw [parseTextSetting, cAt_append hl, h]
    show (if cAt ((before ++ ((front ++ value) ++ 0 :: rest)).set
        (before.length + ((front ++ value).length - value.length) + (trimEnd value).length) 0)
        (before.length + ((front ++ value).length - value.length)) = [] then _ else _) = _
    rw [hstart, hset, (hends.append rest).cAt_eq]
    by_cases hempty : trimEnd value = []
    · rw [if_pos hempty, if_pos hempty]
    · rw [if_neg hempty, if_neg hempty]
  · have hsum := congrArg List.length htrail
    simp only [List.length_append, List.length_cons] at hsum ⊢
    omega
  · have hcut : before ++ (front ++ (trimEnd value ++ 0 :: pad)) ++ rest =
        before ++ ((front ++ trimEnd value) ++ 0 :: (pad ++ rest)) := by
      simp only [List.append_assoc, List.cons_append]
    rw [hcut, cAt_append]
    · exact hkey.trans (List.prefix_append ..)
    · rw [List.mem_append]
      exact not_or.2 ⟨hfront, hvalue⟩

theorem parseTextSetting_none {buf : Text} {line : ℕ} (h : settingValue key (cAt buf line) = none) :
    parseTextSetting buf line key = (buf, none) := by
  rw [parseTextSetting, h]

end Cutting

/-! ### Findings -/

/-- What a line has of every setting. -/
structure Findings (P : Type) where
  /-- `HB_INTERVAL_MIN` -/
  heartbeatInterval : Option (Option UInt16) := none
  /-- `TUNNEL_ENABLED` -/
  tunnelEnabled : Option (Option Bool) := none
  /-- `SSH_HOST` -/
  sshHost : Option (Option (Option P)) := none
  /-- `SSH_PORT` -/
  sshPort : Option (Option UInt16) := none
  /-- `REMOTE_BIND_HOST` -/
  remoteBindHost : Option (Option (Option P)) := none
  /-- `REMOTE_BIND_PORT` -/
  remoteBindPort : Option (Option UInt16) := none
  /-- `LOCAL_HOST` -/
  localHost : Option (Option (Option P)) := none
  /-- `LOCAL_PORT` -/
  localPort : Option (Option UInt16) := none
  /-- `MAC_VENDOR` -/
  macVendor : Option (Option (Option P)) := none

/-- Every setting of a line is noted. The result is `false` if one of them was already present. -/
def ParsedConfig.note {P : Type} (parsed : ParsedConfig P) (found : Findings P) :
    ParsedConfig P × Bool :=
  ({ heartbeatInterval := (parsed.heartbeatInterval.note found.heartbeatInterval).1,
     tunnelEnabled := (parsed.tunnelEnabled.note found.tunnelEnabled).1,
     sshHost := (parsed.sshHost.note found.sshHost).1,
     sshPort := (parsed.sshPort.note found.sshPort).1,
     remoteBindHost := (parsed.remoteBindHost.note found.remoteBindHost).1,
     remoteBindPort := (parsed.remoteBindPort.note found.remoteBindPort).1,
     localHost := (parsed.localHost.note found.localHost).1,
     localPort := (parsed.localPort.note found.localPort).1,
     macVendor := (parsed.macVendor.note found.macVendor).1 },
    (parsed.heartbeatInterval.note found.heartbeatInterval).2 &&
      (parsed.tunnelEnabled.note found.tunnelEnabled).2 &&
      (parsed.sshHost.note found.sshHost).2 && (parsed.sshPort.note found.sshPort).2 &&
      (parsed.remoteBindHost.note found.remoteBindHost).2 &&
      (parsed.remoteBindPort.note found.remoteBindPort).2 &&
      (parsed.localHost.note found.localHost).2 && (parsed.localPort.note found.localPort).2 &&
      (parsed.macVendor.note found.macVendor).2)

/-- What `parseLine` finds, and the buffer that it leaves. -/
def findings (buf : Text) (line : ℕ) : Text × Findings ℕ :=
  let heartbeatInterval := numberSetting (cAt buf line) (ascii "HB_INTERVAL_MIN")
    minHeartbeatIntervalMin maxHeartbeatIntervalMin
  let (buf, tunnelEnabled) := booleanSetting buf line (ascii "TUNNEL_ENABLED")
  let (buf, sshHost) := textSetting buf line (ascii "SSH_HOST") isValidConfigHost
  let sshPort := numberSetting (cAt buf line) (ascii "SSH_PORT") 1 65535
  let (buf, remoteBindHost) := textSetting buf line (ascii "REMOTE_BIND_HOST") isValidConfigHost
  let remoteBindPort := numberSetting (cAt buf line) (ascii "REMOTE_BIND_PORT") 1 65535
  let (buf, localHost) := textSetting buf line (ascii "LOCAL_HOST") isValidConfigHost
  let localPort := numberSetting (cAt buf line) (ascii "LOCAL_PORT") 1 65535
  let (buf, macVendor) := textSetting buf line (ascii "MAC_VENDOR") isValidMacVendor
  (buf,
    { heartbeatInterval := heartbeatInterval, tunnelEnabled := tunnelEnabled, sshHost := sshHost,
      sshPort := sshPort, remoteBindHost := remoteBindHost, remoteBindPort := remoteBindPort,
      localHost := localHost, localPort := localPort, macVendor := macVendor })

/-- What a line has of a text setting, as a text. -/
def textIn (key line : Text) (check : Text → Bool) : Option (Option (Option Text)) :=
  (settingValue key line).map fun value ↦
    if check (trimEnd value) then some (some (trimEnd value)) else none

/-- What a line has of a boolean setting, without a buffer. -/
def booleanIn (key line : Text) : Option (Option Bool) :=
  (settingValue key line).map fun value ↦ parseBoolean (trimEnd value)

/-- What a line has of every setting, as texts. -/
def readLine (line : Text) : Findings Text where
  heartbeatInterval := numberSetting line (ascii "HB_INTERVAL_MIN") minHeartbeatIntervalMin
    maxHeartbeatIntervalMin
  tunnelEnabled := booleanIn (ascii "TUNNEL_ENABLED") line
  sshHost := textIn (ascii "SSH_HOST") line isValidConfigHost
  sshPort := numberSetting line (ascii "SSH_PORT") 1 65535
  remoteBindHost := textIn (ascii "REMOTE_BIND_HOST") line isValidConfigHost
  remoteBindPort := numberSetting line (ascii "REMOTE_BIND_PORT") 1 65535
  localHost := textIn (ascii "LOCAL_HOST") line isValidConfigHost
  localPort := numberSetting line (ascii "LOCAL_PORT") 1 65535
  macVendor := textIn (ascii "MAC_VENDOR") line isValidMacVendor

/-! ### Pointers stand for texts -/

/-- What is found of a text setting at positions stands for what is found as texts. -/
abbrev StandsFor (buf : Text) : Option (Option (Option ℕ)) → Option (Option (Option Text)) → Prop :=
  Option.Rel (Option.Rel (Option.Rel (Ends buf)))

/-- The findings of a line in the buffer stand for the findings of a text. -/
structure Findings.StandFor (buf : Text) (f : Findings ℕ) (g : Findings Text) : Prop where
  /-- `HB_INTERVAL_MIN` -/
  heartbeatInterval : f.heartbeatInterval = g.heartbeatInterval
  /-- `TUNNEL_ENABLED` -/
  tunnelEnabled : f.tunnelEnabled = g.tunnelEnabled
  /-- `SSH_HOST` -/
  sshHost : StandsFor buf f.sshHost g.sshHost
  /-- `SSH_PORT` -/
  sshPort : f.sshPort = g.sshPort
  /-- `REMOTE_BIND_HOST` -/
  remoteBindHost : StandsFor buf f.remoteBindHost g.remoteBindHost
  /-- `REMOTE_BIND_PORT` -/
  remoteBindPort : f.remoteBindPort = g.remoteBindPort
  /-- `LOCAL_HOST` -/
  localHost : StandsFor buf f.localHost g.localHost
  /-- `LOCAL_PORT` -/
  localPort : f.localPort = g.localPort
  /-- `MAC_VENDOR` -/
  macVendor : StandsFor buf f.macVendor g.macVendor

/-- A text field at a position stands for one with a text. -/
structure Field.Refines (buf : Text) (f : Field (Option ℕ)) (g : Field (Option Text)) : Prop where
  /-- They are present alike. -/
  present : f.present = g.present
  /-- They are valid alike. -/
  valid : f.valid = g.valid
  /-- The text is at the position. -/
  value : Option.Rel (Ends buf) f.value g.value

/-- A configuration with positions stands for one with texts. -/
structure ParsedConfig.Refines (buf : Text) (f : ParsedConfig ℕ) (g : ParsedConfig Text) : Prop where
  /-- `heartbeatInterval...` -/
  heartbeatInterval : f.heartbeatInterval = g.heartbeatInterval
  /-- `tunnelEnabled...` -/
  tunnelEnabled : f.tunnelEnabled = g.tunnelEnabled
  /-- `sshHost...` -/
  sshHost : Field.Refines buf f.sshHost g.sshHost
  /-- `sshPort...` -/
  sshPort : f.sshPort = g.sshPort
  /-- `remoteBindHost...` -/
  remoteBindHost : Field.Refines buf f.remoteBindHost g.remoteBindHost
  /-- `remoteBindPort...` -/
  remoteBindPort : f.remoteBindPort = g.remoteBindPort
  /-- `localHost...` -/
  localHost : Field.Refines buf f.localHost g.localHost
  /-- `localPort...` -/
  localPort : f.localPort = g.localPort
  /-- `macVendor...` -/
  macVendor : Field.Refines buf f.macVendor g.macVendor

section Refinement

variable {buf more : Text}

theorem pointsTo_append {p : Option ℕ} {t : Option Text} (h : Option.Rel (Ends buf) p t)
    (more : Text) : Option.Rel (Ends (buf ++ more)) p t := by
  rcases h with hends | -
  · exact .some (hends.append more)
  · exact .none

theorem Field.Refines.append {f : Field (Option ℕ)} {g : Field (Option Text)}
    (h : Field.Refines buf f g) (more : Text) : Field.Refines (buf ++ more) f g :=
  ⟨h.present, h.valid, pointsTo_append h.value more⟩

/-- Noting the same of both keeps what they stand for. -/
theorem Field.Refines.note {f : Field (Option ℕ)} {g : Field (Option Text)}
    {o : Option (Option (Option ℕ))} {o' : Option (Option (Option Text))}
    (h : Field.Refines buf f g) (ho : StandsFor buf o o') :
    Field.Refines buf (f.note o).1 (g.note o').1 ∧ (f.note o).2 = (g.note o').2 := by
  rcases ho with (hvalue | -) | -
  · exact ⟨⟨rfl, rfl, hvalue⟩, congrArg (!·) h.present⟩
  · exact ⟨⟨rfl, rfl, h.value⟩, congrArg (!·) h.present⟩
  · exact ⟨h, rfl⟩

theorem ParsedConfig.Refines.append {f : ParsedConfig ℕ} {g : ParsedConfig Text}
    (h : f.Refines buf g) (more : Text) : f.Refines (buf ++ more) g where
  heartbeatInterval := h.heartbeatInterval
  tunnelEnabled := h.tunnelEnabled
  sshHost := h.sshHost.append more
  sshPort := h.sshPort
  remoteBindHost := h.remoteBindHost.append more
  remoteBindPort := h.remoteBindPort
  localHost := h.localHost.append more
  localPort := h.localPort
  macVendor := h.macVendor.append more

theorem ParsedConfig.Refines.note {f : ParsedConfig ℕ} {g : ParsedConfig Text} {o : Findings ℕ}
    {o' : Findings Text} (h : f.Refines buf g) (ho : o.StandFor buf o') :
    (f.note o).1.Refines buf (g.note o').1 ∧ (f.note o).2 = (g.note o').2 := by
  have hssh := h.sshHost.note ho.sshHost
  have hremote := h.remoteBindHost.note ho.remoteBindHost
  have hlocal := h.localHost.note ho.localHost
  have hvendor := h.macVendor.note ho.macVendor
  constructor
  · exact
      { heartbeatInterval := by
          show (f.heartbeatInterval.note o.heartbeatInterval).1 = _
          rw [h.heartbeatInterval, ho.heartbeatInterval]
          rfl
        tunnelEnabled := by
          show (f.tunnelEnabled.note o.tunnelEnabled).1 = _
          rw [h.tunnelEnabled, ho.tunnelEnabled]
          rfl
        sshHost := hssh.1
        sshPort := by
          show (f.sshPort.note o.sshPort).1 = _
          rw [h.sshPort, ho.sshPort]
          rfl
        remoteBindHost := hremote.1
        remoteBindPort := by
          show (f.remoteBindPort.note o.remoteBindPort).1 = _
          rw [h.remoteBindPort, ho.remoteBindPort]
          rfl
        localHost := hlocal.1
        localPort := by
          show (f.localPort.note o.localPort).1 = _
          rw [h.localPort, ho.localPort]
          rfl
        macVendor := hvendor.1 }
  · rw [ParsedConfig.note, ParsedConfig.note, h.heartbeatInterval, ho.heartbeatInterval,
      h.tunnelEnabled, ho.tunnelEnabled, h.sshPort, ho.sshPort, h.remoteBindPort,
      ho.remoteBindPort, h.localPort, ho.localPort, hssh.2, hremote.2, hlocal.2, hvendor.2]

end Refinement

/-! ### One line -/

section OneLine

variable {key l value before rest buf : Text} {line : ℕ}

theorem numberSetting_none (h : settingValue key l = none) (least greatest : UInt32) :
    numberSetting l key least greatest = none := by
  rw [numberSetting, parseSetting, h]
  rfl

theorem textSetting_none (h : settingValue key (cAt buf line) = none) (check : Text → Bool) :
    textSetting buf line key check = (buf, none) := by
  rw [textSetting, parseTextSetting_none h]
  rfl

theorem booleanSetting_none (h : settingValue key (cAt buf line) = none) :
    booleanSetting buf line key = (buf, none) := by
  rw [booleanSetting, parseTextSetting_none h]
  rfl

theorem textIn_none (h : settingValue key l = none) (check : Text → Bool) :
    textIn key l check = none := by
  rw [textIn, h]
  rfl

theorem booleanIn_none (h : settingValue key l = none) : booleanIn key l = none := by
  rw [booleanIn, h]
  rfl

/-- The buffer that a cut line leaves. -/
structure Cut (before l rest key : Text) (buf' : Text) (before' : Text) : Prop where
  /-- What is behind the line stays. -/
  split : buf' = before' ++ rest
  /-- The line takes the same room. -/
  length : before'.length = before.length + l.length + 1
  /-- What is in front of the line stays. -/
  front : before <+: before'
  /-- The line still begins with its key. -/
  key : key <+: cAt buf' before.length

theorem textSetting_some (before rest : Text) {check : Text → Bool} (hcheck : check [] = false)
    (hl : (0 : UInt8) ∉ l) (h : settingValue key l = some value) :
    ∃ buf' before' found, textSetting (before ++ (l ++ 0 :: rest)) before.length key check =
        (buf', found) ∧ Cut before l rest key buf' before' ∧
      StandsFor before' found (textIn key l check) := by
  obtain ⟨p, before', hparse, hlen, hfront', hends, hkey⟩ :=
    parseTextSetting_some before rest hl h
  rw [textSetting, hparse, textIn, h]
  refine ⟨_, before', _, rfl, ⟨rfl, hlen, hfront', hkey⟩, ?_⟩
  by_cases hempty : trimEnd value = []
  · simp only [hempty, hcheck, if_true, Option.map_some, Option.filter_none, Option.map_none,
      Bool.false_eq_true, if_false]
    exact .some .none
  · simp only [hempty, if_false, Option.map_some, Option.filter_some,
      (hends.append rest).cAt_eq]
    by_cases hvalid : check (trimEnd value) = true
    · simp only [hvalid, if_true, Option.map_some]
      exact .some (.some (.some hends))
    · simp only [hvalid, if_false, Option.map_none, Bool.false_eq_true]
      exact .some .none

theorem booleanSetting_some (before rest : Text) (hl : (0 : UInt8) ∉ l)
    (h : settingValue key l = some value) :
    ∃ buf' before', booleanSetting (before ++ (l ++ 0 :: rest)) before.length key =
        (buf', booleanIn key l) ∧ Cut before l rest key buf' before' := by
  obtain ⟨p, before', hparse, hlen, hfront', hends, hkey⟩ :=
    parseTextSetting_some before rest hl h
  rw [booleanSetting, hparse, booleanIn, h]
  refine ⟨_, before', ?_, ⟨rfl, hlen, hfront', hkey⟩⟩
  by_cases hempty : trimEnd value = []
  · simp only [hempty, if_true, Option.map_some, Option.bind_none]
    rfl
  · simp only [hempty, if_false, Option.map_some, Option.bind_some, (hends.append rest).cAt_eq]

/-- A line of no text key leaves the buffer as it is. -/
theorem findings_of_silent (before rest : Text) (hl : (0 : UInt8) ∉ l)
    (hsilent : ∀ key ∈ textKeys, settingValue key l = none) :
    (findings (before ++ (l ++ 0 :: rest)) before.length).1 = before ++ (l ++ 0 :: rest) ∧
      (findings (before ++ (l ++ 0 :: rest)) before.length).2.StandFor (before ++ (l ++ [0]))
        (readLine l) := by
  have hline : cAt (before ++ (l ++ 0 :: rest)) before.length = l := cAt_append hl
  have hbuf : ∀ key ∈ textKeys,
      settingValue key (cAt (before ++ (l ++ 0 :: rest)) before.length) = none := by
    rw [hline]
    exact hsilent
  have hread : readLine l =
      { heartbeatInterval := numberSetting l (ascii "HB_INTERVAL_MIN") minHeartbeatIntervalMin
          maxHeartbeatIntervalMin
        sshPort := numberSetting l (ascii "SSH_PORT") 1 65535
        remoteBindPort := numberSetting l (ascii "REMOTE_BIND_PORT") 1 65535
        localPort := numberSetting l (ascii "LOCAL_PORT") 1 65535 } := by
    simp (disch := exact hsilent _ (by decide +kernel)) only
      [readLine, booleanIn_none, textIn_none]
  rw [hread]
  simp (disch := exact hbuf _ (by decide +kernel)) only
    [findings, booleanSetting_none, textSetting_none]
  rw [hline]
  exact ⟨trivial, ⟨rfl, rfl, .none, rfl, .none, rfl, .none, rfl, .none⟩⟩

/-- **One line**: the findings in the buffer stand for the findings of the text, and what is behind the
line stays. -/
theorem findings_standFor (before rest : Text) (hl : (0 : UInt8) ∉ l) :
    ∃ before', (findings (before ++ (l ++ 0 :: rest)) before.length).1 = before' ++ rest ∧
      before'.length = before.length + l.length + 1 ∧ before <+: before' ∧
      (findings (before ++ (l ++ 0 :: rest)) before.length).2.StandFor before' (readLine l) := by
  by_cases hfound : ∃ key ∈ textKeys, settingValue key l ≠ none
  · obtain ⟨key, htext, hne⟩ := hfound
    obtain ⟨value, hvalue⟩ := Option.ne_none_iff_exists'.1 hne
    have hkey : key ∈ keys := textKeys_subset htext
    obtain ⟨front, hfront, hprefix⟩ := settingValue_eq_some hvalue
    replace hprefix : key <+: l := hprefix.trans (hfront ▸ List.prefix_append ..)
    -- The other keys find nothing, before the line is cut and after it.
    have hline : ∀ key' ∈ keys, key' ≠ key → settingValue key' l = none :=
      fun key' hkey' hne ↦ settingValue_other hkey hkey' hne hprefix
    have hbuf : ∀ key' ∈ keys, key' ≠ key →
        settingValue key' (cAt (before ++ (l ++ 0 :: rest)) before.length) = none := by
      rw [cAt_append hl]
      exact hline
    have hcut : ∀ {buf' before' : Text}, Cut before l rest key buf' before' →
        ∀ key' ∈ keys, key' ≠ key → settingValue key' (cAt buf' before.length) = none :=
      fun cut key' hkey' hne ↦ settingValue_other hkey hkey' hne cut.key
    simp only [textKeys, List.mem_cons, List.not_mem_nil, or_false] at htext
    rcases htext with rfl | rfl | rfl | rfl | rfl
    · obtain ⟨buf', before', hset, cut⟩ :=
        booleanSetting_some before rest hl hvalue
      have hfindings : findings (before ++ (l ++ 0 :: rest)) before.length =
          (buf', { tunnelEnabled := booleanIn (ascii "TUNNEL_ENABLED") l }) := by
        simp (disch := first
          | (refine hbuf _ ?_ ?_ <;> decide +kernel)
          | (refine hcut cut _ ?_ ?_ <;> decide +kernel)) only
          [findings, hset, numberSetting_none, textSetting_none]
      have hread : readLine l = { tunnelEnabled := booleanIn (ascii "TUNNEL_ENABLED") l } := by
        simp (disch := refine hline _ ?_ ?_ <;> decide +kernel) only
          [readLine, numberSetting_none, textIn_none]
      rw [hfindings, hread]
      exact ⟨before', cut.split, cut.length, cut.front,
        ⟨rfl, rfl, .none, rfl, .none, rfl, .none, rfl, .none⟩⟩
    · obtain ⟨buf', before', found, hset, cut, hfound⟩ := textSetting_some before rest
        (show isValidConfigHost [] = false by decide) hl hvalue
      have hfindings : findings (before ++ (l ++ 0 :: rest)) before.length =
          (buf', { sshHost := found }) := by
        simp (disch := first
          | (refine hbuf _ ?_ ?_ <;> decide +kernel)
          | (refine hcut cut _ ?_ ?_ <;> decide +kernel)) only
          [findings, hset, numberSetting_none, booleanSetting_none, textSetting_none]
      generalize ho : textIn (ascii "SSH_HOST") l isValidConfigHost = o at hfound
      have hread : readLine l = { sshHost := o } := by
        simp (disch := refine hline _ ?_ ?_ <;> decide +kernel) only
          [readLine, ho, numberSetting_none, booleanIn_none, textIn_none]
      rw [hfindings, hread]
      exact ⟨before', cut.split, cut.length, cut.front,
        ⟨rfl, rfl, hfound, rfl, .none, rfl, .none, rfl, .none⟩⟩
    · obtain ⟨buf', before', found, hset, cut, hfound⟩ := textSetting_some before rest
        (show isValidConfigHost [] = false by decide) hl hvalue
      have hfindings : findings (before ++ (l ++ 0 :: rest)) before.length =
          (buf', { remoteBindHost := found }) := by
        simp (disch := first
          | (refine hbuf _ ?_ ?_ <;> decide +kernel)
          | (refine hcut cut _ ?_ ?_ <;> decide +kernel)) only
          [findings, hset, numberSetting_none, booleanSetting_none, textSetting_none]
      generalize ho : textIn (ascii "REMOTE_BIND_HOST") l isValidConfigHost = o at hfound
      have hread : readLine l = { remoteBindHost := o } := by
        simp (disch := refine hline _ ?_ ?_ <;> decide +kernel) only
          [readLine, ho, numberSetting_none, booleanIn_none, textIn_none]
      rw [hfindings, hread]
      exact ⟨before', cut.split, cut.length, cut.front,
        ⟨rfl, rfl, .none, rfl, hfound, rfl, .none, rfl, .none⟩⟩
    · obtain ⟨buf', before', found, hset, cut, hfound⟩ := textSetting_some before rest
        (show isValidConfigHost [] = false by decide) hl hvalue
      have hfindings : findings (before ++ (l ++ 0 :: rest)) before.length =
          (buf', { localHost := found }) := by
        simp (disch := first
          | (refine hbuf _ ?_ ?_ <;> decide +kernel)
          | (refine hcut cut _ ?_ ?_ <;> decide +kernel)) only
          [findings, hset, numberSetting_none, booleanSetting_none, textSetting_none]
      generalize ho : textIn (ascii "LOCAL_HOST") l isValidConfigHost = o at hfound
      have hread : readLine l = { localHost := o } := by
        simp (disch := refine hline _ ?_ ?_ <;> decide +kernel) only
          [readLine, ho, numberSetting_none, booleanIn_none, textIn_none]
      rw [hfindings, hread]
      exact ⟨before', cut.split, cut.length, cut.front,
        ⟨rfl, rfl, .none, rfl, .none, rfl, hfound, rfl, .none⟩⟩
    · obtain ⟨buf', before', found, hset, cut, hfound⟩ := textSetting_some before rest
        (show isValidMacVendor [] = false by decide) hl hvalue
      have hfindings : findings (before ++ (l ++ 0 :: rest)) before.length =
          (buf', { macVendor := found }) := by
        simp (disch := first
          | (refine hbuf _ ?_ ?_ <;> decide +kernel)
          | (refine hcut cut _ ?_ ?_ <;> decide +kernel)) only
          [findings, hset, numberSetting_none, booleanSetting_none, textSetting_none]
      generalize ho : textIn (ascii "MAC_VENDOR") l isValidMacVendor = o at hfound
      have hread : readLine l = { macVendor := o } := by
        simp (disch := refine hline _ ?_ ?_ <;> decide +kernel) only
          [readLine, ho, numberSetting_none, booleanIn_none, textIn_none]
      rw [hfindings, hread]
      exact ⟨before', cut.split, cut.length, cut.front,
        ⟨rfl, rfl, .none, rfl, .none, rfl, .none, rfl, hfound⟩⟩
  · obtain ⟨hbuf, hfindings⟩ := findings_of_silent before rest hl
      fun key htext ↦ by_contra fun hne ↦ hfound ⟨key, htext, hne⟩
    refine ⟨before ++ (l ++ [0]), ?_, ?_, List.prefix_append .., hfindings⟩
    · rw [hbuf]
      simp only [List.append_assoc, List.cons_append, List.nil_append]
    · simp only [List.length_append, List.length_cons, List.length_nil]
      omega

end OneLine

end Minis

end ReverseTunnel

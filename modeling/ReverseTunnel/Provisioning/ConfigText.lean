import ReverseTunnel.Provisioning.ConfigFile

/-!
# The text of a configuration

The file is a list of settings. `Setting.store` says what each of them is **for**, and `serialize` is the
text that `writeConfig` means to print. Reading that text stores all settings of the list, whatever
bytes their values consist of, because an encoded value never ends its line.
-/

namespace ReverseTunnel

namespace Text

variable {t rest : Text} {c : Char}

/-- The first occurrence of a character. -/
theorem indexOf_append_cons (h : chr c ∉ t) : indexOf c (t ++ chr c :: rest) = t.length := by
  rw [indexOf, if_pos (List.mem_append_right _ (List.mem_cons_self ..)),
    List.idxOf_append_of_notMem h, List.idxOf_cons_self, Nat.add_zero]

theorem cString_append (h : (0 : UInt8) ∉ t) : cString (t ++ rest) = t ++ cString rest := by
  refine List.takeWhile_append_of_pos fun b hb ↦ ?_
  have hne : b ≠ 0 := fun heq ↦ h (heq ▸ hb)
  simpa using hne

end Text

namespace Provisioning

/-- What the file can hold. -/
inductive Setting where
  | version
  | setupComplete
  | wifiSsid
  | wifiPassword
  | macVendor
  | sshHost
  | sshPort
  | sshUser
  | sshAuth
  | sshPassword
  | sshKeyPassphrase
  | tunnelEnabled
  | remoteHost
  | remotePort
  | localHost
  | localPort

namespace Setting

/-- Its name. -/
def name : Setting → String
  | version => "version"
  | setupComplete => "setup_complete"
  | wifiSsid => "wifi_ssid"
  | wifiPassword => "wifi_password"
  | macVendor => "mac_vendor"
  | sshHost => "ssh_host"
  | sshPort => "ssh_port"
  | sshUser => "ssh_user"
  | sshAuth => "ssh_auth"
  | sshPassword => "ssh_password"
  | sshKeyPassphrase => "ssh_key_passphrase"
  | tunnelEnabled => "tunnel_enabled"
  | remoteHost => "remote_host"
  | remotePort => "remote_port"
  | localHost => "local_host"
  | localPort => "local_port"

/-- Where its value goes. -/
def store (value : Text) (l : Loading) : Setting → Loading
  | version => { l with version := value.toInt }
  | setupComplete => { l with complete := value }
  | wifiSsid => { l with c := { l.c with wifiSsid := value } }
  | wifiPassword => { l with c := { l.c with wifiPassword := value } }
  | macVendor => { l with macVendor := value }
  | sshHost => { l with c := { l.c with sshHost := value } }
  | sshPort => { l with sshPort := value }
  | sshUser => { l with c := { l.c with sshUsername := value } }
  | sshAuth => { l with auth := value }
  | sshPassword => { l with c := { l.c with sshPassword := value } }
  | sshKeyPassphrase => { l with c := { l.c with sshKeyPassphrase := value } }
  | tunnelEnabled => { l with tunnelEnabled := value }
  | remoteHost => { l with c := { l.c with remoteBindHost := value } }
  | remotePort => { l with remotePort := value }
  | localHost => { l with c := { l.c with localHost := value } }
  | localPort => { l with localPort := value }

/-- The line without its end. -/
def line (s : Setting) (value : Text) : Text := ascii s.name ++ chr '=' :: encode value

variable {s : Setting} {value : Text} {l : Loading}

/-- The names tell the settings apart. -/
theorem assign_name : l.assign (ascii s.name) value = s.store value l := by
  cases s <;> rfl

/-- What can stand in a name. -/
theorem name_chars (s : Setting) : ascii s.name ≠ [] ∧ chr '=' ∉ ascii s.name ∧
    chr '\n' ∉ ascii s.name ∧ (0 : UInt8) ∉ ascii s.name := by
  cases s <;> decide

theorem notMem_line : chr '\n' ∉ s.line value := by
  obtain ⟨-, -, hname, -⟩ := s.name_chars
  obtain ⟨-, -, hvalue⟩ := notMem_encode value
  intro hmem
  rcases List.mem_append.1 hmem with hmem | hmem
  · exact hname hmem
  · rcases List.mem_cons.1 hmem with heq | hmem
    · exact absurd heq (by decide)
    · exact hvalue hmem

/-- A line is read as it was meant. -/
theorem readLine_line : l.readLine (s.line value ++ [chr '\r']) = some (s.store value l) := by
  obtain ⟨hne, heq, -, hzero⟩ := s.name_chars
  have hlast : (s.line value ++ [chr '\r']).getLast? = some (chr '\r') := List.getLast?_concat
  have hcString : Text.cString (s.line value) =
      ascii s.name ++ chr '=' :: Text.cString (encode value) := by
    rw [line, Text.cString_append hzero]
    rfl
  have hpos : Text.indexOf '=' (Text.cString (s.line value)) = (ascii s.name).length := by
    rw [hcString]
    exact Text.indexOf_append_cons heq
  have hlen : 0 < (ascii s.name).length := List.length_pos_iff.2 hne
  have hvalue : Text.substring (s.line value) ((ascii s.name).length + 1) = encode value := by
    rw [Text.substring, show ((ascii s.name).length + 1 : Int).toNat = (ascii s.name).length + 1 by
      omega, line, List.drop_append]
    simp
  have hname : Text.substringTo (s.line value) (ascii s.name).length = ascii s.name := by
    rw [Text.substringTo, Int.toNat_natCast, line, List.take_left']
    rfl
  rw [Loading.readLine, if_pos hlast, List.dropLast_concat]
  simp only [hpos, hvalue, hname, decode_encode, assign_name]
  rw [if_neg (by omega)]

end Setting

/-! ### The whole file -/

/-- The tunnel settings of a configuration, in the order of the file. -/
def tunnelSettings (c : DeviceRuntimeConfig) : List (Setting × Text) :=
  [(.sshHost, c.sshHost), (.sshPort, Text.decimal c.sshPort), (.sshUser, c.sshUsername),
    (.sshAuth, authName c.sshAuthMethod), (.sshPassword, c.sshPassword),
    (.sshKeyPassphrase, c.sshKeyPassphrase), (.tunnelEnabled, flag c.tunnelEnabled),
    (.remoteHost, c.remoteBindHost), (.remotePort, Text.decimal c.remoteBindPort),
    (.localHost, c.localHost), (.localPort, Text.decimal c.localPort)]

/-- The settings of a configuration, in the order of the file. -/
def settings (c : DeviceRuntimeConfig) : List (Setting × Text) :=
  [(.version, ascii "4"), (.setupComplete, flag c.setupComplete), (.wifiSsid, c.wifiSsid),
    (.wifiPassword, c.wifiPassword), (.macVendor, c.macVendor.configValue)] ++
  if c.setupComplete then tunnelSettings c else []

/-- The lines of these settings. -/
def settingLines (l : List (Setting × Text)) : Text :=
  l.flatMap fun s ↦ s.1.line s.2 ++ ascii "\r\n"

/-- The text that `writeConfig` prints. -/
def serialize (c : DeviceRuntimeConfig) : Text := settingLines (settings c)

theorem fileLines_settingLines (l : List (Setting × Text)) :
    (settingLines l).fileLines = l.map fun s ↦ s.1.line s.2 ++ [chr '\r'] := by
  induction l with
  | nil => rfl
  | cons s l ih =>
    have hline : chr '\n' ∉ s.1.line s.2 ++ [chr '\r'] := by
      intro hmem
      rcases List.mem_append.1 hmem with hmem | hmem
      · exact Setting.notMem_line hmem
      · exact absurd (List.mem_singleton.1 hmem) (by decide)
    have hsplit : settingLines (s :: l) =
        (s.1.line s.2 ++ [chr '\r']) ++ chr '\n' :: settingLines l := by
      show (s.1.line s.2 ++ ascii "\r\n") ++ settingLines l = _
      rw [show ascii "\r\n" = [chr '\r'] ++ [chr '\n'] by decide]
      simp only [List.append_assoc, List.cons_append, List.nil_append]
    rw [hsplit, Text.fileLines_line hline, ih, List.map_cons]

/-- **All settings are stored.** -/
theorem readLines_settings (l : List (Setting × Text)) (r : Loading) :
    r.readLines (l.map fun s ↦ s.1.line s.2 ++ [chr '\r']) =
      (true, l.foldl (fun r s ↦ s.1.store s.2 r) r) := by
  induction l generalizing r with
  | nil => rfl
  | cons s l ih =>
    rw [List.map_cons, Loading.readLines, Setting.readLine_line, List.foldl_cons]
    exact ih _

/-- What is known when the lines of a complete configuration were read. -/
def stored (c d : DeviceRuntimeConfig) : Loading where
  c := { d with
    wifiSsid := c.wifiSsid
    wifiPassword := c.wifiPassword
    sshHost := c.sshHost
    sshUsername := c.sshUsername
    sshPassword := c.sshPassword
    sshKeyPassphrase := c.sshKeyPassphrase
    remoteBindHost := c.remoteBindHost
    localHost := c.localHost }
  version := 4
  complete := ascii "1"
  sshPort := Text.decimal c.sshPort
  remotePort := Text.decimal c.remoteBindPort
  localPort := Text.decimal c.localPort
  auth := authName c.sshAuthMethod
  tunnelEnabled := flag c.tunnelEnabled
  macVendor := c.macVendor.configValue

theorem readLines_serialize {c : DeviceRuntimeConfig} (hc : c.setupComplete = true)
    (d : DeviceRuntimeConfig) :
    Loading.readLines { c := d } (serialize c).fileLines = (true, stored c d) := by
  have hversion : (ascii "4").toInt = 4 := by decide
  rw [serialize, fileLines_settingLines, readLines_settings, settings, if_pos hc, stored,
    ← hversion, hc]
  rfl

end Provisioning

end ReverseTunnel

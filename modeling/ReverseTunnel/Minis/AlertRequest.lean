import ReverseTunnel.Lib.Escaping
import ReverseTunnel.Arduino.HttpMessage
import ReverseTunnel.Minis.Alerts
import ReverseTunnel.Minis.ApplyConfig
import ReverseTunnel.Provisioning.Percent

/-!
# The request for an alert

`performAlertPost` posts a form: fields joined by `&`, each a name, `=`, and a value in which everything
but letters, digits and `-`, `_`, `.`, `~` is escaped. A blank becomes a `+`, and any other character a
`%` and two hexadecimal digits.
-/

namespace ReverseTunnel

namespace Minis

/-! ### Form encoding -/

/-- `HEX` -/
def formHex : Text := ascii "0123456789ABCDEF"

/-- `unreserved` -/
def unreserved (c : UInt8) : Bool :=
  (chr 'a' ≤ c && c ≤ chr 'z') || (chr 'A' ≤ c && c ≤ chr 'Z') || (chr '0' ≤ c && c ≤ chr '9') ||
    c == chr '-' || c == chr '_' || c == chr '.' || c == chr '~'

/-- What `appendFormEncoded` appends for one character. -/
def formByte (c : UInt8) : Text :=
  if unreserved c then [c]
  else if c = chr ' ' then [chr '+']
  else [chr '%', formHex.getD ((c >>> 4) &&& 15).toNat 0, formHex.getD (c &&& 15).toNat 0]

/-- `appendFormEncoded` -/
def appendFormEncoded (out value : Text) : Text := out ++ value.cString.flatMap formByte

/-- `appendFormField` -/
def appendFormField (body name value : Text) : Text :=
  let body := if body.isEmpty then body else body ++ [chr '&']
  appendFormEncoded (body ++ name ++ [chr '=']) value

/-- One character of a form, and what is left. A `%` stands for itself when there are no two hexadecimal
digits behind it. -/
def readFormByte : Text → Option (UInt8 × Text)
  | [] => none
  | c :: rest =>
    if c = chr '+' then some (chr ' ', rest)
    else if c = chr '%' then
      match rest with
      | h :: l :: rest' =>
        if isXDigit h && isXDigit l then
          some (UInt8.ofNat ((Provisioning.hexValue h).toNat * 16 + (Provisioning.hexValue l).toNat),
            rest')
        else some (c, rest)
      | _ => some (c, rest)
    else some (c, rest)

theorem readFormByte_formByte (c : UInt8) (rest : Text) :
    readFormByte (formByte c ++ rest) = some (c, rest) := by
  by_cases hfree : unreserved c = true
  · have hne : ∀ c, unreserved c = true → c ≠ chr '+' ∧ c ≠ chr '%' := by decide +kernel
    rw [formByte, if_pos hfree, List.singleton_append, readFormByte.eq_def]
    show (if c = chr '+' then _ else if c = chr '%' then _ else some (c, rest)) = _
    rw [if_neg (hne c hfree).1, if_neg (hne c hfree).2]
  · rw [formByte, if_neg hfree]
    by_cases hblank : c = chr ' '
    · rw [if_pos hblank, hblank]
      rfl
    · have hdigits : ∀ c : UInt8,
          (isXDigit (formHex.getD ((c >>> 4) &&& 15).toNat 0) &&
            isXDigit (formHex.getD (c &&& 15).toNat 0)) = true ∧
          UInt8.ofNat
            ((Provisioning.hexValue (formHex.getD ((c >>> 4) &&& 15).toNat 0)).toNat * 16 +
              (Provisioning.hexValue (formHex.getD (c &&& 15).toNat 0)).toNat) = c := by
        decide +kernel
      rw [if_neg hblank]
      show (if (_ && _) = true then some (_, rest) else _) = _
      rw [if_pos (hdigits c).1, (hdigits c).2]

/-- The values of a form. -/
def formCode : Escaping.Code UInt8 UInt8 where
  write := formByte
  read := readFormByte
  read_write := readFormByte_formByte

/-- No `&` is written. -/
theorem notMem_formByte : ∀ c, chr '&' ∉ formByte c := by decide +kernel

/-- A field that is appended to others, or to none. -/
theorem appendFormField_eq (body name : Text) {value : Text} (hvalue : 0 ∉ value) :
    appendFormField body name value =
      (if body = [] then [] else body ++ [chr '&']) ++ formCode.field (chr '=') (name, value) := by
  rw [appendFormField, appendFormEncoded, Text.cString_of_notMem hvalue]
  rcases body with - | ⟨b, body⟩
  · show [] ++ name ++ [chr '='] ++ _ = [] ++ (name ++ chr '=' :: _)
    rw [List.nil_append, List.nil_append, List.append_assoc]
    rfl
  · show (b :: body ++ [chr '&']) ++ name ++ [chr '='] ++ _ = _
    rw [List.append_assoc, List.append_assoc]
    rfl

/-- Fields that are appended one after the other. -/
theorem foldl_appendFormField {l : List (Text × Text)} {body : Text} (hbody : body ≠ [])
    (hvalues : ∀ f ∈ l, 0 ∉ f.2) :
    l.foldl (fun body f ↦ appendFormField body f.1 f.2) body =
      body ++ l.flatMap fun f ↦ chr '&' :: formCode.field (chr '=') f := by
  induction l generalizing body with
  | nil => exact (List.append_nil body).symm
  | cons f l ih =>
    have hf := appendFormField_eq body f.1 (hvalues f (List.mem_cons_self ..))
    rw [if_neg hbody] at hf
    rw [List.foldl_cons, hf, List.append_assoc, ih (by simp [hbody])
      fun g hg ↦ hvalues g (List.mem_cons_of_mem _ hg), List.append_assoc, List.flatMap_cons]
    rfl

/-! ### The request -/

/-- `MINIS_HOST` -/
def minisHost : Text := ascii "cloud.supcom.nl"

/-- `MINIS_ALERT_PATH` -/
def minisAlertPath : Text := ascii "/uploot.php"

/-- What is said about an alert. -/
def alertFields (clientSid : Text) (alert : QueuedAlert) : List (Text × Text) :=
  [(ascii "sid", clientSid), (ascii "alert_level", alert.level), (ascii "alert_title", alert.title),
    (ascii "alert_message", alert.message), (ascii "alert_tag", alert.tag)]

/-- `body` in `performAlertPost` -/
def alertBody (clientSid : Text) (alert : QueuedAlert) : Text :=
  let body := appendFormField [] (ascii "sid") clientSid
  let body := appendFormField body (ascii "alert_level") alert.level
  let body := appendFormField body (ascii "alert_title") alert.title
  let body := appendFormField body (ascii "alert_message") alert.message
  appendFormField body (ascii "alert_tag") alert.tag

/-- What `performAlertPost` prints to the connection. -/
def alertRequest (clientSid : Text) (alert : QueuedAlert) : Text :=
  let body := alertBody clientSid alert
  ascii "POST " ++ minisAlertPath ++ ascii " HTTP/1.1\r\nHost: " ++ minisHost ++
    ascii "\r\nUser-Agent: MHB;v" ++ firmwareVersion ++
    ascii ";ESP32;alert\r\nContent-Type: application/x-www-form-urlencoded\r\nContent-Length: " ++
    Text.digits body.length ++ ascii "\r\nConnection: close\r\n\r\n" ++ body

/-- What the control center makes of a request with a form. -/
def readForm (request : Text) : Option (List (Text × Text)) :=
  (HttpMessage.readMessage request).bind fun m ↦ formCode.readFields (chr '=') (chr '&') m.2

/-- The lines before the body. -/
def alertHead (n : ℕ) : List Text :=
  [ascii "POST " ++ minisAlertPath ++ ascii " HTTP/1.1", ascii "Host: " ++ minisHost,
    ascii "User-Agent: MHB;v" ++ firmwareVersion ++ ascii ";ESP32;alert",
    ascii "Content-Type: application/x-www-form-urlencoded"] ++
  (HttpMessage.contentLengthName ++ Text.digits n) :: [ascii "Connection: close"]

section Request

variable {clientSid : Text} {alert : QueuedAlert}

/-- The request is a message of lines. -/
theorem alertRequest_eq :
    alertRequest clientSid alert =
      HttpMessage.message (alertHead (alertBody clientSid alert).length)
        (alertBody clientSid alert) := by
  -- the two stretches of constant text on both sides of the length are compared as a whole
  have hbefore : ascii "POST " ++ minisAlertPath ++ ascii " HTTP/1.1\r\nHost: " ++ minisHost ++
      ascii "\r\nUser-Agent: MHB;v" ++ firmwareVersion ++
      ascii ";ESP32;alert\r\nContent-Type: application/x-www-form-urlencoded\r\nContent-Length: " =
      (alertHead 0).dropLast.dropLast.flatMap (· ++ HttpMessage.crlf) ++
        HttpMessage.contentLengthName := by decide +kernel
  have hbehind : ascii "\r\nConnection: close\r\n\r\n" =
      HttpMessage.crlf ++ (ascii "Connection: close" ++ HttpMessage.crlf ++ HttpMessage.crlf) := by
    decide +kernel
  rw [alertRequest, hbefore, hbehind]
  generalize alertBody clientSid alert = body
  show _ = HttpMessage.message ((alertHead 0).dropLast.dropLast ++ [_, _]) body
  rw [HttpMessage.message, List.flatMap_append]
  simp only [List.flatMap_cons, List.flatMap_nil, List.append_assoc, List.append_nil]

/-- The lines end where they should, and say how long the body is. -/
theorem isLine_alertHead (n : ℕ) : ∀ line ∈ alertHead n, HttpMessage.IsLine line := by
  have hconstant : ∀ line ∈ alertHead 0, line ≠ [] ∧ chr '\r' ∉ line := by decide +kernel
  intro line hline
  rcases List.mem_append.1 hline with hline | hline
  · obtain ⟨hne, hnot⟩ := hconstant line (List.mem_append_left _ hline)
    exact ⟨hne, hnot⟩
  · rcases List.mem_cons.1 hline with rfl | hline
    · refine ⟨by simp [HttpMessage.contentLengthName, ascii], ?_⟩
      rw [List.mem_append]
      rintro (hmem | hmem)
      · exact absurd hmem (by decide +kernel)
      · exact absurd (Text.isDigit_of_mem_digits hmem) (by decide)
    · obtain ⟨hne, hnot⟩ :=
        hconstant line (List.mem_append_right _ (List.mem_cons_of_mem _ hline))
      exact ⟨hne, hnot⟩

theorem contentLength_alertHead (n : ℕ) : HttpMessage.contentLength (alertHead n) = some n :=
  HttpMessage.contentLength_digits (by decide +kernel)

/-- The body is a form. -/
theorem alertBody_eq (hsid : 0 ∉ clientSid)
    (halert : 0 ∉ alert.level ∧ 0 ∉ alert.title ∧ 0 ∉ alert.message ∧ 0 ∉ alert.tag) :
    alertBody clientSid alert =
      formCode.fields (chr '=') (chr '&') (alertFields clientSid alert) := by
  obtain ⟨hlevel, htitle, hmessage, htag⟩ := halert
  have hvalues : ∀ f ∈ (alertFields clientSid alert).tail, 0 ∉ f.2 := by
    intro f hf
    simp only [alertFields, List.tail_cons, List.mem_cons, List.not_mem_nil, or_false] at hf
    rcases hf with rfl | rfl | rfl | rfl
    · exact hlevel
    · exact htitle
    · exact hmessage
    · exact htag
  -- only the first field has no `&` before it
  have hfirst : appendFormField [] (ascii "sid") clientSid =
      formCode.field (chr '=') (ascii "sid", clientSid) :=
        appendFormField_eq [] (ascii "sid") hsid
  have hne : formCode.field (chr '=') (ascii "sid", clientSid) ≠ [] :=
    List.append_ne_nil_of_right_ne_nil _ (List.cons_ne_nil _ _)
  have hrest := foldl_appendFormField hne hvalues
  rw [← hfirst] at hrest
  rw [alertFields, Escaping.Code.fields_cons, ← hfirst]
  exact hrest

/-- **The control center reads what was written**, whatever characters the texts consist of. -/
theorem readForm_alertRequest (hsid : 0 ∉ clientSid)
    (halert : 0 ∉ alert.level ∧ 0 ∉ alert.title ∧ 0 ∉ alert.message ∧ 0 ∉ alert.tag) :
    readForm (alertRequest clientSid alert) = some (alertFields clientSid alert) := by
  have hread := HttpMessage.readMessage_message (isLine_alertHead (alertBody clientSid alert).length)
    (contentLength_alertHead _)
  have hnames : ∀ f ∈ alertFields clientSid alert, chr '=' ∉ f.1 ∧ chr '&' ∉ f.1 := by
    have hnames : ∀ name ∈ [ascii "sid", ascii "alert_level", ascii "alert_title",
        ascii "alert_message", ascii "alert_tag"], chr '=' ∉ name ∧ chr '&' ∉ name := by
      decide +kernel
    intro f hf
    exact hnames f.1 (List.mem_map_of_mem (f := Prod.fst) hf)
  rw [readForm, alertRequest_eq, hread, alertBody_eq hsid halert]
  exact Escaping.Code.readFields_fields rfl (by decide) notMem_formByte (List.cons_ne_nil _ _) hnames

end Request

end Minis

end ReverseTunnel

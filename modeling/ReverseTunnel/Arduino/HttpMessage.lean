import ReverseTunnel.Lib.Delimiter
import ReverseTunnel.Arduino.Number

/-!
# HTTP messages

What a server makes of a request: lines up to an empty one, each up to its line break, and then as many
bytes as the header `Content-Length` says. This is the reading side of the requests that the firmware
writes; it reads a message that was written line by line as it was written.
-/

namespace ReverseTunnel

namespace HttpMessage

open Delimiter

/-- A line break. -/
def crlf : Text := [13, 10]

/-- `Content-Length: ` -/
def contentLengthName : Text := ascii "Content-Length: "

/-- A message of these lines, with this body. -/
def message (head : List Text) (body : Text) : Text := head.flatMap (· ++ crlf) ++ (crlf ++ body)

/-- The lines before the first empty one, and what follows it. Every line takes a round. -/
def readHead : ℕ → Text → Option (List Text × Text)
  | 0, _ => none
  | n + 1, t =>
    match cut crlf t with
    | none => none
    | some (line, rest) =>
      if line = [] then some ([], rest) else (readHead n rest).map fun h ↦ (line :: h.1, h.2)

/-- What a line with this name says. -/
def header (name : Text) (head : List Text) : Option Text :=
  head.findSome? fun line ↦ if name <+: line then some (line.drop name.length) else none

/-- The length of the body. -/
def contentLength (head : List Text) : Option ℕ :=
  (header contentLengthName head).map fun value ↦ Text.digitsValue 0 (Text.leadingDigits value)

/-- Lines and body of a message that is there in full. -/
def readMessage (t : Text) : Option (List Text × Text) :=
  match readHead (t.length + 1) t with
  | none => none
  | some (head, rest) =>
    match contentLength head with
    | none => none
    | some n => if n ≤ rest.length then some (head, rest.take n) else none

/-- A line that is not empty and does not end before its end. -/
structure IsLine (line : Text) : Prop where
  /-- It is not the end of the headers. -/
  ne_nil : line ≠ []
  /-- It has no carriage return. -/
  notMem : chr '\r' ∉ line

section Reading

variable {head : List Text} {body line : Text}

theorem cut_line (h : chr '\r' ∉ line) (rest : Text) :
    cut crlf (line ++ (crlf ++ rest)) = some (line, rest) :=
  cut_append_of_notMem h

theorem message_cons : message (line :: head) body = line ++ (crlf ++ message head body) := by
  rw [message, message, List.flatMap_cons, List.append_assoc, List.append_assoc]

theorem length_le_length_message (h : ∀ line ∈ head, IsLine line) :
    head.length ≤ (message head body).length := by
  induction head with
  | nil => exact Nat.zero_le _
  | cons line head ih =>
    have hline := List.length_pos_iff.2 (h line (List.mem_cons_self ..)).ne_nil
    have hrest := ih fun l hl ↦ h l (List.mem_cons_of_mem _ hl)
    rw [message_cons, List.length_append, List.length_append, List.length_cons]
    omega

theorem readHead_message (h : ∀ line ∈ head, IsLine line) {n : ℕ} (hn : head.length < n) :
    readHead n (message head body) = some (head, body) := by
  induction head generalizing n with
  | nil =>
    rcases n with - | n
    · exact absurd hn (Nat.lt_irrefl 0)
    · have hcut : cut crlf (message [] body) = some ([], body) := cut_line List.not_mem_nil body
      rw [readHead, hcut]
      rfl
  | cons line head ih =>
    rcases n with - | n
    · exact absurd hn (Nat.not_lt_zero _)
    · have hline := h line (List.mem_cons_self ..)
      have hrest := ih (fun l hl ↦ h l (List.mem_cons_of_mem _ hl)) (Nat.lt_of_succ_lt_succ hn)
      rw [message_cons, readHead, cut_line hline.notMem]
      show (if line = [] then _ else (readHead n (message head body)).map _) = _
      rw [if_neg hline.ne_nil, hrest]
      rfl

/-- **A message is read as it was written**, when it says how long its body is. -/
theorem readMessage_message (h : ∀ line ∈ head, IsLine line)
    (hlength : contentLength head = some body.length) :
    readMessage (message head body) = some (head, body) := by
  have hn : head.length < (message head body).length + 1 :=
    Nat.lt_succ_of_le (length_le_length_message h)
  rw [readMessage, readHead_message h hn]
  show (match contentLength head with | none => none | some n => _) = _
  rw [hlength]
  show (if body.length ≤ body.length then some (head, body.take body.length) else none) = _
  rw [if_pos (Nat.le_refl _), List.take_length]

/-- A length in decimal is read as it was written. -/
theorem contentLength_digits {before behind : List Text} {n : ℕ}
    (h : ∀ line ∈ before, ¬ contentLengthName <+: line) :
    contentLength (before ++ (contentLengthName ++ Text.digits n) :: behind) = some n := by
  have hheader : header contentLengthName (before ++ (contentLengthName ++ Text.digits n) :: behind) =
      some (Text.digits n) := by
    induction before with
    | nil =>
      rw [List.nil_append, header, List.findSome?_cons, if_pos (List.prefix_append _ _),
        List.drop_left]
    | cons line before ih =>
      rw [List.cons_append, header, List.findSome?_cons, if_neg (h line (List.mem_cons_self ..))]
      exact ih fun l hl ↦ h l (List.mem_cons_of_mem _ hl)
  rw [contentLength, hheader, Option.map_some, Text.leadingDigits_digits, Text.digitsValue_digits]

end Reading

end HttpMessage

end ReverseTunnel

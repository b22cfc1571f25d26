import ReverseTunnel.Minis.ManagedConfig

/-!
# A GET request

`performGet`, which fetches `cfg.txt`: the status line and the headers are read through a line buffer of
96 bytes, then the body goes into the buffer of the caller. A line that does not fit into the line buffer
is read in **pieces**, and the loop over the headers takes every piece for a line.
-/

namespace ReverseTunnel

namespace Minis

/-- `sizeof(line) - 1` -/
def lineLimit : ℕ := 95

/-- `INT_MAX` -/
def intMax : UInt32 := 2147483647

/-- `CONTENT_LENGTH_HEADER` -/
def contentLengthHeader : Text := ascii "Content-Length:"

/-! ### The connection -/

/-- One round of the loop that reads until the server has closed the connection. -/
structure Poll where
  /-- The bytes that are there. -/
  bytes : Text
  /-- There has been nothing for `MINIS_TIMEOUT_MS`. -/
  late : Bool

/-- What a request meets. -/
structure Connection where
  /-- `tlsMemoryAvailable` -/
  memory : Bool
  /-- `connect` -/
  connects : Bool
  /-- All the server sends before it closes the connection. -/
  sent : Text
  /-- How what has not been read by then arrives. -/
  polls : Text → List Poll

/-- `readBytesUntil('\n', ...)` with room for `n` bytes: what is read, and what is left. It stops behind the
end of the line, which it does not store, or when there is no room. -/
def readBytesUntil : ℕ → Text → Text × Text
  | 0, rest => ([], rest)
  | _ + 1, [] => ([], [])
  | n + 1, c :: rest =>
    if c = chr '\n' then ([], rest)
    else (c :: (readBytesUntil n rest).1, (readBytesUntil n rest).2)

/-! ### Status line and headers -/

/-- `parseHttpStatus` -/
def parseHttpStatus (line : Text) : Int :=
  match line.dropWhile (· ≠ chr ' ') with
  | _ :: a :: b :: c :: _ =>
    if isDigit a && isDigit b && isDigit c then
      digitValue a * 100 + digitValue b * 10 + digitValue c
    else -1
  | _ => -1

/-- `contentLength` behind a line. -/
def contentLengthAfter (contentLength : Int) (line : Text) : Int :=
  if contentLengthHeader.isPrefixOf line then
    -- What is behind the line in its buffer is zero.
    match parseUnsigned ((Text.cString (line.drop contentLengthHeader.length)).dropWhile isBlank) with
    | some parsedLength => if parsedLength ≤ intMax then parsedLength.toNat else contentLength
    | none => contentLength
  else contentLength

/-- A line that ends the headers. -/
def endsLoop (line : Text) : Bool := line == [] || line == [chr '\r']

/-- The loop over the headers: `contentLength`, and what has not been read. Every round but the last takes a
byte away, so a fuel larger than the number of bytes never runs out. -/
def readHeaders : ℕ → Int → Text → Int × Text
  | 0, contentLength, rest => (contentLength, rest)
  | fuel + 1, contentLength, rest =>
    let line := readBytesUntil lineLimit rest
    if endsLoop line.1 then (contentLength, line.2)
    else readHeaders fuel (contentLengthAfter contentLength line.1) line.2

/-! ### The body -/

/-- One byte is stored if there is room for it and for a zero. -/
def storeByte (capacity : ℕ) (body : Text × Bool) (value : UInt8) : Text × Bool :=
  if body.1.length + 1 < capacity then (body.1 ++ [value], body.2) else (body.1, false)

/-- The loop that reads until the connection is closed: what is stored, and `complete`. -/
def readUntilClosed (capacity : ℕ) : List Poll → Text × Bool → Text × Bool
  | [], body => body
  | poll :: polls, body =>
    let body := poll.bytes.foldl (storeByte capacity) body
    if poll.late then (body.1, false) else readUntilClosed capacity polls body

/-- The body: what is stored, and `complete`. -/
def readBody (c : Connection) (capacity : ℕ) (contentLength : Int) (rest : Text) : Text × Bool :=
  if contentLength ≥ 0 then
    if contentLength.toNat ≥ capacity then ([], false)
    else
      let used := rest.take contentLength.toNat
      (used, used.length == contentLength.toNat)
  else readUntilClosed capacity (c.polls rest) ([], true)

/-- What a request leaves. -/
structure GetResult where
  /-- What is returned. -/
  status : Int
  /-- What has been written to `response`. -/
  response : Text := []
  /-- `*responseLength` -/
  responseLength : ℕ := 0

/-- `performGet` with a `response` of this capacity, or without one. -/
def performGet (c : Connection) (responseCapacity : Option ℕ) : GetResult :=
  if !c.memory then { status := -2 }
  else if !c.connects then { status := -1 }
  else
    let line := readBytesUntil lineLimit c.sent
    let status := parseHttpStatus line.1
    match responseCapacity with
    | none => { status := status }
    | some capacity =>
      if status < 0 || capacity < 2 || status ≠ 200 then { status := status }
      else
        let headers := readHeaders (line.2.length + 1) (-1) line.2
        let body := readBody c capacity headers.1 headers.2
        if !body.2 then { status := -1, response := body.1 }
        else { status := status, response := body.1 ++ [0], responseLength := body.1.length }

end Minis

end ReverseTunnel

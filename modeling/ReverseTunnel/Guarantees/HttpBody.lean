import Mathlib.Data.List.Infix
import ReverseTunnel.Guarantees.NumberParsing
import ReverseTunnel.Minis.Http

/-!
# The body of a response

`performGet` looks for the end of the headers in what its line buffer holds, and a long line comes through
that buffer in pieces of 95 bytes. The last piece decides: if nothing but the carriage return is left for
it, or not even that, the line **ends the headers**, and the rest of them is taken for the body. And a piece
that begins with `Content-Length:` sets the length, wherever in its line it stands.

Both depend only on how long the lines are and on what stands in them, so it can be said exactly which
responses come through.
-/

namespace ReverseTunnel

namespace Minis

open Text

/-! ### Responses -/

/-- A response with status 200, line by line. -/
structure HttpResponse where
  /-- What follows `HTTP/1.1 200`. -/
  reason : Text
  /-- The header lines, without their ends. -/
  headers : List Text
  /-- The body, as it is sent. -/
  body : Text

/-- Lines as they are sent. -/
def sentLines (lines : List Text) : Text := lines.flatMap (· ++ [chr '\r', chr '\n'])

namespace HttpResponse

/-- The status line. -/
def statusLine (r : HttpResponse) : Text := ascii "HTTP/1.1 200" ++ r.reason

/-- What the server sends. -/
def sent (r : HttpResponse) : Text :=
  sentLines (r.statusLine :: (r.headers ++ [[]])) ++ r.body

/-- The response is one, and its body fits into a buffer of this capacity. -/
structure WellFormed (r : HttpResponse) (capacity : ℕ) : Prop where
  /-- The status line fits into the line buffer. -/
  status_short : r.statusLine.length < 95
  /-- It is one line. -/
  reason_line : chr '\n' ∉ r.reason
  /-- Every header is a line with something in it. -/
  header_line : ∀ h ∈ r.headers, h ≠ [] ∧ chr '\n' ∉ h
  /-- There is at most one length. -/
  one_length : (r.headers.filter (contentLengthHeader.isPrefixOf ·)).length ≤ 1
  /-- It is that of the body. -/
  length_correct : ∀ h ∈ r.headers, contentLengthHeader <+: h →
    ∃ blanks ds gaps, h = contentLengthHeader ++ (blanks ++ (ds ++ gaps)) ∧
      (∀ c ∈ blanks, isBlank c = true) ∧ ds ≠ [] ∧ (∀ c ∈ ds, isDigit c = true) ∧
      digitsValue 0 ds = r.body.length ∧ ∀ c ∈ gaps, isBlank c = true
  /-- The buffer is large enough. -/
  body_short : r.body.length < capacity

end HttpResponse

/-- The request is made, and all of the response arrives in time. -/
structure Delivers (c : Connection) (r : HttpResponse) : Prop where
  /-- There is memory for it. -/
  memory : c.memory = true
  /-- The server answers. -/
  connects : c.connects = true
  /-- It sends the response. -/
  sent : c.sent = r.sent
  /-- Everything arrives. -/
  arrives : ∀ rest, (c.polls rest).flatMap (·.bytes) = rest
  /-- Nothing is late. -/
  inTime : ∀ rest, ∀ poll ∈ c.polls rest, poll.late = false

/-- The caller gets exactly the body. -/
structure Extracts (r : HttpResponse) (got : GetResult) : Prop where
  /-- The status. -/
  status : got.status = 200
  /-- The length. -/
  responseLength : got.responseLength = r.body.length
  /-- The bytes. -/
  response : got.response.take got.responseLength = r.body

/-! ### Lines in pieces -/

/-- The line ends the headers for the loop: its last piece is a carriage return or nothing at all. -/
def endsHeaders (line : Text) : Bool := line.length % 95 == 0 || (line.length + 1) % 95 == 0

/-- A line as the loop sees it: with its carriage return, in pieces. -/
def pieces (line : Text) : List Text :=
  (List.range (line.length / 95 + 1)).map fun k ↦ ((line ++ [chr '\r']).drop (95 * k)).take 95

/-- The lines that are read, up to the first that ends the headers. -/
def linesRead : List Text → List Text
  | [] => []
  | line :: lines => if endsHeaders line then [line] else line :: linesRead lines

/-- The lines that are left. -/
def linesLeft : List Text → List Text
  | [] => []
  | line :: lines => if endsHeaders line then lines else linesLeft lines

namespace HttpResponse

/-- The header lines that are left when the loop ends. A status line that just fills the line buffer ends
the headers as well. -/
def left (r : HttpResponse) : List Text :=
  if r.statusLine.length = 94 then r.headers ++ [[]] else linesLeft (r.headers ++ [[]])

/-- The last length among the pieces that are read. -/
def announced (r : HttpResponse) : Int :=
  if r.statusLine.length = 94 then -1
  else ((linesRead (r.headers ++ [[]])).flatMap pieces).foldl contentLengthAfter (-1)

/-- **The response comes through**: there is no room for anything, or no length is read and no header line
is left, or the length that is read is right and the body is what comes first in what is left. -/
def ComesThrough (r : HttpResponse) (capacity : ℕ) : Prop :=
  capacity < 2 ∨ (r.announced = -1 ∧ r.left = []) ∨
    (r.announced = r.body.length ∧ r.body <+: sentLines r.left ++ r.body)

instance (r : HttpResponse) (capacity : ℕ) : Decidable (r.ComesThrough capacity) :=
  inferInstanceAs (Decidable (_ ∨ _ ∨ _))

end HttpResponse

/-! ### Reading lines -/

section Lines

variable {n fuel fuel' : ℕ} {t rest line : Text} {len : Int}

/-- A line that fits is read to its end. -/
theorem readBytesUntil_line (ht : chr '\n' ∉ t) (hn : t.length < n) :
    readBytesUntil n (t ++ chr '\n' :: rest) = (t, rest) := by
  induction t generalizing n with
  | nil =>
    obtain ⟨n, rfl⟩ : ∃ k, n = k + 1 := ⟨n - 1, by simp at hn; omega⟩
    rw [List.nil_append, readBytesUntil, if_pos rfl]
  | cons c t ih =>
    obtain ⟨n, rfl⟩ : ∃ k, n = k + 1 := ⟨n - 1, by simp at hn; omega⟩
    have hc : c ≠ chr '\n' := fun heq ↦ ht (heq ▸ List.mem_cons_self ..)
    rw [List.cons_append, readBytesUntil, if_neg hc,
      ih (fun hmem ↦ ht (List.mem_cons_of_mem _ hmem)) (Nat.lt_of_succ_lt_succ hn)]

/-- Of a line that does not fit, a piece is read. -/
theorem readBytesUntil_piece (ht : chr '\n' ∉ t) (hn : n ≤ t.length) :
    readBytesUntil n (t ++ rest) = (t.take n, t.drop n ++ rest) := by
  induction t generalizing n with
  | nil =>
    obtain rfl : n = 0 := Nat.le_zero.1 hn
    rfl
  | cons c t ih =>
    rcases n with - | n
    · rfl
    · have hc : c ≠ chr '\n' := fun heq ↦ ht (heq ▸ List.mem_cons_self ..)
      rw [List.cons_append, readBytesUntil, if_neg hc,
        ih (fun hmem ↦ ht (List.mem_cons_of_mem _ hmem)) (Nat.le_of_succ_le_succ hn)]
      rfl

theorem length_readBytesUntil (n : ℕ) (t : Text) :
    (readBytesUntil n t).1.length + (readBytesUntil n t).2.length ≤ t.length := by
  induction t generalizing n with
  | nil => rcases n with - | n <;> exact Nat.le_refl _
  | cons c t ih =>
    rcases n with - | n
    · exact (Nat.zero_add _).le
    · rw [readBytesUntil]
      split
      · exact (Nat.zero_add _).trans_le (Nat.le_succ _)
      · have := ih n
        simp only [List.length_cons]
        omega

theorem length_pos_of_not_endsLoop (h : ¬endsLoop line = true) : 0 < line.length := by
  rw [List.length_pos_iff]
  rintro rfl
  exact h rfl

theorem not_endsLoop (h : 1 < line.length) : ¬endsLoop line = true := by
  rw [endsLoop, Bool.or_eq_true, beq_iff_eq, beq_iff_eq]
  rintro (rfl | rfl)
  · exact absurd h (by decide)
  · exact absurd h (by decide)

/-- The fuel does not matter if there is enough of it. -/
theorem readHeaders_fuel (hfuel : t.length < fuel) (hfuel' : t.length < fuel') :
    readHeaders fuel len t = readHeaders fuel' len t := by
  induction fuel generalizing fuel' len t with
  | zero => exact absurd hfuel (Nat.not_lt_zero _)
  | succ fuel ih =>
    obtain ⟨fuel', rfl⟩ : ∃ k, fuel' = k + 1 := ⟨fuel' - 1, by omega⟩
    rw [readHeaders, readHeaders]
    split
    · rfl
    · next hend =>
      have hlen := length_readBytesUntil lineLimit t
      have hpos := length_pos_of_not_endsLoop hend
      exact ih (by omega) (by omega)

/-- The loop over the headers, as often as it takes. -/
def headersOf (len : Int) (t : Text) : Int × Text := readHeaders (t.length + 1) len t

/-- **One round.** -/
theorem headersOf_eq (len : Int) (t : Text) :
    headersOf len t =
      if endsLoop (readBytesUntil lineLimit t).1 then (len, (readBytesUntil lineLimit t).2)
      else headersOf (contentLengthAfter len (readBytesUntil lineLimit t).1)
        (readBytesUntil lineLimit t).2 := by
  rw [headersOf, readHeaders]
  split
  · rfl
  · next hend =>
    have hlen := length_readBytesUntil lineLimit t
    have hpos := length_pos_of_not_endsLoop hend
    exact readHeaders_fuel (by omega) (Nat.lt_succ_self _)

/-- A long line gives one piece more than the line without it. -/
theorem pieces_of_long (h : 95 ≤ line.length) :
    pieces line = (line ++ [chr '\r']).take 95 :: pieces (line.drop 95) := by
  have hcount : line.length / 95 + 1 = ((line.drop 95).length / 95 + 1) + 1 := by
    rw [List.length_drop]
    omega
  rw [pieces, hcount, List.range_succ_eq_map, List.map_cons, List.map_map, pieces]
  congr 1
  refine List.map_congr_left fun k _ ↦ ?_
  show ((line ++ [chr '\r']).drop (95 * (k + 1))).take 95 = _
  rw [← List.drop_append_of_le_length h, List.drop_drop]
  congr 2
  omega

theorem pieces_of_short (h : line.length < 95) : pieces line = [line ++ [chr '\r']] := by
  have hcount : line.length / 95 + 1 = 1 := by omega
  rw [pieces, hcount]
  show [((line ++ [chr '\r']).drop 0).take 95] = _
  rw [List.drop_zero, List.take_of_length_le (by simpa using h)]

theorem endsHeaders_drop (h : 95 ≤ line.length) : endsHeaders (line.drop 95) = endsHeaders line := by
  have h₁ : (line.length - 95) % 95 = line.length % 95 := by omega
  have h₂ : (line.length - 95 + 1) % 95 = (line.length + 1) % 95 := by omega
  rw [endsHeaders, endsHeaders, List.length_drop, h₁, h₂]

/-- **One line**: its pieces are read one after the other, and the last one may end the loop. -/
theorem headersOf_line (hline : chr '\n' ∉ line) :
    headersOf len (line ++ chr '\r' :: chr '\n' :: rest) =
      if endsHeaders line then ((pieces line).foldl contentLengthAfter len, rest)
      else headersOf ((pieces line).foldl contentLengthAfter len) rest := by
  induction h : line.length using Nat.strongRecOn generalizing line len with
  | _ n ih =>
    have hsplit : line ++ chr '\r' :: chr '\n' :: rest =
        (line ++ [chr '\r']) ++ chr '\n' :: rest := by simp
    have hcr : chr '\n' ∉ line ++ [chr '\r'] := by
      rw [List.mem_append, List.mem_singleton]
      rintro (hmem | heq)
      · exact hline hmem
      · exact absurd heq (by decide)
    rw [hsplit, headersOf_eq]
    rcases Nat.lt_trichotomy line.length 94 with hlt | heq | hgt
    · -- The line fits, and is empty or goes to `contentLengthAfter` as it is.
      have hread : readBytesUntil lineLimit (line ++ [chr '\r'] ++ chr '\n' :: rest) =
          (line ++ [chr '\r'], rest) :=
        readBytesUntil_line hcr (by simp [lineLimit]; omega)
      rw [hread, pieces_of_short (by omega)]
      rcases line with - | ⟨c, line⟩
      · rfl
      · have hends : endsHeaders (c :: line) = false := by
          simp [endsHeaders] at hlt ⊢
          omega
        rw [hends, if_neg Bool.false_ne_true, if_neg (by simp [endsLoop])]
        rfl
    · -- The line fills the buffer, and its end is taken for an empty line.
      have hread : readBytesUntil lineLimit (line ++ [chr '\r'] ++ chr '\n' :: rest) =
          ((line ++ [chr '\r']).take lineLimit,
            (line ++ [chr '\r']).drop lineLimit ++ chr '\n' :: rest) :=
        readBytesUntil_piece hcr (by simp [lineLimit, heq])
      have hfull : (line ++ [chr '\r']).take lineLimit = line ++ [chr '\r'] :=
        List.take_of_length_le (by simp [lineLimit, heq])
      have hrest : (line ++ [chr '\r']).drop lineLimit = [] :=
        List.drop_eq_nil_of_le (by simp [lineLimit, heq])
      have hends : endsHeaders line = true := by simp [endsHeaders, heq]
      rw [hread, hfull, hrest, pieces_of_short (by omega), hends, if_pos rfl,
        if_neg (not_endsLoop (by simp [heq])), headersOf_eq]
      rfl
    · -- A piece is read, and what is left of the line goes on as a line of its own.
      have hlong : 95 ≤ line.length := hgt
      have hread : readBytesUntil lineLimit (line ++ [chr '\r'] ++ chr '\n' :: rest) =
          ((line ++ [chr '\r']).take lineLimit,
            (line ++ [chr '\r']).drop lineLimit ++ chr '\n' :: rest) :=
        readBytesUntil_piece hcr (by simp [lineLimit]; omega)
      have hrest : (line ++ [chr '\r']).drop lineLimit = line.drop 95 ++ [chr '\r'] :=
        List.drop_append_of_le_length hlong
      have hdrop : chr '\n' ∉ line.drop 95 := fun hmem ↦ hline (List.mem_of_mem_drop hmem)
      have hshorter : (line.drop 95).length < n := by
        rw [List.length_drop]
        omega
      have hpiece : 1 < ((line ++ [chr '\r']).take lineLimit).length := by
        simp [lineLimit]
        omega
      rw [hread, hrest, if_neg (not_endsLoop hpiece), pieces_of_long hlong, List.foldl_cons,
        ← endsHeaders_drop hlong, ← ih _ hshorter hdrop rfl]
      simp [lineLimit]

/-- **All lines**, up to the one that ends the loop. -/
theorem headersOf_lines {lines : List Text} (hlines : ∀ line ∈ lines, chr '\n' ∉ line)
    (hends : ∃ line ∈ lines, endsHeaders line = true) :
    headersOf len (sentLines lines ++ rest) =
      (((linesRead lines).flatMap pieces).foldl contentLengthAfter len,
        sentLines (linesLeft lines) ++ rest) := by
  induction lines generalizing len with
  | nil =>
    obtain ⟨line, hmem, -⟩ := hends
    exact absurd hmem List.not_mem_nil
  | cons line lines ih =>
    have hsplit : sentLines (line :: lines) ++ rest =
        line ++ chr '\r' :: chr '\n' :: (sentLines lines ++ rest) := by
      simp [sentLines]
    rw [hsplit, headersOf_line (hlines line (List.mem_cons_self ..)), linesRead, linesLeft]
    rcases hend : endsHeaders line with - | -
    · have hrest : ∃ line ∈ lines, endsHeaders line = true := by
        obtain ⟨other, hmem, hother⟩ := hends
        rcases List.mem_cons.1 hmem with rfl | hmem
        · rw [hend] at hother
          exact absurd hother Bool.false_ne_true
        · exact ⟨other, hmem, hother⟩
      rw [if_neg Bool.false_ne_true, if_neg Bool.false_ne_true, if_neg Bool.false_ne_true,
        ih (fun line hmem ↦ hlines line (List.mem_cons_of_mem _ hmem)) hrest, List.flatMap_cons,
        List.foldl_append]
    · rw [if_pos rfl, if_pos rfl, if_pos rfl, List.flatMap_cons, List.flatMap_nil, List.append_nil]

end Lines

/-! ### Reading the body -/

section Body

variable {capacity : ℕ} {used bytes : Text} {complete : Bool}

/-- Bytes are stored as long as there is room, and `complete` says whether all were. -/
theorem foldl_storeByte (hused : used.length < capacity) :
    bytes.foldl (storeByte capacity) (used, complete) =
      ((used ++ bytes).take (capacity - 1),
        complete && decide ((used ++ bytes).length < capacity)) := by
  induction bytes generalizing used complete with
  | nil =>
    rw [List.append_nil, List.take_of_length_le (by omega), decide_eq_true hused, Bool.and_true]
    rfl
  | cons c bytes ih =>
    rw [List.foldl_cons, storeByte]
    split
    · next hroom =>
      have hcons : used ++ [c] ++ bytes = used ++ c :: bytes := by simp
      rw [ih (by simpa using hroom), hcons]
    · next hfull =>
      -- The buffer is full, and stays so.
      have hlen : used.length = capacity - 1 := by
        simp only at hfull
        omega
      have htake : ∀ rest : Text, (used ++ rest).take (capacity - 1) = used :=
        fun rest ↦ List.take_left' hlen
      have hmany : ¬(used ++ c :: bytes).length < capacity := by
        rw [List.length_append, List.length_cons]
        omega
      rw [ih hused, htake, htake, decide_eq_false hmany, Bool.and_false, Bool.false_and]

/-- Polls that are in time. -/
theorem readUntilClosed_eq {polls : List Poll} (hused : used.length < capacity)
    (hpolls : ∀ poll ∈ polls, poll.late = false) :
    readUntilClosed capacity polls (used, complete) =
      ((used ++ polls.flatMap (·.bytes)).take (capacity - 1),
        complete && decide ((used ++ polls.flatMap (·.bytes)).length < capacity)) := by
  induction polls generalizing used complete with
  | nil =>
    rw [List.flatMap_nil, List.append_nil, List.take_of_length_le (by omega), decide_eq_true hused,
      Bool.and_true]
    rfl
  | cons poll polls ih =>
    have hlate : poll.late = false := hpolls poll (List.mem_cons_self ..)
    have hrest : ∀ poll ∈ polls, poll.late = false :=
      fun other hmem ↦ hpolls other (List.mem_cons_of_mem _ hmem)
    have hstored : ((used ++ poll.bytes).take (capacity - 1)).length < capacity := by
      rw [List.length_take]
      omega
    rw [readUntilClosed, foldl_storeByte hused, hlate, if_neg Bool.false_ne_true, ih hstored hrest,
      List.flatMap_cons, ← List.append_assoc]
    rcases Nat.lt_or_ge (used ++ poll.bytes).length capacity with hroom | hfull
    · have hall : (used ++ poll.bytes).take (capacity - 1) = used ++ poll.bytes :=
        List.take_of_length_le (by omega)
      rw [hall, decide_eq_true hroom, Bool.and_true]
    · have htake : ∀ rest : Text, ((used ++ poll.bytes).take (capacity - 1) ++ rest).take
          (capacity - 1) = (used ++ poll.bytes ++ rest).take (capacity - 1) := by
        intro rest
        have hlen : ((used ++ poll.bytes).take (capacity - 1)).length = capacity - 1 := by
          rw [List.length_take]
          omega
        rw [List.take_left' hlen]
        exact (List.take_append_of_le_length (by omega)).symm
      have hmany : ¬(used ++ poll.bytes ++ polls.flatMap (·.bytes)).length < capacity := by
        rw [List.length_append]
        omega
      rw [htake, decide_eq_false (Nat.not_lt.2 hfull), decide_eq_false hmany, Bool.and_false,
        Bool.false_and]

end Body

/-! ### The whole request -/

section Request

variable {c : Connection} {r : HttpResponse} {capacity : ℕ}

/-- A length that is read is not negative. -/
theorem foldl_contentLengthAfter (lines : List Text) {len : Int} (h : len = -1 ∨ 0 ≤ len) :
    lines.foldl contentLengthAfter len = -1 ∨ 0 ≤ lines.foldl contentLengthAfter len := by
  induction lines generalizing len with
  | nil => exact h
  | cons line lines ih =>
    refine ih ?_
    rw [contentLengthAfter]
    split
    · split
      · split
        · exact .inr (Int.natCast_nonneg _)
        · exact h
      · exact h
    · exact h

theorem HttpResponse.announced_cases (r : HttpResponse) : r.announced = -1 ∨ 0 ≤ r.announced := by
  rw [announced]
  split
  · exact .inl rfl
  · exact foldl_contentLengthAfter _ (.inl rfl)

/-- The status line, and what the loop over the headers makes of the rest. -/
theorem readBytesUntil_sent (hr : r.WellFormed capacity) :
    ∃ rest, readBytesUntil lineLimit r.sent = (r.statusLine ++ [chr '\r'], rest) ∧
      headersOf (-1) rest = (r.announced, sentLines r.left ++ r.body) := by
  have hsplit : r.sent =
      (r.statusLine ++ [chr '\r']) ++ chr '\n' :: (sentLines (r.headers ++ [[]]) ++ r.body) := by
    simp [HttpResponse.sent, sentLines]
  have hstatus : chr '\n' ∉ r.statusLine ++ [chr '\r'] := by
    have hversion : chr '\n' ∉ ascii "HTTP/1.1 200" := by decide
    simp only [HttpResponse.statusLine, List.mem_append, List.mem_singleton, not_or]
    exact ⟨⟨hversion, hr.reason_line⟩, by decide⟩
  have hshort := hr.status_short
  rw [hsplit, HttpResponse.announced, HttpResponse.left]
  by_cases hfull : r.statusLine.length = 94
  · -- The end of the status line is taken for an empty line.
    rw [if_pos hfull, if_pos hfull]
    refine ⟨chr '\n' :: (sentLines (r.headers ++ [[]]) ++ r.body), ?_, ?_⟩
    · rw [readBytesUntil_piece hstatus (by simp [lineLimit, hfull])]
      have htake : (r.statusLine ++ [chr '\r']).take lineLimit = r.statusLine ++ [chr '\r'] :=
        List.take_of_length_le (by simp [lineLimit, hfull])
      have hdrop : (r.statusLine ++ [chr '\r']).drop lineLimit = [] :=
        List.drop_eq_nil_of_le (by simp [lineLimit, hfull])
      rw [htake, hdrop, List.nil_append]
    · rw [headersOf_eq]
      rfl
  · rw [if_neg hfull, if_neg hfull]
    refine ⟨sentLines (r.headers ++ [[]]) ++ r.body, ?_, ?_⟩
    · exact readBytesUntil_line hstatus (by simp [lineLimit]; omega)
    · refine headersOf_lines (fun line hmem ↦ ?_) ⟨[], by simp, rfl⟩
      rcases List.mem_append.1 hmem with hmem | hmem
      · exact (hr.header_line line hmem).2
      · rw [List.mem_singleton.1 hmem]
        exact List.not_mem_nil

theorem parseHttpStatus_statusLine (r : HttpResponse) :
    parseHttpStatus (r.statusLine ++ [chr '\r']) = 200 := by
  rfl

/-- **What the caller gets**, if there is room for anything. -/
theorem performGet_eq (hr : r.WellFormed capacity) (hc : Delivers c r) (hcap : 2 ≤ capacity) :
    performGet c (some capacity) =
      if !(readBody c capacity r.announced (sentLines r.left ++ r.body)).2 then
        { status := -1
          response := (readBody c capacity r.announced (sentLines r.left ++ r.body)).1 }
      else
        { status := 200
          response := (readBody c capacity r.announced (sentLines r.left ++ r.body)).1 ++ [0]
          responseLength :=
            (readBody c capacity r.announced (sentLines r.left ++ r.body)).1.length } := by
  obtain ⟨rest, hline, hheaders⟩ := readBytesUntil_sent hr
  rw [headersOf] at hheaders
  have hgoes : ¬(decide ((200 : Int) < 0) || decide (capacity < 2) || decide ((200 : Int) ≠ 200)) =
      true := by
    simp
    omega
  simp only [performGet, hc.memory, hc.connects, hc.sent, hline, parseHttpStatus_statusLine, hheaders]
  rw [if_neg (by decide), if_neg (by decide), if_neg hgoes]

/-- A complete body is what it should be, or not. -/
theorem extracts_iff (used : Text) :
    Extracts r { status := 200, response := used ++ [0], responseLength := used.length } ↔
      used = r.body := by
  constructor
  · intro h
    have hresponse : (used ++ [0]).take used.length = r.body := h.response
    rw [List.take_left] at hresponse
    exact hresponse
  · rintro rfl
    exact ⟨rfl, rfl, List.take_left⟩

/-- No body, no body extracted. -/
theorem not_extracts (used : Text) : ¬Extracts r { status := -1, response := used } := by
  intro h
  have hstatus : (-1 : Int) = 200 := h.status
  exact absurd hstatus (by decide)

theorem sentLines_eq_nil {lines : List Text} : sentLines lines = [] ↔ lines = [] := by
  rcases lines with - | ⟨line, lines⟩
  · exact iff_of_true rfl rfl
  · simp [sentLines]

/-! ### Short lines -/

/-- A line that fits into the line buffer, and is not empty, is read as it is. -/
theorem endsHeaders_short {line : Text} (hne : line ≠ []) (hshort : line.length < 94) :
    endsHeaders line = false := by
  have hpos := List.length_pos_of_ne_nil hne
  rw [endsHeaders, Bool.or_eq_false_iff, beq_eq_false_iff_ne, beq_eq_false_iff_ne]
  omega

theorem linesLeft_short {lines : List Text}
    (hlines : ∀ line ∈ lines, line ≠ [] ∧ line.length < 94) :
    linesRead (lines ++ [[]]) = lines ++ [[]] ∧ linesLeft (lines ++ [[]]) = [] := by
  induction lines with
  | nil => exact ⟨rfl, rfl⟩
  | cons line lines ih =>
    obtain ⟨hne, hshort⟩ := hlines line (List.mem_cons_self ..)
    obtain ⟨hread, hleft⟩ := ih fun other hmem ↦ hlines other (List.mem_cons_of_mem _ hmem)
    rw [List.cons_append, linesRead, linesLeft, endsHeaders_short hne hshort,
      if_neg Bool.false_ne_true, if_neg Bool.false_ne_true, hread]
    exact ⟨rfl, hleft⟩

/-- Lines that announce nothing but `n` announce `n` or nothing. -/
theorem foldl_announces {lines : List Text} {n : ℕ}
    (hlines : ∀ line ∈ lines, ∀ len, contentLengthAfter len line = len ∨
      contentLengthAfter len line = n) {len : Int} (hlen : len = -1 ∨ len = n) :
    lines.foldl contentLengthAfter len = -1 ∨ lines.foldl contentLengthAfter len = n := by
  induction lines generalizing len with
  | nil => exact hlen
  | cons line lines ih =>
    refine ih (fun other hmem ↦ hlines other (List.mem_cons_of_mem _ hmem)) ?_
    rcases hlines line (List.mem_cons_self ..) len with h | h
    · rw [h]
      exact hlen
    · exact .inr h

/-- A number denotes one value. -/
theorem isNumber_unique {text : Text} {n k : ℕ} (h : IsNumber text n) (h' : IsNumber text k) :
    n = k := by
  have hdigits : ∀ {n}, IsNumber text n → digitsValue 0 (text.takeWhile isDigit) = n := by
    rintro n ⟨ds, gaps, rest, rfl, -, hds, hvalue, hgaps, hrest⟩
    have hnone : (gaps ++ rest).takeWhile isDigit = [] := by
      have hgap : ∀ c, isGap c = true → isDigit c = false := by decide +kernel
      rcases gaps with - | ⟨c, gaps⟩
      · rcases rest with - | ⟨c, rest⟩
        · rfl
        · have hc : isDigit c = false := by
            rcases hrest with hnil | hline | hcomment
            · cases hnil
            · rw [Option.some.inj hline]
              decide
            · rw [Option.some.inj hcomment]
              decide
          rw [List.nil_append, List.takeWhile_cons_of_neg (by simp [hc])]
      · rw [List.cons_append, List.takeWhile_cons_of_neg]
        simp [hgap c (hgaps c (List.mem_cons_self ..))]
    rw [List.takeWhile_append_of_pos hds, hnone, List.append_nil, hvalue]
  exact (hdigits h).symm.trans (hdigits h')

/-- A header line that fits announces nothing or the right length. -/
theorem contentLengthAfter_header (hr : r.WellFormed capacity) {h : Text} (hmem : h ∈ r.headers)
    (len : Int) : contentLengthAfter len (h ++ [chr '\r']) = len ∨
      contentLengthAfter len (h ++ [chr '\r']) = r.body.length := by
  rw [contentLengthAfter]
  split
  · next hprefix =>
    have hname : contentLengthHeader <+: h := by
      rcases List.prefix_concat_iff.1 (List.isPrefixOf_iff_prefix.1 hprefix) with heq | hpre
      · have hlast : chr '\r' ∈ contentLengthHeader := heq ▸ by simp
        exact absurd hlast (by decide)
      · exact hpre
    obtain ⟨blanks, ds, gaps, rfl, hblanks, hne, hds, hvalue, hgaps⟩ :=
      hr.length_correct h hmem hname
    have hvalueText : (cString ((contentLengthHeader ++ (blanks ++ (ds ++ gaps)) ++ [chr '\r']).drop
        contentLengthHeader.length)).dropWhile isBlank = ds ++ (gaps ++ [chr '\r']) := by
      have hblank : ∀ c, isBlank c = true → c ≠ 0 := by decide +kernel
      have hdigit : ∀ c, isDigit c = true → c ≠ 0 ∧ isBlank c = false := by decide +kernel
      have hzero : ∀ c ∈ blanks ++ (ds ++ (gaps ++ [chr '\r'])), decide (c ≠ 0) = true := by
        simp only [List.mem_append, List.mem_singleton]
        rintro c (hc | hc | hc | rfl)
        · exact decide_eq_true (hblank c (hblanks c hc))
        · exact decide_eq_true (hdigit c (hds c hc)).1
        · exact decide_eq_true (hblank c (hgaps c hc))
        · decide
      have hvalue : (contentLengthHeader ++ (blanks ++ (ds ++ gaps)) ++ [chr '\r']).drop
          contentLengthHeader.length = blanks ++ (ds ++ (gaps ++ [chr '\r'])) := by
        rw [List.append_assoc, List.drop_left]
        simp
      rw [hvalue, cString, List.takeWhile_eq_self_iff.2 hzero, List.dropWhile_append_of_pos hblanks]
      rcases ds with - | ⟨c, ds⟩
      · exact absurd rfl hne
      · rw [List.cons_append, List.dropWhile_cons_of_neg]
        simp [(hdigit c (hds c (List.mem_cons_self ..))).2]
    have hnumber : IsNumber (ds ++ (gaps ++ [chr '\r'])) r.body.length := by
      refine ⟨ds, gaps ++ [chr '\r'], [], by simp, hne, hds, hvalue, fun c hc ↦ ?_, .inl rfl⟩
      rcases List.mem_append.1 hc with hc | hc
      · rw [isGap, hgaps c hc]
        rfl
      · rw [List.mem_singleton.1 hc]
        decide
    rw [hvalueText]
    split
    · next v hparse =>
      split
      · exact .inr (congrArg _ (isNumber_unique (parseUnsigned_eq_some_iff.1 hparse) hnumber))
      · exact .inl rfl
    · exact .inl rfl
  · exact .inl rfl

/-- **Short lines come through.** -/
theorem comesThrough_of_short (hr : r.WellFormed capacity) (hstatus : r.statusLine.length < 94)
    (hshort : ∀ h ∈ r.headers, h.length < 94) : r.ComesThrough capacity := by
  obtain ⟨hread, hleft⟩ := linesLeft_short fun h hmem ↦ ⟨(hr.header_line h hmem).1, hshort h hmem⟩
  have hleft : r.left = [] := by rw [HttpResponse.left, if_neg (by omega), hleft]
  have hannounced : r.announced = -1 ∨ r.announced = r.body.length := by
    rw [HttpResponse.announced, if_neg (by omega), hread]
    refine foldl_announces (fun piece hpiece len ↦ ?_) (.inl rfl)
    obtain ⟨line, hmem, hpiece⟩ := List.mem_flatMap.1 hpiece
    rcases List.mem_append.1 hmem with hmem | hmem
    · have := hshort line hmem
      rw [pieces_of_short (by omega), List.mem_singleton] at hpiece
      rw [hpiece]
      exact contentLengthAfter_header hr hmem len
    · rw [List.mem_singleton] at hmem
      rw [hmem, pieces_of_short (by decide), List.mem_singleton] at hpiece
      rw [hpiece]
      exact .inl rfl
  rcases hannounced with hnone | hsome
  · exact .inr (.inl ⟨hnone, hleft⟩)
  · refine .inr (.inr ⟨hsome, ?_⟩)
    rw [hleft]
    exact List.prefix_rfl

/-! ### The guarantee -/

/-- **The caller gets exactly the body** of the responses that come through, and of no others. -/
theorem performGet_extracts_iff (hr : r.WellFormed capacity) (hc : Delivers c r) :
    Extracts r (performGet c (some capacity)) ↔ r.ComesThrough capacity := by
  have hbody := hr.body_short
  rcases Nat.lt_or_ge capacity 2 with hsmall | hcap
  · -- There is no room, and the body is empty.
    have hempty : r.body = [] := List.length_eq_zero_iff.1 (by omega)
    obtain ⟨rest, hline, -⟩ := readBytesUntil_sent hr
    have hget : performGet c (some capacity) = { status := 200 } := by
      simp only [performGet, hc.memory, hc.connects, hc.sent, hline, parseHttpStatus_statusLine]
      rw [if_neg (by decide), if_neg (by decide), if_pos (by simp [hsmall])]
    rw [hget]
    refine iff_of_true ⟨rfl, ?_, hempty.symm⟩ (.inl hsmall)
    rw [hempty]
    rfl
  rw [performGet_eq hr hc hcap, HttpResponse.ComesThrough, or_iff_right (Nat.not_lt.2 hcap)]
  obtain ⟨rest, hrest⟩ : ∃ rest, sentLines r.left ++ r.body = rest := ⟨_, rfl⟩
  have hlen : rest.length = (sentLines r.left).length + r.body.length := by
    rw [← hrest, List.length_append]
  rcases r.announced_cases with hnone | hsome
  · -- No length: everything that is left is taken for the body.
    have hread : readBody c capacity r.announced rest =
        (rest.take (capacity - 1), decide (rest.length < capacity)) := by
      have hpos : ([] : Text).length < capacity := by
        show 0 < capacity
        omega
      rw [readBody, hnone, if_neg (by decide), readUntilClosed_eq hpos (hc.inTime rest), hc.arrives,
        List.nil_append, Bool.true_and]
    have hother : ¬(r.announced = r.body.length ∧ r.body <+: rest) := fun h ↦ by omega
    have hwhole : rest = r.body ↔ r.left = [] := by
      rw [← hrest, List.append_left_eq_self, sentLines_eq_nil]
    rw [hrest, or_iff_left hother, hread, and_iff_right hnone, ← hwhole]
    rcases Nat.lt_or_ge rest.length capacity with hroom | hfull
    · have hall : rest.take (capacity - 1) = rest := List.take_of_length_le (by omega)
      rw [if_neg (by simp [hroom]), hall, extracts_iff]
    · rw [if_pos (by simpa using hfull)]
      refine iff_of_false (not_extracts _) fun heq ↦ ?_
      rw [heq] at hfull
      omega
  · -- A length: so many bytes of what is left are taken for the body.
    obtain ⟨n, hn⟩ := Int.eq_ofNat_of_zero_le hsome
    have hother : ¬(r.announced = -1 ∧ r.left = []) := fun h ↦ by omega
    have hright : r.announced = r.body.length ↔ n = r.body.length := by omega
    rw [hrest, or_iff_right hother, hright, List.prefix_iff_eq_take, hn, readBody,
      if_pos (Int.natCast_nonneg n), Int.toNat_natCast]
    rcases Nat.lt_or_ge n capacity with hroom | hfull
    · rw [if_neg (Nat.not_le.2 hroom)]
      rcases Nat.lt_or_ge rest.length n with hshort | hlong
      · rw [if_pos (by simp; omega)]
        exact iff_of_false (not_extracts _) fun h ↦ by omega
      · rw [if_neg (by simp; omega), extracts_iff]
        constructor
        · intro htake
          have hlength := congrArg List.length htake
          rw [List.length_take, Nat.min_eq_left hlong] at hlength
          exact ⟨hlength, hlength ▸ htake.symm⟩
        · rintro ⟨rfl, hprefix⟩
          exact hprefix.symm
    · rw [if_pos hfull]
      exact iff_of_false (not_extracts _) fun h ↦ by omega

end Request

/-- A connection on which the response arrives at once. -/
def delivered (r : HttpResponse) : Connection where
  memory := true
  connects := true
  sent := r.sent
  polls := fun rest ↦ [{ bytes := rest, late := false }]

theorem delivers_delivered (r : HttpResponse) : Delivers (delivered r) r where
  memory := rfl
  connects := rfl
  sent := rfl
  arrives := fun rest ↦ by simp [delivered]
  inTime := fun rest poll hpoll ↦ by
    rw [List.mem_singleton.1 hpoll]

/-- A response with short headers. -/
def shortResponse : HttpResponse where
  reason := ascii " OK"
  headers := [ascii "Server: minis", ascii "Content-Length: 5"]
  body := ascii "hello"

theorem wellFormed_shortResponse : shortResponse.WellFormed 768 := by
  refine ⟨by decide, by decide, by decide +kernel, by decide +kernel, ?_, by decide⟩
  intro h hmem hname
  rcases List.mem_cons.1 hmem with rfl | hmem
  · exact absurd hname (by decide)
  · rw [List.mem_singleton.1 hmem]
    exact ⟨ascii " ", ascii "5", [], by decide +kernel⟩

/-- It comes through. -/
theorem performGet_extracts_shortResponse :
    Extracts shortResponse (performGet (delivered shortResponse) (some 768)) :=
  (performGet_extracts_iff wellFormed_shortResponse (delivers_delivered shortResponse)).2
    (by decide +kernel)

/-- The same with a header of 94 bytes in front. With its carriage return it fills the line buffer. -/
def fullLineResponse : HttpResponse :=
  { shortResponse with
    headers := (ascii "X: " ++ List.replicate 91 (chr 'x')) :: shortResponse.headers }

theorem wellFormed_fullLineResponse : fullLineResponse.WellFormed 768 := by
  refine ⟨by decide, by decide, by decide +kernel, by decide +kernel, ?_, by decide⟩
  intro h hmem hname
  rcases List.mem_cons.1 hmem with rfl | hmem
  · exact absurd hname (by decide +kernel)
  · exact wellFormed_shortResponse.length_correct h hmem hname

/-- The headers behind the full line are taken for the body. -/
theorem performGet_fullLineResponse :
    (performGet (delivered fullLineResponse) (some 768)).status = 200 ∧
      (performGet (delivered fullLineResponse) (some 768)).responseLength = 41 ∧
      ¬∀ (c : Connection) (r : HttpResponse) (capacity : ℕ), r.WellFormed capacity → Delivers c r →
        Extracts r (performGet c (some capacity)) := by
  refine ⟨by decide +kernel, by decide +kernel, fun hall ↦ ?_⟩
  have hlength := (hall _ _ _ wellFormed_fullLineResponse (delivers_delivered _)).responseLength
  revert hlength
  decide +kernel

end Minis

end ReverseTunnel

import ReverseTunnel.Minis.ManagedParsing

/-!
# Parsing a body

`readLines` notes what the lines of a body have, one after the other. `parseConfig` **refines** it: it
does the same in the buffer, with pointers for texts, and the round in which it is makes no difference,
since a round moves on by a line.
-/

namespace ReverseTunnel

namespace Minis

/-- What a line of a body has: comments and empty lines have nothing. -/
def settingsOf (line : Text) : Findings Text :=
  let rest := line.dropWhile isGap
  if rest.head? = none ∨ rest.head? = some (chr '#') then {} else readLine rest

/-- The lines are noted in turn. The result is `false` if a setting was already present. -/
def readLines : List Text → ParsedConfig Text → Bool → ParsedConfig Text × Bool
  | [], parsed, ok => (parsed, ok)
  | line :: lines, parsed, ok =>
    readLines lines (parsed.note (settingsOf line)).1 (ok && (parsed.note (settingsOf line)).2)

section Bodies

variable {l before rest more body : Text} {parsed : ParsedConfig ℕ} {read : ParsedConfig Text}

/-- What a round does behind the gaps. -/
def parseRest (buf : Text) (start : ℕ) (parsed : ParsedConfig ℕ) : Text × ParsedConfig ℕ × Bool :=
  if (cAt buf start).head? = none ∨ (cAt buf start).head? = some (chr '#') then (buf, parsed, true)
  else parseLine buf start parsed

/-- **One round** notes what the line has. -/
theorem parseRest_refines (rest : Text) (hl : (0 : UInt8) ∉ l) (h : parsed.Refines before read) :
    ∃ before', (parseRest (before ++ (l ++ 0 :: rest))
        (before.length + (l.takeWhile isGap).length) parsed).1 = before' ++ rest ∧
      before'.length = before.length + l.length + 1 ∧
      (parseRest (before ++ (l ++ 0 :: rest))
        (before.length + (l.takeWhile isGap).length) parsed).2.1.Refines before'
          (read.note (settingsOf l)).1 ∧
      (parseRest (before ++ (l ++ 0 :: rest))
        (before.length + (l.takeWhile isGap).length) parsed).2.2 =
          (read.note (settingsOf l)).2 := by
  obtain ⟨gaps, line, hgaps, hline⟩ : ∃ gaps line, l.takeWhile isGap = gaps ∧
    l.dropWhile isGap = line := ⟨_, _, rfl, rfl⟩
  have hsplit : l = gaps ++ line := by
    rw [← hgaps, ← hline, List.takeWhile_append_dropWhile]
  have hzero : (0 : UInt8) ∉ line := fun hmem ↦ hl (hsplit ▸ List.mem_append_right _ hmem)
  have hbuf : before ++ (l ++ 0 :: rest) = (before ++ gaps) ++ (line ++ 0 :: rest) := by
    rw [hsplit]
    simp only [List.append_assoc]
  have hstart : before.length + gaps.length = (before ++ gaps).length := by
    rw [List.length_append]
  have hcAt : cAt ((before ++ gaps) ++ (line ++ 0 :: rest)) (before ++ gaps).length = line :=
    cAt_append hzero
  have hlen : l.length = gaps.length + line.length := by
    rw [hsplit, List.length_append]
  rw [hgaps, hbuf, hstart, parseRest, hcAt, settingsOf, hline]
  by_cases hskip : line.head? = none ∨ line.head? = some (chr '#')
  · rw [if_pos hskip, if_pos hskip]
    refine ⟨before ++ (gaps ++ (line ++ [0])), ?_, ?_, h.append _, rfl⟩
    · simp only [List.append_assoc, List.cons_append, List.nil_append]
    · simp only [List.length_append, List.length_cons, List.length_nil]
      omega
  · rw [if_neg hskip, if_neg hskip]
    obtain ⟨before', hbuf', hlen', ⟨more, hmore⟩, hstands⟩ :=
      findings_standFor (before ++ gaps) rest hzero
    have hbefore : parsed.Refines before' read := by
      rw [← hmore]
      exact (h.append gaps).append more
    rw [List.length_append] at hlen'
    refine ⟨before', hbuf', by omega, ?_, ?_⟩
    · exact (hbefore.note hstands).1
    · exact (hbefore.note hstands).2

/-- A round at a line that is ended by a newline. -/
theorem parseLines_line {line tail : Text} (hline : chr '\n' ∉ line) (hzero : (0 : UInt8) ∉ line)
    (htail : (0 : UInt8) ∉ tail) (rounds : ℕ) (ok : Bool) :
    parseLines (rounds + 1) (before ++ ((line ++ chr '\n' :: tail) ++ 0 :: more)) before.length parsed
        ok =
      let r := parseRest (before ++ (line ++ 0 :: (tail ++ 0 :: more)))
        (before.length + (line.takeWhile isGap).length) parsed
      parseLines rounds r.1 (before.length + line.length + 1) r.2.1 (ok && r.2.2) := by
  have hcAt : cAt (before ++ ((line ++ chr '\n' :: tail) ++ 0 :: more)) before.length =
      line ++ chr '\n' :: tail := by
    refine cAt_append fun hmem ↦ ?_
    rcases List.mem_append.1 hmem with hmem | hmem
    · exact hzero hmem
    · rcases List.mem_cons.1 hmem with heq | hmem
      · exact absurd heq (by decide)
      · exact htail hmem
  have htake : (line ++ chr '\n' :: tail).takeWhile (· ≠ chr '\n') = line := by
    rw [List.takeWhile_append_of_pos, List.takeWhile_cons_of_neg (by decide), List.append_nil]
    intro c hc
    exact decide_eq_true fun heq ↦ hline (heq ▸ hc)
  have hset : (before ++ ((line ++ chr '\n' :: tail) ++ 0 :: more)).set
      (before.length + line.length) 0 = before ++ (line ++ 0 :: (tail ++ 0 :: more)) := by
    rw [List.set_append_right _ _ (by omega), Nat.add_sub_cancel_left, List.append_assoc,
      List.set_append_right _ _ le_rfl, Nat.sub_self, List.cons_append, List.set_cons_zero]
  have hcAt' : cAt (before ++ (line ++ 0 :: (tail ++ 0 :: more))) before.length = line :=
    cAt_append hzero
  have hnone : decide (chr '\n' ∉ line ++ chr '\n' :: tail) = false := by simp
  rw [parseLines, hcAt, if_neg (by simp)]
  simp only [htake, hnone, Bool.false_eq_true, if_false, hset, hcAt']
  rfl

/-- A round at the last line, when it is not ended. -/
theorem parseLines_last {line : Text} (hne : line ≠ []) (hline : chr '\n' ∉ line)
    (hzero : (0 : UInt8) ∉ line) (rounds : ℕ) (ok : Bool) :
    parseLines (rounds + 1) (before ++ (line ++ 0 :: more)) before.length parsed ok =
      let r := parseRest (before ++ (line ++ 0 :: more))
        (before.length + (line.takeWhile isGap).length) parsed
      (r.1, r.2.1, ok && r.2.2) := by
  have hcAt : cAt (before ++ (line ++ 0 :: more)) before.length = line := cAt_append hzero
  have hlast : decide (chr '\n' ∉ line) = true := decide_eq_true hline
  rw [parseLines, hcAt, if_neg hne]
  simp only [hlast, if_true, hcAt]
  rfl

/-- **All rounds**: the lines that are left are noted, and what is behind the body stays. The induction is
on the rounds, of which there are more than bytes. -/
theorem parseLines_refines (more : Text) (rounds : ℕ) (hrounds : body.length < rounds)
    (hbody : (0 : UInt8) ∉ body) (h : parsed.Refines before read) (ok : Bool) :
    ∃ before', (parseLines rounds (before ++ (body ++ 0 :: more)) before.length parsed ok).1 =
        before' ++ more ∧
      (parseLines rounds (before ++ (body ++ 0 :: more)) before.length parsed ok).2.1.Refines before'
        (readLines body.fileLines read ok).1 ∧
      (parseLines rounds (before ++ (body ++ 0 :: more)) before.length parsed ok).2.2 =
        (readLines body.fileLines read ok).2 := by
  induction rounds generalizing body before parsed read ok with
  | zero => exact absurd hrounds (Nat.not_lt_zero _)
  | succ rounds ih =>
    have hcAt : cAt (before ++ (body ++ 0 :: more)) before.length = body := cAt_append hbody
    by_cases hempty : body = []
    · rw [parseLines, hcAt, if_pos hempty, hempty]
      refine ⟨before ++ [0], ?_, h.append _, rfl⟩
      simp only [List.append_assoc, List.cons_append, List.nil_append]
    by_cases hend : chr '\n' ∈ body
    · -- The line is ended at its newline.
      obtain ⟨line, tail, rfl, hline⟩ := List.eq_append_cons_of_mem hend
      have hzero : (0 : UInt8) ∉ line := fun hmem ↦ hbody (List.mem_append_left _ hmem)
      have htail : (0 : UInt8) ∉ tail :=
        fun hmem ↦ hbody (List.mem_append_right _ (List.mem_cons_of_mem _ hmem))
      rw [List.length_append, List.length_cons] at hrounds
      obtain ⟨before', hbuf, hlen, hrefines, hok⟩ :=
        parseRest_refines (tail ++ 0 :: more) hzero h
      rw [parseLines_line hline hzero htail]
      dsimp only
      rw [hbuf, ← hlen, hok, Text.fileLines_line hline, readLines]
      exact ih (by omega) htail hrefines _
    · obtain ⟨before', hbuf, hlen, hrefines, hok⟩ := parseRest_refines more hbody h
      rw [parseLines_last hempty hend hbody, Text.fileLines_last hempty hend]
      refine ⟨before', hbuf, hrefines, ?_⟩
      show (ok && _) = (ok && _)
      rw [hok]

/-- **Parsing a body** in a buffer finds what its lines have. -/
theorem parseConfig_refines (more : Text) (hbody : (0 : UInt8) ∉ body) :
    (parseConfig (body ++ 0 :: more)).2.1.Refines (parseConfig (body ++ 0 :: more)).1
        (readLines body.fileLines {} true).1 ∧
      (parseConfig (body ++ 0 :: more)).2.2 = (readLines body.fileLines {} true).2 := by
  have hinit : ParsedConfig.Refines [] {} {} :=
    ⟨rfl, rfl, ⟨rfl, rfl, .none⟩, rfl, ⟨rfl, rfl, .none⟩, rfl, ⟨rfl, rfl, .none⟩, rfl,
      ⟨rfl, rfl, .none⟩⟩
  have hrounds : body.length < (body ++ 0 :: more).length + 1 := by
    rw [List.length_append]
    omega
  obtain ⟨before', hbuf, hrefines, hok⟩ := parseLines_refines more _ hrounds hbody hinit true
  have hrefines' := hrefines.append more
  rw [← hbuf] at hrefines'
  exact ⟨hrefines', hok⟩

end Bodies

end Minis

end ReverseTunnel

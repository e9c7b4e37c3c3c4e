import Phrasebook.Proofs.Text.Line
import Phrasebook.Proofs.Validation.Line

/-!
The scan of a source at its places. The state in front of a place goes on from character to
character, also over line ends, and an issue stands at a place exactly if a run of the writing
system begins there, the character has a class that counts and the line is looked at. Where the scan
is in code, all that quotes hold counts as the quotes that open do, also over line ends if they are
backticks.
-/

namespace Phrasebook.Validation

open Text LineState

variable {rules : CallRules} {front back cs : List Char} {c : Char}

namespace LineState

/-- The state behind whole lines. -/
def behind (rules : CallRules) : LineState → List (List Char) → LineState
  | s, [] => s
  | s, line :: lines => behind rules (classify rules [] s line).2.nextLine lines

theorem behind_append (s : LineState) (ls ms : List (List Char)) :
    behind rules s (ls ++ ms) = behind rules (behind rules s ls) ms := by
  induction ls generalizing s with
  | nil => rfl
  | cons line ls ih => exact ih _

/-- The state of the scan at a place, between what is in front of it and the rest of the source. -/
def stateAt (rules : CallRules) (front rest : List Char) : LineState :=
  (passed rules [] (behind rules {} (lines (wholeLines front))) (lineBefore front rest)
    (lineRest rest)).2

/-- The class of a character at its place. -/
def classAt (rules : CallRules) (front : List Char) (c : Char) (cs : List Char) : CharClass :=
  (step rules (lineFront front).reverse (stateAt rules front (c :: cs)) c (lineRest cs)).1

theorem stateAt_start (rest : List Char) : stateAt rules [] rest = {} := by
  rw [stateAt, show lineBefore [] rest = [] from ite_self _]
  rfl

theorem stateAt_line_feed (rules : CallRules) (front cs : List Char) :
    stateAt rules (front ++ ['\n']) cs = (stateAt rules front ('\n' :: cs)).nextLine := by
  have line : lineBefore (front ++ ['\n']) cs = [] := by simp [lineBefore]
  rw [stateAt, wholeLines_line_feed, lines_line_feed front cs, line, behind_append, behind, behind,
    classify_eq_passed]
  rfl

theorem stateAt_carriage_return (rules : CallRules) (front cs : List Char) :
    stateAt rules (front ++ ['\r']) ('\n' :: cs) = stateAt rules front ('\r' :: '\n' :: cs) := by
  have other : '\r' ≠ '\n' := by decide
  have line : lineBefore (front ++ ['\r']) ('\n' :: cs) = lineFront front := by
    simp [lineBefore, lineFront_concat other]
  rw [stateAt, stateAt, wholeLines_concat other, line, lineBefore_of_ne other]
  rfl

theorem stateAt_concat (rules : CallRules) (front : List Char) (visible : ¬ EndsLine c cs) :
    stateAt rules (front ++ [c]) cs =
      (step rules (lineFront front).reverse (stateAt rules front (c :: cs)) c (lineRest cs)).2 := by
  have other : c ≠ '\n' := fun same => visible (.inl same)
  have line : lineBefore (front ++ [c]) cs = lineFront front ++ [c] := by
    rw [lineBefore, lineFront_concat other, List.getLast?_concat, if_neg]
    exact fun ended => visible (.inr ⟨Option.some.inj ended.2, ended.1⟩)
  rw [stateAt, stateAt, wholeLines_concat other, line, lineBefore_of_ne other,
    lineRest, if_neg visible, passed_append, List.append_nil]
  rfl

/-- Open parentheses of a diagnostic call at a place. -/
def depthAt (rules : CallRules) (front rest : List Char) : Nat :=
  (stateAt rules front rest).diagnosticDepth

theorem depth_parens {s : LineState} (other : c ∉ ['(', ')']) : parens c s = s := by
  simp only [List.mem_cons, List.not_mem_nil, or_false, not_or] at other
  simp [parens, other]

theorem stepCode_noticed {s : LineState} {before : List Char} : stepCode rules before s c cs =
    if ['/', '/'].isPrefixOf (c :: cs)
      then (.comment, { s with settled := cs.map fun _ => .comment })
    else if ['/', '*'].isPrefixOf (c :: cs) then
      (.comment, { s with comment := some .block, settled := [.comment] })
    else if ['<', '!', '-', '-'].isPrefixOf (c :: cs) then
      (.comment, { s with comment := some .markup, settled := [.comment, .comment, .comment] })
    else
      let t := noticed rules before s c cs
      if isQuote c then
        let wrapped := t.diagnosticDepth ≠ 0 || rules.wraps before.reverse
        (.quoted wrapped, { t with quote := some (c, wrapped) })
      else if ['\x7b', '\x7b'].isPrefixOf (c :: cs) then
        (.bare, { t with interpolation := true, settled := [.bare] })
      else if ['\x7d', '\x7d'].isPrefixOf (c :: cs) then
        (.bare, { t with interpolation := false, settled := [.bare] })
      else (if t.interpolation then .interpolation else .bare, t) := rfl

/-- A step leaves the count of parentheses as it is, or notices a character of code. -/
theorem step_counts {s : LineState} {before : List Char} :
    ((step rules before s c cs).2.diagnosticPending = s.diagnosticPending ∧
      (step rules before s c cs).2.diagnosticDepth = s.diagnosticDepth) ∨
    ((step rules before s c cs).2.diagnosticPending =
      (noticed rules before s c cs).diagnosticPending ∧
        (step rules before s c cs).2.diagnosticDepth =
        (noticed rules before s c cs).diagnosticDepth) := by
  unfold step
  split
  · exact .inl ⟨rfl, rfl⟩
  · unfold stepComment
    split <;> exact .inl ⟨rfl, rfl⟩
  · unfold stepQuote
    split_ifs <;> exact .inl ⟨rfl, rfl⟩
  · rw [stepCode_noticed]
    split_ifs <;> first | exact .inl ⟨rfl, rfl⟩ | exact .inr ⟨rfl, rfl⟩

/-- Only parentheses change how many are open. -/
theorem depth_step {s : LineState} {before : List Char} (other : c ∉ ['(', ')']) :
    (step rules before s c cs).2.diagnosticDepth = s.diagnosticDepth := by
  have kept : (noticed rules before s c cs).diagnosticDepth = s.diagnosticDepth := by
    rw [noticed, depth_parens other]
    split_ifs <;> rfl
  rcases step_counts with ⟨-, same⟩ | ⟨-, same⟩
  · exact same
  · exact same.trans kept

/-- Only parentheses change how many are open, on one line or from line to line. -/
theorem depthAt_concat (front : List Char) (other : c ∉ ['(', ')']) :
    depthAt rules (front ++ [c]) cs = depthAt rules front (c :: cs) := by
  by_cases feed : c = '\n'
  · subst feed
    rw [depthAt, stateAt_line_feed]
    rfl
  · by_cases ends : EndsLine c cs
    · obtain ⟨rfl, next⟩ := ends.resolve_left feed
      obtain ⟨rest, rfl⟩ := List.head?_eq_some_iff.mp next
      rw [depthAt, stateAt_carriage_return]
      rfl
    · rw [depthAt, stateAt_concat _ front ends, depth_step other]
      rfl

theorem not_paren_of_isQuote (quote : isQuote c = true) : c ∉ ['(', ')'] := by
  have kinds : c = '\'' ∨ c = '"' ∨ c = '\x60' := by simpa [isQuote, or_assoc] using quote
  rcases kinds with rfl | rfl | rfl <;> decide

end LineState

variable {w : WritingSystem} {issue : Issue} {n : Nat} {s : LineState} {ls ms : List (List Char)}

theorem line_of_mem_lineIssues {line : List Char} {classes : List CharClass}
    (member : issue ∈ lineIssues w n line classes) : issue.line = n := by
  obtain ⟨-, front, mid, back, -, -, rfl⟩ := mem_lineIssues_iff.mp member
  rfl

theorem line_of_mem_issuesFrom (member : issue ∈ issuesFrom w rules n s ls) :
    n ≤ issue.line ∧ issue.line < n + ls.length := by
  induction ls generalizing n s with
  | nil => cases member
  | cons line ls ih =>
    rw [List.length_cons]
    rcases List.mem_append.mp member with here | later
    · have same := line_of_mem_lineIssues here
      omega
    · have bounds := ih later
      omega

theorem issuesFrom_cons {line : List Char} : issuesFrom w rules n s (line :: ls) =
    lineIssues w n line (classify rules [] s line).1 ++
      issuesFrom w rules (n + 1) (classify rules [] s line).2.nextLine ls := rfl

theorem issuesFrom_append : issuesFrom w rules n s (ls ++ ms) =
    issuesFrom w rules n s ls ++ issuesFrom w rules (n + ls.length) (behind rules s ls) ms := by
  induction ls generalizing n s with
  | nil => rfl
  | cons line ls ih =>
    have count : n + 1 + ls.length = n + (line :: ls).length := by
      rw [List.length_cons]
      omega
    rw [List.cons_append, issuesFrom_cons, issuesFrom_cons, ih, count, List.append_assoc]
    rfl

/-- The issues of one line among those of all lines. -/
theorem exists_mem_issuesFrom_iff {line : List Char} {k : Nat} :
    (∃ issue ∈ issuesFrom w rules n s (ls ++ line :: ms), issue.line = n + ls.length ∧
      issue.column = k) ↔
    ∃ issue ∈ lineIssues w (n + ls.length) line (classify rules [] (behind rules s ls) line).1,
        issue.column = k := by
  rw [issuesFrom_append, issuesFrom_cons]
  constructor
  · rintro ⟨issue, member, here, column⟩
    rcases List.mem_append.mp member with earlier | member
    · have bounds := line_of_mem_issuesFrom earlier
      omega
    · rcases List.mem_append.mp member with member | later
      · exact ⟨issue, member, column⟩
      · have bounds := line_of_mem_issuesFrom later
        omega
  · rintro ⟨issue, member, column⟩
    exact ⟨issue, List.mem_append_right _ (List.mem_append_left _ member),
      line_of_mem_lineIssues member, column⟩

/-- A run of characters of the writing system begins at a place, on a line that is looked at. -/
structure BeginsRun (w : WritingSystem) (front : List Char) (c : Char)
    (back : List Char) : Prop where
  looked : isCommentLine (lineFront front ++ c :: lineRest back) = false
  inside : w.has c = true
  first : ∀ d ∈ (lineFront front).getLast?, w.has d = false

/-- An issue has the position of the place behind a part of a source. -/
structure StandsBehind (front : List Char) (issue : Issue) : Prop where
  line : issue.line = lineFeeds front + 1
  column : issue.column = (lineFront front).length + 1

/-- The scan of the line of a place gives the place its class. -/
theorem getElem?_classify (front : List Char) (visible : ¬ EndsLine c back) :
    (classify rules [] (behind rules {} (lines (wholeLines front)))
      (lineFront front ++ c :: lineRest back)).1[(lineFront front).length]? = some
    (classAt rules front c back) := by
  have line : lineRest (c :: back) = c :: lineRest back := if_neg visible
  have state : stateAt rules front (c :: back) =
    (passed rules [] (behind rules {} (lines (wholeLines front)))
      (lineFront front) (c :: lineRest back)).2 := by
    rw [stateAt, lineBefore_of_ne fun same => visible (.inl same), line]
  rw [classify_append, List.getElem?_append_right (Nat.le_of_eq length_passed),
    length_passed, Nat.sub_self, List.append_nil, ← state]
  rfl

/-- An issue stands at a place exactly if a run begins there and the scan gives the place a class
that counts. -/
theorem exists_issue_iff {config : Config} {content : String}
    (whole : content.toList = front ++ c :: back) (visible : ¬ EndsLine c back) :
    (∃ issue ∈ issues config content, StandsBehind front issue) ↔
      BeginsRun config.writingSystem front c back ∧
        (classAt (CallRules.ofConfig config) front c back).isReported = true := by
  obtain ⟨later, split⟩ := lines_at front visible
  have onLine : (∃ issue ∈ issues config content, StandsBehind front issue) ↔
      ∃ issue ∈ issues config content, issue.line = 1 + (lines (wholeLines front)).length ∧
        issue.column = (lineFront front).length + 1 := by
    rw [length_lines_wholeLines, Nat.add_comm]
    exact exists_congr fun issue => and_congr_right fun _ => ⟨fun ⟨line, column⟩ => ⟨line, column⟩,
      fun ⟨line, column⟩ => ⟨line, column⟩⟩
  rw [onLine, issues, whole, split, exists_mem_issuesFrom_iff, exists_mem_lineIssues_iff rfl,
    getElem?_classify front visible, Option.any_some]
  exact ⟨fun ⟨looked, inside, first, counts⟩ => ⟨⟨looked, inside, first⟩, counts⟩,
    fun ⟨⟨looked, inside, first⟩, counts⟩ => ⟨looked, inside, first, counts⟩⟩

variable {rules : CallRules} {front back cs rest : List Char} {c q : Char}
  {wrapped : Bool} {depth : Nat} {cls : CharClass}

/-- The scan takes a place for code. -/
def InCode (rules : CallRules) (front rest : List Char) : Prop :=
  ∃ b, AtCode b (stateAt rules front rest)

/-- The scan is in quotes that opened at a depth. What a backslash takes along matters only before
the end of the line. -/
structure Within (q : Char) (wrapped : Bool) (depth : Nat) (rules : CallRules)
    (front rest : List Char) : Prop where
  deep : (stateAt rules front rest).diagnosticDepth = depth
  comment : (stateAt rules front rest).comment = none
  quote : (stateAt rules front rest).quote = some (q, wrapped)
  settled : ∀ c cs, rest = c :: cs → ¬ EndsLine c cs → (stateAt rules front rest).settled = []

/-- All characters of a stretch have the same class, those of line endings apart. -/
def Uniform (rules : CallRules) (front cs rest : List Char) (cls : CharClass) : Prop :=
  ∀ l c m, cs = l ++ c :: m → ¬ EndsLine c (m ++ rest) →
    classAt rules (front ++ l) c (m ++ rest) = cls

theorem Uniform.nil : Uniform rules front [] rest cls := by
  intro l c m whole
  simp at whole

theorem Uniform.cons (here : ¬ EndsLine c (cs ++ rest) → classAt rules front c (cs ++ rest) = cls)
    (more : Uniform rules (front ++ [c]) cs rest cls) : Uniform rules front (c :: cs) rest cls := by
  intro l d m whole visible
  cases l with
  | nil =>
    obtain ⟨rfl, rfl⟩ := List.cons.inj whole
    rw [List.append_nil]
    exact here visible
  | cons e l =>
    obtain ⟨rfl, rfl⟩ := List.cons.inj whole
    rw [List.append_cons]
    exact more l d m rfl visible

theorem Uniform.append {ds : List Char} (first : Uniform rules front cs (ds ++ rest) cls)
    (second : Uniform rules (front ++ cs) ds rest cls) :
    Uniform rules front (cs ++ ds) rest cls := by
  induction cs generalizing front with
  | nil => simpa using second
  | cons c cs ih =>
    refine .cons (fun visible => ?_) (ih ?_ ?_)
    · have here := first [] c cs rfl
      rw [List.append_nil, ← List.append_assoc] at here
      exact here visible
    · intro l d m whole visible
      have later := first (c :: l) d m (by rw [whole]; rfl) visible
      rwa [List.append_cons] at later
    · rwa [← List.append_cons]

namespace Within

theorem classAt (within : Within q wrapped depth rules front (c :: cs))
    (visible : ¬ EndsLine c cs) : LineState.classAt rules front c cs = .quoted wrapped := by
  rw [LineState.classAt, step, within.settled c cs rfl visible, within.comment, within.quote]
  simp only [stepQuote]
  split_ifs <;> rfl

/-- Quotes stay open over a character that leaves the state as it is. -/
theorem of_eq (within : Within q wrapped depth rules front cs)
    (same : stateAt rules back rest = stateAt rules front cs)
    (settled : (stateAt rules front cs).settled = []) : Within q wrapped depth rules back rest :=
  ⟨same ▸ within.deep, same ▸ within.comment, same ▸ within.quote, fun _ _ _ _ => same ▸ settled⟩

/-- Only what stands in backticks goes on behind a line ending. -/
theorem ending (within : Within q wrapped depth rules front (c :: cs)) (ends : EndsLine c cs)
    (unbroken : q = '\x60' ∨ c ≠ '\n') : Within q wrapped depth rules (front ++ [c]) cs := by
  by_cases feed : c = '\n'
  · subst feed
    obtain rfl := unbroken.resolve_right fun other => other rfl
    have state := stateAt_line_feed rules front cs
    refine ⟨?_, ?_, ?_, fun _ _ _ _ => ?_⟩ <;> rw [state, nextLine]
    · exact within.deep
    · exact within.comment
    · rw [within.quote]
      rfl
  · obtain ⟨rfl, next⟩ := ends.resolve_left feed
    obtain ⟨rest, rfl⟩ := List.head?_eq_some_iff.mp next
    have state := stateAt_carriage_return rules front rest
    refine ⟨state ▸ within.deep, state ▸ within.comment, state ▸ within.quote,
      fun d ds same visible => ?_⟩
    obtain ⟨rfl, rfl⟩ := List.cons.inj same
    exact (visible (.inl rfl)).elim

/-- A character in quotes that is neither the closing quote nor a backslash changes nothing. -/
theorem plain (within : Within q wrapped depth rules front (c :: cs))
    (unescaped : c ≠ '\\') (open_ : c ≠ q) (unbroken : q = '\x60' ∨ c ≠ '\n') :
    Within q wrapped depth rules (front ++ [c]) cs := by
  by_cases ends : EndsLine c cs
  · exact within.ending ends unbroken
  · have settled := within.settled c cs rfl ends
    refine within.of_eq ?_ settled
    rw [stateAt_concat _ front ends, step, settled, within.comment, within.quote]
    simp [stepQuote, unescaped, open_]

/-- A backslash takes the next character along. -/
theorem escaped (within : Within q wrapped depth rules front ('\\' :: c :: cs))
    (unbroken : q = '\x60' ∨ c ≠ '\n') :
    Uniform rules front ['\\', c] cs (.quoted wrapped) ∧ Within q wrapped depth rules
      (front ++ ['\\', c]) cs := by
  have here : ¬ EndsLine '\\' (c :: cs) := not_endsLine_of_ne (by decide) _
  have settled := within.settled _ _ rfl here
  have state : stateAt rules (front ++ ['\\']) (c :: cs) =
      { stateAt rules front ('\\' :: c :: cs) with settled := [.quoted wrapped] } := by
    rw [stateAt_concat _ front here, step, settled, within.comment, within.quote]
    simp [stepQuote]
  have taken : Uniform rules (front ++ ['\\']) [c] cs (.quoted wrapped) := by
    refine .cons (fun visible => ?_) .nil
    rw [List.nil_append, LineState.classAt, state]
    rfl
  refine ⟨.cons (fun _ => within.classAt here) taken, ?_⟩
  rw [List.append_cons]
  by_cases ends : EndsLine c cs
  · have inside : Within q wrapped depth rules (front ++ ['\\']) (c :: cs) := by
      refine ⟨state ▸ within.deep, state ▸ within.comment, state ▸ within.quote,
        fun d ds same visible => ?_⟩
      obtain ⟨rfl, rfl⟩ := List.cons.inj same
      exact (visible ends).elim
    exact inside.ending ends unbroken
  · refine within.of_eq ?_ settled
    rw [stateAt_concat _ _ ends, state, step, ← settled]

/-- All that quotes hold has the class of the quotes. -/
theorem held (within : Within q wrapped depth rules front (cs ++ rest)) (inside : HeldIn q cs)
    (unbroken : q = '\x60' ∨ '\n' ∉ cs) :
    Uniform rules front cs rest (.quoted wrapped) ∧ Within q wrapped depth rules
      (front ++ cs) rest := by
  induction inside generalizing front with
  | nil => exact ⟨.nil, by rwa [List.append_nil]⟩
  | @plain c cs unescaped open_ _ ih =>
    have next := within.plain unescaped open_
        (unbroken.imp_right fun absent same => absent (same ▸ List.mem_cons_self))
    obtain ⟨uniform, behind⟩ :=
      ih next (unbroken.imp_right fun absent member => absent (List.mem_cons_of_mem _ member))
    rw [List.append_cons]
    exact ⟨.cons within.classAt uniform, behind⟩
  | @escaped c cs _ ih =>
    obtain ⟨pair, next⟩ :=
      within.escaped (unbroken.imp_right fun absent same => absent (by simp [same]))
    obtain ⟨uniform, behind⟩ :=
      ih next (unbroken.imp_right fun absent member => absent (by simp [member]))
    have whole : front ++ '\\' :: c :: cs = front ++ ['\\', c] ++ cs := by simp
    rw [whole]
    exact ⟨pair.append uniform, behind⟩

end Within

/-- Whether quotes that open at a place hold something wrapped. -/
def wrapsAt (rules : CallRules) (front rest : List Char) : Bool :=
  opensWrapped rules (lineFront front).reverse (stateAt rules front rest)

/-- Quotes that open in code. -/
theorem InCode.opening (code : InCode rules front (q :: cs)) (quote : isQuote q = true) :
    classAt rules front q cs = .quoted (wrapsAt rules front (q :: cs)) ∧
      Within q (wrapsAt rules front (q :: cs)) (depthAt rules front (q :: cs)) rules
        (front ++ [q]) cs := by
  obtain ⟨b, code⟩ := code
  obtain ⟨t, first, inside⟩ := code.step_quote quote rules (lineFront front).reverse (lineRest cs)
  have visible : ¬ EndsLine q cs := by
    rintro (rfl | ⟨rfl, -⟩) <;> cases quote
  have state := stateAt_concat rules front visible
  rw [first] at state
  refine ⟨by rw [classAt, first]; rfl, depthAt_concat front (not_paren_of_isQuote
    quote), ?_, ?_, fun _ _ _ _ => ?_⟩
  · rw [state]
    exact inside.comment
  · rw [state]
    exact inside.quote
  · rw [state]
    exact inside.settled

/-- Quotes that close. -/
theorem Within.closing (within : Within q wrapped depth rules front (q :: cs))
    (quote : isQuote q = true) :
    InCode rules (front ++ [q]) cs ∧ depthAt rules (front ++ [q]) cs = depth := by
  have visible : ¬ EndsLine q cs := by
    rintro (rfl | ⟨rfl, -⟩) <;> cases quote
  have proper : q ≠ '\\' := by
    rintro rfl
    cases quote
  have inside : InQuote q wrapped _ (stateAt rules front (q :: cs)) :=
    ⟨within.settled q cs rfl visible, within.comment, within.quote, rfl⟩
  obtain ⟨t, last, code⟩ := inside.step_close proper rules (lineFront front).reverse (lineRest cs)
  refine ⟨⟨_, by rw [stateAt_concat _ front visible, last]; exact code⟩, ?_⟩
  rw [depthAt_concat front (not_paren_of_isQuote quote)]
  exact within.deep

/-- What quotes hold that open in code goes with them. -/
theorem InCode.held (code : InCode rules front (q :: (cs ++ rest))) (quote : isQuote q = true)
    (held : HeldIn q cs) (unbroken : q = '\x60' ∨ '\n' ∉ cs) :
    Uniform rules front (q :: cs) rest (.quoted (wrapsAt rules front (q :: (cs ++ rest)))) ∧
      Within q (wrapsAt rules front (q :: (cs ++ rest)))
        (depthAt rules front (q :: (cs ++ rest))) rules (front ++ q :: cs) rest := by
  obtain ⟨first, within⟩ := code.opening quote
  obtain ⟨inside, behind⟩ := within.held held unbroken
  rw [← List.append_cons] at behind
  exact ⟨.cons (fun _ => first) inside, behind⟩

/-- One more character counts like what the quotes hold. -/
theorem InCode.held_concat (code : InCode rules front (q :: cs ++ [c] ++ rest))
    (quote : isQuote q = true) (held : HeldIn q cs) (unbroken : q = '\x60' ∨ '\n' ∉ cs) :
    Uniform rules front (q :: cs ++ [c]) rest
      (.quoted (wrapsAt rules front (q :: cs ++ [c] ++ rest))) := by
  rw [List.append_assoc] at code ⊢
  obtain ⟨inside, behind⟩ := InCode.held code quote held unbroken
  exact inside.append (.cons behind.classAt .nil)

/-- An issue stands at a character of a literal. -/
def StandsIn (front literal back : List Char) (issue : Issue) : Prop :=
  ∃ l c m, literal = l ++ c :: m ∧ ¬ EndsLine c (m ++ back) ∧ StandsBehind (front ++ l) issue

/-- A run of the writing system begins in a literal, on a line that is looked at. -/
def BeginsIn (w : WritingSystem) (front literal back : List Char) : Prop :=
  ∃ l c m, literal = l ++ c :: m ∧ ¬ EndsLine c (m ++ back) ∧ BeginsRun w (front ++ l) c (m ++ back)

theorem exists_issue_in_iff {config : Config} {content : String} {literal : List Char}
    (whole : content.toList = front ++ literal ++ back)
    (uniform : Uniform (CallRules.ofConfig config) front literal back cls) :
    (∃ issue ∈ issues config content, StandsIn front literal back issue) ↔
      cls.isReported = true ∧ BeginsIn config.writingSystem front literal back := by
  have there {l m : List Char} {c : Char} (parts : literal = l ++ c :: m) :
      content.toList = front ++ l ++ c :: (m ++ back) := by simp [whole, parts]
  constructor
  · rintro ⟨issue, member, l, c, m, parts, visible, stands⟩
    obtain ⟨begins, counts⟩ := (exists_issue_iff (there parts) visible).mp ⟨issue, member, stands⟩
    rw [uniform l c m parts visible] at counts
    exact ⟨counts, l, c, m, parts, visible, begins⟩
  · rintro ⟨counts, l, c, m, parts, visible, begins⟩
    rw [← uniform l c m parts visible] at counts
    obtain ⟨issue, member, stands⟩ := (exists_issue_iff (there parts) visible).mpr ⟨begins, counts⟩
    exact ⟨issue, member, l, c, m, parts, visible, stands⟩

end Phrasebook.Validation

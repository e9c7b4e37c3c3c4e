import Phrasebook.Proofs.Text.Slice
import Phrasebook.Proofs.Text.Match
import Phrasebook.Proofs.WritingSystem.Runs
import Phrasebook.Validation.CharClass
import Phrasebook.Validation.Issue
import Mathlib.Tactic.Common
import Mathlib.Data.Bool.AllAny

/-!
What introduces quotes on their line, which is the call of a translation or a word before the name
of a module; and the scan of a line, stretch by stretch: what it makes of code, of a quote that
opens and of what the quotes hold, and which issues the classes of the characters lead to.
-/

namespace Phrasebook.Validation

open Text

section Introductions

variable {rules : CallRules} {cs line : List Char}

def Blank (cs : List Char) : Prop := ∀ c ∈ cs, isSpace c = true

/-- A line up to quotes ends with a translation call, or with a word or a call that the name of a
module is to follow. -/
inductive Introduces (rules : CallRules) : List Char → Prop
  | call {spelling : String} {front inner last : List Char} :
      spelling ∈ rules.spellings → Blank inner → Blank last →
      Introduces rules (front ++ (spelling.toList ++ (inner ++ '(' :: last)))
  | word (word : String) {front last : List Char} :
      word ∈ ["from", "import"] → front.getLast?.any isWord = false →
      Blank last → Introduces rules (front ++ (word.toList ++ last))
  | load (word : String) {front inner last : List Char} : word ∈ ["import", "require"] →
      front.getLast?.any isWord = false → Blank inner → Blank last →
      Introduces rules (front ++ (word.toList ++ (inner ++ '(' :: last)))

/-- A parenthesis, up to the end, with blanks around it. -/
theorem spaces_opening_iff {before : Option Char} :
    Matcher.spaces (Matcher.literal ['('] (Matcher.spaces Matcher.atEnd)) before cs = true ↔
      ∃ inner last, cs = inner ++ '(' :: last ∧ Blank inner ∧ Blank last := by
  rw [Matcher.spaces, Matcher.many_iff]
  simp only [Matcher.literal_iff, Matcher.spaces_atEnd_iff]
  constructor
  · rintro ⟨inner, _, rfl, blank, last, rfl, ended⟩
    exact ⟨inner, last, rfl, blank, ended⟩
  · rintro ⟨inner, last, rfl, blank, ended⟩
    exact ⟨inner, _, rfl, blank, last, rfl, ended⟩

theorem lastOr_none (cs : List Char) : Matcher.lastOr none cs = cs.getLast? := by
  cases last : cs.getLast? <;> simp [Matcher.lastOr, last]

/-- Words begin at an edge unless a word character is in front of them. -/
theorem isWordEdge_iff {before : Option Char} (word : String)
    (known : word ∈ ["from", "import", "require"]) (rest : List Char) :
    isWordEdge before (word.toList ++ rest).head? = true ↔ before.any isWord = false := by
  simp only [List.mem_cons, List.not_mem_nil, or_false] at known
  rcases known with rfl | rfl | rfl <;> simp [isWordEdge, isWord]

theorem wraps_iff : rules.wraps line = true ↔ Introduces rules line := by
  have opens {word : List Char} {before : Option Char} {rest : List Char} :
      Matcher.literal word
      (Matcher.spaces (Matcher.literal ['('] (Matcher.spaces Matcher.atEnd))) before rest =
          true ↔ ∃ inner last, rest = word ++ (inner ++ '(' :: last) ∧
          Blank inner ∧ Blank last := by
    rw [Matcher.literal_iff]
    simp only [spaces_opening_iff]
    constructor
    · rintro ⟨_, rfl, inner, last, rfl, blanks⟩
      exact ⟨inner, last, rfl, blanks⟩
    · rintro ⟨inner, last, rfl, blanks⟩
      exact ⟨_, rfl, inner, last, rfl, blanks⟩
  rw [CallRules.wraps, Matcher.matchesAt, Matcher.anywhere_iff]
  simp only [lastOr_none, Matcher.either, Bool.or_eq_true, CallRules.translationCall,
    Matcher.anyOf_iff, CallRules.moduleLoad, Matcher.wordEdge, Bool.and_eq_true, opens,
      spaces_opening_iff, Matcher.spaces_atEnd_iff]
  constructor
  · rintro ⟨front, rest, rfl, ⟨spelling, known, _, rfl, inner, last, rfl, blanks⟩ | ⟨edge, load⟩⟩
    · exact .call known blanks.1 blanks.2
    · rcases load with ⟨word, known, last, rfl, blank⟩ | ⟨inner, last, rfl, blanks⟩ |
        ⟨inner, last, rfl, blanks⟩
      · have listed : word ∈ ["from", "import", "require"] := by
          rcases List.mem_pair.mp known with rfl | rfl <;> decide
        exact .word word known ((isWordEdge_iff word listed last).mp edge) blank
      · exact .load "import" (by decide)
          ((isWordEdge_iff "import" (by decide) _).mp edge) blanks.1 blanks.2
      · exact .load "require" (by decide)
          ((isWordEdge_iff "require" (by decide) _).mp edge) blanks.1 blanks.2
  · intro introduces
    cases introduces with
    | call known inner last => exact ⟨_, _, rfl, .inl ⟨_, known, _, rfl, _, _, rfl, inner, last⟩⟩
    | word word known edge blank =>
      have listed : word ∈ ["from", "import", "require"] := by
        rcases List.mem_pair.mp known with rfl | rfl <;> decide
      exact ⟨_, _, rfl,
        .inr ⟨(isWordEdge_iff word listed _).mpr edge, .inl ⟨word, known, _, rfl, blank⟩⟩⟩
    | load word known edge inner last =>
      rcases List.mem_pair.mp known with rfl | rfl
      · exact ⟨_, _, rfl, .inr ⟨(isWordEdge_iff "import" (by decide) _).mpr edge,
          .inr (.inl ⟨_, _, rfl, inner, last⟩)⟩⟩
      · exact ⟨_, _, rfl, .inr ⟨(isWordEdge_iff "require" (by decide) _).mpr edge,
          .inr (.inr ⟨_, _, rfl, inner, last⟩)⟩⟩

/-- Quotes are introduced only behind a parenthesis, a word that names a module or blanks. -/
theorem Introduces.getLast? (introduces : Introduces rules line) :
    ∃ c, line.getLast? = some c ∧ (isSpace c = true ∨ c ∈ ['(', 'm', 't']) := by
  have behind (front : List Char) {last : List Char} (d : Char) (blank : Blank last)
    (closing : d ∈ ['(', 'm', 't']) :
      ∃ c, (front ++ d :: last).getLast? = some c ∧ (isSpace c = true ∨ c ∈ ['(', 'm', 't']) := by
    rw [List.getLast?_append_cons]
    cases ended : last.getLast? with
    | none =>
      obtain rfl := List.getLast?_eq_none_iff.mp ended
      exact ⟨d, rfl, .inr closing⟩
    | some c =>
      exact ⟨c, by rw [List.getLast?_cons, ended]; rfl, .inl (blank c (List.mem_of_getLast? ended))⟩
  cases introduces with
  | @call spelling front inner last _ _ blank =>
    have closed := behind (front ++ spelling.toList ++ inner) '(' blank (by decide)
    simpa using closed
  | @load word front inner last _ _ _ blank =>
    have closed := behind (front ++ word.toList ++ inner) '(' blank (by decide)
    simpa using closed
  | @word word front last known _ blank =>
    rcases List.mem_pair.mp known with rfl | rfl
    · have closed := behind (front ++ ['f', 'r', 'o']) 'm' blank (by decide)
      simpa using closed
    · have closed := behind (front ++ ['i', 'm', 'p', 'o', 'r']) 't' blank (by decide)
      simpa using closed

end Introductions

section Lines

open Text LineState

namespace LineState

variable {rules : CallRules} {before cs ds rest : List Char} {s t u : LineState} {b wrapped : Bool}
  {q c : Char}

/-- The classes of the characters of a stretch that more of the line follows, and the state behind
it. -/
def passed (rules : CallRules) : List Char → LineState → List Char → List Char →
    List CharClass × LineState
  | _, s, [], _ => ([], s)
  | before, s, c :: cs, rest =>
    let (cls, s) := step rules before s c (cs ++ rest)
    let (classes, s) := passed rules (c :: before) s cs rest
    (cls :: classes, s)

theorem classify_append : classify rules before s (cs ++ rest) =
    ((passed rules before s cs rest).1 ++
      (classify rules (cs.reverse ++ before) (passed rules before s cs rest).2 rest).1,
      (classify rules (cs.reverse ++ before) (passed rules before s cs rest).2 rest).2) := by
  induction cs generalizing before s with
  | nil => rfl
  | cons c cs ih => simp [classify, passed, ih]

theorem passed_append : passed rules before s (cs ++ ds) rest =
    ((passed rules before s cs (ds ++ rest)).1 ++
      (passed rules (cs.reverse ++ before) (passed rules before s cs (ds ++ rest)).2 ds rest).1,
      (passed rules (cs.reverse ++ before) (passed rules before s cs (ds ++ rest)).2 ds rest).2) :=
    by
  induction cs generalizing before s with
  | nil => rfl
  | cons c cs ih => simp [passed, ih]

theorem passed_append_eq {as bs : List CharClass}
    (first : passed rules before s cs (ds ++ rest) = (as, t))
    (second : passed rules (cs.reverse ++ before) t ds rest = (bs, u)) :
    passed rules before s (cs ++ ds) rest = (as ++ bs, u) := by
  rw [passed_append, first, second]

theorem classify_eq_passed : classify rules before s cs = passed rules before s cs [] := by
  induction cs generalizing before s with
  | nil => rfl
  | cons c cs ih => simp [classify, passed, ih]

theorem length_passed : (passed rules before s cs rest).1.length = cs.length := by
  induction cs generalizing before s with
  | nil => rfl
  | cons c cs ih => simp [passed, ih]

/-- The stretch is passed with the same class for each of its characters. -/
def Passes (rules : CallRules) (before : List Char) (s : LineState) (cs rest : List Char)
    (cls : CharClass) (t : LineState) : Prop :=
  passed rules before s cs rest = (List.replicate cs.length cls, t)

namespace Passes

variable {cls : CharClass}

theorem nil : Passes rules before s [] rest cls s := rfl

theorem cons (first : step rules before s c (cs ++ rest) = (cls, t))
    (more : Passes rules (c :: before) t cs rest cls u) :
    Passes rules before s (c :: cs) rest cls u := by
  unfold Passes at more ⊢
  simp [passed, first, more, List.replicate_succ]

theorem append (first : Passes rules before s cs (ds ++ rest) cls t)
    (second : Passes rules (cs.reverse ++ before) t ds rest cls u) :
    Passes rules before s (cs ++ ds) rest cls u := by
  have both := passed_append_eq first second
  rwa [List.replicate_append_replicate, ← List.length_append] at both

theorem classify (stretch : Passes rules before s cs rest cls t) :
    classify rules before s (cs ++ rest) = (List.replicate cs.length cls ++
      (LineState.classify rules (cs.reverse ++ before) t rest).1,
      (LineState.classify rules (cs.reverse ++ before) t rest).2) := by
  rw [classify_append, stretch]

end Passes

/-- In code, inside or outside double braces. -/
structure AtCode (b : Bool) (s : LineState) : Prop where
  settled : s.settled = []
  comment : s.comment = none
  quote : s.quote = none
  interpolation : s.interpolation = b

/-- The class of code that does not turn into something else. -/
def codeClass (b : Bool) : CharClass := if b then .interpolation else .bare

/-- A character that begins nothing in code. -/
def IsCalm (c : Char) : Prop := c ∉ ['\'', '"', '\x60', '/', '<', '\x7b', '\x7d']

instance (c : Char) : Decidable (IsCalm c) := inferInstanceAs (Decidable (c ∉ _))

/-- The state once a character of code has been looked at for the parentheses of a diagnostic call.
-/
def noticed (rules : CallRules) (before : List Char) (s : LineState) (c : Char) (cs : List Char) :
    LineState :=
  let begins := s.diagnosticDepth == 0 && !s.diagnosticPending && startsWord before
    && rules.diagnosticCall.matchesAt (c :: cs)
  parens c (if begins then { s with diagnosticPending := true } else s)

theorem AtCode.parens (code : AtCode b s) : AtCode b (parens c s) := by
  obtain ⟨settled, comment, quote, interpolation⟩ := code
  unfold LineState.parens
  split_ifs <;> exact ⟨settled, comment, quote, interpolation⟩

theorem AtCode.unmoved (code : AtCode b s) (rules : CallRules) (before : List Char) (c : Char)
    (cs : List Char) : AtCode b (noticed rules before s c cs) := by
  refine AtCode.parens ?_
  split_ifs
  · exact ⟨code.settled, code.comment, code.quote, code.interpolation⟩
  · exact code

theorem parens_depth (other : c ≠ '(') (outside : s.diagnosticDepth = 0) :
    (parens c s).diagnosticDepth = 0 := by
  unfold parens
  split_ifs <;> simp_all

theorem noticed_depth (other : c ≠ '(') (outside : s.diagnosticDepth = 0) :
    (noticed rules before s c cs).diagnosticDepth = 0 := by
  refine parens_depth other ?_
  split_ifs <;> exact outside

/-- A character of code that begins no comment. -/
theorem stepCode_eq (slash : c ≠ '/') (less : c ≠ '<') : stepCode rules before s c cs =
    let s := noticed rules before s c cs
    if isQuote c then
      let wrapped := s.diagnosticDepth ≠ 0 || rules.wraps before.reverse
      (.quoted wrapped, { s with quote := some (c, wrapped) })
    else if ['\x7b', '\x7b'].isPrefixOf (c :: cs) then
      (.bare, { s with interpolation := true, settled := [.bare] })
    else if ['\x7d', '\x7d'].isPrefixOf (c :: cs) then
      (.bare, { s with interpolation := false, settled := [.bare] })
    else (if s.interpolation then .interpolation else .bare, s) := by
  simp only [stepCode, List.isPrefixOf, beq_false_of_ne (Ne.symm slash),
    beq_false_of_ne (Ne.symm less), Bool.false_and, Bool.false_eq_true, if_false]
  rfl

theorem AtCode.step_eq (code : AtCode b s) :
    step rules before s c cs = stepCode rules before s c cs := by
  rw [step, code.settled, code.comment, code.quote]

theorem AtCode.step_calm (code : AtCode b s) (calm : IsCalm c) :
    step rules before s c cs = (codeClass b, noticed rules before s c cs) := by
  have inside := (code.unmoved rules before c cs).interpolation
  simp only [IsCalm, List.mem_cons, List.not_mem_nil, or_false, not_or] at calm
  obtain ⟨single, double, back, slash, less, opening, closing⟩ := calm
  rw [code.step_eq, stepCode_eq slash less]
  simp [List.isPrefixOf, isQuote, codeClass, single, double, back, Ne.symm opening,
    Ne.symm closing, inside]

theorem AtCode.passes_calm (code : AtCode b s) (calm : ∀ c ∈ cs, IsCalm c) (rules : CallRules)
    (before rest : List Char) : ∃ t, Passes rules before s cs rest (codeClass b) t ∧ AtCode b t ∧
      ('(' ∉ cs → s.diagnosticDepth = 0 → t.diagnosticDepth = 0) := by
  induction cs generalizing before s with
  | nil => exact ⟨s, .nil, code, fun _ outside => outside⟩
  | cons c cs ih =>
    obtain ⟨here, calm⟩ := List.forall_mem_cons.mp calm
    obtain ⟨t, stretch, later, shallow⟩ :=
      ih (code.unmoved rules before c (cs ++ rest)) calm (c :: before)
    refine ⟨t, stretch.cons (code.step_calm here), later, fun unopened outside => ?_⟩
    rw [List.mem_cons, not_or] at unopened
    exact shallow unopened.2 (noticed_depth (Ne.symm unopened.1) outside)

/-- Whether quotes that open behind a text of a line hold something wrapped. -/
def opensWrapped (rules : CallRules) (before : List Char) (s : LineState) : Bool :=
  s.diagnosticDepth ≠ 0 || rules.wraps before.reverse

/-- In quotes that opened in code. -/
structure InQuote (q : Char) (wrapped : Bool) (b : Bool) (s : LineState) : Prop where
  settled : s.settled = []
  comment : s.comment = none
  quote : s.quote = some (q, wrapped)
  interpolation : s.interpolation = b

theorem parens_of_isQuote (quote : isQuote c = true) : parens c s = s := by
  have kinds : c = '\'' ∨ c = '"' ∨ c = '\x60' := by simpa [isQuote, or_assoc] using quote
  rcases kinds with rfl | rfl | rfl <;> rfl

theorem noticed_depth_of_isQuote (quote : isQuote c = true) (rules : CallRules) (before : List Char)
    (s : LineState) (cs : List Char) :
    (noticed rules before s c cs).diagnosticDepth = s.diagnosticDepth := by
  rw [noticed, parens_of_isQuote quote]
  split <;> rfl

/-- Quotes that open in code hold something wrapped or not, and all that is in them goes with that.
-/
theorem AtCode.step_quote (code : AtCode b s) (quote : isQuote c = true) (rules : CallRules)
    (before cs : List Char) : ∃ t, step rules before s c cs =
    (.quoted (opensWrapped rules before s), t) ∧
      InQuote c (opensWrapped rules before s) b t := by
  have depth := noticed_depth_of_isQuote quote rules before s cs
  have still := code.unmoved rules before c cs
  refine ⟨{ noticed rules before s c cs with
    quote := some (c, opensWrapped rules before s) }, ?_, still.settled, still.comment, rfl,
    still.interpolation⟩
  have kinds : c = '\'' ∨ c = '"' ∨ c = '\x60' := by simpa [isQuote, or_assoc] using quote
  have slash : c ≠ '/' := by rcases kinds with rfl | rfl | rfl <;> decide
  have less : c ≠ '<' := by rcases kinds with rfl | rfl | rfl <;> decide
  rw [code.step_eq, stepCode_eq slash less, opensWrapped, ← depth]
  simp only [quote, if_true]

theorem passes_held (held : HeldIn q cs) (quoted : InQuote q wrapped b s) :
    Passes rules before s cs rest (.quoted wrapped) s := by
  obtain ⟨settled, comment, quote, -⟩ := quoted
  induction held generalizing before with
  | nil => exact .nil
  | @plain c cs unescaped open_ _ ih =>
    have here : step rules before s c (cs ++ rest) = (.quoted wrapped, s) := by
      simp [step, settled, comment, quote, stepQuote, unescaped, open_]
    exact .cons here ih
  | @escaped c cs _ ih =>
    have here : step rules before s '\\' (c :: cs ++ rest) =
        (.quoted wrapped, { s with settled := [.quoted wrapped] }) := by
      simp [step, settled, comment, quote, stepQuote]
    have taken : step rules ('\\' :: before)
        { s with settled := [.quoted wrapped] } c (cs ++ rest) = (.quoted wrapped, s) := by
      rw [step, ← settled]
    exact .cons here (.cons taken ih)

theorem InQuote.step_close (quoted : InQuote q wrapped b s) (proper : q ≠ '\\') (rules : CallRules)
    (before cs : List Char) : ∃ t, step rules before s q cs =
    (.quoted wrapped, t) ∧ AtCode b t := by
  obtain ⟨settled, comment, quote, inside⟩ := quoted
  exact ⟨{ s with quote := none }, by
    simp [step, settled, comment, quote, stepQuote, proper], settled, comment, rfl, inside⟩

/-- A whole text in quotes that stands in code. -/
theorem AtCode.passes_quoted (code : AtCode b s) (quote : isQuote q = true) (held : HeldIn q cs)
    (rules : CallRules) (before rest : List Char) : ∃ t,
      Passes rules before s (q :: (cs ++ [q])) rest
        (.quoted (opensWrapped rules before s)) t ∧ AtCode b t := by
  have proper : q ≠ '\\' := by
    rintro rfl
    cases quote
  obtain ⟨t, opened, quoted⟩ := code.step_quote quote rules before (cs ++ [q] ++ rest)
  obtain ⟨u, closed, later⟩ := quoted.step_close proper rules (cs.reverse ++ q :: before) rest
  have last : Passes rules (cs.reverse ++ q :: before) t [q] rest
      (.quoted (opensWrapped rules before s)) u := .cons closed .nil
  refine ⟨u, .cons opened (.append ?_ last), later⟩
  exact passes_held held quoted

/-- Double braces do not count for what they enclose. -/
theorem AtCode.passes_opening (code : AtCode b s) (rules : CallRules) (before rest : List Char) :
    ∃ t, Passes rules before s ['\x7b', '\x7b'] rest .bare t ∧ AtCode true t := by
  have still := code.unmoved rules before '\x7b' ('\x7b' :: rest)
  refine ⟨{ noticed rules before s '\x7b' ('\x7b' :: rest) with interpolation := true }, ?_,
    still.settled, still.comment, still.quote, rfl⟩
  have first : step rules before s '\x7b' ('\x7b' :: rest) = (.bare,
      { noticed rules before s '\x7b' ('\x7b' :: rest) with
        interpolation := true, settled := [.bare] }) := by
    rw [code.step_eq]
    rfl
  refine .cons first (.cons ?_ .nil)
  rw [step, ← still.settled]

theorem AtCode.passes_closing (code : AtCode b s) (rules : CallRules) (before rest : List Char) :
    ∃ t, Passes rules before s ['\x7d', '\x7d'] rest .bare t ∧ AtCode false t := by
  have still := code.unmoved rules before '\x7d' ('\x7d' :: rest)
  refine ⟨{ noticed rules before s '\x7d' ('\x7d' :: rest) with interpolation := false }, ?_,
    still.settled, still.comment, still.quote, rfl⟩
  have first : step rules before s '\x7d' ('\x7d' :: rest) = (.bare,
      { noticed rules before s '\x7d' ('\x7d' :: rest) with
        interpolation := false, settled := [.bare] }) := by
    rw [code.step_eq]
    rfl
  refine .cons first (.cons ?_ .nil)
  rw [step, ← still.settled]

end LineState

variable {w : WritingSystem} {line : List Char} {classes : List CharClass}
  {number : Nat} {issue : Issue}

theorem mem_runsOf_iff {run : LineRun} : run ∈ runsOf w line ↔
    ∃ front mid back, w.IsRun line front mid back ∧ run = ⟨front.length, mid⟩ := by
  have made {front mid back : List Char} (found : w.IsRun line front mid back) :
      (do
        let before ← slice? line ⟨0, byteLength front⟩
        let text ← slice? line ⟨byteLength front, byteLength front + byteLength mid⟩
        return (⟨before.length, text⟩ : LineRun)) = some ⟨front.length, mid⟩ := by
    have before : slice? line ⟨0, byteLength front⟩ = some front :=
      slice?_eq_some_iff.mpr ⟨[], mid ++ back, by simp [found.whole], rfl, (Nat.zero_add _).symm⟩
    have text : slice? line ⟨byteLength front, byteLength front + byteLength mid⟩ = some mid := by
      rw [found.whole]
      exact slice?_append front mid back
    rw [before, text]
    rfl
  simp only [runsOf, List.mem_filterMap, WritingSystem.mem_runs_iff]
  constructor
  · rintro ⟨span, ⟨front, mid, back, found, rfl⟩, listed⟩
    rw [made found] at listed
    exact ⟨front, mid, back, found, (Option.some.inj listed).symm⟩
  · rintro ⟨front, mid, back, found, rfl⟩
    exact ⟨_, ⟨front, mid, back, found, rfl⟩, made found⟩

/-- The issues of a line are its runs that begin with a character of a class that counts. -/
theorem mem_lineIssues_iff : issue ∈ lineIssues w number line classes ↔ isCommentLine line = false ∧
    ∃ front mid back, w.IsRun line front mid back ∧
      classes[front.length]?.any (·.isReported) = true ∧
      issue = issueOf number line ⟨front.length, mid⟩ := by
  unfold lineIssues
  split
  · rename_i looked
    simp [looked]
  · rename_i looked
    simp only [List.mem_map, List.mem_filter, mem_runsOf_iff]
    constructor
    · rintro ⟨run, ⟨⟨front, mid, back, found, rfl⟩, counts⟩, rfl⟩
      exact ⟨eq_false_of_ne_true looked, front, mid, back, found, counts, rfl⟩
    · rintro ⟨-, front, mid, back, found, counts, rfl⟩
      exact ⟨_, ⟨⟨front, mid, back, found, rfl⟩, counts⟩, rfl⟩

theorem isCommentLine_cons {c : Char} {cs : List Char} (visible : isSpace c = false)
    (other : c ∉ ['/', '<', '*']) : isCommentLine (c :: cs) = false := by
  have start : trimStart (c :: cs) = c :: cs := List.dropWhile_cons_of_neg (by simp [visible])
  simp only [List.mem_cons, List.not_mem_nil, or_false, not_or] at other
  obtain ⟨slash, less, star⟩ := other
  simp [isCommentLine, start, List.isPrefixOf, Ne.symm slash, Ne.symm less, Ne.symm star]

/-- No character of the writing system has a class that counts. -/
def Quiet (w : WritingSystem) (cs : List Char) (classes : List CharClass) : Prop :=
  ∀ p ∈ cs.zip classes, p.2.isReported = true → w.has p.1 = false

theorem Quiet.append {cs ds : List Char} {as bs : List CharClass} (first : Quiet w cs as)
    (second : Quiet w ds bs) (fits : cs.length = as.length) : Quiet w (cs ++ ds) (as ++ bs) := by
  intro p member
  rw [List.zip_append fits, List.mem_append] at member
  exact member.elim (first p) (second p)

theorem Quiet.of_not_isReported {cs : List Char}
    (silent : ∀ cls ∈ classes, cls.isReported = false) : Quiet w cs classes := by
  intro p member reported
  rw [silent p.2 (List.of_mem_zip member).2] at reported
  cases reported

theorem Quiet.of_forall {cs : List Char} (outside : ∀ c ∈ cs, w.has c = false) :
    Quiet w cs classes :=
  fun p member _ => outside p.1 (List.of_mem_zip member).1

theorem lineIssues_eq_nil (quiet : Quiet w line classes) :
    lineIssues w number line classes = [] := by
  refine List.eq_nil_iff_forall_not_mem.mpr fun issue member => ?_
  obtain ⟨-, front, mid, back, run, counts, -⟩ := mem_lineIssues_iff.mp member
  obtain ⟨cls, here, reported⟩ := (Option.any_eq_true _ _).mp counts
  cases mid with
  | nil => exact run.filled rfl
  | cons c mid =>
    have paired : (line.zip classes)[front.length]? = some (c, cls) :=
      List.getElem?_zip_eq_some.mpr ⟨by simp [run.whole], here⟩
    have outside := quiet (c, cls) (List.mem_of_getElem? paired) reported
    rw [run.inside c List.mem_cons_self] at outside
    cases outside

/-- An issue of a line is told by where its run begins. -/
theorem exists_mem_lineIssues_iff {before back : List Char} {c : Char}
    (whole : line = before ++ c :: back) :
    (∃ issue ∈ lineIssues w number line classes, issue.column = before.length + 1) ↔
    isCommentLine line = false ∧
      w.has c = true ∧ (∀ d ∈ before.getLast?, w.has d = false) ∧
        classes[before.length]?.any (·.isReported) = true := by
  constructor
  · rintro ⟨issue, member, column⟩
    obtain ⟨looked, front, mid, tail, run, counts, rfl⟩ := mem_lineIssues_iff.mp member
    have long : front.length = before.length := Nat.add_right_cancel column
    have parts : front ++ (mid ++ tail) = before ++ c :: back :=
      by rw [← List.append_assoc, ← run.whole, whole]
    obtain ⟨rfl, rest⟩ := List.append_inj parts long
    cases mid with
    | nil => exact (run.filled rfl).elim
    | cons d mid =>
      obtain ⟨rfl, -⟩ := List.cons.inj rest
      exact ⟨looked, run.inside d List.mem_cons_self, run.starts, counts⟩
  · rintro ⟨looked, inside, first, counts⟩
    have run : w.IsRun line before ((c :: back).takeWhile w.has) ((c :: back).dropWhile w.has) := by
      refine ⟨?_, ?_, fun d => List.mem_takeWhile_imp, first, fun d =>
        WritingSystem.has_head?_dropWhile⟩
      · rw [List.append_assoc, List.takeWhile_append_dropWhile, whole]
      · rw [List.takeWhile_cons_of_pos inside]
        exact List.cons_ne_nil _ _
    exact ⟨_, mem_lineIssues_iff.mpr ⟨looked, _, _, _, run, counts, rfl⟩, rfl⟩

/-- The first character of the writing system behind others begins an issue where text counts. -/
theorem lineIssues_ne_nil {front back : List Char} {c : Char} (looked : isCommentLine line = false)
    (whole : line = front ++ c :: back) (here : w.has c = true)
    (starts : ∀ d, front.getLast? = some d → w.has d = false)
    (counts : classes[front.length]?.any (·.isReported) = true) :
    lineIssues w number line classes ≠ [] := by
  obtain ⟨issue, member, -⟩ := (exists_mem_lineIssues_iff whole).mpr ⟨looked, here, starts, counts⟩
  exact List.ne_nil_of_mem member

end Lines

end Phrasebook.Validation

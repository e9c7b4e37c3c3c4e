import Phrasebook.Text.Lines
import Phrasebook.Text.Space
import Mathlib.Data.List.Basic
import Mathlib.Data.List.TakeWhile
import Mathlib.Data.List.Induction

/-!
Trimming, lines and places. Trimming takes off all blanks around a text and no more, and a text that
is made of whole lines is taken apart into these. What is in front of a place falls into whole lines
and the beginning of one more; the lines of the text are those of the whole lines, the line of the
place, and more.
-/

namespace Phrasebook.Text

theorem isSpace_head?_dropWhile {cs : List Char} {c : Char}
    (head : (cs.dropWhile isSpace).head? = some c) : isSpace c = false := by
  have visible := List.head?_dropWhile_not isSpace cs
  rw [head] at visible
  exact visible

theorem trimEnd_append (cs : List Char) :
    trimEnd cs ++ (cs.reverse.takeWhile isSpace).reverse = cs := by
  have turned := congrArg List.reverse (cs.reverse.takeWhile_append_dropWhile (p := isSpace))
  rwa [List.reverse_append, List.reverse_reverse] at turned

theorem isSpace_getLast?_trimEnd {cs : List Char} {c : Char}
    (last : (trimEnd cs).getLast? = some c) : isSpace c = false := by
  rw [trimEnd, List.getLast?_reverse] at last
  exact isSpace_head?_dropWhile last

/-- A text without a blank at either end. -/
structure Tight (cs : List Char) : Prop where
  head : ∀ c, cs.head? = some c → isSpace c = false
  last : ∀ c, cs.getLast? = some c → isSpace c = false

theorem Tight.nil : Tight [] := ⟨by simp, by simp⟩

theorem Tight.singleton {c : Char} (visible : isSpace c = false) : Tight [c] :=
  ⟨fun _ head => Option.some.inj head ▸ visible, fun _ last => Option.some.inj last ▸ visible⟩

theorem tight_trim (cs : List Char) : Tight (trim cs) := by
  refine ⟨fun c head => ?_, fun c last => isSpace_getLast?_trimEnd last⟩
  have whole : trim cs ++ _ = cs.dropWhile isSpace := trimEnd_append _
  have first : (cs.dropWhile isSpace).head? = some c := by
    rw [← whole, List.head?_append, head]
    rfl
  exact isSpace_head?_dropWhile first

/-- Behind the blanks in front stands what trimming leaves, and blanks behind it if anything is
left. -/
theorem dropWhile_parts (cs : List Char) : ∃ back, cs.dropWhile isSpace = trim cs ++ back ∧
    (∀ c ∈ back, isSpace c = true) ∧ (trim cs = [] → back = []) := by
  have whole := trimEnd_append (cs.dropWhile isSpace)
  have blank : ∀ c ∈ ((cs.dropWhile isSpace).reverse.takeWhile isSpace).reverse, isSpace c = true :=
    fun c member => List.mem_takeWhile_imp (List.mem_reverse.mp member)
  generalize ((cs.dropWhile isSpace).reverse.takeWhile isSpace).reverse = back at whole blank
  refine ⟨back, whole.symm, blank, fun empty => ?_⟩
  cases back with
  | nil => rfl
  | cons c back =>
    have head : (cs.dropWhile isSpace).head? = some c := by
      rw [← whole, show trimEnd (cs.dropWhile isSpace) = [] from empty]
      rfl
    have visible := isSpace_head?_dropWhile head
    rw [blank c List.mem_cons_self] at visible
    cases visible

/-- What trimming leaves stands between two runs of blanks. -/
theorem trim_parts (cs : List Char) : ∃ front back, cs = front ++ trim cs ++ back ∧
    (∀ c ∈ front, isSpace c = true) ∧ ∀ c ∈ back, isSpace c = true := by
  obtain ⟨back, kept, blank, -⟩ := dropWhile_parts cs
  refine ⟨cs.takeWhile isSpace, back, ?_, fun c member => List.mem_takeWhile_imp member, blank⟩
  rw [List.append_assoc, ← kept, List.takeWhile_append_dropWhile]

/-- A text without blanks at its ends is what trimming leaves of it between blanks. -/
theorem trim_eq {front mid back : List Char} (before : ∀ c ∈ front, isSpace c = true)
    (behind : ∀ c ∈ back, isSpace c = true) (tight : Tight mid) :
    trim (front ++ mid ++ back) = mid := by
  have behind' : ∀ c ∈ back.reverse, isSpace c = true := fun c member =>
    behind c (List.mem_reverse.mp member)
  rw [trim, trimStart, List.append_assoc, List.dropWhile_append_of_pos before]
  cases mid with
  | nil =>
    rw [List.nil_append, List.dropWhile_eq_nil_iff.mpr behind]
    rfl
  | cons c mid =>
    have first := tight.head c rfl
    rw [List.cons_append, List.dropWhile_cons_of_neg (by simp [first]), trimEnd, ← List.cons_append,
      List.reverse_append, List.dropWhile_append_of_pos behind']
    obtain ⟨initial, d, concat⟩ := (List.eq_nil_or_concat (c :: mid)).resolve_left (by simp)
    have last := tight.last d (by rw [concat]; simp)
    rw [concat, List.concat_eq_append, List.reverse_append, List.reverse_singleton,
      List.singleton_append, List.dropWhile_cons_of_neg (by simp [last])]
    simp

theorem Tight.trim_append {cs back : List Char} (tight : Tight cs)
    (behind : ∀ c ∈ back, isSpace c = true) : Text.trim (cs ++ back) = cs := by
  have before : ∀ c ∈ ([] : List Char), isSpace c = true := by simp
  exact trim_eq before behind tight

theorem Tight.trim {cs : List Char} (tight : Tight cs) : Text.trim cs = cs := by
  have behind : ∀ c ∈ ([] : List Char), isSpace c = true := by simp
  simpa using tight.trim_append behind

theorem Tight.append {front back : List Char} (first : Tight front) (second : Tight back)
    (opened : front ≠ []) (closed : back ≠ []) (mid : List Char) :
    Tight (front ++ mid ++ back) := by
  constructor
  · intro c head
    rw [List.append_assoc, List.head?_append_of_ne_nil _ opened] at head
    exact first.head c head
  · intro c last
    rw [List.getLast?_append_of_ne_nil _ closed] at last
    exact second.last c last

/-- A line that is ended by a line feed alone. -/
theorem lines_append {line : List Char} (rest : List Char) (unbroken : '\n' ∉ line)
    (last : line.getLast? ≠ some '\r') : lines (line ++ '\n' :: rest) = line :: lines rest := by
  have scan : ∀ past, (past.reverse ++ line).getLast? ≠ some '\r' →
      lines.go past (line ++ '\n' :: rest) = (past.reverse ++ line) :: lines rest := by
    clear last
    induction line with
    | nil =>
      intro past last
      rw [List.nil_append, lines.go.eq_3 _ _ fun other ending => last (by simp [ending])]
      simp [lines]
    | cons c line ih =>
      intro past last
      have other : c ≠ '\n' := fun same => unbroken (by simp [same])
      rw [List.cons_append, lines.go.eq_4 _ _ _ other,
        ih (fun member => unbroken (by simp [member])) (c :: past) (by simpa using last)]
      simp
  exact scan [] (by simpa using last)

/-- A text without a line feed is one line. -/
theorem lines_eq_singleton {cs : List Char} (unbroken : '\n' ∉ cs) (filled : cs ≠ []) :
    lines cs = [cs] := by
  have scan : ∀ past, past.reverse ++ cs ≠ [] → lines.go past cs = [past.reverse ++ cs] := by
    clear filled
    induction cs with
    | nil =>
      intro past filled
      simpa [lines.go] using filled
    | cons c cs ih =>
      intro past _
      have other : c ≠ '\n' := fun same => unbroken (by simp [same])
      rw [lines.go.eq_4 _ _ _ other, ih (fun member => unbroken (by simp [member]))
        (c :: past) (by simp)]
      simp
  exact scan [] filled

/-- A text that is made of lines without any ending inside is taken apart into these. -/
theorem lines_flatMap {ls : List (List Char)}
    (plain : ∀ line ∈ ls, '\n' ∉ line ∧ '\r' ∉ line) :
    lines (ls.flatMap (· ++ ['\n'])) = ls := by
  induction ls with
  | nil => rfl
  | cons line ls ih =>
    obtain ⟨unbroken, unreturned⟩ := plain line List.mem_cons_self
    have last : line.getLast? ≠ some '\r' := fun same => unreturned (List.mem_of_getLast? same)
    have rest := ih fun other member => plain other (List.mem_cons_of_mem _ member)
    rw [List.flatMap_cons, List.append_assoc, List.singleton_append,
      lines_append _ unbroken last, rest]

variable {front back cs line : List Char} {c : Char}

/-- A line feed, or the carriage return that belongs to one. -/
def EndsLine (c : Char) (cs : List Char) : Prop := c = '\n' ∨ c = '\r' ∧ cs.head? = some '\n'

instance (c : Char) (cs : List Char) : Decidable (EndsLine c cs) :=
  inferInstanceAs (Decidable (_ ∨ _))

theorem not_endsLine_of_ne (other : c ∉ ['\n', '\r']) (cs : List Char) : ¬ EndsLine c cs := by
  rintro (same | ⟨same, -⟩) <;> simp [same] at other

/-- What is left of the line at a place. -/
def lineRest : List Char → List Char
  | [] => []
  | c :: cs => if EndsLine c cs then [] else c :: lineRest cs

/-- The lines that have ended before a place, with their endings. -/
def wholeLines (front : List Char) : List Char := (front.reverse.dropWhile (· != '\n')).reverse

/-- What is in front of a place on its line. -/
def lineFront (front : List Char) : List Char := (front.reverse.takeWhile (· != '\n')).reverse

theorem wholeLines_append_lineFront (front : List Char) :
    wholeLines front ++ lineFront front = front := by
  rw [wholeLines, lineFront, ← List.reverse_append, List.takeWhile_append_dropWhile,
    List.reverse_reverse]

theorem line_feed_not_mem_lineFront (front : List Char) : '\n' ∉ lineFront front := by
  intro member
  simpa using List.mem_takeWhile_imp (List.mem_reverse.mp member)

@[simp] theorem wholeLines_line_feed (front : List Char) :
    wholeLines (front ++ ['\n']) = front ++ ['\n'] := by
  simp [wholeLines]

@[simp] theorem lineFront_line_feed (front : List Char) : lineFront (front ++ ['\n']) = [] := by
  simp [lineFront]

theorem wholeLines_concat (other : c ≠ '\n') (front : List Char) :
    wholeLines (front ++ [c]) = wholeLines front := by
  simp [wholeLines, other]

theorem lineFront_concat (other : c ≠ '\n') (front : List Char) :
    lineFront (front ++ [c]) = lineFront front ++ [c] := by
  simp [lineFront, other]

/-- Nothing is in front of the whole lines, or a line feed ends them. -/
theorem wholeLines_eq (front : List Char) :
    wholeLines front = [] ∨ ∃ lines, wholeLines front = lines ++ ['\n'] := by
  induction front using List.reverseRecOn with
  | nil => exact .inl rfl
  | append_singleton front c ih =>
    by_cases ended : c = '\n'
    · subst ended
      exact .inr ⟨front, wholeLines_line_feed front⟩
    · rwa [wholeLines_concat ended]

/-- A line feed ends the line that is being read, whatever follows. -/
theorem go_line_feed (past : List Char) :
    ∃ line, ∀ cs, lines.go past ('\n' :: cs) = line :: lines cs := by
  by_cases ending : ∃ line, past = '\r' :: line
  · obtain ⟨line, rfl⟩ := ending
    exact ⟨line.reverse, fun cs => lines.go.eq_2 cs line⟩
  · exact ⟨past.reverse, fun cs => lines.go.eq_3 past cs fun line same => ending ⟨line, same⟩⟩

/-- A line feed parts the lines before it from those behind it. -/
theorem lines_append_line_feed (front cs : List Char) :
    lines (front ++ '\n' :: cs) = lines (front ++ ['\n']) ++ lines cs := by
  have scan : ∀ past, lines.go past (front ++ '\n' :: cs) =
      lines.go past (front ++ ['\n']) ++ lines cs := by
    induction front with
    | nil =>
      intro past
      obtain ⟨line, ended⟩ := go_line_feed past
      rw [List.nil_append, List.nil_append, ended, ended]
      rfl
    | cons c front ih =>
      intro past
      rw [List.cons_append, List.cons_append]
      by_cases feed : c = '\n'
      · obtain ⟨line, ended⟩ := go_line_feed past
        rw [feed, ended, ended, lines, lines, ih, List.cons_append]
      · rw [lines.go.eq_4 _ _ _ feed, lines.go.eq_4 _ _ _ feed, ih]
  exact scan []

theorem lines_wholeLines_append (front cs : List Char) :
    lines (wholeLines front ++ cs) = lines (wholeLines front) ++ lines cs := by
  rcases wholeLines_eq front with whole | ⟨ended, whole⟩
  · rw [whole]
    rfl
  · rw [whole, List.append_assoc, List.singleton_append, lines_append_line_feed]

theorem length_lines_line_feed (front : List Char) :
    (lines (front ++ ['\n'])).length = lineFeeds front + 1 := by
  have scan : ∀ past, (lines.go past (front ++ ['\n'])).length = lineFeeds front + 1 := by
    induction front with
    | nil =>
      intro past
      obtain ⟨line, ended⟩ := go_line_feed past
      rw [List.nil_append, ended]
      rfl
    | cons c front ih =>
      intro past
      rw [List.cons_append]
      by_cases feed : c = '\n'
      · obtain ⟨line, ended⟩ := go_line_feed past
        rw [feed, ended, List.length_cons, lines, ih, lineFeeds, lineFeeds, List.count_cons_self]
      · rw [lines.go.eq_4 _ _ _ feed, ih, lineFeeds, lineFeeds, List.count_cons_of_ne feed]
  exact scan []

theorem lineFeeds_append (front cs : List Char) :
    lineFeeds (front ++ cs) = lineFeeds front + lineFeeds cs :=
  List.count_append

/-- A line has ended for each line feed. -/
theorem length_lines_wholeLines (front : List Char) :
    (lines (wholeLines front)).length = lineFeeds front := by
  have none : lineFeeds (lineFront front) = 0 :=
    List.count_eq_zero.mpr (line_feed_not_mem_lineFront front)
  conv_rhs => rw [← wholeLines_append_lineFront front, lineFeeds_append, none, Nat.add_zero]
  rcases wholeLines_eq front with whole | ⟨ended, whole⟩
  · rw [whole]
    rfl
  · rw [whole, length_lines_line_feed, lineFeeds_append]
    rfl

/-- The line that is being read goes on to its ending. -/
theorem go_eq_lineRest (line : List Char) (filled : line ≠ [] ∨ cs ≠ [])
    (plain : line.head? = some '\r' → cs.head? ≠ some '\n') :
    ∃ later, lines.go line cs = (line.reverse ++ lineRest cs) :: later := by
  induction cs generalizing line with
  | nil =>
    have filled := filled.resolve_right fun filled => filled rfl
    exact ⟨[], by simp [lines.go, lineRest, filled]⟩
  | cons c cs ih =>
    by_cases ended : c = '\n'
    · subst ended
      refine ⟨lines cs, ?_⟩
      rw [lines.go.eq_3 _ _ fun other same => plain (by rw [same]; rfl) rfl]
      simp [lineRest, EndsLine, lines]
    · rw [lines.go.eq_4 _ _ _ ended]
      by_cases ending : EndsLine c cs
      · obtain ⟨rfl, next⟩ := ending.resolve_left ended
        obtain ⟨rest, rfl⟩ := List.head?_eq_some_iff.mp next
        exact ⟨lines rest, by simp [lineRest, EndsLine, lines.go, lines]⟩
      · have open_ : (c :: line).head? = some '\r' → cs.head? ≠ some '\n' := fun first next =>
          ending (.inr ⟨Option.some.inj first, next⟩)
        obtain ⟨later, whole⟩ := ih (c :: line) (.inl (List.cons_ne_nil _ _)) open_
        exact ⟨later, by rw [whole, lineRest, if_neg ending]; simp⟩

theorem lineRest_append_of_not_mem (inside : '\n' ∉ line) (visible : ¬ EndsLine c back) :
    lineRest (line ++ c :: back) = line ++ c :: lineRest back := by
  induction line with
  | nil => rw [List.nil_append, lineRest, if_neg visible, List.nil_append]
  | cons d line ih =>
    rw [List.mem_cons, not_or] at inside
    obtain ⟨here, inside⟩ := inside
    have open_ : ¬ EndsLine d (line ++ c :: back) := by
      rintro (rfl | ⟨-, next⟩)
      · exact here rfl
      · cases line with
        | nil => exact visible (.inl (Option.some.inj next))
        | cons e line => exact inside (Option.some.inj next ▸ List.mem_cons_self)
    rw [List.cons_append, lineRest, if_neg open_, ih inside, List.cons_append]

/-- The lines of a text, as a place sees them that is not in a line ending. -/
theorem lines_at (front : List Char) (visible : ¬ EndsLine c back) : ∃ later,
    lines (front ++ c :: back) =
      lines (wholeLines front) ++ (lineFront front ++ c :: lineRest back) :: later := by
  have line : lineRest (lineFront front ++ c :: back) = lineFront front ++ c :: lineRest back :=
    lineRest_append_of_not_mem (line_feed_not_mem_lineFront front) visible
  have open_ : [].head? = some '\r' → (lineFront front ++ c :: back).head? ≠ some '\n' :=
    fun first => by cases first
  obtain ⟨later, whole⟩ := go_eq_lineRest [] (.inr (by simp)) open_
  rw [line, List.reverse_nil, List.nil_append] at whole
  refine ⟨later, ?_⟩
  conv_lhs => rw [← wholeLines_append_lineFront front, List.append_assoc, lines_wholeLines_append]
  exact congrArg _ whole

/-- What is in front of a place on its line. The carriage return of a line ending is not on the
line. -/
def lineBefore (front rest : List Char) : List Char :=
  if rest.head? = some '\n' ∧ (lineFront front).getLast? = some '\r' then (lineFront front).dropLast
  else lineFront front

theorem lineBefore_of_ne (other : c ≠ '\n') : lineBefore front (c :: cs) = lineFront front :=
  if_neg fun ⟨next, _⟩ => other (Option.some.inj next)

theorem lineRest_line_feed (inside : '\n' ∉ line) : lineRest (line ++ '\n' :: cs) =
    if line.getLast? = some '\r' then line.dropLast else line := by
  induction line with
  | nil => rfl
  | cons d line ih =>
    rw [List.mem_cons, not_or] at inside
    obtain ⟨here, inside⟩ := inside
    rw [List.cons_append, lineRest]
    cases line with
    | nil => by_cases ending : d = '\r' <;> simp [EndsLine, lineRest, ending, Ne.symm here]
    | cons e line =>
      have open_ : ¬ EndsLine d (e :: line ++ '\n' :: cs) := by
        rintro (rfl | ⟨-, next⟩)
        · exact here rfl
        · exact inside (Option.some.inj next ▸ List.mem_cons_self)
      rw [if_neg open_, ih inside, List.getLast?_cons_cons, List.dropLast_cons_cons]
      split <;> rfl

/-- Behind a line feed one more line has ended. -/
theorem lines_line_feed (front cs : List Char) :
    lines (front ++ ['\n']) = lines (wholeLines front) ++ [lineBefore front ('\n' :: cs)] := by
  have inside := line_feed_not_mem_lineFront front
  have rest : lineRest (lineFront front ++ ['\n']) = lineBefore front ('\n' :: cs) := by
    rw [lineRest_line_feed inside, lineBefore]
    simp
  have open_ : [].head? = some '\r' → (lineFront front ++ ['\n']).head? ≠ some '\n' :=
    fun first => by cases first
  obtain ⟨later, whole⟩ := go_eq_lineRest [] (.inr (by simp)) open_
  have single := length_lines_line_feed (lineFront front)
  rw [lines, whole, lineFeeds, List.count_eq_zero.mpr inside, List.length_cons,
    Nat.add_right_cancel_iff, List.length_eq_zero_iff] at single
  rw [single, rest, List.reverse_nil, List.nil_append] at whole
  conv_lhs => rw [← wholeLines_append_lineFront front, List.append_assoc, lines_wholeLines_append]
  exact congrArg _ whole

end Phrasebook.Text

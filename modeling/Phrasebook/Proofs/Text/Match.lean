import Phrasebook.Text.Match
import Mathlib.Data.List.Basic

/-!
What matchers accept, said about the text: a pattern takes a part of it off its front and leaves the
rest to the pattern behind it, which sees the last character that was taken.
-/

namespace Phrasebook.Text.Matcher

/-- The character before a place behind a text. -/
def lastOr (before : Option Char) (taken : List Char) : Option Char :=
  taken.getLast?.orElse fun _ => before

theorem lastOr_cons (before : Option Char) (c : Char) (taken : List Char) :
    lastOr before (c :: taken) = lastOr (some c) taken := by
  cases taken with
  | nil => rfl
  | cons d taken => rw [lastOr, lastOr, List.getLast?_cons_cons, List.getLast?_cons]; rfl

variable {before : Option Char} {cs : List Char} {kind : Char → Bool} {next : Matcher}

theorem literal_iff {pattern : List Char} : literal pattern next before cs = true ↔
    ∃ rest, cs = pattern ++ rest ∧ next (lastOr before pattern) rest = true := by
  rw [literal, Bool.and_eq_true, List.isPrefixOf_iff_prefix]
  constructor
  · rintro ⟨⟨rest, rfl⟩, more⟩
    rw [List.drop_left] at more
    exact ⟨rest, rfl, more⟩
  · rintro ⟨rest, rfl, more⟩
    rw [List.drop_left]
    exact ⟨List.prefix_append _ _, more⟩

theorem anyOf_iff {patterns : List String} : anyOf patterns next before cs = true ↔
    ∃ pattern ∈ patterns, ∃ rest, cs = pattern.toList ++ rest ∧
      next (lastOr before pattern.toList) rest = true := by
  rw [anyOf, List.any_eq_true]
  simp only [literal_iff]

theorem many_iff : many kind next before cs = true ↔
    ∃ taken rest, cs = taken ++ rest ∧ (∀ c ∈ taken, kind c = true) ∧
      next (lastOr before taken) rest = true := by
  induction cs generalizing before with
  | nil =>
    rw [many]
    constructor
    · intro more
      exact ⟨[], [], rfl, by simp, more⟩
    · rintro ⟨taken, rest, whole, -, more⟩
      obtain ⟨rfl, rfl⟩ := List.append_eq_nil_iff.mp whole.symm
      exact more
  | cons c cs ih =>
    rw [many, Bool.or_eq_true, Bool.and_eq_true, ih]
    constructor
    · rintro (more | ⟨here, taken, rest, rfl, inside, more⟩)
      · exact ⟨[], c :: cs, rfl, by simp, more⟩
      · refine ⟨c :: taken, rest, rfl, List.forall_mem_cons.mpr ⟨here, inside⟩, ?_⟩
        rwa [lastOr_cons]
    · rintro ⟨taken, rest, whole, inside, more⟩
      cases taken with
      | nil =>
        rw [List.nil_append] at whole
        subst whole
        exact .inl more
      | cons d taken =>
        obtain ⟨rfl, rfl⟩ := List.cons.inj whole
        obtain ⟨here, inside⟩ := List.forall_mem_cons.mp inside
        rw [lastOr_cons] at more
        exact .inr ⟨here, taken, rest, rfl, inside, more⟩

theorem anywhere_iff {pattern : Matcher} : anywhere pattern before cs = true ↔
    ∃ front rest, cs = front ++ rest ∧ pattern (lastOr before front) rest = true := by
  induction cs generalizing before with
  | nil =>
    rw [anywhere]
    constructor
    · intro here
      exact ⟨[], [], rfl, here⟩
    · rintro ⟨front, rest, whole, here⟩
      obtain ⟨rfl, rfl⟩ := List.append_eq_nil_iff.mp whole.symm
      exact here
  | cons c cs ih =>
    rw [anywhere, Bool.or_eq_true, ih]
    constructor
    · rintro (here | ⟨front, rest, rfl, later⟩)
      · exact ⟨[], c :: cs, rfl, here⟩
      · refine ⟨c :: front, rest, rfl, ?_⟩
        rwa [lastOr_cons]
    · rintro ⟨front, rest, whole, here⟩
      cases front with
      | nil =>
        rw [List.nil_append] at whole
        subst whole
        exact .inl here
      | cons d front =>
        obtain ⟨rfl, rfl⟩ := List.cons.inj whole
        rw [lastOr_cons] at here
        exact .inr ⟨front, rest, rfl, here⟩

theorem spaces_atEnd_iff : spaces atEnd before cs = true ↔ ∀ c ∈ cs, isSpace c = true := by
  rw [spaces, many_iff]
  constructor
  · rintro ⟨taken, rest, rfl, inside, ended⟩
    obtain rfl := List.isEmpty_iff.mp ended
    rwa [List.append_nil]
  · intro inside
    exact ⟨cs, [], (List.append_nil cs).symm, inside, rfl⟩

theorem someSpaces_iff : someSpaces next before cs = true ↔
    ∃ gap rest, cs = gap ++ rest ∧ gap ≠ [] ∧ (∀ c ∈ gap, isSpace c = true) ∧
      next (lastOr before gap) rest = true := by
  cases cs with
  | nil =>
    refine ⟨fun none => (by cases none), ?_⟩
    rintro ⟨gap, rest, whole, filled, -⟩
    exact absurd (List.append_eq_nil_iff.mp whole.symm).1 filled
  | cons c cs =>
    rw [someSpaces, char, Bool.and_eq_true, spaces, many_iff]
    constructor
    · rintro ⟨here, taken, rest, rfl, inside, more⟩
      refine ⟨c :: taken, rest, rfl, List.cons_ne_nil _ _,
        List.forall_mem_cons.mpr ⟨here, inside⟩, ?_⟩
      rwa [lastOr_cons]
    · rintro ⟨gap, rest, whole, filled, inside, more⟩
      cases gap with
      | nil => exact absurd rfl filled
      | cons d gap =>
        obtain ⟨rfl, rfl⟩ := List.cons.inj whole
        obtain ⟨here, inside⟩ := List.forall_mem_cons.mp inside
        rw [lastOr_cons] at more
        exact ⟨here, gap, rest, rfl, inside, more⟩

/-- A matcher for which a text ends at this character. -/
def StopsAt (stop : Char) (m : Matcher) : Prop :=
  ∀ before front back, m before (front ++ stop :: back) = m before front

variable {stop : Char} {m : Matcher}

theorem stopsAt_done : StopsAt stop done := fun _ _ _ => rfl

theorem StopsAt.literal {pattern : List Char} (apart : stop ∉ pattern) (stops : StopsAt stop next) :
    StopsAt stop (literal pattern next) := by
  intro before front back
  rw [Bool.eq_iff_iff, literal_iff, literal_iff]
  constructor
  · rintro ⟨rest, whole, more⟩
    rcases List.append_eq_append_iff.mp whole with ⟨beyond, rfl, behind⟩ | ⟨rest', rfl, rfl⟩
    · cases beyond with
      | nil =>
        rw [List.nil_append] at behind
        rw [← behind] at more
        exact ⟨[], (by simp), (by rw [← stops _ [] back]; simpa using more)⟩
      | cons c beyond =>
        obtain ⟨rfl, -⟩ := List.cons.inj behind
        exact absurd (List.mem_append_right front List.mem_cons_self) apart
    · exact ⟨rest', rfl, by rwa [stops] at more⟩
  · rintro ⟨rest, rfl, more⟩
    exact ⟨rest ++ stop :: back, List.append_assoc .., by rwa [stops]⟩

theorem StopsAt.char (apart : kind stop = false) (stops : StopsAt stop next) :
    StopsAt stop (char kind next) := by
  intro before front back
  cases front with
  | nil => simp [Matcher.char, apart]
  | cons c front => rw [List.cons_append, Matcher.char, Matcher.char, stops]

theorem StopsAt.many (apart : kind stop = false) (stops : StopsAt stop next) :
    StopsAt stop (many kind next) := by
  intro before front back
  induction front generalizing before with
  | nil =>
    have here := stops before [] back
    rw [List.nil_append] at here ⊢
    rw [Matcher.many, Matcher.many, here, apart, Bool.false_and, Bool.or_false]
  | cons c front ih =>
    have here := stops before (c :: front) back
    rw [List.cons_append] at here ⊢
    rw [Matcher.many, Matcher.many, here, ih]

theorem StopsAt.someSpaces (apart : isSpace stop = false) (stops : StopsAt stop next) :
    StopsAt stop (someSpaces next) := .char apart (.many apart stops)

theorem StopsAt.wordEdge (apart : isWord stop = false) (stops : StopsAt stop next) :
    StopsAt stop (wordEdge next) := by
  intro before front back
  have edge : isWordEdge before (front ++ stop :: back).head? = isWordEdge before front.head? := by
    cases front with
    | nil => simp [isWordEdge, apart]
    | cons c front => rfl
  rw [Matcher.wordEdge, Matcher.wordEdge, edge, stops]

theorem StopsAt.either {a b : Matcher} (first : StopsAt stop a) (second : StopsAt stop b) :
    StopsAt stop (either a b) := by
  intro before front back
  rw [Matcher.either, Matcher.either, first, second]

theorem StopsAt.anyOf {patterns : List String} (apart : ∀ pattern ∈ patterns, stop ∉ pattern.toList)
    (stops : StopsAt stop next) : StopsAt stop (anyOf patterns next) := by
  intro before front back
  unfold Matcher.anyOf
  induction patterns with
  | nil => rfl
  | cons pattern patterns ih =>
    obtain ⟨here, apart⟩ := List.forall_mem_cons.mp apart
    rw [List.any_cons, List.any_cons, ih apart, StopsAt.literal here stops before front back]

/-- Where every match stops at a character, it lies before the character or behind it. -/
theorem StopsAt.anywhere (stops : StopsAt stop m) (before : Option Char) (front back : List Char) :
    anywhere m before (front ++ stop :: back) =
      (anywhere m before front || anywhere m (some stop) back) := by
  induction front generalizing before with
  | nil =>
    have here := stops before [] back
    rw [List.nil_append] at here ⊢
    rw [Matcher.anywhere, Matcher.anywhere, here]
  | cons c front ih =>
    have here := stops before (c :: front) back
    rw [List.cons_append] at here ⊢
    rw [Matcher.anywhere, Matcher.anywhere, here, ih, Bool.or_assoc]

/-- Only at the first place does it count what stands before the text. -/
theorem anywhere_of_alike {a b : Option Char} (alike : m a cs = m b cs) :
    anywhere m a cs = anywhere m b cs := by
  cases cs with
  | nil => rw [anywhere, anywhere, alike]
  | cons c cs => rw [anywhere, anywhere, alike]

end Phrasebook.Text.Matcher

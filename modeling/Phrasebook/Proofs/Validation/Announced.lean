import Phrasebook.Proofs.Validation.Line
import Phrasebook.Proofs.Validation.Passage

/-!
What announces quotes whose text is left alone: a passage of code that ends with what introduces
them, or a diagnostic call that is still open.
-/

namespace Phrasebook.Validation

open Text LineState

variable {rules : CallRules} {front back cs rest line : List Char} {c : Char} {s : LineState}

/-- A member of a diagnostic object, written on one line up to the parenthesis of its call. -/
inductive Callee (rules : CallRules) : List Char → Prop
  | member (object : String) {first second third name : List Char} {c : Char} :
      object ∈ rules.diagnosticObjects → (∀ d ∈ object.toList, IsCalm d ∧ d ∉ ['(', ')']) →
      Blank first → Blank second → Blank third →
      (c.isAlpha || c == '_' || c == '$') = true → (∀ d ∈ name, (isWord d || d == '$') = true) →
      '\n' ∉ object.toList ++ (first ++ '.' :: (second ++ c :: (name ++ third))) →
      Callee rules (object.toList ++ (first ++ '.' :: (second ++ c :: (name ++ third))))

/-- A member of this object, written on one line up to the parenthesis of its call. -/
inductive IsMember (object : String) : List Char → Prop
  | intro {first second third name : List Char} {c : Char} :
      (∀ d ∈ object.toList, IsCalm d ∧ d ∉ ['(', ')']) →
      Blank first → Blank second → Blank third →
      (c.isAlpha || c == '_' || c == '$') = true → (∀ d ∈ name, (isWord d || d == '$') = true) →
      '\n' ∉ object.toList ++ (first ++ '.' :: (second ++ c :: (name ++ third))) →
      IsMember object (object.toList ++ (first ++ '.' :: (second ++ c :: (name ++ third))))

theorem IsMember.callee {object : String} {callee : List Char} (member : IsMember object callee)
    (known : object ∈ rules.diagnosticObjects) : Callee rules callee := by
  cases member with
  | intro plain first second third start name line =>
    exact .member object known plain first second third start name line

theorem Callee.matchesAt {callee : List Char} (known : Callee rules callee) (rest : List Char) :
    rules.diagnosticCall.matchesAt (callee ++ '(' :: rest) = true := by
  cases known with
  | @member object first second third name c known _ blank inner last start more _ =>
    have whole : object.toList ++
      (first ++ '.' :: (second ++ c :: (name ++ third))) ++ '(' :: rest =
        object.toList ++
        (first ++ (['.'] ++ (second ++ c :: (name ++ (third ++ (['('] ++ rest)))))) := by simp
    rw [whole]
    refine Matcher.anyOf_iff.mpr ⟨object, known, _, rfl, ?_⟩
    refine Matcher.many_iff.mpr ⟨first, _, rfl, blank, Matcher.literal_iff.mpr ⟨_, rfl, ?_⟩⟩
    refine Matcher.many_iff.mpr ⟨second, _, rfl, inner, ?_⟩
    rw [Matcher.char, start, Bool.true_and]
    refine Matcher.many_iff.mpr ⟨name, _, rfl, more, ?_⟩
    exact Matcher.many_iff.mpr ⟨third, _, rfl, last, Matcher.literal_iff.mpr ⟨rest, rfl, rfl⟩⟩

theorem Callee.ne_nil {callee : List Char} (known : Callee rules callee) : callee ≠ [] := by
  cases known
  simp

theorem Callee.line_feed_not_mem {callee : List Char} (known : Callee rules callee) :
    '\n' ∉ callee := by
  cases known
  assumption

theorem Callee.calm {callee : List Char} (known : Callee rules callee) :
    ∀ d ∈ callee, IsCalm d ∧ d ∉ ['(', ')'] := by
  -- No sign of the code is a blank or a part of a name.
  have signs : ∀ d ∈ ['\'', '"', '\x60', '/', '<', '\x7b', '\x7d', '(', ')'],
      isSpace d = false ∧ isWord d = false ∧ d.isAlpha = false ∧ d ≠ '_' ∧ d ≠ '$' :=
    List.forall_iff_forall_mem.mp (by decide)
  have calm {d : Char} (other : d ∉ ['\'', '"', '\x60', '/', '<', '\x7b', '\x7d', '(', ')']) :
      IsCalm d ∧ d ∉ ['(', ')'] :=
    not_or.mp fun sign : d ∈ ['\'', '"', '\x60', '/', '<', '\x7b', '\x7d'] ∨ d ∈ ['(', ')'] =>
      other (List.mem_append.mpr sign)
  have ofBlank {cs : List Char} (blank : Blank cs) :
      ∀ d ∈ cs, IsCalm d ∧ d ∉ ['(', ')'] := fun d member =>
    calm fun sign => by
      have visible := (signs d sign).1
      rw [blank d member] at visible
      cases visible
  cases known with
  | @member object first second third name c known plain before inner last start more _ =>
    have letter : IsCalm c ∧ c ∉ ['(', ')'] := calm fun sign => by
      obtain ⟨-, -, letter, low, dollar⟩ := signs c sign
      simp [letter, low, dollar] at start
    have others : ∀ d ∈ name, IsCalm d ∧ d ∉ ['(', ')'] := fun d member => calm fun sign => by
      obtain ⟨-, word, -, -, dollar⟩ := signs d sign
      simpa [word, dollar] using more d member
    have dot : IsCalm '.' ∧ '.' ∉ ['(', ')'] := by decide
    simp only [List.forall_mem_append, List.forall_mem_cons]
    exact ⟨plain, ofBlank before, dot, ofBlank inner, letter, others, ofBlank last⟩

/-- A diagnostic call has begun, or is open. -/
def Ready (s : LineState) : Prop := s.diagnosticPending = true ∨ s.diagnosticDepth ≠ 0

theorem Ready.noticed {before : List Char} (ready : Ready s) (other : c ∉ ['(', ')']) :
    Ready (noticed rules before s c cs) := by
  rw [LineState.noticed, depth_parens other]
  split_ifs
  · exact .inl rfl
  · exact ready

theorem Ready.opening {before : List Char} (ready : Ready s) :
    (LineState.noticed rules before s '(' cs).diagnosticDepth ≠ 0 := by
  have begun {t : LineState} (ready : Ready t) : (parens '(' t).diagnosticDepth ≠ 0 := by
    rcases ready with pending | deep
    · simp [parens, pending]
    · unfold parens
      split_ifs <;> simp_all
  rw [LineState.noticed]
  split_ifs
  · exact begun (.inl rfl)
  · exact begun ready

/-- Where a diagnostic call is spelled at the beginning of a word, it begins. -/
theorem ready_of_matchesAt {before : List Char} (word : startsWord before = true)
    (other : c ∉ ['(', ')']) (spelled : rules.diagnosticCall.matchesAt (c :: cs) = true) :
    Ready (noticed rules before s c cs) := by
  rw [noticed, depth_parens other, word, spelled]
  split_ifs with begins
  · exact .inl rfl
  · simp only [Bool.and_true, Bool.and_eq_true, beq_iff_eq, Bool.not_eq_true', not_and] at begins
    by_cases deep : s.diagnosticDepth = 0
    · exact .inl (eq_true_of_ne_false (begins deep))
    · exact .inr deep

theorem unmarked_of_isCalm (calm : IsCalm c) (cs : List Char) :
    isQuote c = false ∧ Unmarked (c :: cs) := by
  simp only [IsCalm, List.mem_cons, List.not_mem_nil, or_false, not_or] at calm
  obtain ⟨single, double, back, slash, less, opening, closing⟩ := calm
  exact ⟨by simp [isQuote, single, double, back], unmarked_of_not_mem (by simp [*]) cs⟩

/-- No line ends in front of a parenthesis on the same line. -/
theorem not_endsLine (inside : '\n' ∉ c :: cs) : ¬ EndsLine c (cs ++ '(' :: rest) := by
  rintro (rfl | ⟨-, next⟩)
  · exact inside List.mem_cons_self
  · cases cs with
    | nil => exact absurd (Option.some.inj next) (by decide)
    | cons d cs => exact inside (List.mem_cons_of_mem _ (Option.some.inj next ▸ List.mem_cons_self))

/-- A call that has begun waits for its parenthesis. -/
theorem ready_append (inside : '\n' ∉ cs) (calm : ∀ d ∈ cs, IsCalm d ∧ d ∉ ['(', ')'])
    (code : InCode rules front (cs ++ '(' :: rest))
    (ready : Ready (stateAt rules front (cs ++ '(' :: rest))) :
    InCode rules (front ++ cs) ('(' :: rest) ∧
    Ready (stateAt rules (front ++ cs) ('(' :: rest)) := by
  induction cs generalizing front with
  | nil => simpa using ⟨code, ready⟩
  | cons c cs ih =>
    obtain ⟨⟨plain, other⟩, calm⟩ := List.forall_mem_cons.mp calm
    obtain ⟨quote, unmarked⟩ := unmarked_of_isCalm plain (cs ++ '(' :: rest)
    rw [List.cons_append] at code
    obtain ⟨later, state⟩ := code.next quote unmarked
    have ready : Ready (stateAt rules (front ++ [c]) (cs ++ '(' :: rest)) := by
      rw [state (not_endsLine inside)]
      exact ready.noticed other
    rw [List.append_cons]
    exact ih (fun member => inside (List.mem_cons_of_mem _ member)) calm later ready

/-- Behind the parenthesis of a diagnostic call the scan is in the call. -/
theorem Callee.opens {callee : List Char} (known : Callee rules callee)
    (word : startsWord (lineFront front).reverse = true)
    (code : InCode rules front (callee ++ '(' :: rest)) :
    InCode rules (front ++ callee ++ ['(']) rest ∧
    depthAt rules (front ++ callee ++ ['(']) rest ≠ 0 := by
  have inside := known.line_feed_not_mem
  have calm := known.calm
  have spelled := known.matchesAt (lineRest rest)
  cases callee with
  | nil => exact (known.ne_nil rfl).elim
  | cons c cs =>
    obtain ⟨⟨plain, other⟩, calm⟩ := List.forall_mem_cons.mp calm
    obtain ⟨quote, unmarked⟩ := unmarked_of_isCalm plain (cs ++ '(' :: rest)
    rw [List.cons_append] at code
    obtain ⟨later, state⟩ := code.next quote unmarked
    have tail : '\n' ∉ cs := fun member => inside (List.mem_cons_of_mem _ member)
    have line : lineRest (cs ++ '(' :: rest) = cs ++ '(' :: lineRest rest :=
      lineRest_append_of_not_mem tail (not_endsLine_of_ne (by decide) rest)
    have ready : Ready (stateAt rules (front ++ [c]) (cs ++ '(' :: rest)) := by
      rw [state (not_endsLine inside), line]
      exact ready_of_matchesAt word other spelled
    obtain ⟨code, ready⟩ := ready_append tail calm later ready
    rw [← List.append_cons] at code ready
    obtain ⟨later, state⟩ := code.next rfl (unmarked_of_not_mem (by decide) rest)
    refine ⟨later, ?_⟩
    rw [depthAt, state (not_endsLine_of_ne (by decide) rest)]
    exact ready.opening

/-- Quotes behind a part of a source and in front of a rest are announced as text that is left
alone: what is before them is a passage that ends with what introduces them, or a diagnostic call
has opened and not closed. -/
inductive Announced (rules : CallRules) (rest : List Char) : List Char → Prop
  | introduced {front : List Char} {n : Nat} :
      Passage rest 0 front n → Introduces rules (lineFront front) → Announced rules rest front
  | call {front callee inside : List Char} {n m : Nat} :
      Passage (callee ++ '(' :: (inside ++ rest)) 0 front n →
      startsWord (lineFront front).reverse = true → Callee rules callee → Passage rest 0 inside m →
      Announced rules rest (front ++ callee ++ ['('] ++ inside)

theorem inCode_start (rest : List Char) : InCode rules [] rest := by
  refine ⟨false, ?_⟩
  rw [stateAt_start]
  exact ⟨rfl, rfl, rfl, rfl⟩

theorem Announced.wrapsAt (announced : Announced rules rest front) :
    InCode rules front rest ∧ wrapsAt rules front rest = true := by
  cases announced with
  | introduced passage introduces =>
    refine ⟨by simpa using passage.carries.code (inCode_start _), ?_⟩
    rw [Validation.wrapsAt, opensWrapped, List.reverse_reverse,
      wraps_iff.mpr introduces, Bool.or_true]
  | @call before callee inside _ _ outer word known inner =>
    have code : InCode rules before (callee ++ '(' :: (inside ++ rest)) := by
      simpa using outer.carries.code (inCode_start _)
    obtain ⟨code, deep⟩ := known.opens word code
    obtain ⟨k, depth⟩ := Nat.exists_eq_succ_of_ne_zero deep
    refine ⟨inner.carries.code code, ?_⟩
    have open_ := inner.carries.depth code (k := k) depth
    rw [Validation.wrapsAt, opensWrapped, show (stateAt rules _ _).diagnosticDepth = _ from open_]
    rfl

end Phrasebook.Validation

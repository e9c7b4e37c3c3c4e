import Phrasebook.Proofs.Validation.Place

/-!
Passages of code. The scan stays in code over a passage whose quotes and comments are closed, and it
counts the parentheses of the passage if it has come to it in a diagnostic call.
-/

namespace Phrasebook.Validation

open Text LineState

variable {rules : CallRules} {front back cs rest : List Char} {c q : Char} {n m k : Nat}
  {s : LineState} {b : Bool}

theorem lineRest_isPrefix (cs : List Char) : lineRest cs <+: cs := by
  induction cs with
  | nil => exact List.prefix_refl _
  | cons c cs ih =>
    rw [lineRest]
    split
    · exact List.nil_prefix
    · exact (List.prefix_cons_inj c).mpr ih

namespace LineState

/-- What begins in code with more than one sign: a comment, or double braces. -/
def marks : List (List Char) :=
  [['/', '/'], ['/', '*'], ['<', '!', '-', '-'], ['\x7b', '\x7b'], ['\x7d', '\x7d']]

def Unmarked (cs : List Char) : Prop := ∀ mark ∈ marks, ¬ mark <+: cs

theorem AtCode.step_unmarked {before : List Char} (code : AtCode b s) (plain : isQuote c = false)
    (unmarked : Unmarked (c :: cs)) : step rules before s c cs =
    (codeClass b, noticed rules before s c cs) := by
  have inside := (code.unmoved rules before c cs).interpolation
  have none (mark : List Char) (member : mark ∈ marks) : mark.isPrefixOf (c :: cs) = false :=
    eq_false_of_ne_true fun found => unmarked mark member (List.isPrefixOf_iff_prefix.mp found)
  have line := none ['/', '/'] (by decide)
  have block := none ['/', '*'] (by decide)
  have markup := none ['<', '!', '-', '-'] (by decide)
  have opening := none ['\x7b', '\x7b'] (by decide)
  have closing := none ['\x7d', '\x7d'] (by decide)
  rw [code.step_eq, stepCode_noticed]
  simp only [line, block, markup, opening, closing, plain, Bool.false_eq_true, if_false,
    codeClass, ← inside]

/-- A diagnostic call that has begun is in no other one. -/
def Waits (s : LineState) : Prop := s.diagnosticPending = true → s.diagnosticDepth = 0

theorem Waits.parens (waits : Waits s) : Waits (parens c s) := by
  unfold LineState.parens
  split_ifs with first second third
  · intro pending
    cases pending
  · intro pending
    have none := waits pending
    simp [none] at second
  · intro pending
    have none : s.diagnosticDepth = 0 := waits pending
    simp [none]
  · exact waits

theorem Waits.noticed {before : List Char} (waits : Waits s) :
    Waits (noticed rules before s c cs) := by
  refine Waits.parens ?_
  split_ifs with begins
  · intro _
    simp only [Bool.and_eq_true, beq_iff_eq] at begins
    exact begins.1.1.1
  · exact waits

theorem Waits.step {before : List Char} (waits : Waits s) : Waits (step rules before s c cs).2 := by
  rcases step_counts with ⟨pending, depth⟩ | ⟨pending, depth⟩
  · rwa [Waits, pending, depth]
  · rw [Waits, pending, depth]
    exact waits.noticed

theorem Waits.passed {before : List Char} (waits : Waits s) :
    Waits (passed rules before s cs rest).2 := by
  induction cs generalizing before s with
  | nil => exact waits
  | cons c cs ih => exact ih waits.step

theorem Waits.behind {lines : List (List Char)} (waits : Waits s) :
    Waits (behind rules s lines) := by
  induction lines generalizing s with
  | nil => exact waits
  | cons line lines ih => exact ih fun pending => by cases pending

theorem waits_stateAt (front rest : List Char) : Waits (stateAt rules front rest) :=
  Waits.passed (Waits.behind fun pending => by cases pending)

/-- In a diagnostic call parentheses are counted. -/
theorem noticed_opening {before : List Char} (waits : Waits s) (deep : s.diagnosticDepth = k + 1) :
    (noticed rules before s '(' cs).diagnosticDepth = k + 2 := by
  have settled : s.diagnosticPending = false := by
    by_contra pending
    have none := waits (eq_true_of_ne_false pending)
    rw [deep] at none
    cases none
  simp [noticed, parens, deep, settled]

theorem noticed_closing {before : List Char} (deep : s.diagnosticDepth = k + 1) :
    (noticed rules before s ')' cs).diagnosticDepth = k := by
  simp [noticed, parens, deep]

theorem unmarked_of_not_mem (other : c ∉ ['/', '<', '\x7b', '\x7d']) (cs : List Char) :
    Unmarked (c :: cs) := by
  intro mark member begins
  simp only [List.mem_cons, List.not_mem_nil, or_false, not_or] at other
  simp only [marks, List.mem_cons, List.not_mem_nil, or_false] at member
  rcases member with rfl | rfl | rfl | rfl | rfl <;> simp_all [List.cons_prefix_cons, eq_comm]

theorem Unmarked.line (unmarked : Unmarked (c :: cs)) : Unmarked (c :: lineRest cs) :=
  fun mark member begins => unmarked mark member
    (begins.trans ((List.prefix_cons_inj c).mpr (lineRest_isPrefix cs)))

end LineState

/-- Code goes on behind a character that begins nothing else. -/
theorem InCode.next (code : InCode rules front (c :: cs)) (plain : isQuote c = false)
    (unmarked : Unmarked (c :: cs)) : InCode rules (front ++ [c]) cs ∧ (¬ EndsLine c cs →
      stateAt rules (front ++ [c]) cs =
        noticed rules (lineFront front).reverse (stateAt rules front (c :: cs)) c (lineRest cs)) :=
    by
  obtain ⟨b, code⟩ := code
  by_cases feed : c = '\n'
  · subst feed
    refine ⟨⟨false, ?_⟩, fun visible => (visible (.inl rfl)).elim⟩
    rw [stateAt_line_feed, nextLine]
    exact ⟨rfl, code.comment, by rw [code.quote]; rfl, rfl⟩
  · by_cases ends : EndsLine c cs
    · obtain ⟨rfl, next⟩ := ends.resolve_left feed
      obtain ⟨rest, rfl⟩ := List.head?_eq_some_iff.mp next
      refine ⟨⟨b, ?_⟩, fun visible => (visible ends).elim⟩
      rwa [stateAt_carriage_return]
    · have state := stateAt_concat rules front ends
      rw [code.step_unmarked plain unmarked.line] at state
      exact ⟨⟨b, by rw [state]; exact code.unmoved _ _ _ _⟩, fun _ => state⟩

/-- A passage that the scan reads from code to code, in a diagnostic call with this change of its
depth. -/
structure Carries (rules : CallRules) (front cs rest : List Char) (n m : Nat) : Prop where
  code : InCode rules front (cs ++ rest) → InCode rules (front ++ cs) rest
  depth {k : Nat} : InCode rules front (cs ++ rest) → depthAt rules front (cs ++ rest) = k + n + 1 →
    depthAt rules (front ++ cs) rest = k + m + 1

namespace Carries

variable {ds : List Char} {l : Nat}

theorem append (first : Carries rules front cs (ds ++ rest) n m)
    (second : Carries rules (front ++ cs) ds rest m l) :
    Carries rules front (cs ++ ds) rest n l := by
  constructor
  · intro code
    rw [List.append_assoc] at code
    rw [← List.append_assoc]
    exact second.code (first.code code)
  · intro k code deep
    rw [List.append_assoc] at code deep
    rw [← List.append_assoc]
    exact second.depth (first.code code) (first.depth code deep)

theorem nil : Carries rules front [] rest n n :=
  ⟨fun code => by rwa [List.append_nil], fun _ deep => by rwa [List.append_nil]⟩

theorem plain (quote : isQuote c = false) (unmarked : Unmarked (c :: rest))
    (other : c ∉ ['(', ')']) : Carries rules front [c] rest n n :=
  ⟨fun code => (code.next quote unmarked).1, fun _ deep => (depthAt_concat front other).trans deep⟩

theorem opening : Carries rules front ['('] rest n (n + 1) := by
  have unmarked : Unmarked ('(' :: rest) := unmarked_of_not_mem (by decide) rest
  have visible : ¬ EndsLine '(' rest := not_endsLine_of_ne (by decide) rest
  refine ⟨fun code => (InCode.next code rfl unmarked).1, fun code deep => ?_⟩
  have code : InCode rules front ('(' :: rest) := code
  rw [depthAt, (code.next rfl unmarked).2 visible]
  exact noticed_opening (waits_stateAt _ _) deep

theorem closing : Carries rules front [')'] rest (n + 1) n := by
  have unmarked : Unmarked (')' :: rest) := unmarked_of_not_mem (by decide) rest
  have visible : ¬ EndsLine ')' rest := not_endsLine_of_ne (by decide) rest
  refine ⟨fun code => (InCode.next code rfl unmarked).1, fun code deep => ?_⟩
  have code : InCode rules front (')' :: rest) := code
  rw [depthAt, (code.next rfl unmarked).2 visible]
  exact noticed_closing deep

theorem quoted (quote : isQuote q = true) (held : HeldIn q cs) (unbroken : q = '\x60' ∨ '\n' ∉ cs) :
    Carries rules front (q :: cs ++ [q]) rest n n := by
  have reads (code : InCode rules front (q :: cs ++ [q] ++ rest)) :
    InCode rules (front ++ (q :: cs ++ [q])) rest ∧
      depthAt rules (front ++ (q :: cs ++ [q])) rest =
      depthAt rules front (q :: cs ++ [q] ++ rest) := by
    rw [List.append_assoc] at code ⊢
    obtain ⟨-, within⟩ := InCode.held code quote held unbroken
    rw [← List.append_assoc front]
    exact within.closing quote
  exact ⟨fun code => (reads code).1, fun code deep => (reads code).2.trans deep⟩

theorem of_reads (reads : InCode rules front (cs ++ rest) → InCode rules (front ++ cs) rest ∧
    depthAt rules (front ++ cs) rest = depthAt rules front (cs ++ rest)) :
    Carries rules front cs rest n n :=
  ⟨fun code => (reads code).1, fun code deep => (reads code).2.trans deep⟩

/-- Double braces. -/
theorem braces (brace : c ∈ ['\x7b', '\x7d']) : Carries rules front [c, c] rest n n := by
  have other : c ∉ ['(', ')'] := by
    simp only [List.mem_cons, List.not_mem_nil, or_false] at brace
    rcases brace with rfl | rfl <;> decide
  have visible (cs : List Char) : ¬ EndsLine c cs := by
    rintro (rfl | ⟨rfl, -⟩) <;> cases brace <;> contradiction
  refine of_reads fun ⟨b, code⟩ => ?_
  have code : AtCode b (stateAt rules front (c :: c :: rest)) := code
  have line : c ≠ '\n' := fun same => visible [] (.inl same)
  have state : stateAt rules (front ++ [c, c]) rest =
      (LineState.passed rules (lineFront front).reverse
        (stateAt rules front (c :: c :: rest)) [c, c] (lineRest rest)).2 := by
    rw [List.append_cons, stateAt_concat _ _ (visible _), stateAt_concat _ _ (visible _),
      lineFront_concat line, lineRest, if_neg (visible _), List.reverse_append]
    rfl
  constructor
  · simp only [List.mem_cons, List.not_mem_nil, or_false] at brace
    rcases brace with rfl | rfl
    · obtain ⟨t, stretch, later⟩ :=
        AtCode.passes_opening code rules (lineFront front).reverse (lineRest rest)
      exact ⟨true, by rw [state, show LineState.passed _ _ _ _ _ = _ from stretch]; exact later⟩
    · obtain ⟨t, stretch, later⟩ :=
        AtCode.passes_closing code rules (lineFront front).reverse (lineRest rest)
      exact ⟨false, by rw [state, show LineState.passed _ _ _ _ _ = _ from stretch]; exact later⟩
  · rw [List.append_cons, depthAt_concat _ other, depthAt_concat _ other]
    rfl

end Carries

/-- The scan is in a comment up to the end of the line, which it has come to at a depth. -/
structure Skipping (d : Nat) (rules : CallRules) (front rest : List Char) : Prop where
  deep : (stateAt rules front rest).diagnosticDepth = d
  comment : (stateAt rules front rest).comment = none
  quote : (stateAt rules front rest).quote = none
  settled : (stateAt rules front rest).settled.length = (lineRest rest).length

theorem Skipping.inCode {d : Nat} (skipping : Skipping d rules front (cs ++ '\n' :: rest))
    (inside : '\n' ∉ cs) :
    InCode rules (front ++ cs) ('\n' :: rest) ∧ depthAt rules (front ++ cs) ('\n' :: rest) = d := by
  induction cs generalizing front with
  | nil =>
    rw [List.append_nil]
    exact ⟨⟨_, List.length_eq_zero_iff.mp skipping.settled, skipping.comment, skipping.quote, rfl⟩,
      skipping.deep⟩
  | cons c cs ih =>
    rw [List.mem_cons, not_or] at inside
    obtain ⟨here, inside⟩ := inside
    rw [List.append_cons]
    refine ih ?_ inside
    by_cases ends : EndsLine c (cs ++ '\n' :: rest)
    · obtain ⟨rfl, next⟩ := ends.resolve_left (Ne.symm here)
      obtain rfl : cs = [] := by
        cases cs with
        | nil => rfl
        | cons d cs => exact (inside (Option.some.inj next ▸ List.mem_cons_self)).elim
      have state := stateAt_carriage_return rules front rest
      exact ⟨state ▸ skipping.deep, state ▸ skipping.comment, state ▸ skipping.quote,
        state ▸ skipping.settled⟩
    · have long := skipping.settled
      rw [List.cons_append, lineRest, if_neg ends, List.length_cons] at long
      obtain ⟨cls, more, settled⟩ := List.exists_cons_of_length_eq_add_one long
      have state : stateAt rules (front ++ [c]) (cs ++ '\n' :: rest) =
          { stateAt rules front (c :: (cs ++ '\n' :: rest)) with settled := more } := by
        rw [stateAt_concat _ front ends, step, settled]
      rw [settled] at long
      refine ⟨?_, ?_, ?_, ?_⟩ <;> rw [state]
      · exact skipping.deep
      · exact skipping.comment
      · exact skipping.quote
      · exact Nat.add_right_cancel long

theorem InCode.skipping (code : InCode rules front ('/' :: '/' :: rest)) :
    Skipping (depthAt rules front ('/' :: '/' :: rest)) rules (front ++ ['/', '/']) rest := by
  have visible (cs : List Char) : ¬ EndsLine '/' cs := not_endsLine_of_ne (by decide) cs
  obtain ⟨b, code⟩ := code
  have line : lineRest ('/' :: rest) = '/' :: lineRest rest := if_neg (visible rest)
  have first : stateAt rules (front ++ ['/']) ('/' :: rest) =
      { stateAt rules front ('/' :: '/' :: rest) with
        settled := .comment :: (lineRest rest).map fun _ => .comment } := by
    rw [stateAt_concat _ front (visible _), code.step_eq, stepCode_noticed, line]
    rfl
  have second : stateAt rules (front ++ ['/', '/']) rest =
      { stateAt rules front ('/' :: '/' :: rest) with
        settled := (lineRest rest).map fun _ => .comment } := by
    rw [List.append_cons, stateAt_concat _ _ (visible _), first]
    rfl
  refine ⟨?_, ?_, ?_, ?_⟩ <;> rw [second]
  · rfl
  · exact code.comment
  · exact code.quote
  · exact List.length_map _

/-- The scan is in a comment between slashes and stars, which it has come to at a depth. -/
structure Commented (d : Nat) (rules : CallRules) (front rest : List Char) : Prop where
  deep : (stateAt rules front rest).diagnosticDepth = d
  comment : (stateAt rules front rest).comment = some .block
  quote : (stateAt rules front rest).quote = none
  settled : (stateAt rules front rest).settled = []

theorem InCode.commented (code : InCode rules front ('/' :: '*' :: rest)) :
    Commented (depthAt rules front ('/' :: '*' :: rest)) rules (front ++ ['/', '*']) rest := by
  have slash (cs : List Char) : ¬ EndsLine '/' cs := not_endsLine_of_ne (by decide) cs
  have star (cs : List Char) : ¬ EndsLine '*' cs := not_endsLine_of_ne (by decide) cs
  obtain ⟨b, code⟩ := code
  have line : lineRest ('*' :: rest) = '*' :: lineRest rest := if_neg (star rest)
  have second : stateAt rules (front ++ ['/', '*']) rest =
      { stateAt rules front ('/' :: '*' :: rest) with comment := some .block, settled := [] } := by
    rw [List.append_cons, stateAt_concat _ _ (star _), stateAt_concat _ _ (slash _),
      code.step_eq, stepCode_noticed, line]
    rfl
  refine ⟨?_, ?_, ?_, ?_⟩ <;> rw [second]
  · rfl
  · exact code.quote

/-- A comment goes on behind each character that does not begin its end. -/
theorem Commented.next {d : Nat} (commented : Commented d rules front (c :: cs))
    (open_ : ¬ ['*', '/'] <+: c :: cs) : Commented d rules (front ++ [c]) cs := by
  by_cases feed : c = '\n'
  · subst feed
    refine ⟨?_, ?_, ?_, ?_⟩ <;> rw [stateAt_line_feed, nextLine]
    · exact commented.deep
    · exact commented.comment
    · rw [commented.quote]
      rfl
  · by_cases ends : EndsLine c cs
    · obtain ⟨rfl, next⟩ := ends.resolve_left feed
      obtain ⟨rest, rfl⟩ := List.head?_eq_some_iff.mp next
      have state := stateAt_carriage_return rules front rest
      exact ⟨state ▸ commented.deep, state ▸ commented.comment, state ▸ commented.quote,
        state ▸ commented.settled⟩
    · have unclosed : CommentKind.block.close.isPrefixOf (c :: lineRest cs) = false := by
        refine eq_false_of_ne_true fun closes => open_ ?_
        exact (List.isPrefixOf_iff_prefix.mp closes).trans
          ((List.prefix_cons_inj c).mpr (lineRest_isPrefix cs))
      have state : stateAt rules (front ++ [c]) cs = stateAt rules front (c :: cs) := by
        rw [stateAt_concat _ front ends, step, commented.settled, commented.comment]
        simp [stepComment, unclosed]
      exact ⟨state ▸ commented.deep, state ▸ commented.comment, state ▸ commented.quote,
        state ▸ commented.settled⟩

theorem Commented.close {d : Nat} (commented : Commented d rules front ('*' :: '/' :: rest)) :
    InCode rules (front ++ ['*', '/']) rest ∧ depthAt rules (front ++ ['*', '/']) rest = d := by
  have slash (cs : List Char) : ¬ EndsLine '/' cs := not_endsLine_of_ne (by decide) cs
  have star (cs : List Char) : ¬ EndsLine '*' cs := not_endsLine_of_ne (by decide) cs
  have line : lineRest ('/' :: rest) = '/' :: lineRest rest := if_neg (slash rest)
  have first : stateAt rules (front ++ ['*']) ('/' :: rest) =
      { stateAt rules front ('*' :: '/' :: rest) with comment := none, settled := [.comment] } := by
    rw [stateAt_concat _ front (star _), step, commented.settled, commented.comment, line]
    rfl
  have second : stateAt rules (front ++ ['*', '/']) rest =
      { stateAt rules front ('*' :: '/' :: rest) with comment := none, settled := [] } := by
    rw [List.append_cons, stateAt_concat _ _ (slash _), first]
    rfl
  rw [depthAt, second]
  exact ⟨⟨_, by rw [second]; exact ⟨rfl, rfl, commented.quote, rfl⟩⟩, commented.deep⟩

theorem Commented.inCode {d : Nat} (commented : Commented d rules front (cs ++ '*' :: '/' :: rest))
    (open_ : ¬ ['*', '/'] <:+: cs ++ ['*']) :
    InCode rules (front ++ cs ++ ['*', '/']) rest ∧
    depthAt rules (front ++ cs ++ ['*', '/']) rest = d := by
  induction cs generalizing front with
  | nil =>
    rw [List.append_nil]
    exact commented.close
  | cons c cs ih =>
    rw [List.append_cons front]
    refine ih (commented.next fun begins => open_ ?_) fun later =>
      open_ (later.trans (List.suffix_cons c _).isInfix)
    have cut : c :: (cs ++ '*' :: '/' :: rest) = (c :: cs ++ ['*']) ++ '/' :: rest := by simp
    replace begins : ['*', '/'] <+: c :: (cs ++ '*' :: '/' :: rest) := begins
    rw [cut] at begins
    exact (List.prefix_of_prefix_length_le begins (List.prefix_append _ _) (by simp)).isInfix

theorem Carries.lineComment (inside : '\n' ∉ cs) :
    Carries rules front ('/' :: '/' :: cs) ('\n' :: rest) n n := by
  refine .of_reads fun code => ?_
  have behind := (InCode.skipping code).inCode inside
  rwa [List.append_assoc] at behind

theorem Carries.comment (open_ : ¬ ['*', '/'] <:+: cs ++ ['*']) :
    Carries rules front ('/' :: '*' :: cs ++ ['*', '/']) rest n n := by
  refine .of_reads fun code => ?_
  rw [List.append_assoc] at code ⊢
  have behind := (InCode.commented code).inCode open_
  rwa [List.append_assoc, List.append_assoc] at behind

/-- Code with closed quotes and comments in front of a rest. Beyond a number of open parentheses it
leaves others open, and it closes none but these and its own. -/
inductive Passage (rest : List Char) : Nat → List Char → Nat → Prop
  | nil {n : Nat} : Passage rest n [] n
  | code {c : Char} {cs : List Char} {n m : Nat} : isQuote c = false → c ∉ ['(', ')'] →
      Unmarked (c :: (cs ++ rest)) → Passage rest n cs m → Passage rest n (c :: cs) m
  | opening {cs : List Char} {n m : Nat} : Passage rest (n + 1) cs m → Passage rest n ('(' :: cs) m
  | closing {cs : List Char} {n m : Nat} : Passage rest n cs m → Passage rest (n + 1) (')' :: cs) m
  | braces {c : Char} {cs : List Char} {n m : Nat} : c ∈ ['\x7b', '\x7d'] → Passage rest n cs m →
      Passage rest n (c :: c :: cs) m
  | quoted {q : Char} {held cs : List Char} {n m : Nat} : isQuote q = true → HeldIn q held →
      (q = '\x60' ∨ '\n' ∉ held) → Passage rest n cs m → Passage rest n (q :: held ++ [q] ++ cs) m
  | lineComment {comment cs : List Char} {n m : Nat} :
      '\n' ∉ comment → Passage rest n ('\n' :: cs) m →
      Passage rest n ('/' :: '/' :: comment ++ '\n' :: cs) m
  | comment {comment cs : List Char} {n m : Nat} :
      ¬ ['*', '/'] <:+: comment ++ ['*'] → Passage rest n cs m →
      Passage rest n ('/' :: '*' :: comment ++ ['*', '/'] ++ cs) m

/-- The scan reads a passage from code to code, and counts its parentheses in a diagnostic call. -/
theorem Passage.carries (passage : Passage rest n cs m) : Carries rules front cs rest n m := by
  induction passage generalizing front with
  | nil => exact .nil
  | code quote other unmarked _ ih => exact Carries.append (.plain quote unmarked other) ih
  | opening _ ih => exact Carries.append .opening ih
  | closing _ ih => exact Carries.append .closing ih
  | braces brace _ ih => exact Carries.append (.braces brace) ih
  | quoted quote held unbroken _ ih => exact Carries.append (.quoted quote held unbroken) ih
  | lineComment inside _ ih => exact Carries.append (.lineComment inside) ih
  | comment open_ _ ih => exact Carries.append (.comment open_) ih

end Phrasebook.Validation

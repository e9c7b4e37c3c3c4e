import Phrasebook.Proofs.Text.Slice
import Phrasebook.WritingSystem.Basic
import Mathlib.Data.List.TakeWhile

/-!
The runs of a writing system in a text, said without positions: a part of the text whose characters
belong to the writing system, cut off on both sides by characters that do not.
-/

namespace Phrasebook.WritingSystem

open Text

/-- A longest run of a text, with what stands before it and behind it. -/
structure IsRun (w : WritingSystem) (text front mid back : List Char) : Prop where
  whole : text = front ++ mid ++ back
  filled : mid ≠ []
  inside : ∀ c ∈ mid, w.has c = true
  starts : ∀ c, front.getLast? = some c → w.has c = false
  ends : ∀ c, back.head? = some c → w.has c = false

variable {w : WritingSystem}

theorem has_head?_dropWhile {cs : List Char} {c : Char}
    (head : (cs.dropWhile w.has).head? = some c) : w.has c = false := by
  have first := List.head?_dropWhile_not w.has cs
  rw [head] at first
  simpa using first

/-- A run that has begun goes on to the next character of another writing system. -/
theorem runsFrom_begun (start : Nat) (cs : List Char) (p : Nat) :
    w.runsFrom (some start) cs p =
      ⟨start, p + byteLength (cs.takeWhile w.has)⟩ ::
        w.runsFrom none (cs.dropWhile w.has) (p + byteLength (cs.takeWhile w.has)) := by
  induction cs generalizing p with
  | nil => rfl
  | cons c cs ih =>
    cases inside : w.has c with
    | true =>
      rw [List.takeWhile_cons_of_pos inside, List.dropWhile_cons_of_pos inside,
        byteLength, ← Nat.add_assoc, ← ih]
      simp [runsFrom, inside]
    | false =>
      have outside : ¬ w.has c = true := by rw [inside]; exact Bool.false_ne_true
      rw [List.takeWhile_cons_of_neg outside, List.dropWhile_cons_of_neg outside]
      simp [runsFrom, inside, byteLength]

/-- The first character of a run that stands in front is that of the text. -/
theorem IsRun.of_cons_outside {c : Char} {cs front mid back : List Char} (outside : w.has c = false)
    (run : IsRun w (c :: cs) front mid back) :
    ∃ rest, front = c :: rest ∧ IsRun w cs rest mid back := by
  obtain ⟨whole, filled, inside, starts, ends⟩ := run
  cases front with
  | nil =>
    cases mid with
    | nil => exact (filled rfl).elim
    | cons d mid =>
      obtain rfl : c = d := (List.cons.inj whole).1
      have here := inside c List.mem_cons_self
      rw [outside] at here
      cases here
  | cons d rest =>
    obtain ⟨rfl, same⟩ := List.cons.inj whole
    refine ⟨rest, rfl, same, filled, inside, fun e last => starts e ?_, ends⟩
    rw [List.getLast?_cons, last]
    rfl

theorem IsRun.cons_outside {c : Char} {cs front mid back : List Char} (outside : w.has c = false)
    (run : IsRun w cs front mid back) : IsRun w (c :: cs) (c :: front) mid back := by
  obtain ⟨rfl, filled, inside, starts, ends⟩ := run
  refine ⟨rfl, filled, inside, fun e last => ?_, ends⟩
  cases front with
  | nil =>
    obtain rfl : c = e := by simpa using last
    exact outside
  | cons d front => exact starts e (by simpa using last)

/-- A run that stands in front is all that comes before the first character of another writing
system. -/
theorem IsRun.eq_takeWhile {cs mid back : List Char} (run : IsRun w cs [] mid back) :
    mid = cs.takeWhile w.has ∧ back = cs.dropWhile w.has := by
  obtain ⟨rfl, filled, inside, starts, ends⟩ := run
  have stops : back.takeWhile w.has = [] ∧ back.dropWhile w.has = back := by
    cases back with
    | nil => exact ⟨rfl, rfl⟩
    | cons c back =>
      have outside : ¬ w.has c = true := by rw [ends c rfl]; exact Bool.false_ne_true
      exact ⟨List.takeWhile_cons_of_neg outside, List.dropWhile_cons_of_neg outside⟩
  rw [List.nil_append, List.takeWhile_append_of_pos inside,
    List.dropWhile_append_of_pos inside, stops.1, stops.2, List.append_nil]
  exact ⟨rfl, rfl⟩

/-- A run that does not stand in front comes behind the one that does. -/
theorem IsRun.of_behind {cs front mid back : List Char} (run : IsRun w cs front mid back)
    (behind : front ≠ []) : ∃ rest, front = cs.takeWhile w.has ++ rest ∧
      IsRun w (cs.dropWhile w.has) rest mid back := by
  induction front generalizing cs with
  | nil => exact (behind rfl).elim
  | cons c front ih =>
    obtain ⟨rfl, filled, inside, starts, ends⟩ := run
    cases here : w.has c with
    | false =>
      have outside : ¬ w.has c = true := by rw [here]; exact Bool.false_ne_true
      simp only [List.cons_append, List.takeWhile_cons_of_neg outside,
        List.dropWhile_cons_of_neg outside]
      exact ⟨c :: front, rfl, rfl, filled, inside, starts, ends⟩
    | true =>
      have more : front ≠ [] := by
        rintro rfl
        rw [starts c rfl] at here
        cases here
      have later : IsRun w (front ++ mid ++ back) front mid back := by
        refine ⟨rfl, filled, inside, fun d last => starts d ?_, ends⟩
        rwa [List.getLast?_cons_of_ne_nil more]
      obtain ⟨rest, same, run⟩ := ih later more
      simp only [List.cons_append, List.takeWhile_cons_of_pos here, List.dropWhile_cons_of_pos here]
      exact ⟨rest, congrArg (c :: ·) same, run⟩

/-- Behind the run that stands in front, the others are those of the rest. -/
theorem IsRun.behind {cs front mid back : List Char}
    (run : IsRun w (cs.dropWhile w.has) front mid back) :
    IsRun w cs (cs.takeWhile w.has ++ front) mid back := by
  obtain ⟨whole, filled, inside, starts, ends⟩ := run
  refine ⟨?_, filled, inside, fun c last => ?_, ends⟩
  · calc cs = cs.takeWhile w.has ++ cs.dropWhile w.has := List.takeWhile_append_dropWhile.symm
      _ = _ := by rw [whole]; simp
  · cases front with
    | nil =>
      cases mid with
      | nil => exact (filled rfl).elim
      | cons d mid =>
        have outside := @has_head?_dropWhile w cs d (by rw [whole]; rfl)
        rw [inside d List.mem_cons_self] at outside
        cases outside
    | cons d front =>
      rw [List.getLast?_append_of_ne_nil _ (List.cons_ne_nil _ _)] at last
      exact starts c last

theorem mem_runsFrom_iff {cs : List Char} {p : Nat} {span : Span} :
    span ∈ w.runsFrom none cs p ↔ ∃ front mid back, IsRun w cs front mid back ∧
      span = ⟨p + byteLength front, p + byteLength front + byteLength mid⟩ := by
  match cs with
  | [] =>
    constructor
    · intro member
      cases member
    · rintro ⟨front, mid, back, ⟨whole, filled, -, -, -⟩, -⟩
      obtain ⟨both, -⟩ := List.append_eq_nil_iff.mp whole.symm
      exact (filled (List.append_eq_nil_iff.mp both).2).elim
  | c :: cs =>
    cases here : w.has c with
    | false =>
      have skipped : w.runsFrom none (c :: cs) p = w.runsFrom none cs (p + c.utf8Size) := by
        simp [runsFrom, here]
      rw [skipped, mem_runsFrom_iff]
      constructor
      · rintro ⟨front, mid, back, run, rfl⟩
        exact ⟨c :: front, mid, back, run.cons_outside here, by simp [byteLength, Nat.add_assoc]⟩
      · rintro ⟨front, mid, back, run, rfl⟩
        obtain ⟨rest, rfl, later⟩ := run.of_cons_outside here
        exact ⟨rest, mid, back, later, by simp [byteLength, Nat.add_assoc]⟩
    | true =>
      have begins : w.runsFrom none (c :: cs) p = w.runsFrom (some p) (c :: cs) p := by
        simp [runsFrom, here]
      have shorter : ((c :: cs).dropWhile w.has).length < (c :: cs).length := by
        rw [List.dropWhile_cons_of_pos here]
        exact Nat.lt_succ_of_le (List.length_dropWhile_le _ _)
      rw [begins, runsFrom_begun, List.mem_cons, mem_runsFrom_iff]
      constructor
      · rintro (rfl | ⟨front, mid, back, run, rfl⟩)
        · have filled : (c :: cs).takeWhile w.has ≠ [] := by
            rw [List.takeWhile_cons_of_pos here]
            exact List.cons_ne_nil _ _
          have inside : ∀ d ∈ (c :: cs).takeWhile w.has, w.has d = true :=
            fun d => List.mem_takeWhile_imp
          exact ⟨[], _, _, ⟨List.takeWhile_append_dropWhile.symm, filled, inside, by simp,
            fun d => has_head?_dropWhile⟩, rfl⟩
        · exact ⟨_, mid, back, run.behind, by rw [byteLength_append]; simp only [Nat.add_assoc]⟩
      · rintro ⟨front, mid, back, run, rfl⟩
        by_cases first : front = []
        · subst first
          obtain ⟨rfl, -⟩ := run.eq_takeWhile
          exact .inl rfl
        · obtain ⟨rest, rfl, later⟩ := run.of_behind first
          exact .inr ⟨rest, mid, back, later, by rw [byteLength_append]; simp only [Nat.add_assoc]⟩
termination_by cs.length
decreasing_by
  · exact Nat.lt_succ_self _
  · exact shorter

/-- The spans of the runs of a text are those of its longest parts in the writing system. -/
theorem mem_runs_iff {text : List Char} {span : Span} :
    span ∈ w.runs text ↔ ∃ front mid back, IsRun w text front mid back ∧
      span = ⟨byteLength front, byteLength front + byteLength mid⟩ := by
  simp only [runs, mem_runsFrom_iff, Nat.zero_add]

theorem within_of_mem_runs {text : List Char} {run : Span} (member : run ∈ w.runs text) :
    run.start < run.stop ∧ run.stop ≤ byteLength text := by
  obtain ⟨front, mid, back, ⟨rfl, filled, -, -, -⟩, rfl⟩ := mem_runs_iff.mp member
  cases mid with
  | nil => exact (filled rfl).elim
  | cons c mid =>
    have size := c.utf8Size_pos
    simp only [byteLength_append, byteLength]
    omega

/-- A run that lies in a part of a text is a run of the part. -/
theorem exists_run_of_within {x part y : List Char} {run : Span}
    (member : run ∈ w.runs (x ++ part ++ y)) (starts : byteLength x ≤ run.start)
    (ends : run.stop ≤ byteLength x + byteLength part) :
    ∃ inner ∈ w.runs part, inner.shift (byteLength x) = run := by
  obtain ⟨front, mid, back, ⟨whole, filled, inside, first, last⟩, rfl⟩ := mem_runs_iff.mp member
  obtain ⟨f, b, rfl, rfl, rfl⟩ := exists_parts_within whole starts ends
  refine ⟨⟨byteLength f, byteLength f + byteLength mid⟩, mem_runs_iff.mpr ⟨f, mid, b,
    ⟨rfl, filled, inside, fun c ended => first c ?_, fun c ended => last c ?_⟩, rfl⟩, ?_⟩
  · rw [List.getLast?_append, ended]
    rfl
  · rw [List.head?_append, ended]
    rfl
  · simp only [Span.shift, byteLength_append, Nat.add_assoc]

/-- No run covers another one. -/
theorem eq_of_covers {text : List Char} {run other : Span} (member : run ∈ w.runs text)
    (listed : other ∈ w.runs text) (covers : other.covers run = true) : other = run := by
  obtain ⟨front, mid, back, ⟨whole, filled, -, starts, ends⟩, rfl⟩ := mem_runs_iff.mp member
  obtain ⟨before, wide, behind, ⟨rfl, -, inside, -, -⟩, rfl⟩ := mem_runs_iff.mp listed
  simp only [Span.covers, Bool.and_eq_true, decide_eq_true_eq] at covers
  obtain ⟨f, b, rfl, rfl, rfl⟩ := exists_parts_within whole covers.1 covers.2
  have first : f = [] := by
    rcases List.eq_nil_or_concat f with empty | ⟨f, c, rfl⟩
    · exact empty
    · have outside := starts c (by simp)
      rw [inside c (by simp)] at outside
      cases outside
  have last : b = [] := by
    cases b with
    | nil => rfl
    | cons c b =>
      have outside := ends c rfl
      rw [inside c (by simp)] at outside
      cases outside
  simp [first, last]

end Phrasebook.WritingSystem

import Phrasebook.Proofs.Script.Sound
import Phrasebook.Proofs.Script.Token
import Mathlib.Data.List.TakeWhile

/-!
The line in front of a script that names its interpreter. For a file it ends with a line feed, for
the script with any line end; where only blanks stand between the two, the script is read as if it
began behind the line.
-/

namespace Phrasebook.Script

open Text

/-- What may stand in front of a script: nothing, or a line that begins with `#!`, and behind
its end for the script only blanks. -/
inductive Preface : List Char → Prop
  | nothing : Preface []
  | line {line : List Char} (marked : ['#', '!'] <+: line) (single : '\n' ∉ line)
    (clean : ∀ c ∈ line.dropWhile (!isLineEnd ·), isBlank c = true) : Preface (line ++ ['\n'])

variable {front rest : List Char}

theorem Preface.unmarked (preface : Preface front) (plain : rest.head? ≠ some '\ufeff') :
    (front ++ rest).head? ≠ some '\ufeff' := by
  cases preface with
  | nothing => exact plain
  | line marked =>
    obtain ⟨body, rfl⟩ := marked
    exact nofun

/-- A line for the interpreter is passed over up to its end for the script. -/
theorem skipInterpreter_line {line : List Char} (marked : ['#', '!'] <+: line)
    (ends : ∀ c ∈ rest.head?, isLineEnd c = true) :
    ∃ passed, line = passed ++ line.dropWhile (!isLineEnd ·) ∧
      skipInterpreter (line ++ rest) = ⟨line.dropWhile (!isLineEnd ·) ++ rest, byteLength passed⟩ :=
  by
  obtain ⟨body, rfl⟩ := marked
  have marks : (['#', '!'] ++ body).dropWhile (!isLineEnd ·) = body.dropWhile (!isLineEnd ·) := rfl
  have whole := List.takeWhile_append_dropWhile (p := (!isLineEnd ·)) (l := body)
  have shown : ∀ c ∈ body.takeWhile (!isLineEnd ·), (!isLineEnd c) = true :=
    fun c member => List.mem_takeWhile_imp (p := (!isLineEnd ·)) member
  have first := List.head?_dropWhile_not (!isLineEnd ·) body
  rw [marks]
  generalize body.takeWhile (!isLineEnd ·) = name at whole shown
  generalize body.dropWhile (!isLineEnd ·) = left at whole first
  subst whole
  have stops : ∀ c ∈ (left ++ rest).head?, (!isLineEnd c) = false := by
    cases left with
    | nil => exact fun c member => by rw [ends c member]; rfl
    | cons d left =>
      rintro c ⟨⟩
      simpa using first
  refine ⟨'#' :: '!' :: name, by simp, ?_⟩
  have source : ['#', '!'] ++ (name ++ left) ++ rest = '#' :: '!' ::
      (name ++ (left ++ rest)) := by simp
  have length : 2 + byteLength name = byteLength ('#' :: '!' :: name) :=
    Nat.add_assoc 1 1 (byteLength name)
  rw [source, ← length]
  exact congrArg Prod.snd (Cursor.takeWhile_append shown stops 2)

/-- What stands in front is passed over up to blanks. -/
theorem Preface.skipInterpreter (preface : Preface front) (unmarked : rest.head? ≠ some '#') :
    ∃ passed blanks, front = passed ++ blanks ∧ (∀ c ∈ blanks, isBlank c = true) ∧
      skipInterpreter (front ++ rest) = ⟨blanks ++ rest, byteLength passed⟩ := by
  cases preface with
  | nothing =>
    refine ⟨[], [], rfl, nofun, ?_⟩
    rw [List.nil_append]
    unfold Script.skipInterpreter
    split
    · exact absurd rfl unmarked
    · rfl
  | @line line marked single clean =>
    have ends : ∀ c ∈ ('\n' :: rest).head?, isLineEnd c = true := by rintro c ⟨⟩; rfl
    obtain ⟨passed, whole, place⟩ := skipInterpreter_line marked ends
    refine ⟨passed, line.dropWhile (!isLineEnd ·) ++ ['\n'], ?_, ?_, ?_⟩
    · rw [← List.append_assoc, ← whole]
    · intro c member
      rcases List.mem_append.mp member with member | member
      · exact clean c member
      · obtain rfl := List.mem_singleton.mp member
        decide
    · rw [List.append_assoc, List.append_assoc]
      exact place

/-- The first token is the one behind the line. -/
theorem Preface.nextLexeme (preface : Preface front) (unmarked : rest.head? ≠ some '#') :
    nextLexeme (Script.skipInterpreter (front ++ rest)) true =
      nextLexeme ⟨rest, byteLength front⟩ true := by
  obtain ⟨passed, blanks, rfl, blank, place⟩ := preface.skipInterpreter unmarked
  have gap : gapAt ⟨blanks ++ rest, byteLength passed⟩ true =
      gapAt ⟨rest, byteLength (passed ++ blanks)⟩ true := by
    rw [gapAt, gapAt, skipGap_blanks blank, byteLength_append]
  rw [place, Script.nextLexeme, gap, ← Script.nextLexeme]

/-- The first line of a text, if it begins with `#!`, ends for a script where it ends for a file,
but for blanks. -/
def EndsCleanly (text : List Char) : Prop :=
  ['#', '!'] <+: text →
    ∀ c ∈ (text.takeWhile (· != '\n')).dropWhile (!isLineEnd ·), isBlank c = true

instance (text : List Char) : Decidable (EndsCleanly text) :=
  decidable_of_iff (['#', '!'] <+: text →
    ((text.takeWhile (· != '\n')).dropWhile (!isLineEnd ·)).all isBlank = true)
    (forall_congr' fun _ => List.all_eq_true)

variable {line : List Char}

theorem takeWhile_line (single : '\n' ∉ line) (behind : ∀ c ∈ rest.head?, c = '\n') :
    (line ++ rest).takeWhile (· != '\n') = line := by
  have each : ∀ c ∈ line, (c != '\n') = true := fun c member =>
    bne_iff_ne.mpr fun same => single (same ▸ member)
  rw [List.takeWhile_append_of_pos each]
  cases rest with
  | nil => rw [List.takeWhile_nil, List.append_nil]
  | cons c rest =>
    obtain rfl := behind c rfl
    rw [List.takeWhile_cons_of_neg (by decide), List.append_nil]

/-- Only the first line counts. -/
theorem endsCleanly_iff (marked : ['#', '!'] <+: line) (single : '\n' ∉ line)
    (behind : ∀ c ∈ rest.head?, c = '\n') :
    EndsCleanly (line ++ rest) ↔ ∀ c ∈ line.dropWhile (!isLineEnd ·), isBlank c = true := by
  rw [EndsCleanly, takeWhile_line single behind]
  exact ⟨fun clean => clean (marked.trans (List.prefix_append _ _)), fun clean _ => clean⟩

/-- A text that begins with `#!` comes apart behind its first line. -/
theorem exists_line {text : List Char} (marked : ['#', '!'] <+: text) :
    ∃ line rest, text = line ++ rest ∧
    ['#', '!'] <+: line ∧ '\n' ∉ line ∧ ∀ c ∈ rest.head?, c = '\n' := by
  obtain ⟨body, rfl⟩ := marked
  refine ⟨'#' :: '!' :: body.takeWhile (· != '\n'), body.dropWhile (· != '\n'),
    ?_, ⟨_, rfl⟩, ?_, ?_⟩
  · simp
  · intro member
    have inside : '\n' ∈ body.takeWhile (· != '\n') := by simpa using member
    simpa using List.mem_takeWhile_imp (p := (· != '\n')) inside
  · intro c member
    have first := List.head?_dropWhile_not (· != '\n') body
    rw [Option.mem_def.mp member] at first
    simpa using first

end Phrasebook.Script

import Phrasebook.Proofs.Extraction.Written
import Phrasebook.Proofs.Script.Preface

/-!
Where the literals of a script begin. None begins in the line that names the interpreter, and none
in words that hold no quotation mark.
-/

namespace Phrasebook

open Script Text

namespace Script

variable {span : Span}

/-- The characters that a literal may begin with. -/
def quotes : List Char := ['"', '\'', '\x60']

theorem forall_quotes {held : Char → Prop} :
    (∀ q ∈ quotes, held q) ↔ held '"' ∧ held '\'' ∧ held '\x60' := by
  simp [quotes]

theorem Written.opens {site : Site} {literal behind : List Char}
    (written : Written site literal behind) : ∃ q rest, literal = q :: rest ∧ q ∈ quotes := by
  have string {q : Char} (quote : q ∈ ['"', '\'']) : q ∈ quotes :=
    List.mem_append_left ['\x60'] quote
  cases written with
  | closed quote => exact ⟨_, _, rfl, string quote⟩
  | unclosed quote => exact ⟨_, _, rfl, string quote⟩
  | escapedEnd quote => exact ⟨_, _, rfl, string quote⟩
  | template => exact ⟨_, _, rfl, by simp [quotes]⟩

/-- A literal does not begin in a part of the text without a quotation mark. -/
theorem WrittenAt.behind {bare back front literal rest : List Char} {site : Site}
    (stands : WrittenAt (bare ++ back) span site front literal rest)
    (free : ∀ q ∈ quotes, q ∉ bare) : ∃ between, back = between ++ literal ++ rest ∧ literal ≠ [] ∧
      span.start = byteLength bare + byteLength between := by
  obtain ⟨whole, written, rfl⟩ := stands
  obtain ⟨q, body, rfl, quote⟩ := written.opens
  rw [List.append_assoc] at whole
  rcases List.append_eq_append_iff.mp whole with ⟨between, rfl, same⟩ | ⟨beyond, rfl, same⟩
  · exact ⟨between, by rw [same, List.append_assoc], List.cons_ne_nil _ _, byteLength_append ..⟩
  · cases beyond with
    | nil =>
      refine ⟨[], ?_, List.cons_ne_nil _ _, by rw [List.append_nil]; rfl⟩
      exact same.symm
    | cons c beyond =>
      obtain ⟨rfl, -⟩ := List.cons.inj same
      exact absurd (List.mem_append_right front List.mem_cons_self) (free q quote)

theorem free_of_blank {blanks : List Char} (blank : ∀ c ∈ blanks, isBlank c = true) :
    ∀ q ∈ quotes, q ∉ blanks := by
  have others : ∀ q ∈ quotes, isBlank q = false := forall_quotes.mpr (by decide)
  intro q quote inside
  have isBlank := blank q inside
  rw [others q quote] at isBlank
  cases isBlank

end Script

namespace LiteralFinding

/-- The literals of a script begin behind its line for the interpreter and behind what holds no
quotation mark. -/
theorem behind_of_reached {settings : Settings} {dialect : Dialect} {text bare back : List Char}
    {script : Document} {passed : Nat} (parsed : parse dialect text = .ok script)
    (begins : skipInterpreter (dropByteOrderMark text) = ⟨bare ++ back, passed⟩)
    (free : ∀ q ∈ quotes, q ∉ bare) {place : Place} (member : place ∈ reached settings script) :
    ∃ between literal rest, back = between ++ literal ++ rest ∧ literal ≠ [] ∧
      place.tree.span.start = passed + byteLength bare + byteLength between := by
  -- The line might as well consist of blanks.
  let blanked := List.replicate passed ' ' ++ bare
  have reaches : Cursor.Onward ⟨blanked ++ back, 0⟩ (skipInterpreter (dropByteOrderMark text)) := by
    rw [begins]
    exact ⟨List.replicate passed ' ', by simp [blanked], by simp [byteLength_replicate_blank]⟩
  obtain ⟨front, literal, rest, stands⟩ :=
    (grounded_of_reached (sound_of_parse_from parsed reaches) member).stands
  have blankedFree (q : Char) (quote : q ∈ quotes) : q ∉ blanked := by
    intro inside
    rcases List.mem_append.mp inside with inside | inside
    · obtain rfl := List.eq_of_mem_replicate inside
      revert quote
      decide
    · exact free q quote inside
  obtain ⟨between, whole, filled, start⟩ := stands.behind blankedFree
  rw [byteLength_append, byteLength_replicate_blank] at start
  exact ⟨between, literal, rest, whole, filled, start⟩

end LiteralFinding

namespace Extraction

variable {settings : Settings} {file : String} {dialect : Dialect} {content : String}
  {extraction : Extraction}

/-- The occurrences of a script begin there, too. -/
theorem behind_of_mem (extracted : ofFile settings file (.script dialect) content = .ok extraction)
    {bare back : List Char} {passed : Nat}
    (begins : skipInterpreter (dropByteOrderMark content.toList) = ⟨bare ++ back, passed⟩)
    (free : ∀ q ∈ quotes, q ∉ bare) {o : Occurrence} (found : o ∈ extraction.occurrences) :
    ∃ between literal rest, back = between ++ literal ++ rest ∧ literal ≠ [] ∧
      o.span.start = passed + byteLength bare + byteLength between := by
  obtain ⟨scan, scanned, made⟩ := ok_of_bind extracted
  obtain rfl := Except.ok.inj made
  obtain ⟨c, candidate, before, rfl⟩ := Occurrence.mem_number found
  obtain ⟨script, read, place, member, yields⟩ := ScriptScan.yields_of_mem scanned candidate
  cases yields with
  | candidate c expressions _ _ _ _ span =>
    have start : (Occurrence.ofCandidate file before c).span.start = place.tree.span.start :=
      (congrArg Span.start span).trans (Nat.zero_add _)
    rw [start]
    exact LiteralFinding.behind_of_reached read begins free member

/-- Where a line for the interpreter ends in blanks for the script, the occurrences begin behind its
line feed. -/
theorem behind_line (extracted : ofFile settings file (.script dialect) content = .ok extraction)
    {line rest : List Char} (whole : content.toList = line ++ rest) (marked : ['#', '!'] <+: line)
    (behind : ∀ c ∈ rest.head?, c = '\n')
    (blank : ∀ c ∈ line.dropWhile (!isLineEnd ·), isBlank c = true) {o : Occurrence}
    (found : o ∈ extraction.occurrences) :
    ∃ tail, rest = '\n' :: tail ∧ byteLength (line ++ ['\n']) ≤ o.span.start := by
  have source : dropByteOrderMark content.toList = line ++ rest := by
    rw [whole]
    obtain ⟨name, rfl⟩ := marked
    rfl
  obtain ⟨passed, split, begins⟩ := skipInterpreter_line marked fun c member =>
    by rw [behind c member]; rfl
  rw [← source] at begins
  cases rest with
  | nil =>
    obtain ⟨between, literal, rest, nothing, filled, -⟩ :=
      behind_of_mem extracted begins (free_of_blank blank) found
    simp [filled] at nothing
  | cons c tail =>
    obtain rfl := behind c rfl
    rw [← List.singleton_append, ← List.append_assoc] at begins
    have free : ∀ q ∈ quotes, q ∉ line.dropWhile (!isLineEnd ·) ++ ['\n'] := by
      refine free_of_blank fun c member => ?_
      rcases List.mem_append.mp member with member | member
      · exact blank c member
      · obtain rfl := List.mem_singleton.mp member
        decide
    obtain ⟨between, -, -, -, -, start⟩ := behind_of_mem extracted begins free found
    have length := (congrArg byteLength split).trans (byteLength_append ..)
    refine ⟨tail, rfl, ?_⟩
    rw [start]
    simp only [byteLength_append]
    omega

/-- The occurrences of a script begin behind its preface and behind words without a quotation mark.
-/
theorem start_of_mem (extracted : ofFile settings file (.script dialect) content = .ok extraction)
    {front words back : List Char} (whole : content.toList = front ++ (words ++ back))
    (preface : Preface front) (plain : ∀ c ∈ ['#', '\ufeff'], (words ++ back).head? ≠ some c)
    (free : ∀ q ∈ quotes, q ∉ words) {o : Occurrence} (found : o ∈ extraction.occurrences) :
    byteLength (front ++ words) ≤ o.span.start := by
  obtain ⟨passed, blanks, rfl, blank, begins⟩ := preface.skipInterpreter (plain '#' (by simp))
  have source := dropByteOrderMark_of_unmarked (preface.unmarked (plain '\ufeff' (by simp)))
  rw [← List.append_assoc blanks] at begins
  have bareFree (q : Char) (quote : q ∈ quotes) : q ∉ blanks ++ words := by
    intro inside
    rcases List.mem_append.mp inside with inside | inside
    · exact free_of_blank blank q quote inside
    · exact free q quote inside
  obtain ⟨between, -, -, -, -, start⟩ :=
    behind_of_mem extracted (by rw [whole, source, begins]) bareFree found
  rw [start]
  simp only [byteLength_append]
  omega

end Extraction

end Phrasebook

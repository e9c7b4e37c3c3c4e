import Phrasebook.Proofs.Extraction.Front
import Phrasebook.Proofs.Rewriting.Import

/-!
Rewriting a script again and again. The words of an import in front of a script hold no literal, so
that no edit reaches them; once an import of a name that ends like a word is in, it stays and is
found, and none comes in again.
-/

namespace Phrasebook

open Script Text

namespace Rewriting

/-- The words of an import up to its path. -/
def importWords (name : String) : List Char := "import ".toList ++ (name.toList ++ " from ".toList)

/-- A script with the words of an import behind what may stand in front of a script. -/
def Headed (name : String) (content : List Char) : Prop :=
  ∃ front back, Preface front ∧ content = front ++ (importWords name ++ back)

variable {name : String}

theorem importWords_append (name : String) (back : List Char) :
    importWords name ++ back = "import ".toList ++ (name.toList ++ (" from ".toList ++ back)) := by
  unfold importWords
  simp only [List.append_assoc]

theorem head?_importWords (name : String) (back : List Char) :
    (importWords name ++ back).head? = some 'i' := by
  rw [importWords_append]
  rfl

theorem importWords_free (identifier : isIdentifier name = true) :
    ∀ q ∈ quotes, q ∉ importWords name := by
  intro q quote
  have others : ∀ q ∈ quotes, q ∉ "import ".toList ∧ isIdentifierPart q = false ∧
      q ∉ " from ".toList :=
    forall_quotes.mpr (by decide)
  obtain ⟨before, part, behind⟩ := others q quote
  unfold importWords
  simp only [List.mem_append, not_or]
  exact ⟨before, not_mem_of_isIdentifier identifier part, behind⟩

/-- Edits behind a front leave it as it is. -/
theorem Spliced.front {position : Nat} {front rest output : List Char} {edits : List Edit}
    (spliced : Spliced position (front ++ rest) edits output)
    (behind : ∀ edit ∈ edits, position + byteLength front ≤ edit.span.start) :
    ∃ tail, output = front ++ tail := by
  generalize whole : front ++ rest = content at spliced
  cases spliced with
  | kept => exact ⟨rest, whole.symm⟩
  | @edited _ kept old after output edit edits span later =>
    have start := behind edit List.mem_cons_self
    rw [span] at start
    rw [List.append_assoc] at whole
    obtain ⟨between, rfl, -⟩ := append_eq_append_of_le whole (Nat.le_of_add_le_add_left start)
    exact ⟨between ++ edit.text.toList ++ output, by simp⟩

/-- An edit is made at an occurrence. -/
theorem Edited.occurrence {fresh : List Occurrence} {answered : List (SnapshotEntry × Substitution)}
    {content body : List Char} {edits : List Edit} {edit : Edit}
    (edited : Edited fresh answered content edits body) (made : edit ∈ edits) :
    ∃ o ∈ fresh, edit.span = o.span := by
  obtain ⟨entry, s, place, -, -, found, span, -⟩ := (edited.applied edit).mp made
  exact ⟨place, (find?_found found).1, span⟩

/-- A front before all occurrences stays. -/
theorem Edited.front {fresh : List Occurrence} {answered : List (SnapshotEntry × Substitution)}
    {front rest body : List Char} {edits : List Edit}
    (edited : Edited fresh answered (front ++ rest) edits body)
    (starts : ∀ o ∈ fresh, byteLength front ≤ o.span.start) : ∃ tail, body = front ++ tail := by
  refine edited.spliced.front fun edit made => ?_
  obtain ⟨o, found, span⟩ := edited.occurrence made
  rw [Nat.zero_add, span]
  exact starts o found

theorem Headed.bindsName {content : List Char} (headed : Headed name content)
    (identifier : isIdentifier name = true) (word : EndsInWord name) :
    bindsName content name = true := by
  obtain ⟨front, back, -, rfl⟩ := headed
  rw [importWords_append]
  exact bindsName_of_import identifier word

section
variable {project : Project} {file content : String} {kind : FileKind} {dialect : Dialect}
  {entries : List SnapshotEntry} {rewrite : FileRewrite}

/-- The content of a file after a rewriting. -/
def contentAfter (rewrite : FileRewrite) (content : String) : String := rewrite.content.getD content

/-- A content is rewritten if its text can be extracted, and stays as it is otherwise. -/
theorem framed_or_unchanged
    (made : rewriteContent project file content kind entries = some rewrite) :
    (∃ extraction, Extraction.ofFile (Settings.ofConfig project.config) file kind
      content = .ok extraction ∧ Framed project file content extraction.occurrences
        entries rewrite) ∨
    rewrite.content = none ∧ rewrite.record.importInserted = false ∧
      ∀ s ∈ rewrite.record.substitutions, s.outcome ≠ .applied := by
  unfold rewriteContent at made
  split at made
  · rename_i extraction extracted
    obtain rfl := Option.some.inj made
    exact .inl ⟨extraction, extracted, framed_rewriteFound project file content
      fun o found => Extraction.slice_of_mem project.config extracted found⟩
  · cases made
  · obtain rfl := Option.some.inj made
    refine .inr ⟨rfl, rfl, fun s member => ?_⟩
    obtain ⟨entry, -, rfl⟩ := List.mem_map.mp member
    exact nofun

/-- The content after a rewriting is the edited one, with the import if one comes in. -/
theorem Framed.after {fresh : List Occurrence}
    (framed : Framed project file content fresh entries rewrite) :
    ∃ edits body, Edited fresh (entries.zip rewrite.record.substitutions)
      content.toList edits body ∧ Imported project file
        (entries.zip rewrite.record.substitutions) body
        (contentAfter rewrite content).toList rewrite.record.importInserted := by
  obtain ⟨edits, body, output, edited, imported, modified, result⟩ := framed.text
  refine ⟨edits, body, edited, ?_⟩
  have same : (contentAfter rewrite content).toList = output := by
    rw [contentAfter, result]
    split
    · rw [Option.getD_some, String.toList_ofList]
    · rename_i unmodified
      rw [Option.getD_none, not_not.mp (mt modified.mpr unmodified)]
  rwa [same]

/-- A rewriting leaves the words of an import in their place, and puts in no other one. -/
theorem Headed.rewriteContent (headed : Headed name content.toList)
    (identifier : isIdentifier name = true) (word : EndsInWord name)
    (binding : project.config.calls.moduleBinding = name)
    (made : rewriteContent project file content (.script dialect) entries = some rewrite) :
    rewrite.record.importInserted = false ∧ Headed name (contentAfter rewrite content).toList := by
  rcases framed_or_unchanged made with ⟨extraction, extracted, framed⟩ | ⟨kept, needless, -⟩
  · obtain ⟨edits, body, edited, imported⟩ := framed.after
    obtain ⟨front, back, preface, whole⟩ := headed
    have starts (o : Occurrence) (found : o ∈ extraction.occurrences) :
        byteLength (front ++ importWords name) ≤ o.span.start := by
      refine Extraction.start_of_mem extracted whole preface (fun c other => ?_)
        (importWords_free identifier) found
      rw [head?_importWords]
      rintro ⟨⟩
      revert other
      decide
    rw [whole, ← List.append_assoc] at edited
    obtain ⟨tail, rfl⟩ := edited.front starts
    have still : Headed name (front ++ importWords name ++ tail) :=
      ⟨front, tail, preface, List.append_assoc ..⟩
    have needless : rewrite.record.importInserted = false := by
      rw [Bool.eq_false_iff]
      intro needed
      have unbound := (imported.needed.mp needed).2
      rw [binding, still.bindsName identifier word] at unbound
      cases unbound
    exact ⟨needless, imported.without needless ▸ still⟩
  · rw [contentAfter, kept]
    exact ⟨needless, headed⟩

end

/-- What repeated rewritings make of a script, by projects whose modules import this name and with
any entries. -/
inductive Rewritten (name content : String) : String → Prop
  | start : Rewritten name content content
  | step {later file : String} {project : Project} {dialect : Dialect}
      {entries : List SnapshotEntry}
    {rewrite : FileRewrite} (before : Rewritten name content later)
    (binding : project.config.calls.moduleBinding = name)
    (made : Rewriting.rewriteContent project file later (.script dialect) entries = some rewrite) :
    Rewritten name content (contentAfter rewrite later)

theorem Rewritten.headed {content later : String} (rewritten : Rewritten name content later)
    (identifier : isIdentifier name = true) (word : EndsInWord name)
    (headed : Headed name content.toList) : Headed name later.toList := by
  induction rewritten with
  | start => exact headed
  | step _ binding made ih => exact (ih.rewriteContent identifier word binding made).2

/-- An import is put where a script begins, if its first line ends cleanly. -/
theorem Prepended.headed {text output : List Char} {specifier : String}
    (put : Prepended (importStatement name specifier) text output) (clean : EndsCleanly text) :
    Headed name output := by
  obtain ⟨tail, begins⟩ : ∃ tail, importStatement name specifier = importWords name ++ tail :=
    ⟨_, importStatement_eq name specifier⟩
  rw [begins] at put
  cases put with
  | first plain => exact ⟨[], tail ++ text, .nothing, List.append_assoc ..⟩
  | @behind line rest marked single =>
    have behind : ∀ c ∈ ('\n' :: rest).head?, c = '\n' := by rintro c ⟨⟩; rfl
    have blank := (endsCleanly_iff marked single behind).mp clean
    exact ⟨line ++ ['\n'], tail ++ rest, .line marked single blank, by simp⟩
  | ended marked single =>
    rw [← List.append_nil text] at clean
    have blank := (endsCleanly_iff marked single (by simp)).mp clean
    exact ⟨text ++ ['\n'], tail, .line marked single blank, by simp⟩

/-- The statement is a line, if the path in it is. -/
theorem importStatement_line (identifier : isIdentifier name = true) (specifier : String) :
    ∃ line, importStatement name specifier = line ++ ['\n'] ∧
    ('\n' ∈ line ↔ '\n' ∈ specifier.toList) := by
  refine ⟨"import ".toList ++ (name.toList ++ " from ".toList) ++ '\'' ::
    (specifier.toList ++ ['\'', ';']), ?_, ?_⟩
  · rw [importStatement_eq]
    simp
  · have named : '\n' ∉ name.toList := not_mem_of_isIdentifier identifier (by decide)
    simp [named]

/-- The main statement about an import that is put in. It is one line more, if the path in it is one
line, and without it the content is what it was, but for a line feed behind an only line that begins
with `#!`. It is found exactly if its name ends like a word, or the name is bound all the same: in
front of it, in its path or behind it. And in a script whose first line ends cleanly, the import of
a name that ends like a word is never put in again, however often and with whatever entries the
script is rewritten. -/
theorem insertImport_once (content : List Char) (specifier : String)
    (identifier : isIdentifier name = true) : let output := insertImport content name specifier
    (∃ front back, output = front ++ importStatement name specifier ++ back ∧
      (front = [] ∨ ∃ line, front = line ++ ['\n']) ∧
      (front ++ back = content ∨
        ['#', '!'] <+: content ∧ '\n' ∉ content ∧ front = content ++ ['\n'] ∧ back = []) ∧
      (bindsName output name = true ↔ EndsInWord name ∨ bindsName front name = true ∨
        bindsName specifier.toList name = true ∨ bindsName back name = true)) ∧
    (∃ line, importStatement name specifier = line ++ ['\n'] ∧
      ('\n' ∈ line ↔ '\n' ∈ specifier.toList)) ∧
    (EndsInWord name → EndsCleanly content → ∀ later, Rewritten name (String.ofList output) later →
      ∀ (project : Project) (file : String) (dialect : Dialect) (entries : List SnapshotEntry)
        (rewrite : FileRewrite), project.config.calls.moduleBinding = name →
          rewriteContent project file later (.script dialect) entries = some rewrite →
            rewrite.record.importInserted = false) := by
  intro output
  have put : Prepended (importStatement name specifier) content output :=
    prepended_insertImport content name specifier
  refine ⟨?_, importStatement_line identifier specifier, fun word clean later rewritten => ?_⟩
  · obtain ⟨front, back, whole, fed, parts⟩ := put.parts
    refine ⟨front, back, whole, fed, parts, ?_⟩
    rw [whole]
    exact bindsName_importStatement identifier fed specifier
  · have headed : Headed name (String.ofList output).toList := by
      rw [String.toList_ofList]
      exact put.headed clean
    intro project file dialect entries rewrite binding made
    exact ((rewritten.headed identifier word headed).rewriteContent identifier word binding made).1

private def greetingAt (text : String) : SnapshotEntry :=
  ⟨"Common.greeting", [],
    ⟨"a.js::file::line:1", "a.js", .file, 1, .literal, 0, ⟨2, 10⟩, .plain, text, s!"'{text}'", []⟩⟩

/-- A script with a line for its interpreter, which ends with a carriage return and a line feed. -/
theorem insertImport_once_interpreter :
    let content := "#!/usr/bin/env node\r\nf('你好');\n".toList
    let output := insertImport content "i18n" "./lang"
    isIdentifier "i18n" = true ∧ EndsInWord "i18n" ∧ EndsCleanly content ∧
      output = "#!/usr/bin/env node\r\nimport i18n from './lang';\nf('你好');\n".toList ∧
      bindsName output "i18n" = true ∧
      ∃ rewrite, rewriteContent { root := ⟨"/project"⟩ } "a.js" (String.ofList output)
      (.script .javaScript)
          [greetingAt "你好"] = some rewrite ∧ rewrite.record.modified = true ∧
        rewrite.record.importInserted = false := by
  intro content output
  have identifier : isIdentifier "i18n" = true := by decide
  have word : EndsInWord "i18n" := by decide
  have clean : EndsCleanly content := by decide +kernel
  obtain ⟨⟨front, back, -, -, -, found⟩, -, once⟩ := insertImport_once content "./lang" identifier
  obtain ⟨rewrite, made, modified⟩ : ∃ rewrite ∈ rewriteContent { root := ⟨"/project"⟩ } "a.js"
      (String.ofList output) (.script .javaScript) [greetingAt "你好"],
      rewrite.record.modified = true := by
    decide +kernel
  exact ⟨identifier, word, clean, by decide +kernel, found.mpr (.inl word), rewrite, made, modified,
    once word clean _ .start _ _ _ _ rewrite rfl made⟩

/-- Behind a dollar sign there is no edge of a word before a blank. The import is not found, and
when a line has been added behind the script, the next rewriting puts in another one. -/
theorem dollar_name_imported_twice :
    let project : Project :=
      { root := ⟨"/project"⟩, config := { calls := { moduleBinding := "i18n$" } } }
    let rewritten (content text : String) : Option String :=
      (rewriteContent project "a.js" content (.script .javaScript) [greetingAt text]).bind
        (·.content)
    isIdentifier "i18n$" = true ∧
      bindsName (insertImport [] "i18n$" "@/lang") "i18n$" = false ∧
      rewritten "f('你好');\n" "你好" =
        some "import i18n$ from '@/lang';\nf(i18n.t('Common.greeting'));\n" ∧
      rewritten "import i18n$ from '@/lang';\nf(i18n.t('Common.greeting'));\nf('再见');\n" "再见" =
        some ("import i18n$ from '@/lang';\nimport i18n$ from '@/lang';\n" ++
          "f(i18n.t('Common.greeting'));\nf(i18n.t('Common.greeting'));\n") := by
  decide +kernel

end Rewriting

end Phrasebook

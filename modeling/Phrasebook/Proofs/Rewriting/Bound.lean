import Phrasebook.Proofs.Rewriting.Call
import Phrasebook.Proofs.Rewriting.Repeated
import Phrasebook.Proofs.Script.Import

/-!
Whether the name is bound that the calls in a rewritten script use. An import is put in where the
pattern for imports and declarations finds nothing, and it is the first item of the script, if the
first line ends cleanly; where the pattern finds something, nothing is put in, and the script is
bound as it was before, which a comment or a text that looks like an import does not bring about. A
script that begins with an import of its own keeps it there.
-/

namespace Phrasebook

open Script Text

/-- The occurrences of a script file belong to no component. -/
theorem Extraction.region_of_mem {settings : Settings} {file content : String} {dialect : Dialect}
    {extraction : Extraction}
    (extracted : ofFile settings file (.script dialect) content = .ok extraction) {o : Occurrence}
    (found : o ∈ extraction.occurrences) : o.region = .file := by
  obtain ⟨scan, scanned, made⟩ := ok_of_bind extracted
  obtain rfl := Except.ok.inj made
  obtain ⟨c, candidate, before, rfl⟩ := Occurrence.mem_number found
  exact ScriptScan.region_of_ofSource scanned c candidate

namespace Rewriting

section
variable {project : Project} {file content : String} {dialect : Dialect}
  {entries : List SnapshotEntry} {rewrite : FileRewrite} {extraction : Extraction}
  {edits : List Edit} {body : List Char}

theorem Spliced.eq_of_nil {position : Nat} {content body : List Char}
    (spliced : Spliced position content [] body) : body = content := by
  cases spliced
  rfl

/-- A text that begins with `#!` begins so from the outset, where the edits put in something else.
-/
theorem Spliced.marked {content body : List Char} (spliced : Spliced 0 content edits body)
    (words : ∀ edit ∈ edits, ∃ cs, edit.text.toList = 'i' :: cs) (marked : ['#', '!'] <+: body) :
    ['#', '!'] <+: content := by
  cases spliced with
  | kept => exact marked
  | @edited _ kept old after output edit edits span rest =>
    obtain ⟨cs, text⟩ := words edit List.mem_cons_self
    rw [text] at marked
    match kept, marked with
    | [], marked => exact absurd (List.cons_prefix_cons.mp marked).1 (by decide)
    | [c], marked =>
      obtain ⟨-, second⟩ := List.cons_prefix_cons.mp marked
      exact absurd (List.cons_prefix_cons.mp second).1 (by decide)
    | c :: d :: kept, marked =>
      obtain ⟨rfl, second⟩ := List.cons_prefix_cons.mp marked
      obtain ⟨rfl, -⟩ := List.cons_prefix_cons.mp second
      exact ⟨kept ++ old ++ after, rfl⟩

/-- The call in a script file begins with the name, if the calls are spelled as they are by default.
-/
theorem replacement_of_applied (defaults : project.config.calls = {})
    (extracted : Extraction.ofFile (Settings.ofConfig project.config) file
      (.script dialect) content = .ok extraction)
    (framed : Framed project file content extraction.occurrences entries rewrite) {edit : Edit}
    (applied : AppliedAt extraction.occurrences (entries.zip rewrite.record.substitutions) edit) :
    ∃ cs, edit.text.toList = 'i' :: cs := by
  obtain ⟨entry, s, place, paired, -, found, -, text⟩ := applied
  have answer : Answers project.config.calls extraction.occurrences entry s :=
    List.forall₂_zip framed.each (List.mem_of_getElem? paired)
  cases answer with
  | gone gone =>
    rw [gone] at found
    cases found
  | @found place' outcome found' known =>
    have region : place'.region = .file := Extraction.region_of_mem extracted (find?_found found').1
    rw [text, substitutionAt, region, defaults]
    dsimp only
    rw [replacement, toList_call]
    exact ⟨_, rfl⟩

/-- The edits of a script leave its first line, if it ends cleanly. -/
theorem endsCleanly_of_edited (defaults : project.config.calls = {})
    (extracted : Extraction.ofFile (Settings.ofConfig project.config) file
      (.script dialect) content = .ok extraction)
    (framed : Framed project file content extraction.occurrences entries rewrite)
    (edited : Edited extraction.occurrences (entries.zip rewrite.record.substitutions)
      content.toList edits body)
    (clean : EndsCleanly content.toList) : EndsCleanly body := by
  by_cases marked : ['#', '!'] <+: content.toList
  · obtain ⟨line, rest, whole, lineMarked, single, behind⟩ := exists_line marked
    rw [whole] at clean
    have blank := (endsCleanly_iff lineMarked single behind).mp clean
    have starts (o : Occurrence) (found : o ∈ extraction.occurrences) :=
      Extraction.behind_line extracted whole lineMarked behind blank found
    rw [whole] at edited
    cases rest with
    | nil =>
      -- The line is all there is, and no literal is in it.
      have none : edits = [] := by
        refine List.eq_nil_iff_forall_not_mem.mpr fun edit made => ?_
        obtain ⟨o, found, -⟩ := edited.occurrence made
        obtain ⟨tail, nothing, -⟩ := starts o found
        cases nothing
      have spliced := edited.spliced
      rw [none] at spliced
      rw [spliced.eq_of_nil]
      exact clean
    | cons c rest =>
      obtain rfl := behind c rfl
      rw [← List.singleton_append, ← List.append_assoc] at edited
      obtain ⟨tail, rfl⟩ := edited.front fun o found => (starts o found).choose_spec.2
      rw [List.append_assoc]
      exact (endsCleanly_iff lineMarked single (by rintro c ⟨⟩; rfl)).mpr blank
  · refine fun bodyMarked => absurd (edited.spliced.marked (fun edit made => ?_) bodyMarked) marked
    exact replacement_of_applied defaults extracted framed ((edited.applied edit).mp made)

/-- The entries of an extracted script file that count as applied need the import. -/
theorem needed_of_applied
    (extracted : Extraction.ofFile (Settings.ofConfig project.config) file
      (.script dialect) content = .ok extraction)
    (framed : Framed project file content extraction.occurrences entries rewrite)
    (applied : ∃ s ∈ rewrite.record.substitutions, s.outcome = .applied) :
    ∃ entry s, (entry, s) ∈ entries.zip rewrite.record.substitutions ∧ s.outcome = .applied ∧
      entry.occurrence.region = .file := by
  obtain ⟨s, listed, applied⟩ := applied
  obtain ⟨i, inside, rfl⟩ := List.mem_iff_getElem.mp listed
  have paired : i < entries.length := framed.each.length_eq ▸ inside
  have member : (entries[i], rewrite.record.substitutions[i]) ∈
      entries.zip rewrite.record.substitutions :=
    List.mem_iff_getElem.mpr ⟨i, by rw [List.length_zip]; omega, List.getElem_zip⟩
  obtain ⟨place, found, region, -⟩ := framed.matched _ _ member applied
  exact ⟨_, _, member, applied, region ▸ Extraction.region_of_mem extracted found⟩

/-- The script can be read, and binds the name. -/
def BindsIn (dialect : Dialect) (text : List Char) (name : String) : Prop :=
  ∃ script, parse dialect text = .ok script ∧ script.binds name = true

/-- A script with the words of an import in front, if it can be read, imports the name by its first
item. -/
theorem Headed.imports {name : String} {text : List Char} {script : Document}
    (headed : Headed name text) (importable : Importable name)
    (parsed : parse dialect text = .ok script) :
    ∃ item items, script.items = item :: items ∧ ImportsDefault name item := by
  obtain ⟨front, back, preface, rfl⟩ := headed
  rw [importWords_append] at parsed
  exact imports_of_parse importable preface parsed

theorem importable_i18n : Importable "i18n" := ⟨by decide, by decide, by decide⟩

/-- A script with an import of its own in front keeps it. The script, and whatever rewritings make
of it, imports the name by its first item, as far as it can be read, and gets no other import. -/
theorem import_kept {name content later : String} (headed : Headed name content.toList)
    (importable : Importable name) (word : EndsInWord name)
    (rewritten : Rewritten name content later) :
    (∀ dialect script, parse dialect later.toList = .ok script →
      ∃ item items, script.items = item :: items ∧ ImportsDefault name item) ∧
    ∀ (project : Project) (file : String) (dialect : Dialect) (entries : List SnapshotEntry)
      (rewrite : FileRewrite), project.config.calls.moduleBinding = name →
        rewriteContent project file later (.script dialect) entries = some rewrite →
          rewrite.record.importInserted = false := by
  have still : Headed name later.toList := rewritten.headed importable.identifier word headed
  refine ⟨fun dialect script parsed => still.imports importable parsed, ?_⟩
  intro project file dialect entries rewrite binding made
  exact (still.rewriteContent importable.identifier word binding made).1

/-- What the pattern finds in the original, in front of a semicolon or a quotation mark that comes
before all literals, it finds in the edited script, and no import is put in. -/
theorem not_inserted_of_found {front rest : List Char} {stop : Char}
    (extracted : Extraction.ofFile (Settings.ofConfig project.config) file
      (.script dialect) content = .ok extraction)
    (whole : content.toList = front ++ stop :: rest) (mark : stop = '\'' ∨ stop = ';')
    (starts : ∀ o ∈ extraction.occurrences, byteLength (front ++ [stop]) ≤ o.span.start)
    (identifier : isIdentifier project.config.calls.moduleBinding = true)
    (found : bindsName front project.config.calls.moduleBinding = true)
    (made : rewriteContent project file content (.script dialect) entries = some rewrite) :
    rewrite.record.importInserted = false := by
  rcases framed_or_unchanged made with ⟨extraction', again, framed⟩ | ⟨-, needless, -⟩
  · obtain rfl : extraction = extraction' := Except.ok.inj (extracted.symm.trans again)
    obtain ⟨edits, body, edited, imported⟩ := framed.after
    rw [whole, ← List.singleton_append, ← List.append_assoc] at edited
    obtain ⟨tail, rfl⟩ := edited.front starts
    have bound : bindsName (front ++ [stop] ++ tail) project.config.calls.moduleBinding = true := by
      rw [List.append_assoc, List.singleton_append, bindsName_append identifier mark, found,
        Bool.true_or]
    rw [Bool.eq_false_iff]
    intro needed
    have unbound := (imported.needed.mp needed).2
    rw [bound] at unbound
    cases unbound
  · exact needless

end

/-- The main statement about the name that the calls in a rewritten script use, for the default
spellings of calls and any entries of which one at least is applied. The import is put in exactly if
the pattern finds nothing in the edited script. If the first line ends cleanly, the new script binds
the name exactly if it can be read and, where the pattern did find something, the edited script
binds the name; and where the import was put in, this script and whatever later rewritings make of
it import the name by their first item, as far as they can be read. -/
theorem rewritten_binds_iff {project : Project} {file content : String} {dialect : Dialect}
    {entries : List SnapshotEntry} {rewrite : FileRewrite} (defaults : project.config.calls = {})
    (made : rewriteContent project file content (.script dialect) entries = some rewrite)
    (applied : ∃ s ∈ rewrite.record.substitutions, s.outcome = .applied) :
    let output := contentAfter rewrite content
    ∃ extraction edits body,
      Extraction.ofFile (Settings.ofConfig project.config) file
      (.script dialect) content = .ok extraction ∧
      Edited extraction.occurrences (entries.zip rewrite.record.substitutions)
      content.toList edits body ∧
      (rewrite.record.importInserted = true ↔ bindsName body "i18n" = false) ∧
      (EndsCleanly content.toList →
        (BindsIn dialect output.toList "i18n" ↔
          (∃ script, parse dialect output.toList = .ok script) ∧
          (bindsName body "i18n" = true → BindsIn dialect body "i18n")) ∧
        (bindsName body "i18n" = false → ∀ later, Rewritten "i18n" output later →
          ∀ dialect script, parse dialect later.toList = .ok script →
            ∃ item items, script.items = item :: items ∧ ImportsDefault "i18n" item)) := by
  intro output
  rcases framed_or_unchanged made with ⟨extraction, extracted, framed⟩ | ⟨-, -, none⟩
  · obtain ⟨edits, body, edited, imported⟩ := framed.after
    have binding : project.config.calls.moduleBinding = "i18n" := by rw [defaults]
    have needed := imported.needed
    rw [binding, and_iff_right (needed_of_applied extracted framed applied)] at needed
    refine ⟨extraction, edits, body, extracted, edited, needed, fun clean => ?_⟩
    have word : EndsInWord "i18n" := by decide
    have headed (unbound : bindsName body "i18n" = false) : Headed "i18n" output.toList := by
      have put := imported.within (needed.mpr unbound)
      rw [importFor, binding] at put
      exact put.headed (endsCleanly_of_edited defaults extracted framed edited clean)
    refine ⟨?_, fun unbound later rewritten dialect script parsed => ?_⟩
    · cases found : bindsName body "i18n" with
      | true =>
        have same : output.toList = body :=
          imported.without (by rw [Bool.eq_false_iff, Ne, needed, found]; decide)
        rw [same]
        exact ⟨fun binds => ⟨⟨_, binds.choose_spec.1⟩, fun _ => binds⟩, fun both => both.2 rfl⟩
      | false =>
        refine ⟨fun binds => ⟨⟨_, binds.choose_spec.1⟩, nofun⟩, fun ⟨⟨script, parsed⟩, _⟩ =>
          ⟨script, parsed, ?_⟩⟩
        obtain ⟨item, items, whole, imports⟩ := (headed found).imports importable_i18n parsed
        rw [Document.binds, whole, Tree.anyBinds, imports.binds, Bool.true_or]
    · exact (rewritten.headed importable_i18n.identifier word (headed unbound)).imports
        importable_i18n parsed
  · obtain ⟨s, listed, outcome⟩ := applied
    exact absurd outcome (none s listed)

private def greetingEntry : SnapshotEntry :=
  ⟨"Common.greeting", [],
    ⟨"a.js::file::line:1", "a.js", .file, 1, .literal, 0, ⟨2, 10⟩, .plain, "你好", "'你好'", []⟩⟩

/-- A script with a line for its interpreter binds the name when it has been rewritten. -/
theorem rewritten_binds_greeting :
    let content := "#!/usr/bin/env node\r\nf('你好');\n"
    ∃ rewrite, rewriteContent { root := ⟨"/project"⟩ } "a.js" content (.script .typeScript)
    [greetingEntry] = some rewrite ∧
      (∃ s ∈ rewrite.record.substitutions, s.outcome = .applied) ∧ EndsCleanly content.toList ∧
      rewrite.content =
      some "#!/usr/bin/env node\r\nimport i18n from '@/lang';\nf(i18n.t('Common.greeting'));\n" ∧
      BindsIn .typeScript (contentAfter rewrite content).toList "i18n" := by
  intro content
  obtain ⟨rewrite, made, applied, inserted, result, read⟩ :
      ∃ rewrite ∈ rewriteContent { root := ⟨"/project"⟩ } "a.js"
      content (.script .typeScript) [greetingEntry],
      (∃ s ∈ rewrite.record.substitutions, s.outcome = .applied) ∧
        rewrite.record.importInserted = true ∧
        rewrite.content =
        some "#!/usr/bin/env node\r\nimport i18n from '@/lang';\nf(i18n.t('Common.greeting'));\n" ∧
        ∃ script ∈ (parse .typeScript (contentAfter rewrite content).toList).toOption,
        script.items.length = 2 := by
    decide +kernel
  have clean : EndsCleanly content.toList := by decide +kernel
  obtain ⟨script, parsed, -⟩ := ok_of_mem_toOption read
  obtain ⟨extraction, edits, body, -, -, needed, rest⟩ := rewritten_binds_iff rfl made applied
  have unbound := needed.mp inserted
  refine ⟨rewrite, made, applied, clean, result,
    (rest clean).1.mpr ⟨⟨script, parsed⟩, fun bound => ?_⟩⟩
  rw [unbound] at bound
  cases bound

/-- A comment is taken for an import. And a carriage return alone ends the first line for the
script, so that an added import may come to stand in a comment. -/
theorem comment_leaves_name_unbound :
    let rewritten (content : String) : Option String :=
      (rewriteContent { root := ⟨"/project"⟩ } "a.js" content (.script .javaScript)
        [greetingEntry]).bind (·.content)
    let bound (content : String) : Option Bool :=
      (parse .javaScript content.toList).toOption.map (·.binds "i18n")
    rewritten "// import i18n from '@/lang';\nf('你好');\n" =
        some "// import i18n from '@/lang';\nf(i18n.t('Common.greeting'));\n" ∧
      bound "// import i18n from '@/lang';\nf(i18n.t('Common.greeting'));\n" = some false ∧
      rewritten "#!node\r/*\n*/f('你好');\n" =
        some "#!node\r/*\nimport i18n from '@/lang';\n*/f(i18n.t('Common.greeting'));\n" ∧
      bound "#!node\r/*\nimport i18n from '@/lang';\n*/f(i18n.t('Common.greeting'));\n" =
          some false := by
  decide +kernel

end Rewriting

end Phrasebook

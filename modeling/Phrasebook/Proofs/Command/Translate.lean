import Phrasebook.Proofs.Command.Writes
import Phrasebook.Proofs.Disk.Frame

/-!
What generating a locale writes, on a disk that may refuse any request: modules in the directory of
the locale and the report of what it lacks. The directory is one of its own, beside that of the
default locale, for every language but `.` and `..`, if case is no matter of other letters than the
ASCII ones.
-/

namespace Phrasebook

open Disk (State Place Event Request)
open Disk.State
open Phrasebook.Path (IsPiece)

variable {project : Project} {language argument : String} {s t : State} {events : List Event}

namespace Locale

/-- A tree whose modules have names that can stand in a file name. -/
def Plain (tree : ResourceTree) : Prop := ∀ entry ∈ tree.modules, '/' ∉ entry.1.toList

theorem plain_empty : Plain {} := fun _ listed => nomatch listed

theorem slash_not_mem_moduleOfFile (file : Path) : '/' ∉ (moduleOfFile file).toList := by
  rw [moduleOfFile, Path.stem?]
  cases found : file.fileName? with
  | none => exact Text.slash_not_mem_capitalize (by decide)
  | some name =>
    have listed : .normal name ∈ file.components := by
      rw [Path.fileName?] at found
      split at found
      · rename_i last
        exact Option.some.inj found ▸ List.mem_of_getLast? last
      · cases found
    exact slash_not_mem_moduleOf (Path.mem_components listed).1.noSlash

theorem plain_of_readModules {files : List Path} {tree result : ResourceTree} (plain : Plain tree)
    (ends : (readModules tree files).Ends s events (.ok result) t) : Plain result := by
  induction files generalizing tree s events with
  | nil =>
    obtain ⟨same, -, -⟩ := Job.ends_pure ends
    exact Except.ok.inj same ▸ plain
  | cons file rest ih =>
    rw [readModules] at ends
    obtain ⟨content, u, front, back, -, ends, -⟩ := ends.of_bind
    split at ends
    · refine ih (fun entry listed => ?_) ends
      rcases Text.mem_put listed with rfl | old
      · exact slash_not_mem_moduleOfFile file
      · exact plain entry old
    · cases Job.ends_throw ends

theorem plain_of_read {directory : Path} {tree : ResourceTree}
    (ends : (read directory).Ends s events (.ok tree) t) : Plain tree := by
  rw [read] at ends
  obtain ⟨kind, u, front, back, -, ends, -⟩ := ends.of_bind
  split at ends
  · obtain ⟨same, -, -⟩ := Job.ends_pure ends
    exact Except.ok.inj same ▸ plain_empty
  · obtain ⟨entries, v, middle, last, -, ends, -⟩ := ends.of_bind
    exact plain_of_readModules plain_empty ends

theorem readModules_reads (tree : ResourceTree) (files : List Path) :
    (readModules tree files).Only Request.Reads := by
  induction files generalizing tree with
  | nil => exact .pure _
  | cons file rest ih =>
    rw [readModules]
    refine .bind (.attempt (.request trivial)) fun content => ?_
    split
    · exact ih _
    · exact .throw _

theorem read_reads (directory : Path) : (read directory).Only Request.Reads := by
  refine .bind (.lift (.request trivial)) fun kind => ?_
  split
  · exact .pure _
  · exact .bind (.attempt (.request trivial)) fun entries => readModules_reads _ _

end Locale

namespace Project

open Phrasebook.Locale

/-- Where it is said what a locale lacks. -/
def reportPath (project : Project) (language : String) : Path :=
  project.outputDir.join ⟨"missing-translations-" ++ Text.lowercase language ++ ".md"⟩

/-- What may be asked of the disk for a locale: nothing is written but modules in its directory and
the report. -/
inductive Confined (project : Project) (language : String) : Request → Prop
  | reads {request : Request} (reads : request.Reads) : Confined project language request
  | directory : Confined project language (.createDirectory (project.localeDir language))
  | module (name content : String) (noSlash : '/' ∉ name.toList) :
    Confined project language
    (.write ((project.localeDir language).join ⟨moduleFileName name⟩) content)
  | report (content : String) :
      Confined project language (.write (project.reportPath language) content)

theorem writeModules_confined {modules : List (String × ResourceNode)}
    (plain : ∀ entry ∈ modules, '/' ∉ entry.1.toList) (written : List Path) :
    (writeModules (project.localeDir language) written modules).Only
      (Confined project language) := by
  induction modules generalizing written with
  | nil => exact .pure _
  | cons entry rest ih =>
    obtain ⟨first, others⟩ := List.forall_mem_cons.mp plain
    exact .unless fun _ => .bind (.attempt (.request (.module _ _ first))) fun _ => ih others _

theorem writeTranslated_confined {tree : ResourceTree} (plain : Plain tree) (template : Template) :
    (writeTranslated project language template tree).Only (Confined project language) := by
  rw [writeTranslated, Template.translateTree_eq]
  refine .bind (.bind (.attempt (.request .directory)) fun _ =>
    writeModules_confined ?_ _) fun files => ?_
  · intro entry listed
    have named : entry.1 ∈ tree.modules.map (·.1) :=
      mapTexts_names _ tree ▸ List.mem_map_of_mem listed
    obtain ⟨source, member, same⟩ := List.mem_map.mp named
    exact same ▸ plain source member
  · refine .bind ?_ fun report => .pure _
    unfold writeMissing
    split
    · exact .pure _
    · exact .bind (.attempt (.request (.report _))) fun _ => .pure _

theorem writeTarget_confined (passes : (writeTarget project language).Passes s events t) :
    ∀ event ∈ events, Confined project language event.request := by
  have reading {u v : State} {events : List Event} {directory : Path}
      (passes : (read directory).Passes u events v) :
      ∀ event ∈ events, Confined project language event.request := by
    obtain ⟨rest, runs⟩ := passes
    exact fun event listed => .reads (runs.only (read_reads directory) event listed)
  unfold writeTarget at passes
  rcases passes.of_bind with first | ⟨tree, u, front, back, first, ⟨rest, runs⟩, rfl⟩
  · exact reading first
  · have plain := plain_of_read first
    refine List.forall_mem_append.mpr ⟨reading first.passes, runs.only ?_⟩
    refine Job.Only.unless fun _ =>
      .bind (.lift (.bind (.request (.reads trivial)) fun _ => .done _)) fun there => ?_
    refine .unless fun _ => .bind (.attempt (.request (.reads trivial))) fun text => ?_
    exact writeTranslated_confined plain _

theorem translate_confined
    (accepted : Command.targetLanguage project.config argument = .ok language)
    (passes : (project.translate argument).Passes s events t) :
    ∀ event ∈ events, Confined project language event.request := by
  unfold translate at passes
  rw [accepted] at passes
  rcases passes.of_bind with first | ⟨output, u, front, back, first, more, rfl⟩
  · exact writeTarget_confined first
  · obtain ⟨rfl, -⟩ := Job.passes_pure more
    exact (List.append_nil front).symm ▸ writeTarget_confined first.passes

theorem Confined.touches {request : Request} {home place : Place}
    (confined : Confined project language request) (touches : request.Touches home place) :
    (∃ above name, lead home (project.localeDir language).components = .ok above ∧
      place = above ++ [moduleFileName name]) ∨ ∃ above name, place = above ++ [name ++ ".md"] := by
  cases confined with
  | reads reads => cases request <;> first | exact touches.elim | exact reads.elim
  | directory => exact touches.elim
  | module name content noSlash =>
    obtain ⟨above, leads, same⟩ := lead_join_name _ (isPiece_moduleFileName noSlash) touches
    exact .inl ⟨above, name, leads, same⟩
  | report content =>
    have relative :
        Path.isAbsolute ⟨"missing-translations-" ++ Text.lowercase language ++ ".md"⟩ = false := by
      simp [Path.isAbsolute]
    exact .inr (lead_join_append project.outputDir (by decide) (by decide) relative touches)

theorem Confined.ne_copy {request : Request} {source target : Path}
    (confined : Confined project language request) : request ≠ .copy source target := by
  rintro rfl
  cases confined with
  | reads reads => exact reads

theorem Confined.write {file : Path} {content : String}
    (confined : Confined project language (.write file content)) :
    file = project.reportPath language ∨
      ∃ name, IsPiece name ∧ file.components = (project.localeDir language).components ++
        [.normal name] := by
  cases confined with
  | reads reads => exact reads.elim
  | report => exact .inl rfl
  | module name content noSlash =>
    exact .inr ⟨_, isPiece_moduleFileName noSlash,
      Path.components_join_name _ (isPiece_moduleFileName noSlash)⟩

/-- A file has the content that it had. -/
def KeepsFile (s t : State) (file : Path) : Prop :=
  ∀ content, s.content file = .ok content → t.content file = .ok content

/-- A file keeps its content if its place is none of a module of the locale and its name not one of
a report. -/
theorem keepsFile_of_passes {above : Path} {name : String} (isPiece : IsPiece name)
    (accepted : Command.targetLanguage project.config argument = .ok language)
    (passes : (project.translate argument).Passes s events t)
    (noReport : ∀ front, name ≠ front ++ ".md")
    (noModule : ∀ module, name = moduleFileName module → ∀ place,
      lead s.workingDirectory above.components = .ok place →
        lead s.workingDirectory (project.localeDir language).components ≠ .ok place) :
    KeepsFile s t (above.join ⟨name⟩) := by
  intro content held
  have confined := translate_confined accepted passes
  obtain ⟨rest, runs⟩ := passes
  refine runs.grows.content held ?_
  rintro place leads ⟨event, listed, touches⟩
  obtain ⟨parent, parentLeads, rfl⟩ := lead_join_name above isPiece leads
  rcases (confined event listed).touches touches
    with ⟨other, module, goes, same⟩ | ⟨other, front, same⟩
  · obtain ⟨rfl, last⟩ := List.append_inj' same rfl
    exact noModule module (List.singleton_inj.mp last) _ parentLeads goes
  · exact noReport front (List.singleton_inj.mp (List.append_inj_right' same rfl))

theorem isPiece_lowercase {text : String} (isPiece : IsPiece text) :
    IsPiece (Text.lowercase text) where
  filled same := isPiece.filled (Text.eq_of_lowercase_dots (by simp) same)
  noSlash := Text.slash_not_mem_lowercase isPiece.noSlash
  noDot same := isPiece.noDot (Text.eq_of_lowercase_dots (by simp) same)
  noDots same := isPiece.noDots (Text.eq_of_lowercase_dots (by simp) same)

theorem of_targetLanguage {config : Config}
    (accepted : Command.targetLanguage config argument = .ok language) :
    language ≠ "" ∧ '/' ∉ language.toList ∧ Text.lowercaseAscii language ≠
      Text.lowercaseAscii config.defaultLocale := by
  unfold Command.targetLanguage at accepted
  dsimp only at accepted
  split at accepted
  · cases accepted
  · rename_i valid
    split at accepted
    · cases accepted
    · rename_i other
      obtain rfl := Except.ok.inj accepted
      rw [Bool.or_eq_true, not_or, String.isEmpty_iff, List.any_eq_true] at valid
      refine ⟨valid.1, fun slash => valid.2 ⟨'/', slash, rfl⟩, fun same => other ?_⟩
      rw [Text.equalsIgnoringAsciiCase, same]
      exact beq_self_eq_true _

theorem components_localeDir (project : Project) (isPiece : IsPiece language) :
    (project.localeDir language).components =
      project.langDir.components ++ [.normal (Text.lowercase language)] :=
  Path.components_join_name _ (isPiece_lowercase isPiece)

theorem langDir_text_ne (project : Project) : project.langDir.text ≠ "" := by
  intro empty
  have parts := components_langDir project
  rw [Path.components_of_empty empty] at parts
  exact List.append_ne_nil_of_right_ne_nil _ (List.cons_ne_nil _ _) parts.symm

/-- The locale of a language is a directory of its own: one right below that of all locales, and not
that of the default locale. -/
structure OwnDirectory (project : Project) (home : Place) (language : String) : Prop where
  below : ∃ name, IsPiece name ∧
    (project.localeDir language).components = project.langDir.components ++ [.normal name]
  apart : ∀ place, lead home (project.localeDir language).components = .ok place →
    lead home (project.localeDir project.config.defaultLocale).components ≠ .ok place

theorem OwnDirectory.off_langDir {home place : Place} (own : project.OwnDirectory home language)
    (leads : lead home project.langDir.components = .ok place) :
    lead home (project.localeDir language).components ≠ .ok place := by
  intro same
  obtain ⟨name, -, parts⟩ := own.below
  obtain ⟨above, outer, rfl⟩ := lead_concat (parts ▸ same)
  simpa using Except.ok.inj (leads.symm.trans outer)

/-- A dot leads nowhere and two dots lead out, and every other code leads to a directory right
below. -/
theorem below_iff (isCode : language ≠ "" ∧ '/' ∉ language.toList) :
    (∃ name, IsPiece name ∧
      (project.localeDir language).components = project.langDir.components ++ [.normal name]) ↔
      language ≠ "." ∧ language ≠ ".." := by
  have filled := langDir_text_ne project
  constructor
  · rintro ⟨name, -, parts⟩
    constructor
    · rintro rfl
      have lower : Text.lowercase "." = "." := by decide +kernel
      rw [localeDir, lower, Path.components_join filled (by decide)] at parts
      cases List.append_cancel_left parts
    · rintro rfl
      have lower : Text.lowercase ".." = ".." := by decide +kernel
      rw [localeDir, lower, Path.components_join filled (by decide)] at parts
      cases List.append_cancel_left parts
  · rintro ⟨noDot, noDots⟩
    have isPiece : IsPiece language := ⟨isCode.1, isCode.2, noDot, noDots⟩
    exact ⟨_, isPiece_lowercase isPiece, components_localeDir project isPiece⟩

theorem ownDirectory_of_ne (isPiece : IsPiece language)
    (plain : IsPiece project.config.defaultLocale)
    (other : Text.lowercase language ≠ Text.lowercase project.config.defaultLocale) (home : Place) :
    project.OwnDirectory home language where
  below := ⟨_, isPiece_lowercase isPiece, components_localeDir project isPiece⟩
  apart place leads same := by
    rw [components_localeDir project isPiece] at leads
    rw [components_localeDir project plain] at same
    obtain ⟨above, outer, rfl⟩ := lead_concat leads
    obtain ⟨front, inner, again⟩ := lead_concat same
    obtain rfl := Except.ok.inj (outer.symm.trans inner)
    exact other (List.singleton_inj.mp (List.append_cancel_left again))

/-- Whatever the disk refuses, a language that is accepted has its report and files in one directory
written, and nothing else; the template keeps its content. The directory is right below that of all
locales for each language but `.` and `..`, and another one than that of the default locale if the
two differ in lower case, as those with ASCII letters do. Then the loading script and the modules of
the default locale keep their content, too. -/
theorem translate_keeps_apart (project : Project) {argument language : String}
    (accepted : Command.targetLanguage project.config argument = .ok language) :
    ((∃ name, IsPiece name ∧
      (project.localeDir language).components = project.langDir.components ++ [.normal name]) ↔
        language ≠ "." ∧ language ≠ "..") ∧
    ((∀ c ∈ language.toList ++ project.config.defaultLocale.toList, c.toNat < 128) →
      Text.lowercase language ≠ Text.lowercase project.config.defaultLocale) ∧
    (language ≠ "." → language ≠ ".." → IsPiece project.config.defaultLocale →
      Text.lowercase language ≠ Text.lowercase project.config.defaultLocale →
      ∀ home, project.OwnDirectory home language) ∧
    ∀ s events t, (project.translate argument).Passes s events t →
      (∀ event ∈ events, (∀ source target, event.request ≠ .copy source target) ∧
        ∀ file content, event.request = .write file content → file = project.reportPath language ∨
          ∃ name, IsPiece name ∧
            file.components = (project.localeDir language).components ++ [.normal name]) ∧
      KeepsFile s t project.templatePath ∧
      (project.OwnDirectory s.workingDirectory language →
        KeepsFile s t (project.langDir.join ⟨"index.js"⟩) ∧
        ∀ name, IsPiece name → IsModuleFile name →
          KeepsFile s t ((project.localeDir project.config.defaultLocale).join ⟨name⟩)) := by
  obtain ⟨filled, noSlash, differs⟩ := of_targetLanguage accepted
  refine ⟨below_iff ⟨filled, noSlash⟩, fun ascii => ?_, fun noDot noDots =>
    ownDirectory_of_ne ⟨filled, noSlash, noDot, noDots⟩, fun s events t passes =>
      ⟨?_, ?_, fun own => ⟨?_, ?_⟩⟩⟩
  · obtain ⟨first, second⟩ := List.forall_mem_append.mp ascii
    rwa [Text.lowercase_ascii first, Text.lowercase_ascii second]
  · intro event listed
    have confined := translate_confined accepted passes event listed
    exact ⟨fun source target => confined.ne_copy, fun file content same => (same ▸ confined).write⟩
  · refine keepsFile_of_passes isPiece_of_decide accepted passes (fun front same => ?_)
      fun module same => ?_
    · simpa using congrArg (·.toList.getLast?) same
    · simpa [moduleFileName] using congrArg (·.toList.getLast?) same
  · refine keepsFile_of_passes isPiece_of_decide accepted passes
        (fun front same => ?_) fun _ _ place =>
      own.off_langDir
    simpa using congrArg (·.toList.getLast?) same
  · intro name isPiece isModule
    refine keepsFile_of_passes isPiece accepted passes (fun front same => ?_)
        fun _ _ place leads goes =>
      own.apart place goes leads
    exact @not_isModuleFile_append front "md" (by decide) (by decide) (by decide) (same ▸ isModule)

private def rooted : Project := { root := ⟨"/"⟩ }

private def loadingScript : Path := rooted.langDir.join ⟨"index.js"⟩

private def indexModule : Path := (rooted.localeDir "zh-cn").join ⟨"index.js"⟩

/-- A loading script and a module of the default locale, in files with the same name. -/
private def stocked : State := { entries := [
  (["output"], .directory), (["output", "translation-template.txt"], .file (.text "好 = good\n")),
  (["output", "lang"], .directory), (["output", "lang", "index.js"], .file (.text "start();\n")),
  (["output", "lang", "zh-cn"], .directory),
  (["output", "lang", "zh-cn", "index.js"],
    .file (.text "export default \x7b greeting: '好' \x7d;\n"))] }

theorem translate_keeps_apart_english :
    Command.targetLanguage rooted.config " en-US\n" = .ok "en-US" ∧ rooted.OwnDirectory [] "en-US" ∧
    ∃ outcome t, (rooted.translate " en-US\n").runWith answer stocked = (.ok outcome, t) ∧
      t.content loadingScript = .ok (.text "start();\n") ∧
      t.content indexModule = .ok (.text "export default \x7b greeting: '好' \x7d;\n") := by
  have accepted : Command.targetLanguage rooted.config " en-US\n" = .ok "en-US" := by decide +kernel
  obtain ⟨-, ascii, ownDirectory, runs⟩ := translate_keeps_apart rooted accepted
  have own := ownDirectory (by decide) (by decide) isPiece_of_decide
    (ascii (List.all_iff_forall_prop.mp (by decide +kernel)))
  obtain ⟨outcome, done, -⟩ : ∃ outcome,
      ((rooted.translate " en-US\n").runWith answer stocked).1 = .ok outcome ∧ True :=
    ok_of_mem_toOption (by decide +kernel)
  obtain ⟨events, ends⟩ := Job.ends_of_runWith (Prod.ext done rfl)
  obtain ⟨-, -, keeps⟩ := runs stocked events _ ends.passes
  obtain ⟨script, modules⟩ := keeps (own _)
  have isModule : IsModuleFile "index.js" := by
    unfold IsModuleFile
    decide +kernel
  exact ⟨accepted, own [], outcome, _, Prod.ext done rfl, script _ (by decide +kernel),
    modules "index.js" isPiece_of_decide isModule _ (by decide +kernel)⟩

/-- The language of a dot puts a module in the place of the loading script. -/
theorem translate_overwrites_script : Command.targetLanguage rooted.config "." = .ok "." ∧
    stocked.content loadingScript = .ok (.text "start();\n") ∧
    ∃ outcome t, (rooted.translate ".").runWith answer stocked = (.ok outcome, t) ∧
      t.content loadingScript = .ok
        (.text (ResourceNode.group [("greeting", .text "good")]).moduleText) := by
  have overwritten :
    (∃ outcome ∈ ((rooted.translate ".").runWith answer stocked).1.toOption, True) ∧
      ((rooted.translate ".").runWith answer stocked).2.content loadingScript =
        .ok (.text (ResourceNode.group [("greeting", .text "good")]).moduleText) :=
        by decide +kernel
  obtain ⟨finished, content⟩ := overwritten
  obtain ⟨outcome, done, -⟩ := ok_of_mem_toOption finished
  exact ⟨by decide +kernel, by decide +kernel, outcome, _, Prod.ext done rfl, content⟩

end Project
end Phrasebook

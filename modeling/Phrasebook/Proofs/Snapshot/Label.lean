import Phrasebook.Proofs.Extraction.Phrase
import Phrasebook.Proofs.Snapshot.Partition

/-!
Placeholders of occurrences that share a key. They have one phrase, and the identifiers in braces
that this has are the placeholders of either one together with those that its static chunks write
out by hand.
-/

namespace Phrasebook

open Phrase Text

namespace ProjectExtraction

/-- An occurrence of one of the files, as some content of this has it. -/
def FromFile (settings : Settings) (files : List SourceFile) (o : Occurrence) : Prop :=
  ∃ file ∈ files, ∃ content extraction,
    Extraction.ofFile settings file.relative file.kind content = .ok extraction ∧
    o ∈ extraction.occurrences

variable {settings : Settings} {all : List SourceFile}

theorem fromFile_of_addContent {found next : ProjectExtraction} {file : SourceFile}
    {content : String} (listed : file ∈ all)
    (known : ∀ o ∈ found.occurrences, FromFile settings all o)
    (added : found.addContent settings file.relative content file.kind = .ok next) :
    ∀ o ∈ next.occurrences, FromFile settings all o := by
  unfold addContent at added
  split at added
  · rename_i extraction extracted
    obtain rfl := Except.ok.inj added
    intro o member
    rcases List.mem_append.mp member with old | new
    · exact known o old
    · exact ⟨file, listed, content, extraction, extracted, new⟩
  · cases added
  · obtain rfl := Except.ok.inj added
    exact known

/-- What is read of files comes from them, whatever the disk answers. -/
theorem fromFile_of_readFiles {σ : Type} (answer : Disk.Answering σ)
    {found whole : ProjectExtraction} {files : List SourceFile}
    (listed : ∀ file ∈ files, file ∈ all)
    (known : ∀ o ∈ found.occurrences, FromFile settings all o) (s : σ)
    (ended : ((readFiles settings found files).runWith answer s).1 = .ok whole) :
    ∀ o ∈ whole.occurrences, FromFile settings all o := by
  induction files generalizing found s with
  | nil =>
    obtain rfl := Except.ok.inj ended
    exact known
  | cons file rest ih =>
    obtain ⟨here, listed⟩ := List.forall_mem_cons.mp listed
    rw [readFiles, Job.runWith_bind, Job.runWith_lift] at ended
    dsimp only at ended
    cases read : (Disk.read file.path).run answer s with
    | mk reply s =>
      rw [read] at ended
      cases reply with
      | error fault =>
        have same : (found.addUnreadable file.relative fault.message).occurrences =
            found.occurrences := rfl
        exact ih listed (same ▸ known) s ended
      | ok content =>
        dsimp only at ended
        cases added : found.addContent settings file.relative content file.kind with
        | ok next =>
          rw [added] at ended
          exact ih listed (fromFile_of_addContent here known added) s ended
        | error failure =>
          rw [added] at ended
          cases ended

/-- The static chunks of an occurrence of one of the files. -/
def Chunked (settings : Settings) (files : List SourceFile) (o : Occurrence)
    (chunks : List String) : Prop :=
  ∃ file ∈ files, ∃ content : String, Extraction.Phrased settings file.kind content.toList o chunks

theorem FromFile.chunked {o : Occurrence} (origin : FromFile settings all o) :
    ∃ chunks, Chunked settings all o chunks := by
  obtain ⟨file, listed, content, extraction, extracted, member⟩ := origin
  obtain ⟨chunks, phrased⟩ := Extraction.phrased_of_mem extracted member
  exact ⟨chunks, file, listed, content, phrased⟩

end ProjectExtraction

/-- The placeholders of a key's occurrence. -/
def KeyEntry.labels (entry : KeyEntry) : List String := entry.bindings.map (·.label)

namespace Snapshot

open ProjectExtraction

/-- A static chunk has an identifier in braces, as if it were a placeholder. -/
def ByHand (chunks : List String) (name : String) : Prop :=
  isIdentifier name = true ∧ ∃ chunk ∈ chunks, Writes chunk name

/-- The identifiers in braces of a phrase are placeholders or written by hand. -/
theorem mem_labels_or_byHand_iff {settings : Settings} {files : List SourceFile} {o : Occurrence}
    {chunks : List String} (chunked : Chunked settings files o chunks) {name : String}
    (identifier : isIdentifier name = true) :
    Writes o.text name ↔ name ∈ o.captured.map (·.label) ∨ ByHand chunks name := by
  obtain ⟨file, -, content, phrased⟩ := chunked
  exact (phrased.writes_iff identifier).trans (or_congr_right (and_iff_right identifier).symm)

theorem isIdentifier_of_mem_labels {settings : Settings} {files : List SourceFile} {o : Occurrence}
    {chunks : List String} (chunked : Chunked settings files o chunks) {name : String}
    (member : name ∈ o.captured.map (·.label)) : isIdentifier name = true := by
  obtain ⟨file, -, content, phrased⟩ := chunked
  obtain ⟨b, listed, rfl⟩ := List.mem_map.mp member
  exact phrased.labels b listed

/-- The main statement about the placeholders of a key, for all files, whatever the disk answers,
and from any state of the assigner on. Two occurrences that have one key have one phrase, which the
tree has for the key; its identifiers in braces are the placeholders of either occurrence and those
that its static chunks write by hand. So the placeholders of the two are the same exactly if none of
one is only written by hand in the other. -/
theorem shared_key_labels {σ : Type} (answer : Disk.Answering σ) (s : σ) (settings : Settings)
    (files : List SourceFile) (names : (files.map (·.relative)).Nodup) (assigner : Key.Assigner)
    {found : ProjectExtraction}
    (ended : ((ofFiles settings files).runWith answer s).1 = .ok found) :
    let done := assigner.assign found.occurrences
    ∀ o₁ ∈ found.occurrences, ∀ o₂ ∈ found.occurrences, ∀ entry₁ entry₂,
      done.entries.lookup o₁.locationKey = some entry₁ →
      done.entries.lookup o₂.locationKey = some entry₂ → entry₁.key = entry₂.key →
      ∃ phrase, done.tree.text? entry₁.key = some phrase ∧ o₁.text = phrase ∧ o₂.text = phrase ∧
        ∃ chunks₁ chunks₂, Chunked settings files o₁ chunks₁ ∧ Chunked settings files o₂ chunks₂ ∧
          (∀ name, isIdentifier name = true →
            (Writes phrase name ↔ name ∈ entry₁.labels ∨ ByHand chunks₁ name)) ∧
          (∀ name, isIdentifier name = true →
            (Writes phrase name ↔ name ∈ entry₂.labels ∨ ByHand chunks₂ name)) ∧
          ((∀ name, name ∈ entry₁.labels ↔ name ∈ entry₂.labels) ↔
            (∀ name ∈ entry₁.labels, ByHand chunks₂ name → name ∈ entry₂.labels) ∧
            ∀ name ∈ entry₂.labels, ByHand chunks₁ name → name ∈ entry₁.labels) := by
  intro done o₁ first o₂ second entry₁ entry₂ held₁ held₂ same
  have origin := fromFile_of_readFiles answer (fun _ => id)
      (fun o member => absurd member List.not_mem_nil) s ended
  have distinct : (found.occurrences.map (·.locationKey)).Nodup := by
    have start : Distinct { fileCount := files.length } files := ⟨List.nodup_nil, by simp, by simp⟩
    have ends := readFiles_distinct answer settings start names s
    unfold ofFiles at ended
    rwa [ended] at ends
  obtain ⟨last, sound, tree⟩ := assigner.assign_sound distinct
  obtain ⟨text₁, -, bindings₁⟩ := sound.entries o₁ first entry₁ held₁
  obtain ⟨text₂, -, bindings₂⟩ := sound.entries o₂ second entry₂ held₂
  have phrase : o₂.text = o₁.text := by
    rw [same] at text₁
    exact Option.some.inj (text₂.symm.trans text₁)
  obtain ⟨chunks₁, chunked₁⟩ := (origin o₁ first).chunked
  obtain ⟨chunks₂, chunked₂⟩ := (origin o₂ second).chunked
  have writes₁ (name : String) (identifier : isIdentifier name = true) :
      Writes o₁.text name ↔ name ∈ entry₁.labels ∨ ByHand chunks₁ name := by
    rw [KeyEntry.labels, bindings₁]
    exact mem_labels_or_byHand_iff chunked₁ identifier
  have writes₂ (name : String) (identifier : isIdentifier name = true) :
      Writes o₁.text name ↔ name ∈ entry₂.labels ∨ ByHand chunks₂ name := by
    rw [KeyEntry.labels, bindings₂, ← phrase]
    exact mem_labels_or_byHand_iff chunked₂ identifier
  refine ⟨o₁.text, tree ▸ text₁, rfl, phrase, chunks₁, chunks₂, chunked₁, chunked₂,
    writes₁, writes₂, ?_⟩
  have identifier₁ : ∀ name ∈ entry₁.labels, isIdentifier name = true := fun name member =>
    isIdentifier_of_mem_labels chunked₁ (bindings₁ ▸ member)
  have identifier₂ : ∀ name ∈ entry₂.labels, isIdentifier name = true := fun name member =>
    isIdentifier_of_mem_labels chunked₂ (bindings₂ ▸ member)
  constructor
  · intro alike
    exact ⟨fun name member _ => (alike name).mp member, fun name member _ =>
      (alike name).mpr member⟩
  · rintro ⟨forth, back⟩ name
    constructor
    · intro member
      have placed := (writes₁ name (identifier₁ name member)).mpr (.inl member)
      exact ((writes₂ name (identifier₁ name member)).mp placed).elim id (forth name member)
    · intro member
      have placed := (writes₂ name (identifier₂ name member)).mpr (.inl member)
      exact ((writes₁ name (identifier₂ name member)).mp placed).elim id (back name member)

private def both : List SourceFile :=
  [⟨⟨"/one"⟩, "a.js", .script .javaScript⟩, ⟨⟨"/two"⟩, "b.js", .script .javaScript⟩]

/-- The files with these contents. -/
private def holding (first second : String) : Disk.State :=
  { entries := [(["one"], .file (.text first)), (["two"], .file (.text second))] }

private def freshAssigner : Key.Assigner := Key.Assigner.ofRules (Key.Rules.ofConfig {})

private def ofPath : Occurrence :=
  ⟨"a.js::file::line:1", "a.js", .file, 1, .templateLiteral, 0,
    ⟨0, 20⟩, .interpolated, "你好\x7bname\x7d",
    "\x60你好$\x7buser.name\x7d\x60", [⟨"name", "user.name"⟩]⟩

private def ofName : Occurrence :=
  ⟨"b.js::file::line:1", "b.js", .file, 1, .templateLiteral, 0,
    ⟨0, 15⟩, .interpolated, "你好\x7bname\x7d", "\x60你好$\x7bname\x7d\x60", [⟨"name", "name"⟩]⟩

/-- Two template literals with different expressions that have one label. -/
theorem shared_key_labels_paths :
    ∃ found, ((ofFiles (Settings.ofConfig {}) both).runWith Disk.State.answer
        (holding ofPath.raw ofName.raw)).1 = .ok found ∧ found.occurrences = [ofPath, ofName] ∧
      (freshAssigner.assign found.occurrences).entries =
        [("a.js::file::line:1", ⟨"Common.textb7uej8", [⟨"name", "user.name"⟩]⟩),
          ("b.js::file::line:1", ⟨"Common.textb7uej8", [⟨"name", "name"⟩]⟩)] ∧
      (freshAssigner.assign found.occurrences).tree.text? "Common.textb7uej8" =
        some "你好\x7bname\x7d" := by
  have answers : ((((ofFiles (Settings.ofConfig {}) both).runWith Disk.State.answer
      (holding ofPath.raw ofName.raw)).1.toOption).map fun found =>
        (found.occurrences, (freshAssigner.assign found.occurrences).entries)) =
      some ([ofPath, ofName],
        [("a.js::file::line:1", ⟨"Common.textb7uej8", [⟨"name", "user.name"⟩]⟩),
          ("b.js::file::line:1", ⟨"Common.textb7uej8", [⟨"name", "name"⟩]⟩)]) := by decide +kernel
  obtain ⟨found, ended, same⟩ := ok_of_map_toOption answers
  obtain ⟨occurrences, entries⟩ := Prod.mk.inj same
  have first : ofPath ∈ found.occurrences := by
    rw [occurrences]
    exact List.mem_cons_self
  have second : ofName ∈ found.occurrences := by
    rw [occurrences]
    exact List.mem_cons_of_mem _ List.mem_cons_self
  obtain ⟨phrase, held, text, -⟩ :=
    shared_key_labels Disk.State.answer _ _ both (by decide) freshAssigner ended ofPath
      first ofName second ⟨"Common.textb7uej8", [⟨"name", "user.name"⟩]⟩
      ⟨"Common.textb7uej8", [⟨"name", "name"⟩]⟩ (by rw [entries]; rfl) (by rw [entries]; rfl) rfl
  obtain rfl : "你好\x7bname\x7d" = phrase := text
  exact ⟨found, ended, occurrences, entries, held⟩

/-- A string with braces of its own shares its key with a template literal, and has no placeholders.
-/
theorem braces_by_hand_share_key :
    ∃ found, ((ofFiles (Settings.ofConfig {}) both).runWith Disk.State.answer
        (holding "'你好\x7bname\x7d'" "\x60你好$\x7bname\x7d\x60")).1 = .ok found ∧
      (freshAssigner.assign found.occurrences).entries =
        [("a.js::file::line:1", ⟨"Common.textb7uej8", []⟩),
          ("b.js::file::line:1", ⟨"Common.textb7uej8", [⟨"name", "name"⟩]⟩)] :=
  ok_of_map_toOption (by decide +kernel)

end Snapshot
end Phrasebook

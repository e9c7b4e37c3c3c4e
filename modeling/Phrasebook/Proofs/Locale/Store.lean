import Phrasebook.Locale.Store
import Phrasebook.Proofs.Disk.Proper
import Phrasebook.Proofs.Text.Character
import Phrasebook.Proofs.Text.Table

/-!
Locales on a disk. Writing a locale fills one file for each of its modules and changes no other
file. Reading gives each module as its file holds it; of files for the same module the last one
counts.
-/

namespace Phrasebook.Locale

open Disk (State Place Entry)
open Disk.State
open Phrasebook.Path (IsPiece)

variable {s t : State} {directory : Path} {place : Place}

theorem isPiece_moduleFileName {name : String} (noSlash : '/' ∉ name.toList) :
    IsPiece (moduleFileName name) := by
  have text : (moduleFileName name).toList = (Text.decapitalize name).toList ++
      ['.', 'j', 's'] := by
    simp [moduleFileName]
  have other (short : String) (brief : short.toList.length < 3) : moduleFileName name ≠ short := by
    intro same
    rw [← same, text, List.length_append] at brief
    exact absurd brief (Nat.not_lt.mpr (Nat.le_add_left _ _))
  refine ⟨other "" (by decide), ?_, other "." (by decide), other ".." (by decide)⟩
  rw [text, List.mem_append, not_or]
  exact ⟨Text.slash_not_mem_decapitalize noSlash, by decide⟩

/-- The modules that are written go to files of their own, and nothing else changes. -/
theorem writeModules_spec {modules : List (String × ResourceNode)} {written files : List Path}
    (plain : ∀ entry ∈ modules, '/' ∉ entry.1.toList)
    (led : lead s.workingDirectory directory.components = .ok place)
    (done : (writeModules directory written modules).runWith answer s = (.ok files, t)) :
    (∀ entry ∈ modules, t.entry? (place ++ [moduleFileName entry.1]) =
      some (.file (.text entry.2.moduleText))) ∧
    Within (fun other => ∃ entry ∈ modules, other = place ++ [moduleFileName entry.1]) s t ∧
    ∀ entry ∈ modules, ∀ file ∈ written,
      file.components ≠ (directory.join ⟨moduleFileName entry.1⟩).components := by
  induction modules generalizing s written with
  | nil =>
    obtain ⟨-, rfl⟩ := Prod.mk.inj done
    exact ⟨by simp, .refl _ s, by simp⟩
  | cons entry rest ih =>
    obtain ⟨name, node⟩ := entry
    have isPiece := isPiece_moduleFileName (plain _ List.mem_cons_self)
    have others : ∀ entry ∈ rest, '/' ∉ entry.1.toList := fun entry listed =>
      plain entry (List.mem_cons_of_mem _ listed)
    rw [writeModules] at done
    dsimp only at done
    split at done
    · obtain ⟨_, _, failed, -⟩ := Job.bind_ok done
      cases (Prod.mk.inj failed).1
    · rename_i unused
      obtain ⟨_, middle, filled, done⟩ := Job.bind_ok done
      obtain ⟨goal, goes, held, within⟩ := writeFile_spec filled
      obtain ⟨above, leads, rfl⟩ := lead_join_name directory isPiece goes
      obtain rfl := Except.ok.inj (led.symm.trans leads)
      obtain ⟨texts, later, apart⟩ := ih others (by rw [within.home]; exact led) done
      refine ⟨fun entry listed => ?_, (within.mono ?_).trans (later.mono ?_),
        fun entry listed file member => ?_⟩
      · rcases List.mem_cons.mp listed with rfl | listed
        · refine (later.kept _ ?_).trans held
          rintro ⟨other, member, same⟩
          refine apart other member _ (List.mem_append_right _ List.mem_cons_self) ?_
          rw [List.singleton_inj.mp (List.append_cancel_left same)]
        · exact texts entry listed
      · rintro other rfl
        exact ⟨_, List.mem_cons_self, rfl⟩
      · rintro other ⟨entry, listed, rfl⟩
        exact ⟨entry, List.mem_cons_of_mem _ listed, rfl⟩
      · rcases List.mem_cons.mp listed with rfl | listed
        · intro same
          exact unused (List.any_eq_true.mpr ⟨file, member, by simpa using same⟩)
        · exact apart entry listed file (List.mem_append_left _ member)

/-- What writing a locale does. -/
theorem write_spec {tree : ResourceTree} {files : List Path}
    (plain : ∀ entry ∈ tree.modules, '/' ∉ entry.1.toList)
    (done : (write directory tree).runWith answer s = (.ok files, t)) :
    ∃ place, t.walk t.workingDirectory directory.components = .ok place ∧
      directory.text.toList.contains '\x00' = false ∧ t.entry? place = some .directory ∧
      (∀ entry ∈ tree.modules, t.entry? (place ++ [moduleFileName entry.1]) =
        some (.file (.text entry.2.moduleText))) ∧
      Within (fun other => other ∈ way s.workingDirectory directory.components ∧ Free s other ∨
        ∃ entry ∈ tree.modules, other = place ++ [moduleFileName entry.1]) s t := by
  obtain ⟨_, middle, created, done⟩ := Job.bind_ok done
  obtain ⟨place, walked, here, first, noZero⟩ := createDirectory_spec created
  obtain ⟨texts, second, -⟩ := writeModules_spec plain (lead_of_walk walked) done
  refine ⟨place, ?_, noZero, second.directories _ here, texts, ?_⟩
  · rw [second.home]
    exact walk_mono second.directories walked
  · exact (first.mono fun _ => .inl).trans (second.mono fun _ => .inr)

/-- The module that a file is read as. -/
def moduleOf (name : String) : String := Text.capitalize (Path.splitExtension name).1

def IsModuleFile (name : String) : Prop := (Path.splitExtension name).2 = some "js"

instance (name : String) : Decidable (IsModuleFile name) := inferInstanceAs (Decidable (_ = _))

theorem moduleOfFile_join {name : String} (isPiece : IsPiece name) :
    moduleOfFile (directory.join ⟨name⟩) = moduleOf name := by
  rw [moduleOfFile, Path.stem?_join_name directory isPiece]
  rfl

/-- No module is read from a file outside of the directory. -/
theorem slash_not_mem_moduleOf {name : String} (noSlash : '/' ∉ name.toList) :
    '/' ∉ (moduleOf name).toList := by
  refine Text.slash_not_mem_capitalize fun slash => noSlash ?_
  unfold Path.splitExtension at slash
  dsimp only at slash
  split at slash
  · exact slash
  · rw [String.toList_ofList, List.mem_reverse] at slash
    exact List.mem_reverse.mp (List.mem_of_mem_drop slash)

/-- A file that holds these members of a module. -/
def Holds (s : State) (file : Path) (members : List (String × ResourceNode)) : Prop :=
  ∃ text, s.read file = .ok text ∧ ModuleFile.read text = .ok members

theorem readModules_cons {tree : ResourceTree} {file : Path}
    {members : List (String × ResourceNode)} (holds : Holds s file members) (rest : List Path) :
    (readModules tree (file :: rest)).runWith answer s =
      (readModules (tree.setModule (moduleOfFile file) (.group members)) rest).runWith answer s :=
  by
  obtain ⟨text, held, read⟩ := holds
  have first : (Disk.read file).run answer s = (s.read file, s) := rfl
  rw [readModules, Job.runWith_bind, Job.readFile, Job.runWith_attempt, first, held]
  dsimp only
  rw [read]

theorem readModules_ok {tree result : ResourceTree} {files : List Path}
    (done : (readModules tree files).runWith answer s = (.ok result, t)) :
    t = s ∧ (∀ file ∈ files, ∃ members, Holds s file members) ∧
      ((tree.modules.map (·.1)).Nodup → (result.modules.map (·.1)).Nodup) ∧
      ∀ entry ∈ result.modules, entry ∈ tree.modules ∨
        ∃ file ∈ files, ∃ members, Holds s file members ∧ entry =
          (moduleOfFile file, .group members) := by
  induction files generalizing tree with
  | nil =>
    obtain ⟨same, rfl⟩ := Prod.mk.inj done
    obtain rfl := Except.ok.inj same
    exact ⟨rfl, by simp, id, fun entry listed => .inl listed⟩
  | cons file rest ih =>
    obtain ⟨members, holds⟩ : ∃ members, Holds s file members := by
      obtain ⟨text, middle, read, more⟩ := Job.bind_ok done
      obtain ⟨held, rfl⟩ := Prod.mk.inj (Job.attempt_ok read)
      split at more
      · rename_i members parsed
        exact ⟨members, text, held, parsed⟩
      · cases (Prod.mk.inj more).1
    rw [readModules_cons holds] at done
    obtain ⟨same, all, distinct, modules⟩ := ih done
    refine ⟨same, fun other listed => ?_, fun names => distinct (Text.nodup_put _ names),
      fun entry listed => ?_⟩
    · rcases List.mem_cons.mp listed with rfl | listed
      · exact ⟨members, holds⟩
      · exact all other listed
    · rcases modules entry listed with old | ⟨other, member, more⟩
      · rcases Text.mem_put old with same | old
        · exact .inr ⟨file, List.mem_cons_self, members, holds, same⟩
        · exact .inl old
      · exact .inr ⟨other, List.mem_cons_of_mem _ member, more⟩

/-- Files that hold modules are read, and the last of those that are read as one module counts. -/
theorem readModules_of_holds {files : List Path}
    (all : ∀ file ∈ files, ∃ members, Holds s file members) (tree : ResourceTree) : ∃ result,
    (readModules tree files).runWith answer s = (.ok result, s) ∧
      (∀ name, (∀ file ∈ files, moduleOfFile file ≠ name) →
        result.modules.lookup name = tree.modules.lookup name) ∧
      (files.Pairwise (fun a b => a.text ≤ b.text) →
        ∀ file ∈ files, ∀ members, Holds s file members →
          (∀ other ∈ files, moduleOfFile other = moduleOfFile file → other.text ≤ file.text) →
        result.modules.lookup (moduleOfFile file) = some (.group members)) := by
  induction files generalizing tree with
  | nil => exact ⟨tree, rfl, fun _ _ => rfl, fun _ file listed => nomatch listed⟩
  | cons first rest ih =>
    obtain ⟨held, holds⟩ := all first List.mem_cons_self
    obtain ⟨result, done, others, last⟩ :=
      ih (fun file listed => all file (List.mem_cons_of_mem _ listed))
      (tree.setModule (moduleOfFile first) (.group held))
    refine ⟨result, (readModules_cons holds rest).trans done, fun name apart => ?_, ?_⟩
    · rw [others name fun file listed => apart file (List.mem_cons_of_mem _ listed)]
      exact (Text.lookup_put ..).trans (if_neg (apart first List.mem_cons_self).symm)
    · intro sorted file listed members fileHolds latest
      obtain ⟨above, sorted⟩ := List.pairwise_cons.mp sorted
      by_cases later : file ∈ rest
      · exact last sorted file later members fileHolds fun other member =>
          latest other (List.mem_cons_of_mem _ member)
      · obtain rfl := (List.mem_cons.mp listed).resolve_right later
        have alone : ∀ other ∈ rest, moduleOfFile other ≠ moduleOfFile file := by
          intro other member same
          have texts := String.le_antisymm (latest other (List.mem_cons_of_mem _ member) same)
              (above other member)
          have paths : other = file := by
            cases other
            cases file
            exact congrArg Path.mk texts
          exact later (paths ▸ member)
        have equal : held = members := by
          obtain ⟨text, read, parsed⟩ := holds
          obtain ⟨other, reads, parses⟩ := fileHolds
          obtain rfl := Except.ok.inj (read.symm.trans reads)
          exact Except.ok.inj (parsed.symm.trans parses)
        rw [others _ alone, ← equal]
        exact (Text.lookup_put ..).trans (if_pos rfl)

theorem mem_moduleFiles (proper : s.Proper) {file : Path} :
    file ∈ moduleFiles directory (s.names place) ↔
      ∃ name, s.entry? (place ++ [name]) ≠ none ∧ IsModuleFile name ∧
      file = directory.join ⟨name⟩ := by
  rw [moduleFiles, List.mem_mergeSort, List.mem_filter, List.mem_map]
  constructor
  · rintro ⟨⟨name, listed, rfl⟩, kind⟩
    rw [Path.extension?_join_name directory (proper.isName listed).toIsPiece] at kind
    exact ⟨name, mem_names.mp listed, beq_iff_eq.mp kind, rfl⟩
  · rintro ⟨name, there, kind, rfl⟩
    have listed := mem_names.mpr there
    refine ⟨⟨name, listed, rfl⟩, ?_⟩
    rw [Path.extension?_join_name directory (proper.isName listed).toIsPiece]
    exact beq_iff_eq.mpr kind

theorem pairwise_moduleFiles (directory : Path) (names : List String) :
    (moduleFiles directory names).Pairwise fun a b => a.text ≤ b.text := by
  have sorted := @List.pairwise_mergeSort _ (fun a b : Path => decide (a.text ≤ b.text))
    (fun a b c first second =>
      by simpa using String.le_trans (by simpa using first) (by simpa using second))
    (fun a b => by simpa using String.le_total a.text b.text)
    ((names.map fun name => directory.join ⟨name⟩).filter (·.extension? == some "js"))
  exact sorted.imp fun le => by simpa using le

/-- Reading a locale that is there. -/
theorem runWith_read (here : s.place directory = .ok place)
    (there : s.entry? place = some .directory) : (read directory).runWith answer s =
      (readModules {} (moduleFiles directory (s.names place))).runWith answer s := by
  obtain ⟨entries, listed, names⟩ := list_directory here there
  have kind : (Disk.kind? directory).run answer s = (some .directory, s) := by
    refine Prod.ext ?_ rfl
    exact (kind?_of_place here).trans (by rw [there]; rfl)
  have list : (Disk.list directory).run answer s = (.ok entries, s) := Prod.ext listed rfl
  rw [read, Job.runWith_bind, Job.runWith_lift, kind]
  dsimp only
  rw [if_neg (by decide), Job.runWith_bind, Job.runWith_attempt, list]
  dsimp only
  rw [names]

/-- Without a directory there are no resources. -/
theorem runWith_read_of_none (absent : s.kind? directory ≠ some .directory) :
    (read directory).runWith answer s = (.ok {}, s) := by
  have kind : (Disk.kind? directory).run answer s = (s.kind? directory, s) := rfl
  rw [read, Job.runWith_bind, Job.runWith_lift, kind]
  dsimp only
  rw [if_pos (by simpa using absent)]
  rfl

theorem kind?_eq_directory_iff : s.kind? directory = some .directory ↔
    ∃ place, s.place directory = .ok place ∧ s.entry? place = some .directory := by
  constructor
  · intro kind
    cases here : s.place directory with
    | error fault =>
      rw [kind?, find, here] at kind
      cases kind
    | ok place =>
      rw [kind?_of_place here] at kind
      refine ⟨place, rfl, ?_⟩
      cases there : s.entry? place with
      | none => rw [there] at kind; cases kind
      | some entry =>
        rw [there] at kind
        cases entry with
        | directory => rfl
        | file content => cases kind
  · rintro ⟨place, here, there⟩
    rw [kind?_of_place here, there]
    rfl

/-- What is known of a locale that has been read. -/
theorem read_ok (proper : s.Proper) {tree : ResourceTree}
    (done : (read directory).runWith answer s = (.ok tree, t)) :
    t = s ∧
    (∀ place, s.place directory = .ok place → s.entry? place = some .directory → ∀ name,
      s.entry? (place ++ [name]) ≠ none → IsModuleFile name →
      ∃ members, Holds s (directory.join ⟨name⟩) members) ∧
    (tree.modules.map (·.1)).Nodup ∧
    ∀ entry ∈ tree.modules, ∃ place name members, s.place directory = .ok place ∧
      s.entry? (place ++ [name]) ≠ none ∧ IsModuleFile name ∧
      Holds s (directory.join ⟨name⟩) members ∧ entry = (moduleOf name, .group members) := by
  by_cases kind : s.kind? directory = some .directory
  · obtain ⟨place, here, there⟩ := kind?_eq_directory_iff.mp kind
    rw [runWith_read here there] at done
    obtain ⟨same, all, distinct, modules⟩ := readModules_ok done
    refine ⟨same, fun other found _ name listed isModule =>
      ?_, distinct List.nodup_nil, fun entry listed => ?_⟩
    · obtain rfl := Except.ok.inj (here.symm.trans found)
      exact all _ ((mem_moduleFiles proper).mpr ⟨name, listed, isModule, rfl⟩)
    · rcases modules entry listed with old | ⟨file, member, members, holds, same⟩
      · cases old
      · obtain ⟨name, stands, isModule, rfl⟩ := (mem_moduleFiles proper).mp member
        rw [moduleOfFile_join (proper.isName (mem_names.mpr stands)).toIsPiece] at same
        exact ⟨place, name, members, here, stands, isModule, holds, same⟩
  · rw [runWith_read_of_none kind] at done
    obtain ⟨same, rfl⟩ := Prod.mk.inj done
    obtain rfl := Except.ok.inj same
    refine ⟨rfl, fun place here there =>
      (kind (kind?_eq_directory_iff.mpr ⟨place, here, there⟩)).elim, List.nodup_nil, ?_⟩
    exact fun entry listed => nomatch listed

/-- A locale is read if all its files hold modules, and a module is what the last file for it holds.
-/
theorem read_of_holds (proper : s.Proper) (here : s.place directory = .ok place)
    (there : s.entry? place = some .directory)
    (all : ∀ name, s.entry? (place ++ [name]) ≠ none → IsModuleFile name →
      ∃ members, Holds s (directory.join ⟨name⟩) members) :
    ∃ tree, (read directory).runWith answer s = (.ok tree, s) ∧
      ∀ name members, s.entry? (place ++ [name]) ≠ none → IsModuleFile name →
        Holds s (directory.join ⟨name⟩) members →
        (∀ other, s.entry? (place ++ [other]) ≠ none → IsModuleFile other →
          moduleOf other = moduleOf name → other ≤ name) →
        tree.modules.lookup (moduleOf name) = some (.group members) := by
  have isPiece {name : String} (listed : s.entry? (place ++ [name]) ≠ none) : IsPiece name :=
    (proper.isName (mem_names.mpr listed)).toIsPiece
  obtain ⟨tree, done, -, last⟩ := readModules_of_holds
    (fun file listed => by
      obtain ⟨name, stands, isModule, rfl⟩ := (mem_moduleFiles proper).mp listed
      exact all name stands isModule) {}
  refine ⟨tree, (runWith_read here there).trans done, ?_⟩
  intro name members listed isModule holds latest
  have found := last (pairwise_moduleFiles ..) _
      ((mem_moduleFiles proper).mpr ⟨name, listed, isModule, rfl⟩)
    members holds ?_
  · rwa [moduleOfFile_join (isPiece listed)] at found
  · intro other member same
    obtain ⟨otherName, stands, kind, rfl⟩ := (mem_moduleFiles proper).mp member
    rw [moduleOfFile_join (isPiece stands), moduleOfFile_join (isPiece listed)] at same
    exact Path.text_join_le directory (isPiece stands) (isPiece listed)
      (latest otherName stands kind same)

/-- A locale with one module file. -/
theorem read_of_single {name : String} {members : List (String × ResourceNode)}
    (here : s.place directory = .ok place) (there : s.entry? place = some .directory)
    (only : s.names place = [name]) (isPiece : IsPiece name) (isModule : IsModuleFile name)
    (holds : Holds s (directory.join ⟨name⟩) members) :
    (read directory).runWith answer s =
      (.ok { modules := [(moduleOf name, .group members)] }, s) := by
  have kind : (directory.join ⟨name⟩).extension? = some "js" :=
    (Path.extension?_join_name directory isPiece).trans isModule
  have listed : moduleFiles directory [name] = [directory.join ⟨name⟩] :=
    by simp [moduleFiles, kind]
  rw [runWith_read here there, only, listed, readModules_cons holds, moduleOfFile_join isPiece]
  rfl

end Phrasebook.Locale

import Phrasebook.Proofs.Disk.Proper
import Phrasebook.Proofs.Project.Relative
import Phrasebook.Project.Scan
import Mathlib.Data.List.Nodup

/-!
The source files of a project. A scan changes nothing, and on a disk as systems keep it no two of
the files that it finds have the same name, seen from the root of the project.
-/

namespace Phrasebook

open Disk (State Place)
open Disk.State
open Phrasebook.Path (IsPiece normals)

namespace Disk

/-- Requests that change nothing. -/
def Request.Reads : Request → Prop
  | canonical _ | kind _ | list _ | read _ | time => True
  | write _ _ | copy _ _ | createDirectory _ => False

theorem State.answer_of_reads (s : State) {request : Request} (reads : request.Reads) :
    (s.answer request).2 = s := by
  cases request <;> first | rfl | exact reads.elim

theorem Action.Only.state {α : Type} {action : Action α}
    (only : action.Only Request.Reads) (s : State) : (action.run State.answer s).2 = s :=
  only.run_induction (P := (· = s)) (fun _ _ reads same => same ▸ answer_of_reads _ reads) rfl

end Disk

namespace Job

variable {α : Type} {s t : State}

theorem lift_ok {action : Disk.Action α} {value : α}
    (done : (liftM action : Job α).runWith answer s = (.ok value, t)) :
    action.run answer s = (value, t) := by
  rw [runWith_lift] at done
  exact Prod.ext (Except.ok.inj (Prod.mk.inj done).1) (Prod.mk.inj done).2

end Job

namespace Project

theorem filesBelow_reads (project : Project) (depth : Nat) (directory : Path) :
    (project.filesBelow depth directory).Only Disk.Request.Reads := by
  induction depth generalizing directory with
  | zero => exact .done _
  | succ depth ih =>
    refine .bind (.request trivial) fun listed => ?_
    cases listed with
    | error fault => exact .done _
    | ok entries =>
      refine .bind (.mapM fun entry _ => ?_) fun found => .done _
      obtain ⟨name, kind⟩ := entry
      cases kind with
      | file => exact .done _
      | other => exact .done _
      | directory =>
        dsimp only
        split
        · exact .done _
        · exact ih _

theorem scan_reads (project : Project) : project.scan.Only Disk.Request.Reads := by
  refine .bind (.request trivial) fun kind => ?_
  match kind with
  | none => exact .done _
  | some .directory => exact .bind (project.filesBelow_reads _ _) fun found => .done _
  | some .file => exact .done _
  | some .other => exact .done _

variable {s : State}

/-- Requests that change nothing, made for each item, are answered as they would be alone. -/
theorem run_mapM_of_reads {α β : Type} {items : List α} {step : α → Disk.Action β}
    (reads : ∀ item, (step item).Only Disk.Request.Reads) (s : State) :
    (items.mapM step).run answer s = (items.map fun item => ((step item).run answer s).1, s) := by
  induction items with
  | nil => rfl
  | cons item items ih =>
    have state := (reads item).state s
    rw [List.mapM_cons, Disk.Action.run_bind, state, Disk.Action.run_bind, ih]
    rfl

/-- Paths below a directory, each one reached by names of its own. -/
structure Below (directory : List Path.Component) (paths : List Path) : Prop where
  reached : ∀ path ∈ paths, ∃ names, (∀ name ∈ names, IsPiece name) ∧
    path.components = directory ++ normals names
  distinct : (paths.map Path.components).Nodup

theorem below_nil (directory : List Path.Component) : Below directory [] := ⟨by simp, by simp⟩

theorem below_singleton (path : Path) : Below path.components [path] where
  reached other listed := ⟨[], by
    simp, by rw [List.mem_singleton.mp listed]; exact (List.append_nil _).symm⟩
  distinct := List.nodup_singleton _

/-- What is below the things in a directory is below the directory, and by other names for each of
them. -/
theorem below_flatMap {α : Type} {directory : List Path.Component} {items : List α}
    {name : α → String} {paths : α → List Path} (pieces : ∀ item ∈ items, IsPiece (name item))
    (distinct : (items.map name).Nodup)
    (each : ∀ item ∈ items, Below (directory ++ [.normal (name item)]) (paths item)) :
    Below directory (items.flatMap paths) ∧ ∀ path ∈ items.flatMap paths,
      path.components ≠ directory := by
  have through {item : α} (listed : item ∈ items) {path : Path} (member : path ∈ paths item) :
      ∃ names, (∀ name ∈ names, IsPiece name) ∧
        path.components = directory ++ normals (name item :: names) := by
    obtain ⟨names, more, parts⟩ := (each item listed).reached path member
    exact ⟨names, more, by rw [parts, List.append_assoc]; rfl⟩
  refine ⟨⟨fun path listed => ?_, ?_⟩, fun path listed same => ?_⟩
  · obtain ⟨item, member, inside⟩ := List.mem_flatMap.mp listed
    obtain ⟨names, more, parts⟩ := through member inside
    refine ⟨_, fun other listed => ?_, parts⟩
    rcases List.mem_cons.mp listed with rfl | listed
    · exact pieces item member
    · exact more other listed
  · rw [List.map_flatMap, List.nodup_flatMap]
    refine ⟨fun item member => (each item member).distinct, ?_⟩
    have apart := List.pairwise_map.mp distinct
    refine apart.imp_of_mem fun {a b} first second differ => ?_
    rintro components left right
    obtain ⟨p, inP, rfl⟩ := List.mem_map.mp left
    obtain ⟨q, inQ, same⟩ := List.mem_map.mp right
    obtain ⟨names, -, parts⟩ := through first inP
    obtain ⟨others, -, parts'⟩ := through second inQ
    rw [parts, parts'] at same
    exact differ (List.cons.inj (Path.normals_injective (List.append_cancel_left same))).1.symm
  · obtain ⟨item, member, inside⟩ := List.mem_flatMap.mp listed
    obtain ⟨names, -, parts⟩ := through member inside
    have length := congrArg List.length (parts.symm.trans same)
    simp [normals] at length

/-- The files that a search finds, each one by names of its own. -/
theorem filesBelow_below (project : Project) (proper : s.Proper) (depth : Nat) (directory : Path) :
    Below directory.components ((project.filesBelow depth directory).run answer s).1.1 ∧
      ∀ path ∈ ((project.filesBelow depth directory).run answer s).1.1,
        path.components ≠ directory.components := by
  induction depth generalizing directory with
  | zero => exact ⟨below_nil _, nofun⟩
  | succ depth ih =>
    have listing : (Disk.list directory).run answer s = (s.list directory, s) := rfl
    rw [filesBelow, Disk.Action.run_bind, listing]
    cases listed : s.list directory with
    | error fault => exact ⟨below_nil _, nofun⟩
    | ok entries =>
      obtain ⟨names, distinct⟩ := proper.list_ok listed
      dsimp only
      rw [Disk.Action.run_bind, run_mapM_of_reads, Disk.Action.run_pure]
      · dsimp only
        rw [List.flatMap_map]
        refine below_flatMap (fun entry listed =>
          (names _ (List.mem_map_of_mem listed)).toIsPiece) distinct fun entry member => ?_
        obtain ⟨name, kind⟩ := entry
        have isPiece := (names _ (List.mem_map_of_mem member)).toIsPiece
        have parts := Path.components_join_name directory isPiece
        rw [← parts]
        cases kind with
        | file => exact below_singleton _
        | other => exact below_nil _
        | directory =>
          dsimp only
          split
          · exact below_nil _
          · exact (ih _).1
      · rintro ⟨name, kind⟩
        cases kind with
        | file => exact .done _
        | other => exact .done _
        | directory =>
          dsimp only
          split
          · exact .done _
          · exact project.filesBelow_reads _ _

/-- The start of a scan lies under the root or is given by a full path. -/
theorem sourceRoot_under (project : Project) :
    project.root.components <+: project.sourceRoot.components ∨
      ∃ rest, project.sourceRoot.components = .root :: rest := by
  unfold sourceRoot resolve
  dsimp only
  split
  · exact .inl List.prefix_rfl
  · generalize (Path.strip? ⟨"./"⟩ ⟨project.config.targetRoot⟩).getD
      ⟨project.config.targetRoot⟩ = path
    by_cases absolute : path.isAbsolute = true
    · obtain ⟨rest, parts⟩ := List.head?_eq_some_iff.mp ((Path.isAbsolute_iff path).mp absolute)
      exact .inr ⟨rest, by rw [Path.join, absolute, if_pos rfl, parts]⟩
    · refine .inl ?_
      by_cases empty : project.root.text = ""
      · rw [Path.components_of_empty empty]
        exact List.nil_prefix
      · rw [Path.components_join empty (by simpa using absolute)]
        exact List.prefix_append ..

theorem relative_sourceFile? {project : Project} {path : Path} {file : SourceFile}
    (found : project.sourceFile? path = some file) :
    file.relative = project.root.relativeTo path := by
  obtain ⟨_, -, more⟩ := Option.bind_eq_some_iff.mp found
  obtain ⟨_, -, rest⟩ := Option.bind_eq_some_iff.mp more
  obtain ⟨kind, -, made⟩ := Option.bind_eq_some_iff.mp rest
  rw [← Option.some.inj made]

/-- No two source files of a project on a proper disk have the same name, seen from its root. -/
theorem nodup_relative_scan (project : Project) (proper : s.Proper) :
    ((project.scan.run answer s).1.files.map (·.relative)).Nodup := by
  have ofPaths {paths : List Path} (distinct : (paths.map project.root.relativeTo).Nodup) :
      ((project.ofPaths paths).map (·.relative)).Nodup := by
    have sublist : ((paths.filterMap project.sourceFile?).map (·.relative)).Sublist
        (paths.map project.root.relativeTo) := by
      induction paths with
      | nil => exact .slnil
      | cons path paths ih =>
        have rest := ih (List.nodup_cons.mp distinct).2
        rw [List.filterMap_cons, List.map_cons]
        cases found : project.sourceFile? path with
        | none => exact rest.cons _
        | some file =>
          rw [List.map_cons, relative_sourceFile? found]
          exact rest.cons_cons _
    exact (((List.mergeSort_perm _ _).map _).nodup_iff).mpr (sublist.nodup distinct)
  have asked : (Disk.kind? project.sourceRoot).run answer s = (s.kind? project.sourceRoot, s) := rfl
  rw [scan, Disk.Action.run_bind, asked]
  match s.kind? project.sourceRoot with
  | none => exact List.nodup_nil
  | some .other => exact List.nodup_nil
  | some .file => exact ofPaths (List.nodup_singleton _)
  | some .directory =>
    obtain ⟨below, apart⟩ := project.filesBelow_below proper maximalDepth project.sourceRoot
    dsimp only
    rw [Disk.Action.run_bind]
    refine ofPaths (List.pairwise_map.mpr ?_)
    refine (List.pairwise_map.mp below.distinct).imp_of_mem
      fun {a b} first second differ same => differ ?_
    obtain ⟨names, pieces, parts⟩ := below.reached a first
    obtain ⟨others, pieces', parts'⟩ := below.reached b second
    have filled : names ≠ [] ∧ others ≠ [] := by
      constructor
      · rintro rfl
        exact apart a first (parts.trans (List.append_nil _))
      · rintro rfl
        exact apart b second (parts'.trans (List.append_nil _))
    rw [parts, parts', Path.relativeTo_injective filled.1 filled.2 pieces pieces' parts parts'
      project.sourceRoot_under same]

end Project
end Phrasebook

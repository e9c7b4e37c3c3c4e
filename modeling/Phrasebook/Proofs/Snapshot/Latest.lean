import Phrasebook.Proofs.Disk.Proper
import Phrasebook.Proofs.Project.Relative
import Phrasebook.Proofs.Snapshot.Json
import Phrasebook.Proofs.Time.Instant
import Phrasebook.Snapshot.Store

/-!
The latest snapshot. Names of snapshots are in the order of their times, so that among those in a
directory the one that was written last has the last name, and it is read as it was written.
-/

namespace Phrasebook.Snapshot

open Disk (State Place)
open Disk.State

variable {directory : Path} {s t : State} {place : Place}

theorem toList_fileName (time : Instant) :
    (fileName time).toList = fileStart.toList ++ (time.fileText.toList ++ ".json".toList) := by
  simp [fileName]

theorem isFileName_fileName (time : Instant) : isFileName (fileName time) = true := by
  rw [isFileName, toList_fileName, Bool.and_eq_true, List.isPrefixOf_iff_prefix,
    List.isSuffixOf_iff_suffix]
  exact ⟨List.prefix_append .., (List.suffix_append ..).trans (List.suffix_append ..)⟩

theorem isPiece_fileName (time : Instant) : Path.IsPiece (fileName time) where
  filled := by simp [fileName, fileStart]
  noSlash := by simp [fileName, fileStart, Instant.slash_not_mem_fileText]
  noDot same := by simpa [fileName, fileStart] using congrArg String.toList same
  noDots same := by simpa [fileName, fileStart] using congrArg String.toList same

/-- Times that do not go back have names that do not. -/
theorem fileName_le {a b : Instant} (first : a.IsDated) (second : b.IsDated)
    (le : a.seconds ≤ b.seconds) : fileName a ≤ fileName b := by
  rcases le.lt_or_eq with less | same
  · have long : a.fileText.toList.length = b.fileText.toList.length := by
      rw [Instant.length_fileText first, Instant.length_fileText second]
    have texts := String.lt_iff_toList_lt.mp (Instant.fileText_lt first second less)
    refine le_of_lt (String.lt_iff_toList_lt.mpr ?_)
    rw [toList_fileName, toList_fileName]
    exact Instant.append_lt rfl (.inr ⟨rfl, Instant.append_lt long (.inl texts)⟩)
  · obtain rfl : a = b := congrArg Instant.mk same
    exact String.le_refl _

/-- Going through names, the last one of all is kept. -/
theorem foldl_latest {names : List String} {last : String} (latest : ∀ name ∈ names, name ≤ last)
    {held : Option String} (before : ∀ name ∈ held, name ≤ last)
    (there : last ∈ names ∨ held = some last) :
    names.foldl (fun latest name => if latest.all (· ≤ name) then some name else latest)
      held = some last := by
  induction names generalizing held with
  | nil => exact there.resolve_left List.not_mem_nil
  | cons name names ih =>
    obtain ⟨le, others⟩ := List.forall_mem_cons.mp latest
    rw [List.foldl_cons]
    refine ih others (fun other kept => ?_) ?_
    · split at kept
      · exact Option.some.inj kept ▸ le
      · exact before other kept
    · rcases there with listed | rfl
      · rcases List.mem_cons.mp listed with rfl | listed
        · refine .inr (if_pos ?_)
          cases held with
          | none => rfl
          | some other => simpa using before other rfl
        · exact .inl listed
      · right
        split
        · rename_i kept
          exact congrArg some (String.le_antisymm le (by simpa using kept))
        · rfl

/-- The name behind all others is the last one. -/
theorem latestName?_eq {names : List String} {last : String} (listed : last ∈ names)
    (isFile : isFileName last = true)
    (latest : ∀ name ∈ names, isFileName name = true → name ≤ last) :
    latestName? names = some last := by
  have there : last ∈ names.filter isFileName := List.mem_filter.mpr ⟨listed, isFile⟩
  have among : ∀ name ∈ names.filter isFileName, name ≤ last := fun name member =>
    latest name (List.mem_of_mem_filter member) (List.of_mem_filter member)
  exact foldl_latest among nofun (.inl there)

/-- What a snapshot that has been written leaves. -/
theorem write_ok {snapshot : Snapshot} {file : Path} {time : Instant} (named : directory.text ≠ "")
    (done : (snapshot.write directory time).runWith answer s = (.ok file, t)) :
    ∃ place, lead s.workingDirectory directory.components = .ok place ∧
    t.place directory = .ok place ∧
      t.entry? place = some .directory ∧
      t.place (directory.join ⟨fileName time⟩) = .ok (place ++ [fileName time]) ∧
      t.entry? (place ++ [fileName time]) = some (.file (.text snapshot.render)) ∧
      Within (fun other => other ∈ way s.workingDirectory directory.components ∨
        other = place ++ [fileName time]) s t := by
  obtain ⟨_, middle, created, rest⟩ := Job.bind_ok done
  obtain ⟨_, next, filled, rest⟩ := Job.bind_ok rest
  obtain ⟨-, rfl⟩ := Prod.mk.inj rest
  obtain ⟨place, walked, here, first, noEnd⟩ := createDirectory_spec created
  obtain ⟨goal, found, rfl, noDirectory, -⟩ := fill_spec (fill_of_writeFile filled)
  have some := filled_of_entry noDirectory
  have second := @within_put middle goal (.file (.text snapshot.render)) some noDirectory
  obtain ⟨above, leads, rfl⟩ :=
    lead_join_name directory (isPiece_fileName time) (lead_of_place found)
  obtain rfl := Except.ok.inj ((lead_of_walk walked).symm.trans leads)
  have directoryHere := place_of_walk named noEnd walked fun _ => here
  refine ⟨place, first.home ▸ leads, second.place_eq directoryHere, second.directories _ here,
    second.place_eq found, by rw [entry_put some, if_pos rfl], ?_⟩
  exact (first.mono fun _ passed => .inl passed.1).trans (second.mono fun _ => .inr)

/-- Writes snapshots one after the other, each one at its time. -/
def writeAll (directory : Path) (writes : List (Snapshot × Instant)) : Job (List Path) :=
  writes.mapM fun w => w.1.write directory w.2

/-- Writing snapshots makes no other names in the directory than theirs, but for those on the way to
it. -/
theorem writeAll_within {writes : List (Snapshot × Instant)} {files : List Path}
    (named : directory.text ≠ "") (leads : lead s.workingDirectory directory.components = .ok place)
    (done : (writeAll directory writes).runWith answer s = (.ok files, t)) :
    Within (fun other => other ∈ way s.workingDirectory directory.components ∨
      ∃ w ∈ writes, other = place ++ [fileName w.2]) s t := by
  induction writes generalizing s files with
  | nil =>
    obtain ⟨-, rfl⟩ := Prod.mk.inj done
    exact .refl _ s
  | cons w writes ih =>
    rw [writeAll, List.mapM_cons] at done
    obtain ⟨file, middle, first, rest⟩ := Job.bind_ok done
    obtain ⟨others, last, more, end_⟩ := Job.bind_ok rest
    obtain ⟨-, rfl⟩ := Prod.mk.inj end_
    obtain ⟨above, led, -, -, -, -, within⟩ := write_ok named first
    obtain rfl := Except.ok.inj (leads.symm.trans led)
    have later := ih (within.home ▸ leads) more
    rw [within.home] at later
    refine (within.mono fun other changed => ?_).trans (later.mono fun other changed => ?_)
    · exact changed.imp_right fun same => ⟨w, List.mem_cons_self, same⟩
    · exact changed.imp_right fun ⟨v, listed, same⟩ => ⟨v, List.mem_cons_of_mem _ listed, same⟩

/-- The last of several snapshots is written behind the others. -/
theorem writeAll_concat {writes : List (Snapshot × Instant)} {last : Snapshot × Instant}
    {files : List Path}
    (done : (writeAll directory (writes ++ [last])).runWith answer s = (.ok files, t)) :
    ∃ others middle file, (writeAll directory writes).runWith answer s = (.ok others, middle) ∧
      (last.1.write directory last.2).runWith answer middle = (.ok file, t) := by
  rw [writeAll, List.mapM_append] at done
  obtain ⟨others, middle, first, rest⟩ := Job.bind_ok done
  obtain ⟨one, last, second, end_⟩ := Job.bind_ok rest
  obtain ⟨-, rfl⟩ := Prod.mk.inj end_
  rw [List.mapM_cons] at second
  obtain ⟨file, last, wrote, more⟩ := Job.bind_ok second
  obtain ⟨-, rfl⟩ := Prod.mk.inj more
  exact ⟨others, middle, file, first, wrote⟩

/-- The snapshot under the last name is loaded. -/
theorem runWith_latest {snapshot : Snapshot} {name : String} (here : t.place directory = .ok place)
    (there : t.entry? place = some .directory) (last : latestName? (t.names place) = some name)
    (found : t.place (directory.join ⟨name⟩) = .ok (place ++ [name]))
    (held : t.entry? (place ++ [name]) = some (.file (.text snapshot.render)))
    (bounded : snapshot.Bounded) : (latest directory).runWith answer t = (.ok snapshot, t) := by
  obtain ⟨entries, listed, names⟩ := list_directory here there
  have list : (Disk.list directory).run answer t = (.ok entries, t) := Prod.ext listed rfl
  have read : (Job.readFile (directory.join ⟨name⟩)).runWith answer t =
      (.ok snapshot.render, t) := by
    have ran : (Disk.read (directory.join ⟨name⟩)).run answer t = (.ok snapshot.render, t) :=
      Prod.ext (read_of_place found held) rfl
    rw [Job.readFile, Job.runWith_attempt, ran]
  rw [latest, Job.runWith_bind, Job.runWith_lift, list]
  dsimp only
  rw [names, last]
  dsimp only
  have parsed : Snapshot.read snapshot.render = .ok snapshot := by
    rw [Snapshot.read, render, Json.read_pretty (bounded.storable 121)]
    simp only [ofJson_toJson bounded.rising]
  rw [ofFile, Job.runWith_bind_of_ok read, parsed]
  rfl

/-- Names are in the order of times, and what was written last is loaded, if the directory had no
snapshots of others before and none of its names is one of a directory on the way to it. -/
theorem latest_written :
    (∀ a b : Instant, a.IsDated → b.IsDated → (a.fileText < b.fileText ↔ a.seconds < b.seconds)) ∧
    ∀ (directory : Path) (writes : List (Snapshot × Instant)) (last : Snapshot ×
      Instant) (files : List Path) (s t : State), directory.text ≠ "" →
      (∀ place, lead s.workingDirectory directory.components = .ok place →
        ∀ name, isFileName name = true → Free s (place ++ [name]) ∧
          place ++ [name] ∉ way s.workingDirectory directory.components) →
      (∀ w ∈ writes ++ [last], w.2.IsDated) →
      (writes ++ [last]).Pairwise (fun v w => v.2.seconds ≤ w.2.seconds) → last.1.Bounded →
      (writeAll directory (writes ++ [last])).runWith answer s = (.ok files, t) →
      (latest directory).runWith answer t = (.ok last.1, t) := by
  refine ⟨fun a b => Instant.fileText_lt_iff, ?_⟩
  intro directory writes last files s t named alone dated order bounded done
  obtain ⟨others, middle, file, before, wrote⟩ := writeAll_concat done
  obtain ⟨place, leads, here, there, found, held, -⟩ := write_ok named wrote
  have home := (keeps_of_runWith before).1
  rw [home] at leads
  have within := writeAll_within named leads done
  refine runWith_latest here there (latestName?_eq ?_ (isFileName_fileName last.2) ?_)
    found held bounded
  · rw [mem_names, held]
    exact nofun
  · intro name listed isFile
    obtain ⟨free, off⟩ := alone place leads name isFile
    -- A name that was not there before is one of those that were written.
    have changed : ∃ w ∈ writes ++ [last], name = fileName w.2 := by
      by_contra none
      refine mem_names.mp listed ((within.kept _ ?_).trans free)
      rintro (passed | ⟨w, member, same⟩)
      · exact off passed
      · exact none ⟨w, member, List.singleton_inj.mp (List.append_cancel_left same)⟩
    obtain ⟨w, member, rfl⟩ := changed
    have le : w.2.seconds ≤ last.2.seconds := by
      rcases List.mem_append.mp member with earlier | same
      · exact (List.pairwise_append.mp order).2.2 w earlier last List.mem_cons_self
      · rw [List.mem_singleton.mp same]
    exact fileName_le (dated w member) (dated last (List.mem_append_right _ List.mem_cons_self)) le

private def counted (n : Nat) : Snapshot := { metadata := ⟨"", 0, 0, n, 0, 1⟩, entries := [] }

/-- One in the last second of a year and one in the first second of the next. -/
private def newYear : List (Snapshot × Instant) :=
  [(counted 1, ⟨946684799⟩), (counted 2, ⟨946684800⟩)]

/-- A third one, which takes the place of the second. -/
theorem latest_written_newYear :
    ∃ files t, (writeAll ⟨"/out"⟩ (newYear ++ [(counted 3, ⟨946684800⟩)])).runWith answer
      {} = (.ok files, t) ∧ (latest ⟨"/out"⟩).runWith answer t = (.ok (counted 3), t) := by
  have wrote : ((writeAll ⟨"/out"⟩ (newYear ++ [(counted 3, ⟨946684800⟩)])).runWith answer
      {}).1.isOk = true := by
    decide +kernel
  cases ran : (writeAll ⟨"/out"⟩ (newYear ++ [(counted 3, ⟨946684800⟩)])).runWith answer {} with
  | mk result t =>
    rw [ran] at wrote
    cases result with
    | error failure => cases wrote
    | ok files =>
      refine ⟨files, t, rfl, latest_written.2 _ _ _ files {} t (by decide) ?_ (by decide +kernel)
        (by decide) ?_ ran⟩
      · intro place leads name _
        have out : lead [] (Path.components ⟨"/out"⟩) = .ok ["out"] := by decide +kernel
        obtain rfl := Except.ok.inj (leads.symm.trans out)
        have passed : way [] (Path.components ⟨"/out"⟩) = [[], [], ["out"]] := by decide +kernel
        exact ⟨rfl, by simp [passed]⟩
      · exact ⟨.nil, by decide, by decide, by decide, by decide, by decide, nofun⟩

end Phrasebook.Snapshot

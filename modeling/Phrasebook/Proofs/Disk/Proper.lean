import Phrasebook.Proofs.Disk.State
import Mathlib.Data.List.Nodup

/-!
Disks as systems keep them, with names that a system accepts and directories around all that is
there. Whatever is asked of such a disk, it stays one, and what it lists is what stands right below
a directory.
-/

namespace Phrasebook.Disk.State

open Phrasebook.Path (IsName IsPiece)

variable {s t : State} {place other : Place} {entry : Entry}

theorem mem_keys_iff (filled : place ≠ []) :
    place ∈ s.entries.map (·.1) ↔ s.entry? place ≠ none := by
  have same : s.entry? place = s.entries.lookup place := by
    cases place with
    | nil => exact (filled rfl).elim
    | cons name place => rfl
  rw [same]
  induction s.entries with
  | nil => simp
  | cons first rest ih =>
    obtain ⟨held, old⟩ := first
    rw [lookup_entry, List.map_cons, List.mem_cons]
    by_cases here : place = held
    · simp [here]
    · rw [if_neg here]
      exact (or_iff_right here).trans ih

/-- A disk as systems keep it: a place holds one thing, and what stands somewhere has a name and
stands in a directory. -/
structure Proper (s : State) : Prop where
  distinct : (s.entries.map (·.1)).Nodup
  named : ∀ place ∈ s.entries.map (·.1), ∀ name ∈ place, IsName name
  closed : ∀ place ∈ s.entries.map (·.1), s.entry? place.dropLast = some .directory
  home : s.entry? s.workingDirectory = some .directory

theorem Proper.names (proper : s.Proper) (there : s.entry? place ≠ none) :
    ∀ name ∈ place, IsName name := by
  by_cases root : place = []
  · simp [root]
  · exact proper.named place ((mem_keys_iff root).mpr there)

theorem Proper.above (proper : s.Proper) (there : s.entry? place ≠ none) :
    s.entry? place.dropLast = some .directory := by
  by_cases root : place = []
  · rw [root]
    rfl
  · exact proper.closed place ((mem_keys_iff root).mpr there)

theorem Proper.put (proper : s.Proper) (noDirectory : s.entry? place ≠ some .directory)
    (names : ∀ name ∈ place, IsName name) (above : s.entry? place.dropLast = some .directory) :
    (s.put place entry).Proper := by
  have filled := filled_of_entry noDirectory
  have within := @within_put s place entry filled noDirectory
  have keys := keys_putEntry place entry s.entries
  have either : ∀ other ∈ (s.put place entry).entries.map (·.1), other = place ∨
      other ∈ s.entries.map (·.1) := by
    intro other listed
    change other ∈ (putEntry place entry s.entries).map (·.1) at listed
    rw [keys] at listed
    split at listed
    · exact .inr listed
    · rcases List.mem_append.mp listed with old | new
      · exact .inr old
      · exact .inl (List.mem_singleton.mp new)
  refine ⟨?_, fun other listed => ?_, fun other listed => ?_, within.directories _ proper.home⟩
  · change ((putEntry place entry s.entries).map (·.1)).Nodup
    rw [keys]
    split
    · exact proper.distinct
    · rename_i fresh
      exact List.nodup_append.mpr ⟨proper.distinct, List.nodup_singleton _, fun a old b new same =>
        fresh (List.mem_singleton.mp new ▸ same ▸ old)⟩
  · rcases either other listed with rfl | old
    · exact names
    · exact proper.named other old
  · rcases either other listed with rfl | old
    · exact within.directories _ above
    · exact within.directories _ (proper.closed other old)

/-- Whatever a path without a zero character can lead to has proper names. -/
theorem names_of_lead {components : List Path.Component} (names : ∀ name ∈ place, IsName name)
    (plain : ∀ name, .normal name ∈ components → IsPiece name ∧ '\x00' ∉ name.toList)
    (led : lead place components = .ok other) : ∀ name ∈ other, IsName name := by
  induction components generalizing place with
  | nil =>
    obtain rfl := Except.ok.inj led
    exact names
  | cons component rest ih =>
    rw [lead_cons] at led
    cases stepped : step place component with
    | error fault => rw [stepped] at led; cases led
    | ok next =>
      rw [stepped] at led
      refine ih ?_ (fun name listed => plain name (List.mem_cons_of_mem _ listed)) led
      cases component with
      | root => rw [← Except.ok.inj stepped]; simp
      | current => rw [← Except.ok.inj stepped]; exact names
      | parent =>
        rw [← Except.ok.inj stepped]
        exact fun name listed => names name (List.mem_of_mem_dropLast listed)
      | normal name =>
        rw [step] at stepped
        split at stepped
        · cases stepped
        · rename_i short
          rw [← Except.ok.inj stepped]
          obtain ⟨isPiece, zero⟩ := plain name List.mem_cons_self
          intro other listed
          rcases List.mem_append.mp listed with old | new
          · exact names other old
          · obtain rfl := List.mem_singleton.mp new
            exact ⟨isPiece, zero, Nat.le_of_not_lt short⟩

theorem plain_components {path : Path}
    (noZero : path.text.toList.contains '\x00' = false) (name : String)
    (listed : .normal name ∈ path.components) : IsPiece name ∧ '\x00' ∉ name.toList := by
  obtain ⟨isPiece, chars⟩ := Path.mem_components listed
  refine ⟨isPiece, fun zero => ?_⟩
  rw [List.contains_iff_mem.mpr (chars _ zero)] at noZero
  cases noZero

theorem Proper.fill (proper : s.Proper) {path : Path} {content : Content}
    (filled : s.fill path content = .ok t) : t.Proper := by
  obtain ⟨place, found, rfl, noDirectory, free⟩ := fill_spec filled
  have above : s.entry? place.dropLast = some .directory := by
    by_cases there : s.entry? place = none
    · exact isDirectory_iff.mp (free there)
    · exact proper.above there
  refine proper.put noDirectory ?_ above
  unfold State.place at found
  split at found
  · cases found
  · split at found
    · cases found
    · rename_i noZero
      refine names_of_lead (proper.names (by rw [proper.home]; exact nofun)) ?_ (lead_of_walk found)
      intro name listed
      refine @plain_components path (by simpa using noZero) name ?_
      rcases List.mem_append.mp listed with inside | behind
      · exact inside
      · split at behind
        · cases List.mem_singleton.mp behind
        · cases behind

theorem Proper.enter (proper : s.Proper) (names : ∀ name ∈ place, IsName name)
    (above : s.entry? place.dropLast = some .directory) {fault : Fault}
    (entered : s.enter place fault = .ok t) : t.Proper := by
  obtain ⟨-, -, rfl | ⟨free, rfl⟩⟩ := enter_cases entered
  · exact proper
  · exact proper.put (by rw [free]; exact nofun) names above

/-- Each place on a way stands in a directory that has been entered. -/
theorem Proper.createAlong {components : List Path.Component} (proper : s.Proper)
    (names : ∀ name ∈ place, IsName name)
    (plain : ∀ name, .normal name ∈ components → IsPiece name ∧ '\x00' ∉ name.toList)
    (above : s.entry? place.dropLast = some .directory)
    (created : s.createAlong place components = .ok t) : t.Proper := by
  induction components generalizing s place with
  | nil => exact proper.enter names above created
  | cons component rest ih =>
    rw [State.createAlong] at created
    cases entered : s.enter place .notADirectory with
    | error fault => rw [entered] at created; cases created
    | ok middle =>
      rw [entered] at created
      cases stepped : step place component with
      | error fault => rw [stepped] at created; cases created
      | ok next =>
        rw [stepped] at created
        obtain ⟨here, within, -⟩ := enter_cases entered
        have kept := proper.enter names above entered
        have led : lead place [component] = .ok next := by rw [lead_cons, stepped]; rfl
        have single : ∀ name, .normal name ∈ [component] → .normal name ∈ component :: rest :=
          fun name listed => List.mem_singleton.mp listed ▸ List.mem_cons_self
        refine ih kept
          (names_of_lead names (fun name listed => plain name (single name listed)) led)
          (fun name listed => plain name (List.mem_cons_of_mem _ listed)) ?_ created
        have outer := within.directories _ above
        cases component with
        | root => rw [← Except.ok.inj stepped]; rfl
        | current => rw [← Except.ok.inj stepped]; exact outer
        | parent =>
          rw [← Except.ok.inj stepped]
          exact kept.above (by rw [outer]; exact Option.some_ne_none _)
        | normal name =>
          rw [step] at stepped
          split at stepped
          · cases stepped
          · rw [← Except.ok.inj stepped, List.dropLast_concat]
            exact here

/-- A copy fills its target. -/
theorem fill_of_copy {source target : Path} (copied : s.copy source target = .ok t) :
    ∃ content, s.fill target content = .ok t := by
  unfold State.copy at copied
  cases read : s.content source with
  | error fault => rw [read] at copied; cases copied
  | ok content =>
    rw [read] at copied
    cases started : s.place source with
    | error fault => simp only [started] at copied; cases copied
    | ok start =>
      cases aimed : s.place target with
      | error fault => simp only [started, aimed] at copied; cases copied
      | ok goal =>
        simp only [started, aimed] at copied
        change (if start = goal then s.fill target (.text "") else s.fill target content) =
          _ at copied
        split at copied
        · exact ⟨_, copied⟩
        · exact ⟨_, copied⟩

theorem Proper.changed (proper : s.Proper) {change : Except Fault State}
    (kept : ∀ t, change = .ok t → t.Proper) : (s.changed change).2.Proper := by
  cases change with
  | error fault => exact proper
  | ok t => exact kept t rfl

/-- Whatever is asked of a proper disk, it stays one. -/
theorem Proper.answer (proper : s.Proper) (request : Request) : (s.answer request).2.Proper := by
  cases request with
  | canonical path => exact proper
  | kind path => exact proper
  | list directory => exact proper
  | read file => exact proper
  | write file content => exact proper.changed fun t filled => proper.fill filled
  | copy source target =>
    refine proper.changed fun t copied => ?_
    obtain ⟨content, filled⟩ := fill_of_copy copied
    exact proper.fill filled
  | createDirectory directory =>
    refine proper.changed fun t created => ?_
    unfold State.createDirectory at created
    split at created
    · cases created
    · rename_i noZero
      have here : s.entry? s.workingDirectory ≠ none := by rw [proper.home]; exact nofun
      exact proper.createAlong (proper.names here) (plain_components (by simpa using noZero))
        (proper.above here) created
  | time => exact proper

/-- No program leaves a proper disk in another state than a proper one. -/
theorem Proper.run {α : Type} (proper : s.Proper) (action : Action α) :
    (action.run State.answer s).2.Proper := by
  induction action generalizing s with
  | done value => exact proper
  | ask request next ih => exact ih _ (proper.answer request)

theorem answer_home (s : State) (request : Request) :
    (s.answer request).2.workingDirectory = s.workingDirectory := by
  have changed (change : Except Fault State)
    (kept : ∀ t, change = .ok t → t.workingDirectory = s.workingDirectory) :
      (s.changed change).2.workingDirectory = s.workingDirectory := by
    cases change with
    | error fault => rfl
    | ok t => exact kept t rfl
  have fill (path : Path) (content : Content) (t : State) (filled : s.fill path content = .ok t) :
      t.workingDirectory = s.workingDirectory := by
    obtain ⟨place, -, rfl, -⟩ := fill_spec filled
    rfl
  cases request with
  | canonical path => rfl
  | kind path => rfl
  | list directory => rfl
  | read file => rfl
  | write file content => exact changed _ (fill file (.text content))
  | copy source target =>
    refine changed _ fun t copied => ?_
    obtain ⟨content, filled⟩ := fill_of_copy copied
    exact fill target content t filled
  | createDirectory directory =>
    refine changed _ fun t created => ?_
    unfold State.createDirectory at created
    split at created
    · cases created
    · obtain ⟨-, -, -, within⟩ := createAlong_spec created
      exact within.home
  | time => rfl

/-- No program leaves its working directory. -/
theorem run_home {α : Type} (action : Action α) (s : State) :
    (action.run State.answer s).2.workingDirectory = s.workingDirectory := by
  induction action generalizing s with
  | done value => rfl
  | ask request next ih => exact (ih _ _).trans (s.answer_home request)

/-- What a job keeps, however it ends. -/
theorem keeps_of_runWith {α : Type} {job : Job α} {result : Except Failure α}
    (done : job.runWith State.answer s = (result, t)) :
    t.workingDirectory = s.workingDirectory ∧ (s.Proper → t.Proper) := by
  have same : (Action.run State.answer (ExceptT.run job) s).2 = t := congrArg Prod.snd done
  exact ⟨same ▸ run_home _ s, fun proper => same ▸ proper.run _⟩

/-- The names of what stands right below a directory. -/
def names (s : State) (directory : Place) : List String :=
  s.entries.filterMap fun entry => nameBelow? directory entry.1

theorem nameBelow?_eq_some {directory : Place} {name : String} :
    nameBelow? directory place = some name ↔ place = directory ++ [name] := by
  unfold nameBelow?
  constructor
  · intro found
    split at found
    · rename_i above
      rw [← above]
      exact (List.dropLast_append_getLast? _ found).symm
    · cases found
  · rintro rfl
    rw [if_pos (List.dropLast_concat ..), List.getLast?_concat]

theorem mem_names {directory : Place} {name : String} :
    name ∈ s.names directory ↔ s.entry? (directory ++ [name]) ≠ none := by
  have filled : directory ++ [name] ≠ [] :=
    List.append_ne_nil_of_right_ne_nil _ (List.cons_ne_nil _ _)
  rw [← mem_keys_iff filled, names, List.mem_filterMap, List.mem_map]
  constructor
  · rintro ⟨entry, listed, below⟩
    exact ⟨entry, listed, nameBelow?_eq_some.mp below⟩
  · rintro ⟨entry, listed, below⟩
    exact ⟨entry, listed, nameBelow?_eq_some.mpr below⟩

theorem Proper.isName (proper : s.Proper) {directory : Place} {name : String}
    (listed : name ∈ s.names directory) : IsName name :=
  proper.names (mem_names.mp listed) name (List.mem_append_right _ List.mem_cons_self)

theorem find_of_place {path : Path} (here : s.place path = .ok place) :
    s.find path = match s.entry? place with
      | some entry => .ok (place, entry)
      | none => .error .notFound := by
  rw [find, here]
  rfl

theorem list_directory {path : Path} (here : s.place path = .ok place)
    (there : s.entry? place = some .directory) :
    ∃ entries, s.list path = .ok entries ∧ entries.map (·.1) = s.names place := by
  refine ⟨_, by rw [list, find_of_place here, there]; rfl, ?_⟩
  rw [names, List.map_filterMap]
  refine List.filterMap_congr fun entry _ => ?_
  obtain ⟨other, entry⟩ := entry
  dsimp only
  cases nameBelow? place other <;> rfl

/-- A list is one of a directory, with names of their own. -/
theorem Proper.list_ok (proper : s.Proper) {path : Path} {entries : List (String × EntryKind)}
    (listed : s.list path = .ok entries) :
    (∀ name ∈ entries.map (·.1), IsName name) ∧ (entries.map (·.1)).Nodup := by
  cases here : s.place path with
  | error fault =>
    rw [list, find, here] at listed
    cases listed
  | ok place =>
    have found := listed
    rw [list, find_of_place here] at found
    cases there : s.entry? place with
    | none => rw [there] at found; cases found
    | some entry =>
      rw [there] at found
      cases entry with
      | file content => cases found
      | directory =>
        obtain ⟨others, same, names⟩ := list_directory here there
        obtain rfl := Except.ok.inj (listed.symm.trans same)
        rw [names]
        refine ⟨fun name => proper.isName, ?_⟩
        have below (a b : Place × Entry) (name : String) (first : name ∈ nameBelow? place a.1)
            (second : name ∈ nameBelow? place b.1) : a.1 = b.1 :=
          (nameBelow?_eq_some.mp first).trans (nameBelow?_eq_some.mp second).symm
        have places := List.pairwise_map.mp proper.distinct
        refine List.pairwise_filterMap.mpr
          (places.imp fun {a b} apart name first other second same => ?_)
        exact apart (below a b name first (same ▸ second))

theorem kind?_of_place {path : Path} (here : s.place path = .ok place) :
    s.kind? path = Option.map Entry.kind ( s.entry? place) := by
  rw [kind?, find_of_place here]
  cases s.entry? place <;> rfl

theorem read_of_place {path : Path} (here : s.place path = .ok place) {text : String}
    (there : s.entry? place = some (.file (.text text))) : s.read path = .ok text := by
  rw [State.read, content, find_of_place here, there]
  rfl

theorem read_ok {path : Path} {text : String} (read : s.read path = .ok text) :
    ∃ place, s.place path = .ok place ∧ s.entry? place = some (.file (.text text)) := by
  cases here : s.place path with
  | error fault =>
    rw [State.read, content, find, here] at read
    cases read
  | ok place =>
    rw [State.read, content, find_of_place here] at read
    refine ⟨place, rfl, ?_⟩
    cases there : s.entry? place with
    | none => rw [there] at read; cases read
    | some entry =>
      rw [there] at read
      cases entry with
      | directory => cases read
      | file content =>
        cases content with
        | binary bytes => cases read
        | text value => rw [Except.ok.inj read]

end Phrasebook.Disk.State

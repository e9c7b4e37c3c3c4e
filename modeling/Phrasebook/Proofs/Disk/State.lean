import Phrasebook.Disk.State
import Phrasebook.Proofs.Disk.Run
import Phrasebook.Proofs.Project.Path
import Mathlib.Data.List.Infix

/-!
What requests do to the model of a disk. Where a path leads is a matter of its components alone,
provided that the directories on the way are there. A request changes nothing but the place that it
is about and, where directories are created, places on the way there; and directories stay.
-/

namespace Phrasebook.Disk.State

open Phrasebook.Path (IsPiece)

variable {s t u : State} {place other : Place} {entry : Entry}

theorem lookup_entry (place other : Place) (entry : Entry) (rest : List (Place × Entry)) :
    List.lookup place ((other, entry) :: rest) = if place = other then some entry
      else rest.lookup place := by
  by_cases same : place = other
  · simp [same]
  · have different : (place == other) = false := by simpa using same
    simp [List.lookup_cons, different, same]

theorem lookup_putEntry (place other : Place) (entry : Entry) (entries : List (Place × Entry)) :
    (putEntry place entry entries).lookup other =
      if other = place then some entry else entries.lookup other := by
  induction entries with
  | nil => exact lookup_entry other place entry []
  | cons first rest ih =>
    obtain ⟨held, old⟩ := first
    rw [putEntry]
    split
    · rename_i same
      subst held
      rw [lookup_entry, lookup_entry]
      split <;> rfl
    · rename_i different
      rw [lookup_entry, lookup_entry, ih]
      by_cases same : other = held
      · have apart : other ≠ place := fun mixed => different (mixed.symm.trans same)
        rw [if_pos same, if_neg apart, if_pos same]
      · rw [if_neg same, if_neg same]

theorem keys_putEntry (place : Place) (entry : Entry) (entries : List (Place × Entry)) :
    (putEntry place entry entries).map (·.1) =
      if place ∈ entries.map (·.1) then entries.map (·.1) else entries.map (·.1) ++ [place] := by
  induction entries with
  | nil => rfl
  | cons first rest ih =>
    obtain ⟨held, old⟩ := first
    rw [putEntry]
    by_cases same : place = held
    · subst held
      simp
    · rw [if_neg same, List.map_cons, ih, List.map_cons]
      by_cases listed : place ∈ rest.map (·.1)
      · rw [if_pos listed, if_pos (List.mem_cons_of_mem _ listed)]
      · rw [if_neg listed, if_neg fun member => (List.mem_cons.mp member).elim same listed]
        rfl

theorem entry_put (filled : place ≠ []) (entry : Entry) (other : Place) :
    entry? (s.put place entry) other = if other = place then some entry else s.entry? other := by
  cases other with
  | nil => rw [if_neg filled.symm]; rfl
  | cons name other => exact lookup_putEntry place (name :: other) entry s.entries

theorem isDirectory_iff : s.isDirectory place = true ↔
    s.entry? place = some .directory := beq_iff_eq

/-- Where components lead from a place, whatever is there. -/
def lead (place : Place) (components : List Path.Component) : Except Fault Place :=
  components.foldlM step place

theorem lead_cons (place : Place) (component : Path.Component) (rest : List Path.Component) :
    lead place (component :: rest) = (step place component).bind fun next => lead next rest := rfl

theorem lead_append (place : Place) (front back : List Path.Component) :
    lead place (front ++ back) = (lead place front).bind fun next => lead next back :=
  List.foldlM_append

theorem lead_of_walk {components : List Path.Component}
    (walked : s.walk place components = .ok other) : lead place components = .ok other := by
  induction components generalizing place with
  | nil => exact walked
  | cons component rest ih =>
    rw [walk] at walked
    split at walked
    · cases walked
    · cases walked
    · rw [lead_cons]
      cases stepped : step place component with
      | error fault => rw [stepped] at walked; cases walked
      | ok next =>
        rw [stepped] at walked
        exact ih walked

theorem walk_append (place : Place) (front back : List Path.Component) :
    s.walk place (front ++ back) = (s.walk place front).bind fun next => s.walk next back := by
  induction front generalizing place with
  | nil => rfl
  | cons component front ih =>
    rw [List.cons_append, walk, walk]
    split
    · rfl
    · rfl
    · cases step place component with
      | error fault => rfl
      | ok next => exact ih next

/-- The same way is open where there are no fewer directories. -/
theorem walk_mono (more : ∀ place, s.entry? place = some .directory →
      t.entry? place = some .directory)
    {components : List Path.Component} (walked : s.walk place components = .ok other) :
    t.walk place components = .ok other := by
  induction components generalizing place with
  | nil => exact walked
  | cons component rest ih =>
    rw [walk] at walked ⊢
    split at walked
    · cases walked
    · cases walked
    · rename_i here
      rw [more place here]
      cases stepped : step place component with
      | error fault => rw [stepped] at walked; cases walked
      | ok next =>
        rw [stepped] at walked
        exact ih walked

/-- The places on the way that components lead, with the first and the last one. -/
def way (place : Place) : List Path.Component → List Place
  | [] => [place]
  | component :: rest =>
    place :: match step place component with
      | .ok next => way next rest
      | .error _ => []

theorem mem_way_self (place : Place) (components : List Path.Component) :
    place ∈ way place components := by
  cases components <;> simp [way]

theorem mem_way_cons {component : Path.Component} {rest : List Path.Component} {next : Place}
    (stepped : step place component = .ok next) (passed : other ∈ way next rest) :
    other ∈ way place (component :: rest) := by
  rw [way, stepped]
  exact List.mem_cons_of_mem _ passed

theorem mem_way_of_isPrefix {front components : List Path.Component} (part : front <+: components)
    (passed : other ∈ way place front) : other ∈ way place components := by
  induction front generalizing place components with
  | nil =>
    obtain rfl := List.mem_singleton.mp passed
    exact mem_way_self ..
  | cons component front ih =>
    obtain ⟨more, rfl⟩ := part
    rw [List.cons_append]
    rw [way] at passed ⊢
    rcases List.mem_cons.mp passed with rfl | passed
    · exact List.mem_cons_self
    · refine List.mem_cons_of_mem _ ?_
      cases stepped : step place component with
      | error fault => rw [stepped] at passed; cases passed
      | ok next =>
        rw [stepped] at passed
        exact ih (List.prefix_append ..) passed

/-- The second state differs from the first one in these places at most, and has the directories
that the first one has. -/
structure Within (allowed : Place → Prop) (s t : State) : Prop where
  kept : ∀ place, ¬ allowed place → t.entry? place = s.entry? place
  directories : ∀ place, s.entry? place = some .directory → t.entry? place = some .directory
  home : t.workingDirectory = s.workingDirectory

variable {allowed : Place → Prop}

theorem Within.refl (allowed : Place → Prop) (s : State) : Within allowed s s :=
  ⟨fun _ _ => rfl, fun _ here => here, rfl⟩

theorem Within.trans (first : Within allowed s t) (second : Within allowed t u) :
    Within allowed s u where
  kept place outside := (second.kept place outside).trans (first.kept place outside)
  directories place here := second.directories place (first.directories place here)
  home := second.home.trans first.home

theorem Within.mono {more : Place → Prop} (within : Within allowed s t)
    (wider : ∀ place, allowed place → more place) : Within more s t where
  kept place outside := within.kept place fun inside => outside (wider place inside)
  directories := within.directories
  home := within.home

/-- A path that is open stays so. -/
theorem Within.place_eq {path : Path} (within : Within allowed s t)
    (found : s.place path = .ok place) : t.place path = .ok place := by
  unfold State.place at found ⊢
  split at found
  · cases found
  · split at found
    · cases found
    · rename_i filled plain
      rw [if_neg filled, if_neg plain, within.home]
      exact walk_mono within.directories found

theorem within_put (filled : place ≠ []) (noDirectory : s.entry? place ≠ some .directory) :
    Within (· = place) s (s.put place entry) where
  kept other outside := by rw [entry_put filled, if_neg outside]
  directories other here := by
    have apart : other ≠ place := fun same => noDirectory (same ▸ here)
    rw [entry_put filled, if_neg apart]
    exact here
  home := rfl

theorem filled_of_entry (noDirectory : s.entry? place ≠ some .directory) : place ≠ [] := by
  rintro rfl
  exact noDirectory rfl

/-- Nothing is at a place. -/
def Free (s : State) (place : Place) : Prop := s.entry? place = none

theorem enter_cases {fault : Fault} (entered : s.enter place fault = .ok t) :
    t.entry? place = some .directory ∧ Within (fun other => other = place ∧ Free s other) s t ∧
      (t = s ∨ s.entry? place = none ∧ t = s.put place .directory) := by
  unfold enter at entered
  split at entered
  · rename_i here
    obtain rfl := Except.ok.inj entered
    exact ⟨here, .refl _ s, .inl rfl⟩
  · cases entered
  · rename_i free
    obtain rfl := Except.ok.inj entered
    have noDirectory : s.entry? place ≠ some .directory := by rw [free]; exact nofun
    have filled := filled_of_entry noDirectory
    refine ⟨by rw [entry_put filled, if_pos rfl], ?_, .inr ⟨free, rfl⟩⟩
    exact (within_put filled noDirectory).mono fun other same => ⟨same, same ▸ free⟩

/-- What is free behind changes of free places was free before. -/
theorem Within.free {allowed : Place → Prop} (within : Within allowed s t)
    (only : ∀ place, allowed place → Free s place) (free : Free t place) : Free s place := by
  by_contra taken
  exact taken ((within.kept place fun inside => taken (only place inside)).symm.trans free)

/-- Creating directories opens the way, and changes only what is free on it. -/
theorem createAlong_spec {components : List Path.Component}
    (created : s.createAlong place components = .ok t) :
    ∃ last, t.walk place components = .ok last ∧ t.entry? last = some .directory ∧
      Within (fun other => other ∈ way place components ∧ Free s other) s t := by
  induction components generalizing s place with
  | nil =>
    obtain ⟨here, within, -⟩ := enter_cases created
    exact ⟨place, rfl, here, within.mono fun other same => ⟨same.1 ▸ mem_way_self place [], same.2⟩⟩
  | cons component rest ih =>
    rw [createAlong] at created
    cases entered : s.enter place .notADirectory with
    | error fault => rw [entered] at created; cases created
    | ok middle =>
      rw [entered] at created
      cases stepped : step place component with
      | error fault => rw [stepped] at created; cases created
      | ok next =>
        rw [stepped] at created
        obtain ⟨here, first, -⟩ := enter_cases entered
        obtain ⟨last, walked, there, second⟩ := ih created
        refine ⟨last, ?_, there, (first.mono ?_).trans (second.mono ?_)⟩
        · rw [walk, second.directories place here, stepped]
          exact walked
        · rintro other ⟨rfl, free⟩
          exact ⟨mem_way_self _ _, free⟩
        · rintro other ⟨passed, free⟩
          exact ⟨mem_way_cons stepped passed, first.free (fun _ inside => inside.2) free⟩

/-- A file is filled where its path leads. -/
theorem fill_spec {path : Path} {content : Content} (filled : s.fill path content = .ok t) :
    ∃ place, s.place path = .ok place ∧ t = s.put place (.file content) ∧
      s.entry? place ≠ some .directory ∧ (Free s place → s.isDirectory place.dropLast = true) := by
  unfold fill at filled
  cases found : s.place path with
  | error fault => rw [found] at filled; cases filled
  | ok place =>
    rw [found] at filled
    refine ⟨place, rfl, ?_⟩
    dsimp only [bind, Except.bind] at filled
    cases there : s.entry? place with
    | none =>
      rw [there] at filled
      dsimp only at filled
      split at filled
      · rename_i inside
        exact ⟨(Except.ok.inj filled).symm, Option.some_ne_none _ |>.symm, fun _ => inside⟩
      · cases filled
    | some entry =>
      rw [there] at filled
      cases entry with
      | directory => cases filled
      | file old =>
        refine ⟨(Except.ok.inj filled).symm, by simp, fun free => ?_⟩
        rw [Free, there] at free
        cases free

theorem lead_of_place {path : Path} (found : s.place path = .ok place) :
    lead s.workingDirectory path.components = .ok place := by
  unfold State.place at found
  split at found
  · cases found
  · split at found
    · cases found
    · have led := lead_of_walk found
      rw [lead_append] at led
      cases first : lead s.workingDirectory path.components with
      | error fault => rw [first] at led; cases led
      | ok last =>
        rw [first] at led
        split at led <;> exact led

theorem lead_concat {start : Place} {components : List Path.Component} {name : String}
    (led : lead start (components ++ [.normal name]) = .ok place) :
    ∃ above, lead start components = .ok above ∧ place = above ++ [name] := by
  rw [lead_append] at led
  cases first : lead start components with
  | error fault => rw [first] at led; cases led
  | ok above =>
    rw [first] at led
    refine ⟨above, rfl, ?_⟩
    change (step above (.normal name)).bind (fun next => .ok next) = _ at led
    rw [step] at led
    split at led
    · cases led
    · exact (Except.ok.inj led).symm

/-- The place of a file is in the place of its directory. -/
theorem lead_join_name {start : Place} (directory : Path) {name : String} (isPiece : IsPiece name)
    (led : lead start (directory.join ⟨name⟩).components = .ok place) :
    ∃ above, lead start directory.components = .ok above ∧ place = above ++ [name] :=
  lead_concat (Path.components_join_name directory isPiece ▸ led)

/-- A file whose path has a known end has a name with this end. -/
theorem lead_join_append {start : Place} (directory : Path) {front tail : String}
    (noSlash : '/' ∉ tail.toList) (long : 3 ≤ tail.toList.length)
    (relative : Path.isAbsolute ⟨front ++ tail⟩ = false)
    (led : lead start (directory.join ⟨front ++ tail⟩).components = .ok place) :
    ∃ above name, place = above ++ [name ++ tail] := by
  obtain ⟨components, name, joined⟩ := Path.components_join_append directory noSlash long relative
  obtain ⟨above, -, same⟩ := lead_concat (joined ▸ led)
  exact ⟨above, name, same⟩

theorem walk_of_place {path : Path} (found : s.place path = .ok place) :
    path.text ≠ "" ∧ path.text.toList.contains '\x00' = false ∧
      s.walk s.workingDirectory path.components = .ok place := by
  unfold State.place at found
  split at found
  · cases found
  · rename_i filled
    split at found
    · cases found
    · rename_i plain
      refine ⟨fun empty => filled (String.isEmpty_iff.mpr empty), by simpa using plain, ?_⟩
      rw [walk_append] at found
      cases first : s.walk s.workingDirectory path.components with
      | error fault => rw [first] at found; cases found
      | ok last =>
        rw [first] at found
        change s.walk last _ = .ok place at found
        split at found
        · rw [walk] at found
          split at found
          · cases found
          · cases found
          · exact found
        · exact found

theorem place_of_walk {path : Path} (filled : path.text ≠ "")
    (plain : path.text.toList.contains '\x00' = false)
    (walked : s.walk s.workingDirectory path.components = .ok place) (there : endsInSlash path =
      true → s.entry? place = some .directory) : s.place path = .ok place := by
  have some : path.text.isEmpty = false := by simpa using filled
  rw [State.place, some, plain, if_neg Bool.false_ne_true, if_neg Bool.false_ne_true,
    walk_append, walked]
  change s.walk place _ = _
  split
  · rename_i slash
    rw [walk, there slash]
    rfl
  · rfl

/-- No name ends with a slash. -/
theorem endsInSlash_join_name (directory : Path) {name : String} (isPiece : IsPiece name) :
    endsInSlash (directory.join ⟨name⟩) = false := by
  obtain ⟨front, text⟩ : ∃ front, (directory.join ⟨name⟩).text.toList = front ++ name.toList := by
    rcases Path.text_join directory isPiece.isAbsolute with ⟨text, -⟩ | ⟨text, -⟩
    · exact ⟨directory.text.toList, by simp [text]⟩
    · exact ⟨directory.text.toList ++ ['/'], by simp [text]⟩
  obtain ⟨filled, noDot, -⟩ := isPiece.toList_ne
  have last : ∀ c ∈ name.toList.reverse, c ≠ '/' := fun c member slash =>
    isPiece.noSlash (slash ▸ List.mem_reverse.mp member)
  rw [endsInSlash, text, List.reverse_append]
  cases reversed : name.toList.reverse with
  | nil => exact (filled (List.reverse_eq_nil_iff.mp reversed)).elim
  | cons c cs =>
    rw [reversed] at last
    split
    · rename_i slash
      exact (last c List.mem_cons_self (List.cons.inj slash).1).elim
    · rename_i dot
      obtain ⟨rfl, rest⟩ := List.cons.inj dot
      cases cs with
      | nil => exact (noDot (List.reverse_eq_iff.mp reversed)).elim
      | cons d cs =>
        exact (last d (List.mem_cons_of_mem _ List.mem_cons_self) (List.cons.inj rest).1).elim
    · rfl

/-- The place of a file in a directory that is there. -/
theorem place_join_name {directory : Path} (here : s.place directory = .ok place)
    (there : s.entry? place = some .directory) {name : String} (isName : Path.IsName name) :
    s.place (directory.join ⟨name⟩) = .ok (place ++ [name]) := by
  obtain ⟨filled, plain, walked⟩ := walk_of_place here
  have text := Path.text_join directory isName.isAbsolute
  refine place_of_walk ?_ ?_ ?_ fun slash => ?_
  · rcases text with ⟨text, -⟩ | ⟨text, -⟩ <;> rw [text] <;> simp [filled]
  · have noZero : '\x00' ∉ directory.text.toList := by simpa using plain
    have noEnd := isName.noEnd
    rcases text with ⟨text, -⟩ | ⟨text, -⟩ <;> rw [text] <;> simp [noZero, noEnd]
  · rw [Path.components_join_name directory isName.toIsPiece, walk_append, walked]
    change s.walk place [.normal name] = _
    rw [walk, there, step, if_neg (Nat.not_lt.mpr isName.short)]
    rfl
  · rw [endsInSlash_join_name directory isName.toIsPiece] at slash
    cases slash

theorem changed_ok {change : Except Fault State} (done : s.changed change = (.ok (), t)) :
    change = .ok t := by
  cases change with
  | error fault => cases (Prod.mk.inj done).1
  | ok next => exact congrArg Except.ok (Prod.mk.inj done).2

theorem fill_of_writeFile {file : Path} {content : String}
    (done : (Job.writeFile file content).runWith answer s = (.ok (), t)) :
    s.fill file (.text content) = .ok t :=
  changed_ok (Job.attempt_ok done)

/-- A job that has created a directory leaves a way to it. -/
theorem createDirectory_spec {directory : Path}
    (done : (Job.createDirectory directory).runWith answer s = (.ok (), t)) :
    ∃ last, t.walk t.workingDirectory directory.components = .ok last ∧
    t.entry? last = some .directory ∧
      Within (fun place => place ∈ way s.workingDirectory directory.components ∧ Free s place) s t ∧
      directory.text.toList.contains '\x00' = false := by
  have created := changed_ok (Job.attempt_ok done)
  unfold State.createDirectory at created
  split at created
  · cases created
  · rename_i plain
    obtain ⟨last, walked, here, within⟩ := createAlong_spec created
    refine ⟨last, ?_, here, within, by simpa using plain⟩
    rw [within.home]
    exact walked

/-- A job that has filled a file changed nothing else. -/
theorem writeFile_spec {file : Path} {content : String}
    (done : (Job.writeFile file content).runWith answer s = (.ok (), t)) :
    ∃ place, lead s.workingDirectory file.components = .ok place ∧
      t.entry? place = some (.file (.text content)) ∧ Within (· = place) s t := by
  obtain ⟨place, found, rfl, noDirectory, -⟩ := fill_spec (fill_of_writeFile done)
  have filled := filled_of_entry noDirectory
  exact ⟨place, lead_of_place found, by
    rw [entry_put filled, if_pos rfl], within_put filled noDirectory⟩

end Phrasebook.Disk.State

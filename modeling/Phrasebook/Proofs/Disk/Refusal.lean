import Phrasebook.Proofs.Disk.Proper

/-!
Runs on a disk that may refuse any request. A file that could not be filled may hold anything
afterwards, and of the directories that could not be created some may be there. What a program has
come to is said with the requests that it has made so far and the answers to them.
-/

namespace Phrasebook

namespace Disk

/-- A request with the answer to it. -/
structure Event where
  request : Request
  answer : request.Answer

namespace State

/-- A file is left with any content. -/
def Spoils (s : State) (file : Path) (t : State) : Prop := ∃ content, s.fill file content = .ok t

/-- What a disk may make of a request. -/
inductive Serves (s : State) : (request : Request) → request.Answer → State → Prop
  | granted (request : Request) : s.Serves request (s.answer request).1 (s.answer request).2
  | canonical (path : Path) (fault : Fault) : s.Serves (.canonical path) (.error fault) s
  | list (directory : Path) (fault : Fault) : s.Serves (.list directory) (.error fault) s
  | read (file : Path) (fault : Fault) : s.Serves (.read file) (.error fault) s
  | write (file : Path) (content : String) (fault : Fault) {t : State}
      (left : t = s ∨ s.Spoils file t) : s.Serves (.write file content) (.error fault) t
  | copy (source target : Path) (fault : Fault) {t : State} (left : t = s ∨ s.Spoils target t) :
      s.Serves (.copy source target) (.error fault) t
  | createDirectory (directory : Path) (fault : Fault) {t : State}
      (left : t = s ∨ ∃ front, front <+: directory.components ∧
        s.createAlong s.workingDirectory front = .ok t) :
      s.Serves (.createDirectory directory) (.error fault) t

variable {s t : State}

theorem Serves.read_cases {file : Path} {answer : Except Fault String}
    (served : s.Serves (.read file) answer t) :
    t = s ∧ (answer = s.read file ∨ ∃ fault, answer = .error fault) := by
  cases served with
  | granted => exact ⟨rfl, .inl rfl⟩
  | read file fault => exact ⟨rfl, .inr ⟨fault, rfl⟩⟩

theorem changed_cases (s : State) (change : Except Fault State) :
    (s.changed change).2 = s ∨ change = .ok (s.changed change).2 := by
  cases change with
  | error fault => exact .inl rfl
  | ok t => exact .inr rfl

theorem Serves.write_cases {file : Path} {content : String} {answer : Except Fault Unit}
    (served : s.Serves (.write file content) answer t) : t = s ∨ s.Spoils file t := by
  cases served with
  | granted => exact (s.changed_cases _).imp id fun filled => ⟨_, filled⟩
  | write file content fault left => exact left

theorem Serves.copy_cases {source target : Path} {answer : Except Fault Unit}
    (served : s.Serves (.copy source target) answer t) : t = s ∨ s.Spoils target t := by
  cases served with
  | granted => exact (s.changed_cases _).imp id fill_of_copy
  | copy source target fault left => exact left

theorem Serves.copy_ok {source target : Path} (served : s.Serves (.copy source target) (.ok ()) t) :
    s.copy source target = .ok t := by
  generalize same : (Except.ok () : Except Fault Unit) = answer at served
  cases served with
  | granted => exact changed_ok (Prod.ext same.symm rfl)
  | copy source target fault left => cases same

/-- Where directories are created, nothing changes but what was free on the way. -/
theorem Serves.createDirectory_within {directory : Path} {answer : Except Fault Unit}
    (served : s.Serves (.createDirectory directory) answer t) : Within (Free s) s t := by
  have along (front : List Path.Component)
    (created : s.createAlong s.workingDirectory front = .ok t) :
      Within (Free s) s t := by
    obtain ⟨-, -, -, within⟩ := createAlong_spec created
    exact within.mono fun _ changed => changed.2
  cases served with
  | granted =>
    rcases s.changed_cases (s.createDirectory directory) with same | created
    · have kept : (s.answer (.createDirectory directory)).2 = s := same
      rw [kept]
      exact .refl _ s
    · refine along directory.components ?_
      change s.createDirectory directory = .ok (s.answer (.createDirectory directory)).2 at created
      unfold State.createDirectory at created
      split at created
      · cases created
      · exact created
  | createDirectory directory fault left =>
    rcases left with rfl | ⟨front, -, created⟩
    · exact .refl _ _
    · exact along front created

theorem Spoils.within {file : Path} (spoils : s.Spoils file t) :
    Within (fun place => lead s.workingDirectory file.components = .ok place) s t := by
  obtain ⟨content, filled⟩ := spoils
  obtain ⟨place, found, rfl, noDirectory, -⟩ := fill_spec filled
  refine (within_put (filled_of_entry noDirectory) noDirectory).mono ?_
  rintro other rfl
  exact lead_of_place found

theorem content_eq_ok {path : Path} {content : Content} :
    s.content path = .ok content ↔ ∃ place, s.place path = .ok place ∧ s.entry? place = some
      (.file content) := by
  cases here : s.place path with
  | error fault =>
    rw [State.content, find, here]
    constructor
    · intro found
      cases found
    · rintro ⟨_, same, -⟩
      cases same
  | ok place =>
    rw [State.content, find_of_place here]
    constructor
    · intro found
      refine ⟨place, rfl, ?_⟩
      cases there : s.entry? place with
      | none => rw [there] at found; cases found
      | some entry =>
        rw [there] at found
        cases entry with
        | directory => cases found
        | file held => rw [Except.ok.inj found]
    · rintro ⟨_, same, there⟩
      cases same
      rw [there]
      rfl

/-- A file keeps its content where nothing changes its place. -/
theorem Within.content {allowed : Place → Prop} (within : Within allowed s t) {path : Path}
    {content : Content} (held : s.content path = .ok content)
    (off : ∀ place, lead s.workingDirectory path.components = .ok place →
      s.entry? place = some (.file content) → ¬ allowed place) : t.content path = .ok content := by
  obtain ⟨place, found, there⟩ := content_eq_ok.mp held
  refine content_eq_ok.mpr ⟨place, within.place_eq found, ?_⟩
  rw [within.kept place (off place (lead_of_place found) there)]
  exact there

end State

namespace Action

variable {α β : Type} {s t : State} {events : List Event}

/-- A program has come from a state to what is left of it in another state. -/
inductive Runs : Action α → State → List Event → Action α → State → Prop
  | here (action : Action α) (s : State) : Runs action s [] action s
  | served {request : Request} {next : request.Answer → Action α}
      {answer : request.Answer} {s t u : State}
      {events : List Event} {rest : Action α} (first : s.Serves request answer t)
      (more : Runs (next answer) t events rest u) :
      Runs (ask request next) s (⟨request, answer⟩ :: events) rest u

theorem runs_done {value : α} {rest : Action α} (runs : (done value).Runs s events rest t) :
    events = [] ∧ rest = done value ∧ t = s := by
  cases runs with
  | here => exact ⟨rfl, rfl, rfl⟩

theorem runs_request {r : Request} {rest : Action r.Answer}
    (runs : (request r).Runs s events rest t) : events = [] ∧ rest = request r ∧ t = s ∨
      ∃ answer, s.Serves r answer t ∧ events = [⟨r, answer⟩] ∧ rest = done answer := by
  cases runs with
  | here => exact .inl ⟨rfl, rfl, rfl⟩
  | served first more =>
    obtain ⟨rfl, rfl, rfl⟩ := runs_done more
    exact .inr ⟨_, first, rfl, rfl⟩

/-- Of two programs in a row either the first is still running or the second has begun. -/
theorem Runs.of_bind {action : Action α} {next : α → Action β} {rest : Action β}
    (runs : (action >>= next).Runs s events rest t) :
    ((∃ part, action.Runs s events part t) ∧ ∀ value, rest ≠ done value) ∨
      ∃ value u front back, action.Runs s front (done value) u ∧ (next value).Runs u back rest t ∧
        events = front ++ back := by
  change (action.bind next).Runs s events rest t at runs
  induction action generalizing s events with
  | done value => exact .inr ⟨value, s, [], events, .here _ _, runs, rfl⟩
  | ask request more ih =>
    cases runs with
    | here => exact .inl ⟨⟨_, .here _ _⟩, nofun⟩
    | served first others =>
      rcases ih _ others with ⟨⟨part, runs⟩, goes⟩ | ⟨value, u, front, back, runs, goes, rfl⟩
      · exact .inl ⟨⟨part, .served first runs⟩, goes⟩
      · exact .inr ⟨value, u, _ :: front, back, .served first runs, goes, rfl⟩

/-- A disk may grant all that is asked of it. -/
theorem runs_of_run (action : Action α) (s : State) :
    ∃ events, action.Runs s events (done (action.run State.answer s).1)
      (action.run State.answer s).2 := by
  induction action generalizing s with
  | done value => exact ⟨[], .here _ _⟩
  | ask request next ih =>
    obtain ⟨events, runs⟩ := ih (s.answer request).1 (s.answer request).2
    exact ⟨_ :: events, .served (.granted request) runs⟩

end Action
end Disk

namespace Job

open Disk (State Event Fault)

variable {α β : Type} {s t : State} {events : List Event}

/-- A job has come to a point on its way. -/
def Passes (job : Job α) (s : State) (events : List Event) (t : State) : Prop :=
  ∃ rest, Disk.Action.Runs (ExceptT.run job) s events rest t

/-- A job has come to its end. -/
def Ends (job : Job α) (s : State) (events : List Event) (result : Except Failure α)
    (t : State) : Prop :=
  Disk.Action.Runs (ExceptT.run job) s events (.done result) t

theorem Ends.passes {job : Job α} {result : Except Failure α} (ends : job.Ends s events result t) :
    job.Passes s events t := ⟨_, ends⟩

theorem ends_pure {value : α} {result : Except Failure α}
    (ends : (pure value : Job α).Ends s events result t) :
    result = .ok value ∧ events = [] ∧ t = s := by
  obtain ⟨rfl, same, rfl⟩ := Disk.Action.runs_done ends
  exact ⟨Disk.Action.done.inj same, rfl, rfl⟩

theorem passes_pure {value : α} (passes : (pure value : Job α).Passes s events t) :
    events = [] ∧ t = s := by
  obtain ⟨_, runs⟩ := passes
  obtain ⟨rfl, -, rfl⟩ := Disk.Action.runs_done runs
  exact ⟨rfl, rfl⟩

theorem passes_throw {failure : Failure} (passes : (throw failure : Job α).Passes s events t) :
    events = [] ∧ t = s := by
  obtain ⟨_, runs⟩ := passes
  obtain ⟨rfl, -, rfl⟩ := Disk.Action.runs_done runs
  exact ⟨rfl, rfl⟩

theorem ends_throw {failure : Failure} {result : Except Failure α}
    (ends : (throw failure : Job α).Ends s events result t) : result = .error failure := by
  obtain ⟨-, same, -⟩ := Disk.Action.runs_done ends
  exact Disk.Action.done.inj same

/-- Of two jobs in a row either the first is still running, or has failed, or the second has begun.
-/
theorem Passes.of_bind {job : Job α} {next : α → Job β}
    (passes : (job >>= next).Passes s events t) :
    job.Passes s events t ∨ ∃ value u front back, job.Ends s front (.ok value) u ∧
      (next value).Passes u back t ∧ events = front ++ back := by
  obtain ⟨rest, runs⟩ := passes
  have runs : Disk.Action.Runs (ExceptT.run job >>= ExceptT.bindCont next) s events rest t := runs
  rcases runs.of_bind with ⟨⟨part, runs⟩, -⟩ |
    ⟨result, u, front, back, first, more, rfl⟩
  · exact .inl ⟨part, runs⟩
  · cases result with
    | error failure =>
      obtain ⟨rfl, -, rfl⟩ := Disk.Action.runs_done more
      exact .inl ⟨_, (List.append_nil front).symm ▸ first⟩
    | ok value => exact .inr ⟨value, u, front, back, first, ⟨rest, more⟩, rfl⟩

theorem Ends.of_bind {job : Job α} {next : α → Job β} {value : β}
    (ends : (job >>= next).Ends s events (.ok value) t) :
    ∃ first u front back, job.Ends s front (.ok first) u ∧ (next first).Ends u back (.ok value) t ∧
      events = front ++ back := by
  have runs : Disk.Action.Runs (ExceptT.run job >>= ExceptT.bindCont next) s events
      (.done (.ok value)) t := ends
  rcases runs.of_bind with ⟨-, goes⟩ |
    ⟨result, u, front, back, first, more, rfl⟩
  · exact (goes _ rfl).elim
  · cases result with
    | error failure =>
      obtain ⟨-, same, -⟩ := Disk.Action.runs_done more
      cases same
    | ok value => exact ⟨value, u, front, back, first, more, rfl⟩

/-- A job ends as it does where all is granted. -/
theorem ends_of_runWith {job : Job α} {result : Except Failure α}
    (ran : job.runWith State.answer s = (result, t)) : ∃ events, job.Ends s events result t := by
  obtain ⟨events, runs⟩ := Disk.Action.runs_of_run (ExceptT.run job) s
  have same : Disk.Action.run State.answer (ExceptT.run job) s = (result, t) := ran
  rw [same] at runs
  exact ⟨events, runs⟩

theorem passes_lift {action : Disk.Action α} (passes : (liftM action : Job α).Passes s events t) :
    ∃ rest, action.Runs s events rest t := by
  obtain ⟨rest, runs⟩ := passes
  rcases Disk.Action.Runs.of_bind runs with ⟨going, -⟩ | ⟨value, u, front, back, first, more, rfl⟩
  · exact going
  · obtain ⟨rfl, -, rfl⟩ := Disk.Action.runs_done more
    exact ⟨_, (List.append_nil front).symm ▸ first⟩

theorem ends_lift {action : Disk.Action α} {value : α}
    (ends : (liftM action : Job α).Ends s events (.ok value) t) :
    action.Runs s events (.done value) t := by
  rcases Disk.Action.Runs.of_bind ends with ⟨-, goes⟩ | ⟨value, u, front, back, first, more, rfl⟩
  · exact (goes _ rfl).elim
  · obtain ⟨rfl, same, rfl⟩ := Disk.Action.runs_done more
    cases same
    exact (List.append_nil front).symm ▸ first

theorem passes_attempt {task : DiskTask} {action : Disk.Action (Except Fault α)}
    (passes : (attempt task action).Passes s events t) : ∃ rest, action.Runs s events rest t := by
  rcases passes.of_bind with first | ⟨answer, u, front, back, first, more, rfl⟩
  · exact passes_lift first
  · have nothing : back = [] ∧ t = u := by
      cases answer with
      | ok value => exact passes_pure more
      | error fault => exact passes_throw more
    obtain ⟨rfl, rfl⟩ := nothing
    exact ⟨_, (List.append_nil front).symm ▸ ends_lift first⟩

theorem ends_attempt {task : DiskTask} {action : Disk.Action (Except Fault α)} {value : α}
    (ends : (attempt task action).Ends s events (.ok value) t) :
    action.Runs s events (.done (.ok value)) t := by
  obtain ⟨answer, u, front, back, first, more, rfl⟩ := ends.of_bind
  cases answer with
  | error fault => cases ends_throw more
  | ok other =>
    obtain ⟨same, rfl, rfl⟩ := ends_pure more
    cases same
    exact (List.append_nil front).symm ▸ ends_lift first

end Job
end Phrasebook

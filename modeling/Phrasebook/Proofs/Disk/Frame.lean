import Phrasebook.Proofs.Project.Scan
import Phrasebook.Proofs.Rewriting.Backup

/-!
What a run leaves alone. On a disk that may refuse any request a run changes nothing but what was
free and what its requests to write or to copy lead to, and it makes no other requests than its
program can make.
-/

namespace Phrasebook

namespace Disk

open State
open Rewriting (Grows grows_of_spoils)

/-- The place that a request fills. -/
def Request.Touches (home : Place) : Request → Place → Prop
  | write file _, place => lead home file.components = .ok place
  | copy _ target, place => lead home target.components = .ok place
  | canonical _, _ | kind _, _ | list _, _ | read _, _ | createDirectory _, _ | time, _ => False

/-- A place that one of some requests fills. -/
def Touched (home : Place) (events : List Event) (place : Place) : Prop :=
  ∃ event ∈ events, event.request.Touches home place

variable {s t : State} {events : List Event}

theorem State.Serves.grows {request : Request} {answer : request.Answer}
    (served : s.Serves request answer t) : Grows (request.Touches s.workingDirectory) s t := by
  cases request with
  | write file content => exact grows_of_spoils served.write_cases
  | copy source target => exact grows_of_spoils served.copy_cases
  | createDirectory directory => exact served.createDirectory_within.mono fun place => .inl
  | canonical | kind | list | read | time =>
    obtain rfl : t = s := by cases served <;> rfl
    exact .refl _ _

namespace Action

variable {α : Type} {action rest : Action α} {allowed : Request → Prop}

/-- A run changes nothing but what was free and what its requests fill. -/
theorem Runs.grows (runs : action.Runs s events rest t) :
    Grows (Touched s.workingDirectory events) s t := by
  induction runs with
  | here => exact .refl _ _
  | served first more ih =>
    refine (first.grows.mono fun place touches => ?_).trans (ih.mono ?_)
    · exact ⟨_, List.mem_cons_self, touches⟩
    · rintro place ⟨event, listed, touches⟩
      exact ⟨event, List.mem_cons_of_mem _ listed, first.grows.home ▸ touches⟩

theorem Runs.only (runs : action.Runs s events rest t) (only : action.Only allowed) :
    ∀ event ∈ events, allowed event.request := by
  induction runs with
  | here => exact nofun
  | served first more ih => exact List.forall_mem_cons.mpr ⟨only.1, ih (only.2 _)⟩

theorem Only.mono {more : Request → Prop} (only : action.Only allowed)
    (wider : ∀ request, allowed request → more request) : action.Only more := by
  induction action with
  | done value => trivial
  | ask request next ih => exact ⟨wider _ only.1, fun answer => ih answer (only.2 answer)⟩

end Action
end Disk

namespace Job

variable {α β : Type} {allowed : Disk.Request → Prop}

/-- All requests that a job can make are allowed. -/
def Only (allowed : Disk.Request → Prop) (job : Job α) : Prop :=
  Disk.Action.Only allowed (ExceptT.run job)

theorem Only.pure (value : α) : (Pure.pure value : Job α).Only allowed := trivial

theorem Only.throw (failure : Failure) : (MonadExcept.throw failure : Job α).Only allowed := trivial

theorem Only.bind {job : Job α} {next : α → Job β} (first : job.Only allowed)
    (second : ∀ value, (next value).Only allowed) : (job >>= next).Only allowed := by
  have rest (result : Except Failure α) :
      Disk.Action.Only allowed (ExceptT.bindCont next result) := by
    cases result with
    | ok value => exact second value
    | error failure => trivial
  exact Disk.Action.Only.bind first rest

theorem Only.lift {action : Disk.Action α} (only : action.Only allowed) :
    (liftM action : Job α).Only allowed :=
  Disk.Action.Only.bind only fun _ => trivial

theorem Only.attempt {task : DiskTask} {action : Disk.Action (Except Disk.Fault α)}
    (only : action.Only allowed) : (attempt task action).Only allowed :=
  .bind (.lift only) fun answer => by cases answer <;> trivial

/-- A job that fails before it does anything, or goes on. -/
theorem Only.unless {bad : Prop} [Decidable bad] {failure : Failure} {next : Unit → Job α}
    (only : ∀ value, (next value).Only allowed) :
    (if bad then MonadExcept.throw failure >>= next else next ()).Only allowed := by
  split
  · exact .bind (.throw _) only
  · exact only ()

end Job
end Phrasebook

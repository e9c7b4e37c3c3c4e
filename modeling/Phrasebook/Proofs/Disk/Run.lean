import Phrasebook.Failure

/-!
Runs of programs that use a disk, whatever answers their requests. A program in parts is run part by
part, and a failure ends it in the state where it arose. A program that makes only requests of some
kind keeps what each request of that kind keeps.
-/

namespace Phrasebook

namespace Disk

universe u
variable {σ : Type u} {α β : Type}

/-- Whatever answers requests, and may change with each of them. -/
abbrev Answering (σ : Type u) := σ → (request : Request) → request.Answer × σ

namespace Action

theorem bind_done (action : Action α) : action.bind done = action := by
  induction action with
  | done value => rfl
  | ask request next ih => exact congrArg (ask request) (funext ih)

/-- Programs in a row are one program, however they are grouped. -/
theorem bind_assoc {γ : Type} (action : Action α) (first : α → Action β) (second : β → Action γ) :
    (action.bind first).bind second = action.bind fun value => (first value).bind second := by
  induction action with
  | done value => rfl
  | ask request next ih => exact congrArg (ask request) (funext ih)

instance : LawfulMonad Action := LawfulMonad.mk' Action bind_done (fun _ _ => rfl) bind_assoc

variable (answer : Answering σ)

@[simp] theorem run_pure (value : α) (s : σ) :
    (pure value : Action α).run answer s = (value, s) := rfl

theorem run_bind (action : Action α) (next : α → Action β) (s : σ) :
    (action >>= next).run answer s =
      (next (action.run answer s).1).run answer (action.run answer s).2 := by
  change (action.bind next).run answer s = _
  induction action generalizing s with
  | done value => rfl
  | ask request rest ih => exact ih _ _

@[simp] theorem run_request (r : Request) (s : σ) :
    (request r).run answer s = answer s r := rfl

/-- All requests that a program can make are allowed. -/
def Only (allowed : Request → Prop) : Action α → Prop
  | done _ => True
  | ask request next => allowed request ∧ ∀ answer, (next answer).Only allowed

variable {allowed : Request → Prop}

theorem Only.done (value : α) : (pure value : Action α).Only allowed := trivial

theorem Only.request {r : Request} (permitted : allowed r) : (Disk.request r).Only allowed :=
  ⟨permitted, fun _ => trivial⟩

theorem Only.bind {action : Action α} {next : α → Action β} (first : action.Only allowed)
    (second : ∀ value, (next value).Only allowed) : (action >>= next).Only allowed := by
  change (action.bind next).Only allowed
  induction action with
  | done value => exact second value
  | ask request rest ih => exact ⟨first.1, fun reply => ih reply (first.2 reply)⟩

theorem Only.mapM {items : List α} {step : α → Action β}
    (each : ∀ item ∈ items, (step item).Only allowed) : (items.mapM step).Only allowed := by
  induction items with
  | nil => exact Only.done _
  | cons item items ih =>
    rw [List.mapM_cons]
    refine (each item List.mem_cons_self).bind fun _ => ?_
    exact (ih fun other member => each other (List.mem_cons_of_mem _ member)).bind
      fun _ => Only.done _

/-- What every allowed request keeps, a program that makes no others keeps. -/
theorem Only.run_induction {answer : Answering σ} {P : σ → Prop} {action : Action α}
    (only : action.Only allowed)
    (keeps : ∀ s request, allowed request → P s → P (answer s request).2) {s : σ} (start : P s) :
    P (action.run answer s).2 := by
  induction action generalizing s with
  | done value => exact start
  | ask request rest ih => exact ih _ (only.2 _) (keeps s request only.1 start)

end Action
end Disk

namespace Job

universe u
variable {σ : Type u} {α β : Type} (answer : Disk.Answering σ)

/-- How a job ends, and the state that it leaves. -/
def runWith (job : Job α) (s : σ) : Except Failure α × σ :=
  Disk.Action.run answer (ExceptT.run job) s

@[simp] theorem runWith_pure (value : α) (s : σ) :
    (pure value : Job α).runWith answer s = (.ok value, s) := rfl

@[simp] theorem runWith_throw (failure : Failure) (s : σ) :
    (throw failure : Job α).runWith answer s = (.error failure, s) := rfl

/-- A program that cannot fail, as a job. -/
@[simp] theorem runWith_lift (action : Disk.Action α) (s : σ) :
    (liftM action : Job α).runWith answer s =
    (.ok (action.run answer s).1, (action.run answer s).2) :=
  Disk.Action.run_bind answer action _ s

theorem runWith_bind (job : Job α) (next : α → Job β) (s : σ) :
    (job >>= next).runWith answer s =
      match job.runWith answer s with
      | (.ok value, s) => (next value).runWith answer s
      | (.error failure, s) => (.error failure, s) := by
  have steps := Disk.Action.run_bind answer (ExceptT.run job) (ExceptT.bindCont next) s
  refine Eq.trans (b := _) steps ?_
  unfold runWith
  cases Disk.Action.run answer (ExceptT.run job) s with
  | mk result s => cases result <;> rfl

variable {answer} {s t : σ}

/-- Behind a part that has succeeded, a job goes on as the next one. -/
theorem runWith_bind_of_ok {job : Job α} {next : α → Job β} {first : α}
    (ran : job.runWith answer s = (.ok first, t)) :
    (job >>= next).runWith answer s = (next first).runWith answer t := by
  rw [runWith_bind, ran]

/-- A job in two parts succeeds where both do. -/
theorem bind_ok {job : Job α} {next : α → Job β} {value : β}
    (done : (job >>= next).runWith answer s = (.ok value, t)) :
    ∃ first middle, job.runWith answer s = (.ok first, middle) ∧
      (next first).runWith answer middle = (.ok value, t) := by
  rw [runWith_bind] at done
  cases ran : job.runWith answer s with
  | mk result middle =>
    rw [ran] at done
    cases result with
    | ok first => exact ⟨first, middle, rfl, done⟩
    | error failure => cases (Prod.mk.inj done).1

theorem runWith_attempt (task : DiskTask) (action : Disk.Action (Except Disk.Fault α)) (s : σ) :
    (attempt task action).runWith answer s =
      (match (action.run answer s).1 with
        | .ok value => .ok value
        | .error fault => .error (.disk task fault), (action.run answer s).2) := by
  rw [attempt, runWith_bind, runWith_lift]
  dsimp only
  cases (action.run answer s).1 <;> rfl

theorem attempt_ok {task : DiskTask} {action : Disk.Action (Except Disk.Fault α)} {value : α}
    (done : (attempt task action).runWith answer s = (.ok value, t)) :
    action.run answer s = (.ok value, t) := by
  rw [runWith_attempt] at done
  obtain ⟨same, rfl⟩ := Prod.mk.inj done
  refine Prod.ext ?_ rfl
  cases ran : (action.run answer s).1 with
  | ok other =>
    rw [ran] at same
    exact congrArg Except.ok (Except.ok.inj same)
  | error fault =>
    rw [ran] at same
    cases same

end Job
end Phrasebook

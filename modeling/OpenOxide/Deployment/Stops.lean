import OpenOxide.Deployment.Services

/-!
# The operations of a stop call

`StopOp` lists what a stop or cancel call of any of the three services does to
the panel: it marks the resource, cancels what is queued, cancels the token,
records the request in the rows, and spawns the task that does the Docker
work.  Every statement about stop calls that run alone goes through this list.
-/

namespace OpenOxide.Deployment

open Concurrency Program

/-- The stop or cancel call of a resource's service. -/
def stopCall : ResourceKey → Action (Except SqlError Bool)
  | .application id => stopApplication id
  | .compose id => stopCompose id
  | .database kind id => stopDatabase kind id

/-- The statement that records a cancellation request in the rows. -/
def requestCancelFor : ResourceKey → DeploymentUpdate
  | .application id => requestCancelDeployment id
  | .compose id => requestCancelComposeDeployment id
  | .database _ id => requestCancelDatabaseDeployment id

/-- The operations of a stop of the resource. -/
inductive StopOp (key : ResourceKey) : Op → Prop where
  | record : StopOp key (.sql (.read (.resource key)))
  | mark (status : ResourceStatus) :
      StopOp key (.sql (.updateStatus key status))
  | resolve : StopOp key (.outside .resolve)
  | queuedIds : StopOp key (.sql (.read (.queuedIds key.selector)))
  | cancelQueued : StopOp key (.sql (.update (cancelQueued key.selector)))
  | cancelToken : StopOp key (.memory (.cancelById key.idType))
  | requestCancel : StopOp key (.sql (.update (requestCancelFor key)))
  | spawn {job : StopJob} (own : job.key = key) :
      StopOp key (.spawn (.stopJob job))

section

variable {key : ResourceKey}

theorem only_ignore {α : Type} {allowed : Op → Prop} {action : SqlAction α}
    (only : action.run.Only allowed) : (ignore action).Only allowed :=
  only.bind fun _ => trivial

theorem getById_only : (getById key).run.Only (StopOp key) := by
  refine (only_perform .record).bind fun outcome => ?_
  rcases outcome with _ | _ | _ <;> trivial

theorem updateStatus_only (status : ResourceStatus) :
    (updateStatus key status).run.Only (StopOp key) := by
  refine Only.andThen (only_perform (.mark status)) fun _ =>
    Only.andThen (only_perform .record) fun found => ?_
  cases found <;> trivial

theorem cancelQueue_only :
    (cancelQueue (cancelQueuedBy key.selector)).Only (StopOp key) := by
  refine (only_perform .resolve).bind fun outcome => ?_
  cases outcome with
  | error _ => trivial
  | ok _ =>
    refine only_ignore (Only.andThen ?_ fun _ =>
      Only.andThen (only_perform .queuedIds) fun _ =>
      Only.andThen (only_perform .cancelQueued) fun _ => trivial)
    refine (only_perform .resolve).bind fun resolved => ?_
    cases resolved <;> trivial

theorem cancelToken_only : (cancelToken key.idType).Only (StopOp key) := by
  refine (only_perform .resolve).bind fun outcome => ?_
  cases outcome with
  | error _ => trivial
  | ok _ => exact (only_perform .cancelToken).bind fun _ => trivial

theorem stopRecorded_only (record : Resource)
    (statuses : ResourceStatus × ResourceStatus) :
    (do
      ignore (updateStatus key statuses.1)
      cancelQueue (cancelQueuedBy key.selector)
      cancelToken key.idType
      ignore (sql (.update (requestCancelFor key)))
      spawn (.stopJob ⟨key, some record, statuses.2⟩)
      pure (.ok true) : Action (Except SqlError Bool)).Only (StopOp key) :=
  (only_ignore (updateStatus_only _)).bind fun _ =>
    cancelQueue_only.bind fun _ => cancelToken_only.bind fun _ =>
    (only_ignore (only_perform .requestCancel)).bind fun _ =>
    (only_perform (.spawn rfl)).bind fun _ => trivial

theorem stopCall_only (key : ResourceKey) :
    (stopCall key).Only (StopOp key) := by
  cases key with
  | application id =>
    refine getById_only.bind fun found => ?_
    cases found with
    | error _ => trivial
    | ok record => exact @stopRecorded_only (.application id) record _
  | compose id =>
    refine getById_only.bind fun found => ?_
    cases found with
    | error _ => trivial
    | ok record => exact @stopRecorded_only (.compose id) record _
  | database kind id =>
    exact getById_only.bind fun _ =>
      (only_ignore (only_perform (.mark _))).bind fun _ =>
      cancelQueue_only.bind fun _ => cancelToken_only.bind fun _ =>
      (only_ignore (only_perform .cancelQueued)).bind fun _ =>
      (only_ignore (only_perform .requestCancel)).bind fun _ =>
      (only_perform (.spawn rfl)).bind fun _ => trivial

end

end OpenOxide.Deployment

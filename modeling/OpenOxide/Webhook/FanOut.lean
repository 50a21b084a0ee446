import OpenOxide.Webhook.Reach

/-!
# One push, many resources

The two loops of `dispatch` are one over the resources that follow the event.  It
ends with the first resource whose watch paths cannot be read or whose
redeployment is refused, and `rounds_spec` says what is handled by then.
-/

namespace OpenOxide.Webhook

open Text Relational Effects

/-- What a round of `dispatch` takes from a resource. -/
structure Follower where
  resource : Touch
  watchPaths : Option String
  run : World → Except String Unit
  queued : DispatchOutcome → DispatchOutcome

/-- How the round of a resource ends. -/
inductive Ending where
  | queued
  | skipped
  | running
  | failed (error : String)
deriving DecidableEq

def Ending.fails : Ending → Bool
  | .failed _ => true
  | _ => false

namespace Follower

def application (services : Services) (row : Application) : Follower where
  resource := .application row
  watchPaths := row.watchPaths
  run world :=
    (services.applicationOperation world row.id .redeploy).map fun _ => ()
  queued outcome :=
    { outcome with applicationsQueued := outcome.applicationsQueued + 1 }

def compose (services : Services) (row : ComposeProject) : Follower where
  resource := .compose row
  watchPaths := row.watchPaths
  run world := services.composeOperation world row.id
  queued outcome :=
    { outcome with composeProjectsQueued := outcome.composeProjectsQueued + 1 }

/-- What the end of a round adds to the outcome. -/
def counted (outcome : DispatchOutcome) (round : Follower × Ending) :
    Except String DispatchOutcome :=
  match round.2 with
  | .queued => .ok (round.1.queued outcome)
  | .skipped => .ok
      { outcome with skippedByWatchPaths := outcome.skippedByWatchPaths + 1 }
  | .running => .ok
      { outcome with alreadyRunning := outcome.alreadyRunning + 1 }
  | .failed error => .error error

variable (readJson : JsonReader) (event : PushEvent)

/-- The round of a resource. -/
def round (outcome : DispatchOutcome) (follower : Follower) :
    Action DispatchOutcome :=
  dispatchResource readJson event follower.resource follower.watchPaths
    follower.run follower.queued outcome

variable (follower : Follower) (world : World)

/-- The watch paths can be read and let the event through. -/
def due : Bool :=
  match isDue readJson event follower.watchPaths with
  | .ok due => due
  | .error _ => false

variable {readJson event} in
theorem due_iff : follower.due readJson event = true ↔
    isDue readJson event follower.watchPaths = .ok true := by
  rw [due]
  cases isDue readJson event follower.watchPaths with
  | error error => simp
  | ok deploys => simp

/-- The world after the round of the resource. -/
def noted : World :=
  if follower.due readJson event then
    (touch follower.resource).worldAfter world
  else world

/-- The resource's own end: its watch paths and the answer of its service decide
it, in the world in which its turn comes. -/
def ending : Ending :=
  match isDue readJson event follower.watchPaths with
  | .error error => .failed error
  | .ok false => .skipped
  | .ok true =>
    match follower.run (follower.noted readJson event world) with
    | .ok _ => .queued
    | .error error =>
      if contains alreadyRunningText error then .running
      else .failed error

theorem noted_touched : (follower.noted readJson event world).touched =
    world.touched ++ ([follower].filter (due readJson event)).map resource := by
  rw [noted]
  cases asked : follower.due readJson event with
  | false => simp [asked]
  | true => simp [asked, touch]; rfl

theorem round_spec (outcome : DispatchOutcome) :
    (round readJson event outcome follower).worldAfter world =
        follower.noted readJson event world ∧
      (round readJson event outcome follower).answer world =
        counted outcome (follower, follower.ending readJson event world) := by
  unfold round dispatchResource ending noted due
  cases isDue readJson event follower.watchPaths with
  | error error => exact ⟨rfl, rfl⟩
  | ok deploys =>
    cases deploys with
    | false => exact ⟨rfl, rfl⟩
    | true =>
      unfold countRedeployment
      rw [Attempt.ofExcept_ok rfl, if_pos rfl, if_pos rfl,
        (Attempt.bind_ok rfl).1, (Attempt.bind_ok rfl).2,
        (Attempt.bind_ok rfl).1, (Attempt.bind_ok rfl).2]
      cases follower.run ((touch follower.resource).worldAfter world) with
      | ok _ => exact ⟨rfl, rfl⟩
      | error error =>
        cases running : contains alreadyRunningText error with
        | true | false =>
          simp only [running, if_true, if_false, Bool.false_eq_true]
          exact ⟨rfl, rfl⟩

end Follower

section FanOut

variable (readJson : JsonReader) (services : Services) (event : PushEvent)

/-- The resources that follow the event, in the order of the loops. -/
def followers (world : World) : List Follower :=
  (services.applicationOrder.arrange (world.matchingApplications event)).map
      (.application services) ++
    (services.composeOrder.arrange (world.matchingComposeProjects event)).map
      (.compose services)

/-- The resources that have their round, with its end. -/
def rounds : World → List Follower → List (Follower × Ending)
  | _, [] => []
  | world, follower :: rest =>
    let ending := follower.ending readJson event world
    (follower, ending) :: if ending.fails then []
      else rounds (follower.noted readJson event world) rest

/-- The resources of the rounds that come to a service. -/
def handed (rounds : List (Follower × Ending)) : List Touch :=
  ((rounds.map Prod.fst).filter (Follower.due readJson event)).map
    Follower.resource

theorem rounds_spec (list : List Follower) (outcome : DispatchOutcome)
    (world : World) :
    ((list.foldlM (Follower.round readJson event) outcome).worldAfter
        world).touched = world.touched ++
          handed readJson event (rounds readJson event world list) ∧
      (list.foldlM (Follower.round readJson event) outcome).answer world =
        (rounds readJson event world list).foldlM Follower.counted outcome := by
  induction list generalizing outcome world with
  | nil => exact ⟨(List.append_nil _).symm, rfl⟩
  | cons follower rest induction =>
    obtain ⟨after, answered⟩ :=
      follower.round_spec readJson event world outcome
    have noted := follower.noted_touched readJson event world
    rw [List.foldlM_cons, rounds, List.foldlM_cons, handed, List.map_cons,
      ← List.singleton_append, List.filter_append, List.map_append,
      ← List.append_assoc, ← noted]
    cases ended : follower.ending readJson event world with
    | failed error =>
      rw [ended] at answered
      rw [(Attempt.bind_error answered).1, (Attempt.bind_error answered).2,
        after]
      exact ⟨(List.append_nil _).symm, rfl⟩
    | _ =>
      rw [ended] at answered
      rw [(Attempt.bind_ok answered).1, (Attempt.bind_ok answered).2, after]
      exact induction _ _

theorem dispatch_rounds (world : World) :
    let list := rounds readJson event world (followers services event world)
    ((dispatch readJson services event).worldAfter world).touched =
        world.touched ++ handed readJson event list ∧
      (dispatch readJson services event).answer world =
        list.foldlM Follower.counted (pushOutcome event) := by
  have spec := rounds_spec readJson event (followers services event world)
    (pushOutcome event) world
  rw [followers, List.foldlM_append, List.foldlM_map] at spec
  simp only [List.foldlM_map] at spec
  exact spec

variable {readJson event services} {world : World} {follower : Follower}
  {ending : Ending} {before rest : List Follower}

theorem mem_dispatch_touched
    (due : isDue readJson event follower.watchPaths = .ok true)
    (turn : (follower, ending) ∈ rounds readJson event world
      (followers services event world)) :
    follower.resource ∈
      ((dispatch readJson services event).worldAfter world).touched := by
  rw [(dispatch_rounds readJson services event world).1]
  exact List.mem_append_right _ (List.mem_map_of_mem (List.mem_filter.mpr
    ⟨List.mem_map_of_mem turn, follower.due_iff.mpr due⟩))

theorem mem_rounds_cons {first : Follower} :
    (follower, ending) ∈ rounds readJson event world (first :: rest) ↔
      follower = first ∧ ending = first.ending readJson event world ∨
      (first.ending readJson event world).fails = false ∧
        (follower, ending) ∈
          rounds readJson event (first.noted readJson event world) rest := by
  rw [rounds, List.mem_cons, Prod.mk.injEq]
  cases (first.ending readJson event world).fails <;> simp

theorem mem_of_rounds
    (member : (follower, ending) ∈ rounds readJson event world rest) :
    follower ∈ rest := by
  induction rest generalizing world with
  | nil => cases member
  | cons first rest induction =>
    rcases mem_rounds_cons.mp member with ⟨rfl, _⟩ | ⟨_, later⟩
    · exact List.mem_cons_self
    · exact List.mem_cons_of_mem _ (induction later)

theorem of_mem_rounds
    (member : (follower, ending) ∈ rounds readJson event world
      (before ++ rest)) :
    follower ∈ before ∨ follower ∈ rest ∧ ∀ other ∈ before, ∃ deploys,
      isDue readJson event other.watchPaths = .ok deploys := by
  induction before generalizing world with
  | nil => exact .inr ⟨mem_of_rounds member, by simp⟩
  | cons first before induction =>
    rcases mem_rounds_cons.mp member with ⟨rfl, _⟩ | ⟨passed, later⟩
    · exact .inl List.mem_cons_self
    · refine (induction later).imp (List.mem_cons_of_mem _) ?_
      rintro ⟨present, read⟩
      refine ⟨present, List.forall_mem_cons.mpr ⟨?_, read⟩⟩
      cases asked : isDue readJson event first.watchPaths with
      | ok deploys => exact ⟨deploys, rfl⟩
      | error error => simp [Follower.ending, Ending.fails, asked] at passed

theorem mem_rounds (passed : ∀ other ∈ before, ∀ world,
      (other.ending readJson event world).fails = false) (world : World) :
    ∃ ending, (follower, ending) ∈
      rounds readJson event world (before ++ follower :: rest) := by
  induction before generalizing world with
  | nil => exact ⟨_, List.mem_cons_self⟩
  | cons first before induction =>
    obtain ⟨now, later⟩ := List.forall_mem_cons.mp passed
    obtain ⟨ending, member⟩ :=
      induction later (first.noted readJson event world)
    exact ⟨ending, mem_rounds_cons.mpr (.inr ⟨now world, member⟩)⟩

end FanOut

/-- Services that accept everything. -/
def agreeable (applicationOrder : RowOrder Application)
    (composeOrder : RowOrder ComposeProject)
    (previewOrder : RowOrder PreviewDeployment)
    (targetOrder : RowOrder PreviewTarget) : Services where
  applicationOperation _ _ _ := .ok (some 0)
  composeOperation _ _ := .ok ()
  collaboratorCanWrite _ _ _ _ := .ok true
  applicationOrder
  composeOrder
  previewOrder
  targetOrder

def noSource : GitSource :=
  ⟨none, none, none, none⟩

/-- An application that follows the branch `main` of `acme/shop` on GitLab. -/
def shop (providerId : Int) : Application where
  id := 7
  name := "shop"
  appName := "shop-x1"
  appStatus := "IDLE"
  sourceType := .hosted .gitlab
  triggerType := .push
  autoDeploy := some 1
  watchPaths := none
  sources := ⟨noSource,
    ⟨some "shop", some "acme", some "main", some providerId⟩, noSource, noSource⟩
  envVar := none
  buildArgs := none
  buildSecrets := none
  labelsSwarm := none
  previewEnv := none
  previewBuildArgs := none
  previewBuildSecrets := none
  previewLabels := none
  previewWildcard := none
  previewPort := none
  previewHttps := 0
  previewPath := none
  previewCertificateType := "NONE"
  previewCustomCertResolver := none
  previewLimit := none
  isPreviewDeploymentsActive := 0
  previewRequireCollaboratorPermissions := 1

/-- Two GitLab providers, the second of which has the application. -/
def twoProviders : World where
  gitProviders := [⟨1, some "first secret"⟩, ⟨2, some "second secret"⟩]
  providers := [⟨.gitlab, 1, 1⟩, ⟨.gitlab, 2, 2⟩]
  applications := [shop 2]
  composeProjects := []
  previews := []
  domains := []
  nextApplication := 8
  nextPreview := 1
  touched := []

def shopPush : PushEvent :=
  ⟨.gitlab, .push, "acme", "shop", "main", none, none, []⟩

end OpenOxide.Webhook

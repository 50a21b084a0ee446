import OpenOxide.Webhook.FanOut

/-!
# The authority of a webhook

A request is accepted with the secret of one provider, but the resources it
reaches are found by the texts of its payload.  So it keeps to the resources that
are attached to the provider exactly if all resources that its texts match are
(`webhook_authority`).

The services may answer anything, and the queries may return their rows in any
order; that any row may come first is why the condition is on every one of them.
-/

namespace OpenOxide.Webhook

open Text Relational Effects

/-- A resource with these columns follows the provider. -/
def FollowsProvider (sourceType : SourceType) (sources : GitSources)
    (kind : GitProviderKind) (id : Int) : Prop :=
  sourceType = .hosted kind ∧ (sources.of kind).providerId = some id

def Application.AttachedTo (row : Application) :
    GitProviderKind → Int → Prop :=
  FollowsProvider row.sourceType row.sources

def ComposeProject.AttachedTo (row : ComposeProject) :
    GitProviderKind → Int → Prop :=
  FollowsProvider row.sourceType row.sources

/-- A preview names the umbrella record of its provider. -/
def PreviewDeployment.AttachedTo (row : PreviewDeployment) (world : World)
    (kind : GitProviderKind) (id : Int) : Prop :=
  row.providerType = kind.asStr ∧
    (world.provider kind id).map Provider.gitProviderId = some row.providerId

/-- The resource is attached to the provider, in the world before the event. -/
def Touch.AttachedTo (world : World) (kind : GitProviderKind) (id : Int) :
    Touch → Prop
  | .application row => row.AttachedTo kind id
  | .compose row => row.AttachedTo kind id
  | .previewClosed row => row.AttachedTo world kind id
  | .previewDeployed target existing =>
    (∀ row ∈ world.applications, row.id = target.baseApplicationId →
      row.AttachedTo kind id) ∧
    ∀ row, existing = some row → row.AttachedTo world kind id

/-- Every resource that the event matches, and may act on, is attached to the
provider. -/
def World.Authoritative (world : World) (readJson : JsonReader)
    (kind : GitProviderKind) (id : Int) : WebhookEvent → Prop
  | .ping => True
  | .gitRef event =>
    (∀ row ∈ world.matchingApplications event,
      isDue readJson event row.watchPaths = .ok true →
        row.AttachedTo kind id) ∧
    ((∀ row ∈ world.matchingApplications event, ∃ deploys,
      isDue readJson event row.watchPaths = .ok deploys) →
        ∀ row ∈ world.matchingComposeProjects event,
          isDue readJson event row.watchPaths = .ok true →
            row.AttachedTo kind id)
  | .pullRequest event =>
    if isCloseAction event.action then
      ∀ row ∈ world.findOpenForEvent event, row.AttachedTo world kind id
    else
      ∀ target ∈ world.matchingTargets event, world.Admits event target →
        (world.targetTouch event target).AttachedTo world kind id

/-- Keys of applications and previews are unique. -/
structure World.WellKeyed (world : World) : Prop extends world.Keyed where
  applications : (world.applications.map Application.id).Nodup

/-- Everything in the record is attached to the provider. -/
def AllAttached (world : World) (kind : GitProviderKind) (id : Int)
    (touched : List Touch) : Prop :=
  ∀ resource ∈ touched, resource.AttachedTo world kind id

theorem mayTouch_attached {world : World} {kind : GitProviderKind} {id : Int}
    {resource : Touch} (attached : resource.AttachedTo world kind id) :
    MayTouch resource (AllAttached world kind id) := by
  intro touched holds
  exact forall_mem_insert holds attached

section Pushes

variable {world : World} {readJson : JsonReader} {kind : GitProviderKind}
  {id : Int} {event : PushEvent}

theorem dispatch_attached
    (authoritative : world.Authoritative readJson kind id (.gitRef event))
    (services : Services) (start : AllAttached world kind id world.touched) :
    AllAttached world kind id
      ((dispatch readJson services event).worldAfter world).touched := by
  rw [(dispatch_rounds readJson services event world).1]
  intro resource member
  rcases List.mem_append.mp member with old | new
  · exact start resource old
  · obtain ⟨follower, listed, rfl⟩ := List.mem_map.mp new
    obtain ⟨turn, due⟩ := List.mem_filter.mp listed
    obtain ⟨⟨follower, ending⟩, had, rfl⟩ := List.mem_map.mp turn
    dsimp only at due ⊢
    rw [Follower.due_iff] at due
    rcases of_mem_rounds had with first | ⟨second, read⟩
    · obtain ⟨row, found, rfl⟩ := List.mem_map.mp first
      exact authoritative.1 row
        (services.applicationOrder.mem_arrange.mp found) due
    · obtain ⟨row, found, rfl⟩ := List.mem_map.mp second
      refine authoritative.2 ?_ row
        (services.composeOrder.mem_arrange.mp found) due
      intro other matched
      exact read _ (List.mem_map_of_mem
        (services.applicationOrder.mem_arrange.mpr matched))

theorem dispatch_touches_application {row : Application}
    (matched : row ∈ world.matchingApplications event)
    (due : isDue readJson event row.watchPaths = .ok true) :
    ∃ services, .application row ∈
      ((dispatch readJson services event).worldAfter world).touched := by
  obtain ⟨order, others, head⟩ := RowOrder.exists_head matched
  let services := agreeable order .stored .stored .stored
  let follower := Follower.application services row
  refine ⟨services, @mem_dispatch_touched readJson services event world
    follower (follower.ending readJson event world) due ?_⟩
  rw [followers, show services.applicationOrder.arrange _ = _ from head]
  exact List.mem_cons_self

theorem dispatch_touches_compose {row : ComposeProject}
    (readable : ∀ row ∈ world.matchingApplications event, ∃ deploys,
      isDue readJson event row.watchPaths = .ok deploys)
    (matched : row ∈ world.matchingComposeProjects event)
    (due : isDue readJson event row.watchPaths = .ok true) :
    ∃ services, .compose row ∈
      ((dispatch readJson services event).worldAfter world).touched := by
  obtain ⟨order, others, head⟩ := RowOrder.exists_head matched
  let services := agreeable .stored order .stored .stored
  have passed : ∀ other ∈ (world.matchingApplications event).map
      (Follower.application services), ∀ world,
        (other.ending readJson event world).fails = false := by
    intro other member world
    obtain ⟨row, listed, rfl⟩ := List.mem_map.mp member
    obtain ⟨deploys, read⟩ := readable row listed
    cases deploys with
    | true | false => simp [Follower.ending, Follower.application, read,
        agreeable, services, Except.map, Ending.fails]
  obtain ⟨ending, had⟩ := @mem_rounds readJson event
    (.compose services row) _ (others.map (.compose services)) passed world
  refine ⟨services, @mem_dispatch_touched readJson services event world
    (.compose services row) ending due ?_⟩
  rw [followers, show services.composeOrder.arrange _ = _ from head]
  exact had

end Pushes

section PullRequests

variable {world : World} {kind : GitProviderKind} {id : Int}
  {event : PullRequestEvent}

theorem handlePullRequest_worldAfter (services : Services) :
    (handlePullRequest services event).worldAfter world =
      Attempt.worldAfter (if isCloseAction event.action then
          (services.previewOrder.arrange
            (world.findOpenForEvent event)).foldlM handleClosed {}
        else (services.targetOrder.arrange
          (world.matchingTargets event)).foldlM (handleTarget services event)
            {}) world := by
  unfold handlePullRequest
  split <;> rfl

theorem closed_touches {row : PreviewDeployment}
    (matched : row ∈ world.findOpenForEvent event) :
    ∃ services : Services, .previewClosed row ∈ (Attempt.worldAfter
      ((services.previewOrder.arrange (world.findOpenForEvent event)).foldlM
        handleClosed {}) world).touched := by
  obtain ⟨order, others, head⟩ := RowOrder.exists_head matched
  refine ⟨agreeable .stored .stored order .stored, ?_⟩
  change Recorded (.previewClosed row ∈ ·) (Attempt.worldAfter
    ((order.arrange (world.findOpenForEvent event)).foldlM handleClosed {})
      world)
  rw [head]
  apply Keeps.first_round
  · exact mem_touched world (countRemoval_touched {} row.id)
  · intro other _ outcome
    exact handleClosed_keeps (mayTouch_mem _) outcome

/-- An application gives at most one target. -/
theorem targets_unique (wellKeyed : world.WellKeyed) :
    ((world.matchingTargets event).map
      PreviewTarget.baseApplicationId).Nodup := by
  have base : ∀ row target, world.previewTarget event row = some target →
      target.baseApplicationId = row.id := by
    intro row target given
    unfold World.previewTarget at given
    split at given
    · simp only [Option.bind_eq_bind, Option.bind_eq_some_iff, pure,
        Option.some.injEq] at given
      obtain ⟨_, _, _, _, _, _, rfl⟩ := given
      rfl
    · cases given
  rw [List.Nodup, List.pairwise_map, World.matchingTargets,
    List.pairwise_filterMap]
  refine (List.pairwise_map.mp wellKeyed.applications).imp ?_
  intro row other different target given otherTarget otherGiven
  rw [base _ _ given, base _ _ otherGiven]
  exact different

/-- What is left of the loop over targets: so far everything is attached, and
the previews of the targets to come are as they were. -/
structure Pending (start : World) (kind : GitProviderKind) (id : Int)
    (targets : List PreviewTarget) (world : World) : Prop where
  attached : AllAttached start kind id world.touched
  keyed : world.Keyed
  unique : (targets.map PreviewTarget.baseApplicationId).Nodup
  same : ∀ target ∈ targets,
    world.previewsOf target.baseApplicationId =
      start.previewsOf target.baseApplicationId

theorem Pending.step {start current : World} {target : PreviewTarget}
    {targets : List PreviewTarget} {services : Services}
    (pending : Pending start kind id (target :: targets) current)
    (attached : start.Admits event target →
      (start.targetTouch event target).AttachedTo start kind id)
    (outcome : PreviewLifecycleOutcome) :
    Pending start kind id targets
      ((handleTarget services event outcome target).worldAfter current) := by
  have same := pending.same target List.mem_cons_self
  obtain ⟨absent, unique⟩ := List.nodup_cons.mp pending.unique
  have frame : ∀ base, base ≠ target.baseApplicationId →
      Frame base (current.previewsOf base)
        ((handleTarget services event outcome target).worldAfter current) := by
    intro base different
    exact handleTarget_frame different.symm services event outcome current
      ⟨pending.keyed, rfl⟩
  constructor
  · apply handleTarget_keeps
    · intro admits
      apply mayTouch_attached
      have before : start.Admits event target := by
        simpa only [World.Admits, World.findForPullRequest, World.activeCount,
          same] using admits
      have touched : current.targetTouch event target =
          start.targetTouch event target := by
        simp only [World.targetTouch, World.findForPullRequest, same]
      rw [touched]
      exact attached before
    · exact pending.attached
  · exact (frame (target.baseApplicationId + 1) (by omega)).keyed
  · exact unique
  · intro other later
    have different : other.baseApplicationId ≠ target.baseApplicationId := by
      intro equal
      apply absent
      rw [← equal]
      exact List.mem_map_of_mem later
    rw [(frame _ different).same]
    exact pending.same other (List.mem_cons_of_mem _ later)

theorem open_attached (wellKeyed : world.WellKeyed)
    (attached : ∀ target ∈ world.matchingTargets event,
      world.Admits event target →
        (world.targetTouch event target).AttachedTo world kind id)
    (services : Services) (start : AllAttached world kind id world.touched) :
    AllAttached world kind id (Attempt.worldAfter
      ((services.targetOrder.arrange (world.matchingTargets event)).foldlM
        (handleTarget services event) {}) world).touched := by
  have order := services.targetOrder.perm (world.matchingTargets event)
  apply @Keeps.foldlM _ _ _ _ (Recorded (AllAttached world kind id))
    (fun targets current => Pending world kind id targets current ∧
      ∀ target ∈ targets, target ∈ world.matchingTargets event)
  · rintro outcome target targets current ⟨pending, matched⟩
    constructor
    · exact pending.step (attached target (matched target List.mem_cons_self))
        outcome
    · intro other later
      exact matched other (List.mem_cons_of_mem _ later)
  · rintro targets current ⟨pending, _⟩
    exact pending.attached
  · refine ⟨⟨start, wellKeyed.toKeyed, ?_, fun _ _ => rfl⟩, ?_⟩
    · exact (order.map _).nodup_iff.mpr (targets_unique wellKeyed)
    · intro target member
      exact order.mem_iff.mp member

theorem open_touches {target : PreviewTarget}
    (matched : target ∈ world.matchingTargets event)
    (admits : world.Admits event target) :
    ∃ services : Services, world.targetTouch event target ∈
      (Attempt.worldAfter ((services.targetOrder.arrange
        (world.matchingTargets event)).foldlM (handleTarget services event) {})
          world).touched := by
  obtain ⟨order, others, head⟩ := RowOrder.exists_head matched
  let services := agreeable .stored .stored .stored order
  refine ⟨services, ?_⟩
  change Recorded (world.targetTouch event target ∈ ·) (Attempt.worldAfter
    ((order.arrange (world.matchingTargets event)).foldlM
      (handleTarget services event) {}) world)
  rw [head]
  apply Keeps.first_round
  · rw [handleTarget_admitted (fun _ _ _ _ => rfl) admits]
    exact mem_touched world (countDeployment_keeps
      (deployTarget_touched _ services target event) {})
  · intro other _ outcome current holds
    exact handleTarget_keeps (fun _ => mayTouch_mem _) outcome holds

end PullRequests

section Requests

variable {world : World} {readJson : JsonReader} {kind : GitProviderKind}
  {id : Int}

/-- Whatever the services do, the event keeps to the provider. -/
def Confined (world : World) (readJson : JsonReader) (kind : GitProviderKind)
    (id : Int) (event : WebhookEvent) : Prop :=
  ∀ services, AllAttached world kind id
    ((handleEvent readJson services kind event).worldAfter world).touched

theorem confined_gitRef {event : PushEvent}
    (start : AllAttached world kind id world.touched) :
    Confined world readJson kind id (.gitRef event) ↔
      world.Authoritative readJson kind id (.gitRef event) := by
  constructor
  · intro confined
    constructor
    · intro row matched due
      obtain ⟨services, touched⟩ := dispatch_touches_application matched due
      exact confined services _ touched
    · intro readable row matched due
      obtain ⟨services, touched⟩ :=
        dispatch_touches_compose readable matched due
      exact confined services _ touched
  · intro authoritative services
    exact dispatch_attached authoritative services start

theorem dispatchPullRequest_worldAfter (services : Services)
    (event : PullRequestEvent) :
    (dispatchPullRequest services event).worldAfter world =
      (handlePullRequest services event).worldAfter world := by
  unfold dispatchPullRequest
  cases ran : (handlePullRequest services event).answer world with
  | ok lifecycle =>
    rw [(Attempt.bind_ok ran).2]
    rfl
  | error error => rw [(Attempt.bind_error ran).2]

theorem confined_pullRequest {event : PullRequestEvent}
    (wellKeyed : world.WellKeyed)
    (start : AllAttached world kind id world.touched) :
    Confined world readJson kind id (.pullRequest event) ↔
      world.Authoritative readJson kind id (.pullRequest event) := by
  simp only [Confined, handleEvent, dispatchPullRequest_worldAfter,
    handlePullRequest_worldAfter, World.Authoritative]
  by_cases closes : isCloseAction event.action = true
  · simp only [if_pos closes]
    constructor
    · intro confined row matched
      obtain ⟨services, touched⟩ := closed_touches matched
      exact confined services _ touched
    · intro attached services
      refine @Keeps.loop _ _ _ _ (Recorded (AllAttached world kind id)) _ _ ?_ _
        world start
      intro row member outcome
      apply handleClosed_keeps
      apply mayTouch_attached
      exact attached row (services.previewOrder.mem_arrange.mp member)
  · simp only [if_neg closes]
    constructor
    · intro confined target matched admits
      obtain ⟨services, touched⟩ := open_touches matched admits
      exact confined services _ touched
    · intro attached services
      exact open_attached wellKeyed attached services start

/-- A request that is accepted with the secret of a provider acts, whatever the
services answer, on resources of that provider only, exactly if every resource
that its payload matches is attached to the provider. -/
theorem webhook_authority {hmacSha256 : String → List Nat → List Nat}
    {request : WebhookRequest} {event : WebhookEvent}
    (wellKeyed : world.WellKeyed) (fresh : world.touched = [])
    (accepted : accept hmacSha256 world request = .ok (kind, event)) :
    (∀ services, ∀ resource ∈
      (receive hmacSha256 readJson services request world).2.touched,
        resource.AttachedTo world kind request.providerId) ↔
      world.Authoritative readJson kind request.providerId event := by
  have start : AllAttached world kind request.providerId world.touched := by
    rw [fresh]
    intro resource member
    cases member
  have handled : (∀ services, ∀ resource ∈
      (receive hmacSha256 readJson services request world).2.touched,
        resource.AttachedTo world kind request.providerId) ↔
      Confined world readJson kind request.providerId event := by
    simp only [receive, accepted]
    rfl
  rw [handled]
  cases event with
  | ping =>
    constructor
    · intro _
      trivial
    · intro _ services
      exact start
  | gitRef event => exact confined_gitRef start
  | pullRequest event => exact confined_pullRequest wellKeyed start

end Requests

/-- A toy code for the runs below. -/
def toyHmac (secret : String) (bytes : List Nat) : List Nat :=
  secret.toList.map Char.toNat ++ bytes

/-- A push to `acme/shop` that is sent to a provider with a token. -/
def pushRequest (providerId : Int) (token : String) : WebhookRequest where
  provider := "gitlab"
  providerId
  headers := [("x-gitlab-event", "Push Hook"), ("x-gitlab-token", token)]
  body :=
    { bytes := []
      githubPush := .error "missing field"
      gitlabPush := .ok ⟨"refs/heads/main", none, none, ⟨"shop", "acme/shop"⟩, []⟩
      bitbucketPush := .error "missing field"
      tagCreation := .error "missing field"
      githubPull := .error "missing field"
      gitlabPull := .error "missing field"
      bitbucketPull := .error "missing field" }

theorem twoProviders_wellKeyed : twoProviders.WellKeyed := by
  refine ⟨⟨List.nodup_nil, ?_⟩, List.nodup_singleton _⟩
  intro row member
  cases member

theorem webhook_authority_second :
    twoProviders.Authoritative (fun _ => .error "no JSON") .gitlab 2
        (.gitRef shopPush) ∧
      ∀ services, ∀ resource ∈ (receive toyHmac (fun _ => .error "no JSON")
        services (pushRequest 2 "second secret") twoProviders).2.touched,
          resource.AttachedTo twoProviders .gitlab 2 := by
  have authoritative : twoProviders.Authoritative (fun _ => .error "no JSON")
      .gitlab 2 (.gitRef shopPush) := by
    constructor
    · intro row matched _
      rw [List.mem_singleton.mp (List.mem_of_mem_filter matched)]
      exact ⟨rfl, rfl⟩
    · intro _ row matched
      cases matched
  refine ⟨authoritative, ?_⟩
  exact (webhook_authority twoProviders_wellKeyed rfl
    (by decide +kernel)).mpr authoritative

/-- The first provider's secret is enough to have the second one's application
redeployed. -/
theorem first_provider_redeploys_second :
    accept toyHmac twoProviders (pushRequest 1 "first secret") =
        .ok (.gitlab, .gitRef shopPush) ∧
      .application (shop 2) ∈ (receive toyHmac (fun _ => .error "no JSON")
        (agreeable .stored .stored .stored .stored)
        (pushRequest 1 "first secret") twoProviders).2.touched ∧
      ¬ (Touch.application (shop 2)).AttachedTo twoProviders .gitlab 1 := by
  refine ⟨by decide +kernel, by decide +kernel, ?_⟩
  rintro ⟨_, attached⟩
  cases attached

end OpenOxide.Webhook

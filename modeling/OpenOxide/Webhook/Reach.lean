import OpenOxide.Webhook.Service

/-!
# What an event reaches

`deployTarget_rule` says once what setting up a preview does to the tables: it
adds one preview of its base application or rewrites the one that exists, and
leaves the record of touched resources alone.  From it follow that the record is
kept, and that the previews of other base applications are kept if the keys of
the table are unique.

For each round of the loops over matching resources there is a lemma that says
what it may touch and one that says what it does touch.
-/

namespace OpenOxide.Webhook

open Text Relational Effects

/-- The invariant is about the previews and the record only. -/
def Quiet (Invariant : World → Prop) : Prop :=
  ∀ world other, other.previews = world.previews →
    other.nextPreview = world.nextPreview → other.touched = world.touched →
      Invariant world → Invariant other

/-- Something holds of the record. -/
def Recorded (Holds : List Touch → Prop) (world : World) : Prop :=
  Holds world.touched

/-- A change of a preview that keeps its key and its base application. -/
def Stable (change : PreviewDeployment → PreviewDeployment) : Prop :=
  ∀ row, (change row).id = row.id ∧
    (change row).baseApplicationId = row.baseApplicationId

variable {world : World} {target : PreviewTarget} {base : Int}
  {readJson : JsonReader} {watchPaths : Option String}
  {run : World → Except String Unit} {services : Services}

variable {event : PullRequestEvent}

section Keeps

variable {Invariant : World → Prop}

theorem createApplication_keeps (quiet : Quiet Invariant)
    (row : Int → Application) : Keeps Invariant (createApplication row) := by
  apply Keeps.look
  intro world holds
  dsimp only
  split
  · exact holds
  · exact quiet world _ rfl rfl rfl holds

theorem createPreviewResources_keeps (quiet : Quiet Invariant)
    (base : Application) (event : PullRequestEvent) :
    Keeps Invariant (createPreviewResources base event) := by
  unfold createPreviewResources
  refine Keeps.bind (.ofExcept _) ?_
  intro domain
  apply Keeps.look
  intro world holds
  split
  · exact holds
  · refine Keeps.bind (createApplication_keeps quiet _) ?_ world holds
    intro id
    refine Keeps.bind (Keeps.change ?_) fun _ => .pure _
    intro world holds
    exact quiet world _ rfl rfl rfl holds

theorem queuePreview_keeps {previewId : Int}
    (marks : ∀ mark : PreviewDeployment → PreviewStatus × Option Int,
      Keeps Invariant (changePreview previewId fun row => { row with
        status := (mark row).1, lastDeploymentId := (mark row).2 }))
    (services : Services) (applicationId : Int) (created : Bool) :
    Keeps Invariant (queuePreview services previewId applicationId created) := by
  apply Keeps.look
  intro world holds
  dsimp only
  split
  · split
    · exact holds
    · exact Keeps.bind (marks fun row => (.error, row.lastDeploymentId))
        (fun _ => .throw _) world holds
  · exact holds
  · rename_i deploymentId _
    refine Keeps.bind (marks fun _ => (.queued, some deploymentId)) ?_ world
      holds
    intro _
    apply Keeps.look
    intro world holds
    split
    · exact holds
    · exact holds

/-- The world with the row of a new preview. -/
def World.addPreview (world : World) (target : PreviewTarget)
    (event : PullRequestEvent) (applicationId : Int) (domain : String) : World :=
  { world with
    previews := world.previews ++
      [newPreview target event applicationId domain world.nextPreview]
    nextPreview := world.nextPreview + 1 }

theorem createPreview_of_absent (applicationId : Int) (domain : String)
    (absent : world.findForPullRequest target.baseApplicationId
      event.provider.asStr event.number = none) :
    (createPreview target event applicationId domain).answer world =
        .ok world.nextPreview ∧
      (createPreview target event applicationId domain).worldAfter world =
        world.addPreview target event applicationId domain := by
  have ran : (createPreview target event applicationId domain).run.run world =
      (.ok world.nextPreview,
        world.addPreview target event applicationId domain) := by
    change (ite ((world.findForPullRequest _ _ _).isSome = true) _ _ :
      Action Int).run.run world = _
    rw [absent]
    rfl
  rw [Attempt.answer, Attempt.worldAfter, ran]
  exact ⟨rfl, rfl⟩

/-- The preview that an event finds for a base application. -/
def PullRequestEvent.preview (event : PullRequestEvent) (base : Int)
    (world : World) : Option PreviewDeployment :=
  world.findForPullRequest base event.provider.asStr event.number

/-- `Owned` holds once the preview to work on is written, by its key. -/
theorem deployTarget_rule {Before After : World → Prop}
    {Owned : Int → World → Prop} (quiet : Quiet Before)
    (kept : ∀ world, Before world → After world)
    (owned : ∀ id world, Owned id world → After world)
    (marks : ∀ id (mark : PreviewDeployment → PreviewStatus × Option Int),
      Keeps (Owned id) (changePreview id fun row => { row with
        status := (mark row).1, lastDeploymentId := (mark row).2 }))
    (reopens : ∀ world row applicationId domain, Before world →
      event.preview target.baseApplicationId world = some row →
      row.previewApplicationId = none → Owned row.id
        (world.changePreview row.id (reopen event applicationId domain)))
    (updates : ∀ world row applicationId, Before world →
      event.preview target.baseApplicationId world = some row →
      row.previewApplicationId = some applicationId →
      Owned row.id (world.changePreview row.id (updateSource event)))
    (added : ∀ world applicationId domain, Before world →
      event.preview target.baseApplicationId world = none →
      Owned world.nextPreview
        (world.addPreview target event applicationId domain))
    (services : Services) : ∀ world, Before world →
      After ((deployTarget services target event).worldAfter world) := by
  have queues : ∀ id applicationId created world, Owned id world →
      After ((queuePreview services id applicationId created).worldAfter
        world) := by
    intro id applicationId created world own
    exact owned id _
      (queuePreview_keeps (marks id) services applicationId created world own)
  have quietFound : ∀ found, Quiet fun world => Before world ∧
      event.preview target.baseApplicationId world = found := by
    intro found world other previews next touched both
    refine ⟨quiet world other previews next touched both.1, ?_⟩
    simpa only [PullRequestEvent.preview, World.findForPullRequest,
      World.previewsOf, previews] using both.2
  intro world holds
  rw [deployTarget,
    (Attempt.bind_ok (rfl : Attempt.look.answer world = .ok world)).2]
  dsimp only
  split
  · exact kept _ holds
  · rename_i base _
    split
    · rename_i absent
      refine (createPreviewResources_keeps (quietFound none) base event).seq
        (fun _ both => kept _ both.1) ?_ world ⟨holds, absent⟩
      rintro ⟨applicationId, domain⟩ world ⟨holds, absent⟩
      obtain ⟨answered, after⟩ :=
        createPreview_of_absent applicationId domain absent
      rw [(Attempt.bind_ok answered).2, after]
      exact queues _ _ _ _ (added world applicationId domain holds absent)
    · rename_i row existing
      split
      · rename_i closed
        refine (createPreviewResources_keeps (quietFound (some row)) base
          event).seq (fun _ both => kept _ both.1) ?_ world ⟨holds, existing⟩
        rintro ⟨applicationId, domain⟩ world ⟨holds, found⟩
        exact queues _ _ _ _
          (reopens world row applicationId domain holds found closed)
      · rename_i applicationId runs
        split
        · exact kept _ holds
        · exact queues _ _ _ _ (updates _ row applicationId
            (quiet world _ rfl rfl rfl holds) existing runs)

end Keeps

theorem deployTarget_touched (Holds : List Touch → Prop) (services : Services)
    (target : PreviewTarget) (event : PullRequestEvent) :
    Keeps (Recorded Holds)
      (deployTarget services target event) := by
  have quiet : Quiet (Recorded Holds) := by
    intro world other _ _ touched holds
    rw [Recorded, touched]
    exact holds
  intro world
  apply @deployTarget_rule target event _ (Recorded Holds)
    (fun _ => Recorded Holds) quiet
  · exact fun _ holds => holds
  · exact fun _ _ holds => holds
  · exact fun _ _ => Keeps.change fun _ holds => holds
  · exact fun _ _ _ _ holds _ _ => holds
  · exact fun _ _ _ holds _ _ => holds
  · exact fun _ _ _ holds _ => holds

/-- Keys of previews are unique, and smaller than the next one. -/
structure World.Keyed (world : World) : Prop where
  unique : (world.previews.map PreviewDeployment.id).Nodup
  below : ∀ row ∈ world.previews, row.id < world.nextPreview

theorem World.Keyed.rows (keyed : world.Keyed) :
    Relational.Keyed PreviewDeployment.id world.nextPreview world.previews :=
  ⟨keyed.unique, keyed.below⟩

/-- The keys are in order, and a base application has these previews. -/
structure Frame (base : Int) (rows : List PreviewDeployment) (world : World) :
    Prop where
  keyed : world.Keyed
  same : world.previewsOf base = rows

/-- In addition the key belongs to a preview of another base application. -/
structure Owned (base : Int) (rows : List PreviewDeployment) (other id : Int)
    (world : World) : Prop extends Frame base rows world where
  owner : ∀ row ∈ world.previews, row.id = id → row.baseApplicationId = other

theorem frame_quiet (base : Int) (rows : List PreviewDeployment) :
    Quiet (Frame base rows) := by
  intro world other previews next _ frame
  constructor
  · constructor
    · rw [previews]
      exact frame.keyed.unique
    · rw [previews, next]
      exact frame.keyed.below
  · rw [← frame.same]
    simp only [World.previewsOf, previews]

theorem owned_rewrites {base other : Int} (different : other ≠ base)
    (rows : List PreviewDeployment) (id : Int)
    (change : PreviewDeployment → PreviewDeployment) (stable : Stable change) :
    Keeps (Owned base rows other id) (changePreview id change) := by
  apply Keeps.change
  intro world owned
  obtain ⟨unique, below⟩ :=
    owned.keyed.rows.update fun row => (stable row).1
  refine ⟨⟨⟨unique, below⟩, ?_⟩, ?_⟩
  · rw [← owned.same]
    apply filter_updateWhere
    · intro row
      rw [(stable row).2]
    · intro row present kept
      rw [beq_eq_false_iff_ne]
      intro key
      have belongs := owned.owner row present key
      rw [beq_iff_eq.mp kept] at belongs
      exact different belongs.symm
  · intro row member key
    obtain ⟨old, present, ⟨_, rfl⟩ | ⟨_, rfl⟩⟩ :=
      cases_of_mem_updateWhere member
    · rw [(stable old).2]
      exact owned.owner old present ((stable old).1 ▸ key)
    · exact owned.owner row present key

theorem deployTarget_frame {rows : List PreviewDeployment}
    (different : target.baseApplicationId ≠ base) (services : Services)
    (event : PullRequestEvent) :
    Keeps (Frame base rows) (deployTarget services target event) := by
  have found : ∀ world row, Frame base rows world →
      event.preview target.baseApplicationId world = some row →
        Owned base rows target.baseApplicationId row.id world := by
    intro world row frame found
    refine ⟨frame, ?_⟩
    intro other present key
    obtain ⟨own, belongs⟩ := List.mem_filter.mp (List.mem_of_find?_eq_some found)
    have same := List.inj_on_of_nodup_map frame.keyed.unique present own key
    rw [same, eq_of_beq belongs]
  intro world
  apply @deployTarget_rule target event _ (Frame base rows)
    (Owned base rows target.baseApplicationId) (frame_quiet base rows)
  · exact fun _ frame => frame
  · exact fun _ _ owned => owned.toFrame
  · intro id mark
    exact owned_rewrites different rows id _ fun _ => ⟨rfl, rfl⟩
  · intro world row applicationId domain frame own _
    exact owned_rewrites different rows row.id
      (reopen event applicationId domain) (fun _ => ⟨rfl, rfl⟩) world
      (found world row frame own)
  · intro world row applicationId frame own _
    exact owned_rewrites different rows row.id (updateSource event)
      (fun _ => ⟨rfl, rfl⟩) world (found world row frame own)
  · intro world applicationId domain frame _
    have fresh : ∀ row ∈ world.previews, row.id ≠ world.nextPreview := by
      intro row present
      exact Int.ne_of_lt (frame.keyed.below row present)
    obtain ⟨unique, below⟩ := frame.keyed.rows.insert
      (show (newPreview target event applicationId domain
        world.nextPreview).id = world.nextPreview from rfl)
    refine ⟨⟨⟨unique, below⟩, ?_⟩, ?_⟩
    · rw [← frame.same]
      simp [World.previewsOf, World.addPreview, newPreview, different]
    · refine forall_mem_insert ?_ fun _ => rfl
      intro row old key
      exact absurd key (fresh row old)

/-- The record of what is to be said still holds with the resource in it. -/
def MayTouch (resource : Touch) (Holds : List Touch → Prop) : Prop :=
  ∀ touched, Holds touched → Holds (touched ++ [resource])

section Rounds

variable {Holds : List Touch → Prop} {resource : Touch} {Result : Type}

theorem touch_keeps {rest : Action Result} (may : MayTouch resource Holds)
    (later : Keeps (Recorded Holds) rest) :
    Keeps (Recorded Holds) (touch resource >>= fun _ => rest) :=
  Keeps.bind (Keeps.change fun world holds => may world.touched holds)
    fun _ => later

theorem mem_touched {rest : Action Result} (world : World)
    (later : Keeps (Recorded (resource ∈ ·)) rest) :
    resource ∈ ((touch resource >>= fun _ => rest).worldAfter world).touched :=
  later _ (List.mem_append_right _ (List.mem_singleton_self _))

theorem mayTouch_mem (other : Touch) : MayTouch other (resource ∈ ·) := by
  intro touched member
  exact List.mem_append_left _ member

theorem removeUnlocked_touched (id : Int) (hardDelete : Bool) :
    Keeps (Recorded Holds) (removeUnlocked id hardDelete) := by
  apply Keeps.look
  intro world holds
  split
  · exact holds
  · refine Keeps.bind (Keeps.change ?_) ?_ world holds
    · intro world holds
      split
      · exact holds
      · exact holds
    · intro _
      split
      · exact Keeps.change fun _ holds => holds
      · exact Keeps.change fun _ holds => holds

theorem countRemoval_touched (outcome : PreviewLifecycleOutcome) (id : Int) :
    Keeps (Recorded Holds) (countRemoval outcome id) :=
  Keeps.bind (removeUnlocked_touched _ _) fun _ => .pure _

theorem handleClosed_keeps {row : PreviewDeployment}
    (may : MayTouch (.previewClosed row) Holds)
    (outcome : PreviewLifecycleOutcome) :
    Keeps (Recorded Holds) (handleClosed outcome row) :=
  touch_keeps may (countRemoval_touched outcome row.id)

/-- The event names an author if the target asks for one, and there is a preview
already or room for one more. -/
def World.Admits (world : World) (event : PullRequestEvent)
    (target : PreviewTarget) : Prop :=
  (target.requireCollaboratorPermissions = true → event.author.isSome = true) ∧
    (world.findForPullRequest target.baseApplicationId event.provider.asStr
      event.number = none →
        (world.activeCount target.baseApplicationId : Int) <
          max target.previewLimit 1)

/-- What a target makes the event touch. -/
def World.targetTouch (world : World) (event : PullRequestEvent)
    (target : PreviewTarget) : Touch :=
  .previewDeployed target (world.findForPullRequest target.baseApplicationId
    event.provider.asStr event.number)

theorem countDeployment_keeps {Invariant : World → Prop}
    (kept : Keeps Invariant (deployTarget services target event))
    (outcome : PreviewLifecycleOutcome) :
    Keeps Invariant (countDeployment services event outcome target) := by
  refine Keeps.bind kept.outcome ?_
  intro answer
  split
  · exact .pure _
  · exact .pure _
  · split
    · exact .pure _
    · exact .throw _

theorem collaborates_of_author (writes : ∀ id owner repository author,
      services.collaboratorCanWrite id owner repository author = .ok true)
    (named : target.requireCollaboratorPermissions = true →
      event.author.isSome = true) :
    collaborates services target event = .ok true := by
  unfold collaborates
  by_cases required : target.requireCollaboratorPermissions = true
  · obtain ⟨author, given⟩ := Option.isSome_iff_exists.mp (named required)
    rw [if_pos required, given]
    exact writes _ _ _ author
  · rw [if_neg required]

/-- A round of the loop over targets either leaves the world alone or goes on
with a target that is admitted. -/
theorem handleTarget_cases (services : Services) (event : PullRequestEvent)
    (outcome : PreviewLifecycleOutcome) (target : PreviewTarget)
    (world : World) :
    (handleTarget services event outcome target).worldAfter world = world ∨
      world.Admits event target ∧
      (handleTarget services event outcome target).worldAfter world =
        (touch (world.targetTouch event target) >>= fun _ =>
          countDeployment services event outcome target).worldAfter world := by
  unfold handleTarget
  cases permitted : collaborates services target event with
  | error error => exact .inl rfl
  | ok permits =>
    rw [Attempt.ofExcept_ok rfl]
    cases permits with
    | false => exact .inl rfl
    | true =>
      rw [(Attempt.bind_ok (rfl : Attempt.look.answer world = .ok world)).2]
      dsimp only
      by_cases limited : (Option.isNone (world.findForPullRequest
          target.baseApplicationId event.provider.asStr event.number) &&
          decide ((world.activeCount target.baseApplicationId : Int) ≥
            max target.previewLimit 1)) = true
      · rw [if_pos limited]
        exact .inl rfl
      · rw [if_neg limited]
        refine .inr ⟨⟨?_, ?_⟩, rfl⟩
        · intro required
          cases author : event.author with
          | none => simp [collaborates, required, author] at permitted
          | some _ => rfl
        · intro absent
          rw [absent] at limited
          exact Int.not_le.mp (by simpa using limited)

theorem handleTarget_admitted (writes : ∀ id owner repository author,
      services.collaboratorCanWrite id owner repository author = .ok true)
    (admits : world.Admits event target) (outcome : PreviewLifecycleOutcome) :
    (handleTarget services event outcome target).worldAfter world =
      (touch (world.targetTouch event target) >>= fun _ =>
        countDeployment services event outcome target).worldAfter world := by
  unfold handleTarget
  rw [Attempt.ofExcept_ok (collaborates_of_author writes admits.1),
    (Attempt.bind_ok (rfl : Attempt.look.answer world = .ok world)).2]
  rw [if_neg (by decide), if_neg]
  · rfl
  · intro limited
    simp only [Bool.and_eq_true, Option.isNone_iff_eq_none,
      decide_eq_true_eq] at limited
    exact Int.not_le.mpr (admits.2 limited.1) limited.2

theorem handleTarget_keeps (may : world.Admits event target →
      MayTouch (world.targetTouch event target) Holds)
    (outcome : PreviewLifecycleOutcome) (holds : Holds world.touched) :
    Holds ((handleTarget services event outcome target).worldAfter
      world).touched := by
  rcases handleTarget_cases services event outcome target world with same |
    ⟨admits, same⟩
  · rw [same]
    exact holds
  · rw [same]
    exact touch_keeps (may admits) (countDeployment_keeps
      (deployTarget_touched Holds services target event) outcome) world holds

theorem handleTarget_frame {rows : List PreviewDeployment}
    (different : target.baseApplicationId ≠ base) (services : Services)
    (event : PullRequestEvent) (outcome : PreviewLifecycleOutcome) :
    Keeps (Frame base rows) (handleTarget services event outcome target) := by
  intro world frame
  rcases handleTarget_cases services event outcome target world with same |
    ⟨_, same⟩
  · rw [same]
    exact frame
  · rw [same]
    refine Keeps.bind (Keeps.change ?_) (fun _ => countDeployment_keeps
      (deployTarget_frame different services event) outcome) world frame
    intro world frame
    exact ⟨⟨frame.keyed.unique, frame.keyed.below⟩, frame.same⟩

end Rounds

end OpenOxide.Webhook

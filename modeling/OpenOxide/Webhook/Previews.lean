import OpenOxide.Concurrency.Calls
import OpenOxide.Text.Fields
import OpenOxide.Webhook.Authority

/-!
# Previews and their pull requests

A preview is looked up by its base application, the kind of its provider and the
number of its pull request.  What an event writes into the row it finds depends
on whether the preview still has an application: the owner and the repository
stay those of the event that created the row, and the target branch that of the
event that gave it its application.

The name of the application of a preview is made of the name of the base
application and of the number, both of which are cut.
-/

namespace OpenOxide.Webhook

open Relational Effects Text

/-- A call that changes the previews, or the rest of the panel at work. -/
inductive PreviewCall where
  | pullRequest (services : Services) (event : PullRequestEvent)
  | deploy (services : Services) (event : PullRequestEvent) (base : Int)
  | redeploy (services : Services) (id : Int)
  | remove (id : Int) (hardDelete : Bool)
  | deleteApplication (id : Int)
  | elsewhere (change : World → World)
      (alone : ∀ world, (change world).previews = world.previews ∧
        (change world).nextPreview = world.nextPreview)

/-- The world after a call, which stays changed when the call fails. -/
def World.afterCall (world : World) : PreviewCall → World
  | .pullRequest services event =>
    (handlePullRequest services event).worldAfter world
  | .deploy services event base =>
    (deployApplication services event base).worldAfter world
  | .redeploy services id => (Webhook.redeploy services id).worldAfter world
  | .remove id hardDelete => (removeUnlocked id hardDelete).worldAfter world
  | .deleteApplication id => world.deleteApplication id
  | .elsewhere change _ => change world

/-- What a row says about its pull request. -/
def PreviewDeployment.names (row : PreviewDeployment) :
    String × String × String × String :=
  (row.owner, row.repository, row.sourceBranch, row.targetBranch)

def PullRequestEvent.names (event : PullRequestEvent) :
    String × String × String × String :=
  (event.owner, event.repository, event.sourceBranch, event.targetBranch)

/-- A row follows an event: it says the same about the pull request, and as long
as it is open, closing the pull request finds it and no other preview of its
base application, and redeploying it deploys what the event did. -/
def PreviewDeployment.Follows (row : PreviewDeployment)
    (event : PullRequestEvent) (world : World) : Prop :=
  row.names = event.names ∧ (row.status ≠ .closed →
    ((world.findOpenForEvent { event with action := "close" }).filter
      fun other => other.baseApplicationId == row.baseApplicationId) = [row] ∧
    ∀ services, (redeploy services row.id).run.run world =
      (deployApplication services { event with action := "update" }
        row.baseApplicationId).run.run world)

/-- What the base, the provider and the number of a preview are. -/
def PreviewDeployment.place (row : PreviewDeployment) : Int × String × String :=
  (row.baseApplicationId, row.providerType, row.pullRequestNumber)

/-- Where the columns of a row come from. -/
structure PreviewDeployment.Traced (row : PreviewDeployment) : Prop where
  owner : row.owner = row.history.created.owner
  repository : row.repository = row.history.created.repository
  targetBranch : row.targetBranch = row.history.opened.targetBranch
  provider : row.providerType = row.history.written.provider.asStr
  event : row.asEvent row.history.written.provider =
    { row.history.written with
      owner := row.owner
      repository := row.repository
      targetBranch := row.targetBranch
      action := "update" }

/-- The unique columns of previews are unique, and their rows are traced. -/
structure Traced (next : Int) (rows : List PreviewDeployment) : Prop where
  keyed : Keyed PreviewDeployment.id next rows
  single : (rows.map PreviewDeployment.place).Nodup
  traced : ∀ row ∈ rows, row.Traced

def World.Traced (world : World) : Prop :=
  Webhook.Traced world.nextPreview world.previews

variable {world : World} {event : PullRequestEvent} {row : PreviewDeployment}
  {next : Int} {rows : List PreviewDeployment}

theorem Traced.update {hits : PreviewDeployment → Bool}
    {change : PreviewDeployment → PreviewDeployment} (all : Traced next rows)
    (traced : ∀ row ∈ rows, hits row = true → (change row).Traced)
    (key : ∀ row, (change row).id = row.id := by exact fun _ => rfl)
    (place : ∀ row, (change row).place = row.place := by
      exact fun _ => rfl) :
    Traced next (updateWhere hits change rows) where
  keyed := all.keyed.update key
  single := by
    rw [map_updateWhere place]
    exact all.single
  traced := by
    intro row member
    obtain ⟨old, present, ⟨hit, rfl⟩ | ⟨_, rfl⟩⟩ :=
      cases_of_mem_updateWhere member
    · exact traced old present hit
    · exact all.traced row present

theorem Traced.filter (all : Traced next rows)
    (keep : PreviewDeployment → Bool) : Traced next (rows.filter keep) where
  keyed := all.keyed.filter keep
  single := all.single.sublist (List.filter_sublist.map _)
  traced row member := all.traced row (List.mem_filter.mp member).1

theorem PreviewDeployment.Traced.marked (traced : row.Traced)
    (status : PreviewStatus) (deployment application : Option Int) :
    ({ row with
      status, lastDeploymentId := deployment
      previewApplicationId := application } : PreviewDeployment).Traced :=
  ⟨traced.owner, traced.repository, traced.targetBranch, traced.provider,
    traced.event⟩

theorem World.Traced.deleteApplication (all : world.Traced) (id : Int) :
    (world.deleteApplication id).Traced := by
  refine (Traced.filter all _).update fun row member _ => ?_
  exact (all.traced row (List.mem_filter.mp member).1).marked _ _ _

theorem World.Traced.found {base : Int} (all : world.Traced)
    (own : event.preview base world = some row) :
    (∀ other ∈ world.previews, (other.id == row.id) = true → other = row) ∧
      row.Traced ∧ row.baseApplicationId = base ∧
      row.providerType = event.provider.asStr ∧
      row.pullRequestNumber = event.number := by
  obtain ⟨present, belongs⟩ :=
    List.mem_filter.mp (List.mem_of_find?_eq_some own)
  have matched := List.find?_some own
  rw [Bool.and_eq_true, beq_iff_eq, beq_iff_eq] at matched
  refine ⟨?_, all.traced row present, eq_of_beq belongs, matched⟩
  intro other member key
  exact all.keyed.eq member present (eq_of_beq key)

/-- Closing the pull request of the last event finds a row that says the same
about it, and no other row of the base application. -/
theorem World.Traced.closes (all : world.Traced) (member : row ∈ world.previews)
    (same : row.names = row.history.written.names)
    (stays : row.status ≠ .closed) :
    ((world.findOpenForEvent { row.history.written with
      action := "close" }).filter fun other =>
        other.baseApplicationId == row.baseApplicationId) = [row] := by
  have traced := all.traced row member
  have number : row.pullRequestNumber = row.history.written.number :=
    congrArg PullRequestEvent.number traced.event
  simp only [PreviewDeployment.names, PullRequestEvent.names,
    Prod.mk.injEq] at same
  rw [World.findOpenForEvent, List.filter_filter,
    List.filter_congr (q := (· == row)), List.filter_beq,
    List.count_eq_one_of_mem _ member]
  · rfl
  · exact all.keyed.distinct.of_map _
  · intro other present
    rw [Bool.eq_iff_iff, beq_iff_eq]
    constructor
    · intro found
      simp only [Bool.and_eq_true, beq_iff_eq] at found
      apply List.inj_on_of_nodup_map all.single present member
      simp [PreviewDeployment.place, found, traced.provider, number]
    · rintro rfl
      simp [traced.provider, number, same, stays]

/-- The application of the previews, which follows a repository of `acme`. -/
def follower (repository : String) : Application :=
  { shop 2 with
    previewWildcard := some "example.org"
    isPreviewDeploymentsActive := 1
    previewRequireCollaboratorPermissions := 0
    sources := ⟨noSource, ⟨some repository, some "acme", some "main", some 2⟩,
      noSource, noSource⟩ }

/-- What the name of a preview keeps of the name of its base application. -/
def previewStem (base : String) : List Char :=
  (base.toList.take 40 ++ ['-']).dropWhile isDash

/-- What the name of a preview keeps of the number of its pull request. -/
def previewLabel (number : String) : List Char :=
  ((shortLabel number 16).toList.reverse.dropWhile isDash).reverse

/-- What stands between the two. -/
def previewMark : List Char :=
  ['p', 'r', '-']

theorem stem_ends {base : String} {letter : Char}
    (last : letter ∈ (previewStem base).getLast?) : letter = '-' := by
  obtain ⟨front, whole⟩ : previewStem base <:+ base.toList.take 40 ++ ['-'] :=
    List.dropWhile_suffix _
  have filled : previewStem base ≠ [] := by
    intro empty
    rw [empty] at last
    cases last
  have ends := congrArg List.getLast? whole
  rw [List.getLast?_append_of_ne_nil _ filled, last,
    List.getLast?_append_of_ne_nil _ (by simp)] at ends
  exact Option.some.inj ends

/-- The short label of a text has a letter that is no dash. -/
theorem label_filled (number : String) :
    (shortLabel number 16).toList.reverse.dropWhile isDash ≠ [] := by
  intro empty
  rw [List.dropWhile_eq_nil_iff] at empty
  have dashes : ∀ letter ∈ (shortLabel number 16).toList,
      isDash letter = true := by
    intro letter member
    exact empty letter (List.mem_reverse.mpr member)
  rw [shortLabel] at dashes
  split at dashes
  next _ => exact absurd (dashes 'p' (by decide)) (by decide)
  next filled =>
    rw [String.toList_ofList] at dashes
    cases letters : (sanitizeLabel number).toList with
    | nil => simp [letters] at filled
    | cons first rest =>
      have dash := dashes first (by simp [letters])
      have kept : first :: rest <+: (number.toList.map
          sanitizeLetter).dropWhile isDash := by
        rw [← letters, sanitizeLabel, String.toList_ofList, trimLetters,
          ← List.reverse_suffix, List.reverse_reverse]
        exact List.dropWhile_suffix _
      obtain ⟨more, whole⟩ := kept
      have head := List.head?_dropWhile_not isDash
        (number.toList.map sanitizeLetter)
      rw [← whole] at head
      simp [dash] at head

theorem previewAppName_letters (base number : String) :
    (previewAppName base number).toList =
      previewStem base ++ (previewMark ++ previewLabel number) := by
  have start : ∀ rest : List Char, (base.toList.take 40 ++ ['-'] ++
      'p' :: rest).dropWhile isDash = previewStem base ++ 'p' :: rest := by
    intro rest
    rw [List.dropWhile_append, ← previewStem]
    split
    next empty =>
      rw [List.isEmpty_iff.mp empty]
      rfl
    next => rfl
  have text : (String.ofList (base.toList.take 40) ++ "-pr-" ++
      shortLabel number 16).toList =
        (base.toList.take 40 ++ ['-']) ++ 'p' :: 'r' :: '-' ::
          (shortLabel number 16).toList := by
    simp
  have ending : ∀ front : List Char,
      ((front ++ (shortLabel number 16).toList).reverse.dropWhile
        isDash).reverse = front ++ previewLabel number := by
    intro front
    rw [List.reverse_append, List.dropWhile_append, if_neg, List.reverse_append,
      List.reverse_reverse, previewLabel]
    simpa using label_filled number
  have marked : previewStem base ++ 'p' :: 'r' :: '-' ::
      (shortLabel number 16).toList =
        previewStem base ++ previewMark ++ (shortLabel number 16).toList := by
    simp [previewMark]
  rw [previewAppName, text, String.toList_ofList, trimLetters, start, marked,
    ending, List.append_assoc]

/-- Two names are the same text with the mark in two places of it: what follows
the mark in the one begins in the stem of the other. -/
def Overlap (stem label otherStem otherLabel : List Char) : Prop :=
  ∃ middle, otherStem = stem ++ (previewMark ++ middle) ∧
    label = middle ++ (previewMark ++ otherLabel)

theorem overlap_of_longer {stem label otherStem otherLabel rest : List Char}
    (ends : ∀ letter ∈ otherStem.getLast?, letter = '-')
    (longer : otherStem = stem ++ rest)
    (same : previewMark ++ label = rest ++ (previewMark ++ otherLabel)) :
    stem = otherStem ∧ label = otherLabel ∨
      Overlap stem label otherStem otherLabel := by
  subst longer
  match rest with
  | [] => exact .inl ⟨by simp, by simpa using same⟩
  | [first] =>
    have dash := ends first (by simp)
    simp [previewMark, dash] at same
  | [first, second] =>
    have dash := ends second (by simp)
    simp [previewMark, dash] at same
  | first :: second :: third :: middle =>
    simp only [previewMark, List.cons_append, List.nil_append,
      List.cons.injEq] at same
    obtain ⟨rfl, rfl, rfl, label⟩ := same
    exact .inr ⟨middle, rfl, label⟩

/-- Two previews have different names if and only if what is kept of their base
applications or of their numbers differs and the two names do not overlap. -/
theorem preview_names_differ_iff (first second number other : String) :
    previewAppName first number ≠ previewAppName second other ↔
      ¬ (previewStem first = previewStem second ∧
          previewLabel number = previewLabel other) ∧
        ¬ Overlap (previewStem first) (previewLabel number)
          (previewStem second) (previewLabel other) ∧
        ¬ Overlap (previewStem second) (previewLabel other)
          (previewStem first) (previewLabel number) := by
  rw [← not_or, ← not_or, not_iff_not, ← String.toList_inj,
    previewAppName_letters, previewAppName_letters]
  constructor
  · intro same
    rcases List.append_eq_append_iff.mp same with
      ⟨rest, longer, marks⟩ | ⟨rest, longer, marks⟩
    · rcases overlap_of_longer (fun _ => stem_ends) longer marks with
        equal | overlap
      · exact .inl equal
      · exact .inr (.inl overlap)
    · rcases overlap_of_longer (fun _ => stem_ends) longer marks with
        equal | overlap
      · exact .inl ⟨equal.1.symm, equal.2.symm⟩
      · exact .inr (.inr overlap)
  · rintro (⟨stems, labels⟩ | ⟨middle, stem, label⟩ | ⟨middle, stem, label⟩)
    · rw [stems, labels]
    · rw [stem, label]
      simp only [List.append_assoc]
    · rw [stem, label]
      simp only [List.append_assoc]

/-- Base applications whose names begin with the same forty letters, and a name
and a number that meet the mark. -/
theorem preview_name_shared :
    let base (last : Char) := String.ofList (List.replicate 40 'a' ++ [last])
    base 'b' ≠ base 'c' ∧
      previewAppName (base 'b') "5" = previewAppName (base 'c') "5" ∧
      previewAppName "a" "1-pr-2" = previewAppName "a-pr-1" "2" := by
  decide +kernel

end OpenOxide.Webhook

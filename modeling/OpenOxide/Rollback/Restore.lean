import OpenOxide.Rollback.Trigger

/-!
# What a rollback restores

The update of a rollback defines the variables of the snapshot one after the
other.  No step of it takes a variable away, so the service ends with the
environment of the snapshot exactly when it had no other variables before.
-/

namespace OpenOxide.Rollback

open Deployment Effects Exec Text

theorem readFlags_force {rest : List String} (more : rest ≠ []) :
    readFlags ("--force" :: rest) =
      (readFlags rest).map fun read => (.force :: read.1, read.2) := by
  cases rest with
  | nil => exact absurd rfl more
  | cons value rest => rw [readFlags, if_pos rfl]

/-- The definition of a variable. -/
def definition (entry : String × String) : String :=
  entry.1 ++ "=" ++ entry.2

theorem build_updateArgs (serviceName image : String)
    (environment : Environment) :
    (updateArgs serviceName image environment).build =
      ["service", "update", "--image", image, "--force"] ++
        environment.entries.flatMap
          (fun entry => ["--env-add", definition entry]) ++ [serviceName] := by
  have pairs : ∀ (entries : List (String × String)) (args : ArgBuilder),
      (entries.foldl (fun args entry =>
        args.pair "--env-add" (entry.1 ++ "=" ++ entry.2)) args).args =
        args.args ++ entries.flatMap
          (fun entry => ["--env-add", definition entry]) := by
    intro entries
    induction entries with
    | nil =>
      intro args
      exact (List.append_nil args.args).symm
    | cons entry entries induction =>
      intro args
      rw [List.foldl_cons, induction, List.flatMap_cons, ← List.append_assoc]
      rfl
  rw [ArgBuilder.build, updateArgs, ArgBuilder.push, pairs]
  rfl

variable {name serviceName : String}

theorem readFlags_flatMap
    {flags : List UpdateFlag} (entries : List (String × String))
    (read : readFlags (entries.flatMap
      (fun entry => ["--env-add", definition entry]) ++ [serviceName]) =
        some (flags, name)) :
    flags = entries.map (fun entry => .envAdd (definition entry)) ∧
      name = serviceName := by
  induction entries generalizing flags with
  | nil =>
    rw [List.flatMap_nil, List.nil_append, readFlags] at read
    split at read
    · cases read
    · cases read
      exact ⟨rfl, rfl⟩
  | cons entry entries induction =>
    obtain ⟨⟨later, last⟩, inner, same⟩ := Option.map_eq_some_iff.mp read
    cases same
    obtain ⟨rfl, rfl⟩ := induction inner
    exact ⟨rfl, rfl⟩

variable {entries : List (String × String)}

/-- Define the variables of a snapshot, one after the other. -/
def ServiceEnvironment.defineAll (environment : ServiceEnvironment) :
    List (String × String) → Option ServiceEnvironment
  | [] => some environment
  | entry :: entries =>
    (environment.define (definition entry)).bind fun next =>
      next.defineAll entries

variable {environment next : ServiceEnvironment}

theorem ServiceEnvironment.define_spec
    {text : String}
    (defined : environment.define text = some next) :
    ∃ name value, cut '=' text.toList = some (name, value) ∧
      next.values = Function.update environment.values (String.ofList name)
        (some (String.ofList value)) := by
  rw [define] at defined
  split at defined
  · cases defined
  · cases defined
  · rename_i letter letters value found
    cases defined
    exact ⟨letter :: letters, value, found, rfl⟩

theorem ServiceEnvironment.define_keeps
    {text : String}
    (defined : environment.define text = some next)
    (present : environment.values name ≠ none) : next.values name ≠ none := by
  obtain ⟨own, value, -, values⟩ := define_spec defined
  rw [values]
  by_cases same : name = String.ofList own
  · rw [same, Function.update_self]
    exact Option.some_ne_none _
  · rw [Function.update_of_ne same]
    exact present

variable {last : ServiceEnvironment}

theorem ServiceEnvironment.defineAll_keeps
    (defined : environment.defineAll entries = some last)
    (present : environment.values name ≠ none) : last.values name ≠ none := by
  induction entries generalizing environment with
  | nil =>
    cases defined
    exact present
  | cons entry entries induction =>
    obtain ⟨next, first, later⟩ := Option.bind_eq_some_iff.mp defined
    exact induction later (define_keeps first present)

theorem ServiceEnvironment.define_plain
    {entry : String × String}
    (plain : '=' ∉ entry.1.toList)
    (defined : environment.define (definition entry) = some next) :
    next.values =
      Function.update environment.values entry.1 (some entry.2) := by
  have found : cut '=' (definition entry).toList =
      some (entry.1.toList, entry.2.toList) := by
    rw [definition, String.toList_append, String.toList_append,
      List.append_assoc]
    exact cut_append plain
  obtain ⟨name, value, parts, values⟩ := define_spec defined
  rw [found] at parts
  cases parts
  rw [values, String.ofList_toList, String.ofList_toList]

/-- After all the definitions a variable has its last value, or what it had. -/
theorem ServiceEnvironment.defineAll_plain
    (plain : ∀ entry ∈ entries, '=' ∉ entry.1.toList)
    (sorted : entries.Pairwise fun first second => first.1 < second.1)
    (defined : environment.defineAll entries = some last) (name : String) :
    last.values name = ((entries.find? fun entry => entry.1 == name).map
      Prod.snd).or (environment.values name) := by
  induction entries generalizing environment with
  | nil =>
    cases defined
    rfl
  | cons entry entries induction =>
    obtain ⟨next, first, later⟩ := Option.bind_eq_some_iff.mp defined
    have values := define_plain (plain entry List.mem_cons_self) first
    rw [List.pairwise_cons] at sorted
    rw [induction (fun other member =>
        plain other (List.mem_cons_of_mem _ member)) sorted.2 later, values]
    by_cases same : entry.1 = name
    · subst name
      have fresh : (entries.find? fun other => other.1 == entry.1) = none := by
        rw [List.find?_eq_none]
        intro other member equal
        exact absurd (eq_of_beq equal) (ne_of_gt (sorted.1 other member))
      rw [fresh, Function.update_self, List.find?_cons, beq_self_eq_true]
      rfl
    · rw [Function.update_of_ne (Ne.symm same), List.find?_cons_of_neg]
      simpa using same

theorem Service.applyAll_definitions {service updated : Service}
    {entries : List (String × String)}
    (applied : service.applyAll
      (entries.map fun entry => .envAdd (definition entry)) = some updated) :
    service.environment.defineAll entries = some updated.environment := by
  induction entries generalizing service with
  | nil =>
    cases applied
    rfl
  | cons entry entries induction =>
    obtain ⟨next, first, later⟩ := Option.bind_eq_some_iff.mp applied
    obtain ⟨environment, defined, same⟩ := Option.map_eq_some_iff.mp first
    cases same
    rw [ServiceEnvironment.defineAll, defined]
    exact induction later

/-- What the update of a rollback does to the swarm. -/
theorem Swarm.update_updateArgs {swarm updated : Swarm}
    {image : String} {environment : Environment}
    (ran : swarm.update (updateArgs serviceName image environment).build =
      some updated) :
    ∃ service result, swarm serviceName = some service ∧
      updated serviceName = some result ∧
      service.environment.defineAll environment.entries =
        some result.environment := by
  rw [build_updateArgs, List.append_assoc] at ran
  obtain ⟨⟨flags, name⟩, read, ran⟩ := Option.bind_eq_some_iff.mp ran
  obtain ⟨service, found, ran⟩ := Option.bind_eq_some_iff.mp ran
  obtain ⟨result, applied, ran⟩ := Option.bind_eq_some_iff.mp ran
  cases ran
  obtain ⟨⟨forced, last⟩, inner, same⟩ := Option.map_eq_some_iff.mp read
  cases same
  change readFlags ("--force" :: (_ ++ [_])) = _ at inner
  rw [readFlags_force (by simp)] at inner
  obtain ⟨⟨later, last⟩, rest, same⟩ := Option.map_eq_some_iff.mp inner
  cases same
  obtain ⟨rfl, rfl⟩ := readFlags_flatMap _ rest
  refine ⟨service, result, found, Function.update_self _ _ _, ?_⟩
  exact @Service.applyAll_definitions
    ⟨image, service.environment, service.forced + 1⟩ _ _ applied

variable {outside : Outside}

theorem runDocker_ok {args : List String}
    {swarm updated : Swarm} (ran : runDocker outside args swarm = .ok updated) :
    swarm.update args = some updated := by
  rw [runDocker] at ran
  cases answered : outside.docker with
  | error error =>
    rw [answered] at ran
    cases ran
  | ok _ =>
    cases result : swarm.update args with
    | none =>
      rw [answered, result] at ran
      cases ran
    | some other =>
      rw [answered, result] at ran
      cases ran
      rfl

theorem updateService_ok {args : ArgBuilder} {world : World}
    (succeeded : (updateService outside args).answer world = .ok ()) :
    world.swarm.update args.build =
      some ((updateService outside args).worldAfter world).swarm := by
  obtain ⟨_, -, succeeded, after⟩ := Attempt.bind_inv succeeded
  rw [updateService, after]
  obtain ⟨_, looked, succeeded, after⟩ := Attempt.bind_inv succeeded
  rw [after]
  cases looked
  obtain ⟨swarm, ran, -, after⟩ := Attempt.bind_inv succeeded
  rw [after]
  change (runDocker outside args.build world.swarm).mapError _ = _ at ran
  apply runDocker_ok
  cases result : runDocker outside args.build world.swarm with
  | error error =>
    rw [result] at ran
    cases ran
  | ok updated =>
    rw [result] at ran
    cases ran
    rfl

theorem rollBack_ok {applicationId : Int} {application : Application}
    {rollback : RollbackRow} {world : World} {result : TriggerResult}
    (succeeded : (rollBack outside applicationId application rollback).answer
      world = .ok result) :
    ∃ image spec, readSnapshot outside rollback = .ok (image, spec) ∧
      world.swarm.update
          (updateArgs spec.serviceName image spec.environment).build =
        some ((rollBack outside applicationId application rollback).worldAfter
          world).swarm := by
  obtain ⟨⟨image, spec⟩, read, succeeded, after⟩ := Attempt.bind_inv succeeded
  refine ⟨image, spec, read, ?_⟩
  rw [rollBack, after]
  obtain ⟨id, created, succeeded, after⟩ := Attempt.bind_inv succeeded
  rw [after]
  obtain ⟨_, -, succeeded, after⟩ := Attempt.bind_inv succeeded
  rw [after]
  obtain ⟨outcome, ran, succeeded, after⟩ := Attempt.bind_inv succeeded
  rw [after]
  cases outcome with
  | error error => cases succeeded
  | ok _ => exact updateService_ok (Except.ok.inj ran)

/-- What a successful rollback has read and done. -/
theorem triggerRollback_ok
    {applicationId rollbackId : Int} {world : World} {result : TriggerResult}
    (succeeded : (triggerRollback outside applicationId rollbackId).answer
      world = .ok result) :
    ∃ rollback image spec,
      world.getForApplication rollbackId applicationId = some rollback ∧
      readSnapshot outside rollback = .ok (image, spec) ∧
      world.swarm.update
          (updateArgs spec.serviceName image spec.environment).build =
        some ((triggerRollback outside applicationId rollbackId).worldAfter
          world).swarm := by
  obtain ⟨application, -, succeeded, after⟩ := Attempt.bind_inv succeeded
  rw [triggerRollback, after]
  obtain ⟨_, looked, succeeded, after⟩ := Attempt.bind_inv succeeded
  rw [after]
  have unread : (getById applicationId).worldAfter world = world := rfl
  have unlooked : (Attempt.look : Call World).worldAfter world = world := rfl
  cases looked
  rw [unread, unlooked] at succeeded ⊢
  by_cases busy : world.hasRunningDeployment applicationId = true
  · rw [if_pos busy] at succeeded
    cases succeeded
  · rw [if_neg busy] at succeeded ⊢
    cases found : world.getForApplication rollbackId applicationId with
    | none =>
      rw [found] at succeeded
      cases succeeded
    | some rollback =>
      rw [found] at succeeded
      obtain ⟨image, spec, read, updated⟩ := rollBack_ok succeeded
      exact ⟨rollback, image, spec, rfl, read, updated⟩

theorem Environment.lookup_ne_none_iff {environment : Environment} :
    environment.lookup name ≠ none ↔ name ∈ environment.keys := by
  simp [lookup, keys]

/-- A service has the environment of the snapshot after its definitions exactly
when every name is plain and the service had no other variable. -/
theorem ServiceEnvironment.defineAll_restores_iff
    {current : ServiceEnvironment} {environment : Environment}
    (defined : current.defineAll environment.entries = some last) :
    last.values = environment.lookup ↔
      (∀ key ∈ environment.keys, '=' ∉ key.toList) ∧
        ∀ name, current.values name ≠ none → name ∈ environment.keys := by
  constructor
  · intro restored
    constructor
    · intro key member
      apply last.plain
      rw [restored]
      exact Environment.lookup_ne_none_iff.mpr member
    · intro name present
      apply Environment.lookup_ne_none_iff.mp
      rw [← restored]
      exact defineAll_keeps defined present
  · intro ⟨plain, covered⟩
    funext name
    have plainly : ∀ entry ∈ environment.entries, '=' ∉ entry.1.toList :=
      fun entry member => plain entry.1 (List.mem_map_of_mem member)
    rw [defineAll_plain plainly environment.sorted defined]
    by_cases known : name ∈ environment.keys
    · obtain ⟨value, found⟩ := Option.ne_none_iff_exists'.mp
        (Environment.lookup_ne_none_iff.mpr known)
      rw [Environment.lookup] at found
      rw [Environment.lookup, found]
      rfl
    · have absent : current.values name = none := by
        by_contra present
        exact known (covered name present)
      rw [absent, Option.or_none]
      rfl

/-- The service of a snapshot has exactly the variables of the snapshot. -/
def World.Restored (world : World) (spec : ApplicationSpec) : Prop :=
  ∃ service, world.swarm spec.serviceName = some service ∧
    service.environment.values = spec.environment.lookup

/-- The names of a snapshot hold no `=`, and its service has no variable besides
them. -/
def World.Covered (world : World) (spec : ApplicationSpec) : Prop :=
  (∀ key ∈ spec.environment.keys, '=' ∉ key.toList) ∧
    ∀ service, world.swarm spec.serviceName = some service →
      ∀ name, service.environment.values name ≠ none →
        name ∈ spec.environment.keys

/-- The snapshot that a rollback goes back to, with its image. -/
def World.snapshot (world : World) (outside : Outside)
    (applicationId rollbackId : Int) : Option (String × ApplicationSpec) :=
  (world.getForApplication rollbackId applicationId).bind fun rollback =>
    (readSnapshot outside rollback).toOption

/-- A rollback that succeeds restores the environment of its snapshot exactly
when the snapshot covered the service before. -/
theorem rollback_restores_environment_iff (outside : Outside)
    (applicationId rollbackId : Int) (world : World) (result : TriggerResult)
    (succeeded : (triggerRollback outside applicationId rollbackId).answer
      world = .ok result) :
    ∃ image spec,
      world.snapshot outside applicationId rollbackId = some (image, spec) ∧
      (((triggerRollback outside applicationId rollbackId).worldAfter
        world).Restored spec ↔ world.Covered spec) := by
  obtain ⟨rollback, image, spec, found, read, updated⟩ :=
    triggerRollback_ok succeeded
  obtain ⟨before, after, earlier, later, defined⟩ :=
    Swarm.update_updateArgs updated
  refine ⟨image, spec, ?_, ?_⟩
  · rw [World.snapshot, found, Option.bind_some, read]
    rfl
  · have exact_iff := ServiceEnvironment.defineAll_restores_iff defined
    simp only [World.Restored, World.Covered, earlier, later,
      Option.some.injEq, exists_eq_left', forall_eq']
    exact exact_iff

/-- A service with the variable `A` and perhaps another one. -/
def webService (other : Bool) : Service where
  image := "web:2"
  forced := 0
  environment :=
    { values := fun name =>
        if name = "A" ∨ other = true ∧ name = "B" then some "0" else none
      plain := by
        intro name defined
        split at defined
        · rename_i known
          rcases known with rfl | ⟨-, rfl⟩
          · decide
          · decide
        · exact absurd rfl defined }

/-- An application with one snapshot, which has the variable `A`. -/
def webWorld (other : Bool) : World where
  applications := [⟨1, "web", none⟩]
  deployments := [⟨1, "Deploy", none, .done, .done, "", "DEPLOY", some 1, none,
    none⟩]
  nextId := 2
  rollbacks := [⟨1, 1, 1, some "web:1", some "saved"⟩]
  swarm := fun name => if name = "shop_web" then some (webService other) else none

def webOutside : Outside where
  deploymentLogFile _ := "log"
  readContext _ := .ok ⟨"shop", "web", ⟨[("A", "1")], by simp⟩⟩
  executor := .ok ()
  docker := .ok ()
  refusal _ := ""

theorem rollback_restores_environment_web :
    ∃ image spec, (webWorld false).snapshot webOutside 1 1 =
        some (image, spec) ∧
      (((triggerRollback webOutside 1 1).worldAfter (webWorld false)).Restored
        spec ↔ (webWorld false).Covered spec) :=
  rollback_restores_environment_iff webOutside 1 1 (webWorld false)
    ⟨2, "Rolled back shop_web to version 1 (image: web:1)"⟩
    (by decide +kernel)

/-- A variable that the snapshot does not have survives a rollback. -/
theorem rollback_keeps_later_variable :
    (triggerRollback webOutside 1 1).answer (webWorld true) =
        .ok ⟨2, "Rolled back shop_web to version 1 (image: web:1)"⟩ ∧
      ((webWorld true).snapshot webOutside 1 1).map
        (fun snapshot => snapshot.2.environment.lookup "B") = some none ∧
      (((triggerRollback webOutside 1 1).worldAfter (webWorld true)).swarm
        "shop_web").map (fun service => service.environment.values "B") =
          some (some "0") := by
  refine ⟨by decide +kernel, by decide +kernel, by decide +kernel⟩

end OpenOxide.Rollback

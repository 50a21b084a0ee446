import OpenOxide.Concurrency.Ghost
import OpenOxide.Deployment.Line
import OpenOxide.Deployment.Ownership

/-!
# First come, first served

A dispatch pass walks over a snapshot of the queue and passes over the servers that
have no permit left.  A permit that comes back in the meantime is taken by the
next entry of the server, which need not be the first one.  In every run in which
no worker gives back a permit of a server that the pass in progress has turned
away, and in which the claiming statement does not fail, the deployments of a
server are claimed in the order of their creation.

The role of the dispatcher does not say which entries its pass has left.  The
proof gives it a ghost that does.
-/

namespace OpenOxide.Deployment

open Concurrency

/-- The deployment that an operation has claimed. -/
def claimedRow (entry : PanelEntry) : Option Int :=
  match entry.op, entry.answer with
  | .sql (.claimQueuedDeployment id), answer =>
    match (answer : Except SqlError (Option DeploymentClaim)) with
    | .ok (some _) => some id
    | _ => none
  | _, _ => none

/-- The deployments that have been claimed, the last one first. -/
def claimed (history : List PanelEntry) : List Int :=
  history.filterMap claimedRow

/-- The deployments of a server have been claimed in the order of `created_at`
and `id`, and those that are still queued stand behind them. -/
structure FirstComeFirstServed (database : Database) (claims : List Int) :
    Prop where
  served : claims.Pairwise fun later sooner =>
    ∀ row ∈ database.deployments, ∀ other ∈ database.deployments,
      row.id = sooner → other.id = later → row.serverId = other.serverId →
        Database.earlier row other
  waiting : ∀ id ∈ claims, ∀ row ∈ database.deployments, row.id = id →
    ∀ other ∈ database.deployments, other.status = .queued →
      row.serverId = other.serverId → Database.earlier row other

/-- The dispatch pass in progress has found the semaphore without a permit. -/
def refusedInPass (semaphore : Nat) : List PanelEntry → Bool
  | [] => false
  | entry :: older =>
    match entry.op, entry.answer with
    | .memory (.tryAcquire tried), acquired =>
      (tried == semaphore && !acquired) || refusedInPass semaphore older
    | .spawn .dispatchLoop, _ => false
    | _, _ => refusedInPass semaphore older

/-- No worker releases its permit to a pass that has already turned its server
away, and the statement that claims a deployment does not fail. -/
def releasesInOrder (history : List PanelEntry) : Role → Op → Input → Bool
  | .worker _ _, .memory (.dropPermit semaphore), _ =>
    !refusedInPass semaphore history
  | _, .sql (.claimQueuedDeployment _), .fault _ => false
  | _, _, _ => true

def orderlyRelease : PanelGuard where
  op view role op input := releasesInOrder view.history role op input = true
  unwind _ _ := True
  arrive _ _ := True
  restart := True

instance : orderlyRelease.Checkable where
  op view role op input :=
    inferInstanceAs (Decidable (releasesInOrder view.history role op input =
      true))

/-- What a dispatch pass has left of its snapshot.  `tried` says that the claim
of the first entry has been answered. -/
structure Pass where
  entries : List (Int × ServerKey)
  tried : Bool

def Pass.next (pass : Pass) : Pass :=
  ⟨pass.entries.tail, false⟩

def Pass.note : Role → Pass → (op : Op) → op.Answer → Pass
  | .dispatcher .scanning, pass, .sql (.read .queuedDeploymentsGrouped),
      answer =>
      match (answer : Except SqlError (List (Int × ServerKey))) with
      | .ok entries => ⟨entries, false⟩
      | .error _ => pass
  | .dispatcher (.offered _ _), pass, .memory (.tryAcquire _), acquired =>
    cond acquired pass pass.next
  | .dispatcher (.holding _ _), pass, .sql (.claimQueuedDeployment _), _ =>
    { pass with tried := true }
  | .dispatcher (.holding _ _), pass, .memory (.dropPermit _), _ => pass.next
  | .dispatcher (.claimed _ _ _), pass, .spawn (.worker _ _ _), _ => pass.next
  | _, pass, _, _ => pass

/-- The dispatcher takes the entries in their order, one claim for each. -/
def Pass.allows : Role → Pass → Op → Prop
  | .dispatcher .scanning, pass, .memory (.slotGet server) =>
    pass.entries.head?.map Prod.snd = some server
  | .dispatcher (.holding _ _), pass, .sql (.claimQueuedDeployment id) =>
    pass.entries.head?.map Prod.fst = some id
  | .dispatcher (.holding _ _), pass, .memory (.dropPermit _) =>
    pass.tried = true
  | _, _, _ => True

def passes : Ghosts Op Op.Answer Role Pass where
  fresh := ⟨[], false⟩
  note := Pass.note
  allows := Pass.allows

abbrev passProtocol : Protocol Op Op.Answer (Role × Pass) :=
  protocol.haunt passes

theorem passes_semaphoreFor (id : Int) (server : ServerKey)
    (entries : List (Int × ServerKey)) :
    passProtocol.Follows
      (.dispatcher .scanning, ⟨(id, server) :: entries, false⟩)
      (semaphoreFor server) fun semaphore reached =>
        reached = (.dispatcher (.offered server semaphore),
          ⟨(id, server) :: entries, false⟩) := by
  refine ⟨⟨Or.inr (.slotGet server), rfl⟩, fun slot => ?_⟩
  cases slot with
  | some semaphore => rfl
  | none => exact ⟨⟨Or.inr (.slotInsert server), trivial⟩, fun _ => rfl⟩

theorem passes_dispatchOne (entry : Int × ServerKey)
    (entries : List (Int × ServerKey)) :
    passProtocol.Follows (.dispatcher .scanning, ⟨entry :: entries, false⟩)
      (dispatchOne entry) fun _ reached =>
        reached = (.dispatcher .scanning, ⟨entries, false⟩) := by
  obtain ⟨id, server⟩ := entry
  refine passProtocol.follows_bind.mpr
    ((passes_semaphoreFor id server entries).weaken ?_)
  rintro semaphore reached rfl
  refine ⟨⟨Or.inr (.tryAcquire server semaphore), trivial⟩, fun acquired => ?_⟩
  cases acquired with
  | false => rfl
  | true =>
    refine ⟨⟨Or.inr (.claim server semaphore id), rfl⟩, fun outcome => ?_⟩
    rcases outcome with _ | _ | claim
    · exact ⟨⟨Or.inr (.giveBack server semaphore), rfl⟩, fun _ => rfl⟩
    · exact ⟨⟨Or.inr (.giveBack server semaphore), rfl⟩, fun _ => rfl⟩
    · exact ⟨⟨Or.inr (.hand claim server semaphore), trivial⟩, fun _ => rfl⟩

theorem passes_forEach (entries : List (Int × ServerKey)) :
    passProtocol.Follows (.dispatcher .scanning, ⟨entries, false⟩)
      (Program.forEach dispatchOne entries) fun _ reached =>
        reached = (.dispatcher .scanning, ⟨[], false⟩) := by
  induction entries with
  | nil => rfl
  | cons entry entries induction =>
    refine passProtocol.follows_bind.mpr
      ((passes_dispatchOne entry entries).weaken ?_)
    rintro _ reached rfl
    exact induction

theorem passes_dispatchAvailable :
    passProtocol.Follows (.dispatcher .scanning, ⟨[], false⟩)
      dispatchAvailable fun _ reached =>
        reached = (.dispatcher .scanning, ⟨[], false⟩) := by
  refine ⟨⟨Or.inl rfl, trivial⟩, fun found => ?_⟩
  cases found with
  | error _ => rfl
  | ok _ =>
    refine ⟨⟨Or.inl rfl, trivial⟩, fun queued => ?_⟩
    cases queued with
    | error _ => rfl
    | ok queued => exact passes_forEach queued

theorem passes_dispatchLoop :
    passProtocol.Follows (.dispatcher .waiting, ⟨[], false⟩) dispatchLoop
      fun _ reached => ended reached.1 = true := by
  refine passProtocol.follows_bind.mpr ⟨⟨Or.inr .wake, trivial⟩, fun _ => ?_⟩
  refine passProtocol.follows_bind.mpr (passes_dispatchAvailable.weaken ?_)
  rintro _ reached rfl
  exact ⟨⟨Or.inr .loop, trivial⟩, fun _ => rfl⟩

def Role.isDispatcher : Role → Bool
  | .dispatcher _ => true
  | _ => false

theorem advance_isDispatcher (role : Role) (op : Op) (answer : op.Answer) :
    (advance role op answer).isDispatcher = role.isDispatcher := by
  unfold advance
  repeat' split
  all_goals rfl

variable {role : Role}

theorem advance_dispatching (retired : role.dispatching = false)
    (op : Op) (answer : op.Answer) :
    (advance role op answer).dispatching = false := by
  cases foreign : role.isDispatcher with
  | false =>
    have kept := (advance_isDispatcher role op answer).trans foreign
    cases reached : advance role op answer with
    | dispatcher phase =>
      rw [reached] at kept
      cases kept
    | _ => rfl
  | true =>
    cases role with
    | dispatcher phase =>
      cases phase with
      | closed => rfl
      | _ => cases retired
    | _ => cases foreign

theorem haunt_foreign {task : PanelTask} {config : Config} {schema : Schema}
    (follows : (machine config schema).TaskFollows task)
    (foreign : task.label.isDispatcher = false) :
    ((machine config schema).haunt passes).TaskFollows
      (task.haunt passes.fresh) := by
  have free : ∀ (role : Role) (pass : Pass) (op : Op),
      role.isDispatcher = false → passes.allows role pass op :=
    fun role pass op aside => by
      cases role with
      | dispatcher phase => cases aside
      | _ => trivial
  have stays : ∀ (role : Role) (op : Op) (answer : op.Answer),
      role.isDispatcher = false → protocol.allows role op →
        (protocol.advance role op answer).isDispatcher = false :=
    fun role op answer aside _ =>
      (advance_isDispatcher role op answer).trans aside
  exact follows.haunt free stays foreign _

theorem unwind_foreign {config : Config} {schema : Schema}
    {handler : PanelTask}
    (caught : (machine config schema).unwind role = some handler) :
    handler.label.isDispatcher = false := by
  unfold machine unwind at caught
  dsimp only at caught
  split at caught
  all_goals
    cases caught
  all_goals rfl

theorem call_foreign (call : Call) : call.role.isDispatcher = false := by
  cases call <;> rfl

theorem passes_sound (config : Config) (schema : Schema) :
    ((machine config schema).haunt passes).Sound where
  children op task created := by
    obtain ⟨origin, spawned, rfl⟩ := List.mem_map.mp created
    have follows := (machine_sound config schema).children op origin spawned
    cases op with
    | spawn child =>
      obtain rfl := List.mem_singleton.mp spawned
      cases child with
      | dispatchLoop => exact passes_dispatchLoop
      | _ => exact haunt_foreign follows rfl
    | _ => cases spawned
  serve call :=
    haunt_foreign ((machine_sound config schema).serve call)
      (call_foreign call)
  unwind label task handled := by
    obtain ⟨handler, caught, rfl⟩ := Option.map_eq_some_iff.mp handled
    exact haunt_foreign ((machine_sound config schema).unwind _ _ caught)
      (unwind_foreign caught)

section Refusals

variable {config : Config} {schema : Schema} {view next : PanelView}
  {op : Op} {input : Input} {answer : op.Answer}

theorem Acts.refusals (acts : Acts config schema view next role op input answer)
    (untried : ∀ tried, op ≠ .memory (.tryAcquire tried))
    (unfinished : op ≠ .spawn .dispatchLoop) (semaphore : Nat) :
    refusedInPass semaphore next.history =
      refusedInPass semaphore view.history := by
  rw [acts.history, refusedInPass]
  split
  · rename_i tried acquired same _
    exact absurd same (untried tried)
  · rename_i same _
    exact absurd same unfinished
  · rfl

/-- A task that is neither the dispatcher nor about to start one leaves the
slots alone and hands in permits only as a worker does. -/
theorem Acts.bystands
    (acts : Acts config schema view next role op input answer)
    (foreign : role.dispatching = false) (idle : role.recovering = false)
    (permitted : orderlyRelease.op view role op input) :
    next.state.memory.slots = view.state.memory.slots ∧
      (∀ semaphore, refusedInPass semaphore next.history =
        refusedInPass semaphore view.history) ∧
      ∀ semaphore, refusedInPass semaphore view.history = true →
        next.state.memory.available semaphore =
          view.state.memory.available semaphore := by
  suffices moves : (∀ tried, op ≠ .memory (.tryAcquire tried)) ∧
      op ≠ .spawn .dispatchLoop ∧
      next.state.memory.slots = view.state.memory.slots ∧
      ∀ semaphore, refusedInPass semaphore view.history = true →
        next.state.memory.available semaphore =
          view.state.memory.available semaphore by
    obtain ⟨untried, unfinished, slots, available⟩ := moves
    exact ⟨slots, acts.refusals untried unfinished, available⟩
  have state := acts.state
  rcases acts.allowed with quiet | move
  · have same : SameControl view.state.memory next.state.memory := by
      rw [← state]
      exact (exec_harmless quiet input view.state).1
    refine ⟨?_, ?_, same.slots, fun semaphore _ =>
      congrFun same.available semaphore⟩
    · rintro tried rfl
      cases quiet
    · rintro rfl
      cases quiet
  · cases move with
    | release worker finished =>
      refine ⟨by simp, by simp, by rw [← state]; rfl, ?_⟩
      intro semaphore refused
      rw [← state]
      apply Function.update_of_ne
      rintro rfl
      have free : refusedInPass worker.semaphore view.history = false := by
        have released : (!refusedInPass worker.semaphore view.history) =
            true := permitted
        simpa using released
      rw [free] at refused
      cases refused
    | launch => cases idle
    | wake | slotGet | slotInsert | tryAcquire | giveBack => cases foreign
    | claim | hand | loop => cases foreign
    | _ =>
      refine ⟨by simp, by simp, by rw [← state]; rfl, ?_⟩
      intro semaphore _
      rw [← state]
      rfl

end Refusals

/-- The pass in progress has turned the server away. -/
def TurnedAway (memory : Memory) (history : List PanelEntry)
    (server : ServerKey) : Prop :=
  ∃ semaphore, memory.slots server = some semaphore ∧
    refusedInPass semaphore history = true

/-- The server of the entry that the dispatcher is dealing with. -/
def DispatcherPhase.server : DispatcherPhase → Option ServerKey
  | .missing server | .offered server _ | .holding server _
  | .claimed _ server _ => some server
  | _ => none

/-- The phase of the dispatcher fits its pass: it deals with the first entry, and
it holds no permit of a server that it has turned away. -/
structure Fits (history : List PanelEntry) (phase : DispatcherPhase)
    (pass : Pass) : Prop where
  head : ∀ server, phase.server = some server →
    pass.entries.head?.map Prod.snd = some server
  spent : ∀ claim server semaphore, phase = .claimed claim server semaphore →
    pass.tried = true
  free : ∀ server semaphore,
    (Role.dispatcher phase).held = some (server, semaphore) →
      refusedInPass semaphore history = false

section Fits

variable {history after : List PanelEntry} {phase : DispatcherPhase}
  {pass : Pass} {server : ServerKey} {semaphore : Nat}

theorem fits_unheld (unheld : (Role.dispatcher phase).held = none)
    (head : ∀ server, phase.server = some server →
      pass.entries.head?.map Prod.snd = some server) :
    Fits history phase pass := by
  refine ⟨head, ?_, ?_⟩
  · rintro claim server semaphore rfl
    cases unheld
  · intro server semaphore held
    rw [unheld] at held
    cases held

theorem fits_scanning : Fits history .scanning pass :=
  fits_unheld rfl fun _ same => by cases same

section

variable (head : pass.entries.head?.map Prod.snd = some server)

include head

theorem fits_missing : Fits history (.missing server) pass :=
  fits_unheld rfl fun _ same => Option.some.inj same ▸ head

theorem fits_offered : Fits history (.offered server semaphore) pass :=
  fits_unheld rfl fun _ same => Option.some.inj same ▸ head

theorem fits_holding (free : refusedInPass semaphore history = false) :
    Fits history (.holding server semaphore) pass := by
  refine ⟨?_, ?_, ?_⟩
  · intro other same
    cases same
    exact head
  · intro claim other found same
    cases same
  · intro other found held
    cases held
    exact free

end

theorem fits_claimed (claim : DeploymentClaim) (tried : pass.tried = true)
    (head : pass.entries.head?.map Prod.snd = some server)
    (free : refusedInPass semaphore history = false) :
    Fits history (.claimed claim server semaphore) pass := by
  refine ⟨?_, fun _ _ _ _ => tried, ?_⟩
  · intro other same
    cases same
    exact head
  · intro other found held
    cases held
    exact free

theorem Fits.congr (fits : Fits history phase pass)
    (refusals : ∀ semaphore, refusedInPass semaphore after =
      refusedInPass semaphore history) :
    Fits after phase pass where
  head := fits.head
  spent := fits.spent
  free server semaphore held :=
    (refusals semaphore).trans (fits.free server semaphore held)

end Fits

/-- What holds of a pass at every moment: its entries are in line, and the
semaphores that have refused a permit have none left. -/
structure OnTurn (panel : Panel) (history : List PanelEntry)
    (phase : DispatcherPhase) (pass : Pass) : Prop where
  lined : Lined panel.database (TurnedAway panel.memory history) pass.entries
  tried : pass.tried = true → ∀ entry ∈ pass.entries.head?,
    ∀ row ∈ panel.database.deployments, row.id = entry.1 →
      row.status ≠ .queued
  empty : ∀ semaphore, refusedInPass semaphore history = true →
    panel.memory.available semaphore = 0 ∧
      ∃ server, panel.memory.slots server = some semaphore
  fits : Fits history phase pass

variable {server : ServerKey}

namespace OnTurn

variable {panel later : Panel} {history after : List PanelEntry}
  {phase reached : DispatcherPhase} {pass : Pass}

theorem fresh (panel : Panel)
    (unrefused : ∀ semaphore, refusedInPass semaphore history = false) :
    OnTurn panel history .waiting passes.fresh where
  lined := .nil _ _
  tried untried := by cases untried
  empty semaphore refused := by
    rw [unrefused] at refused
    cases refused
  fits := fits_unheld rfl fun _ same => by cases same

section

variable (turn : OnTurn panel history phase pass)

include turn

theorem split (dealing : phase.server = some server) :
    ∃ id entries, pass.entries = (id, server) :: entries := by
  have head := turn.fits.head server dealing
  cases listed : pass.entries with
  | nil =>
    rw [listed] at head
    cases head
  | cons entry entries =>
    rw [listed] at head
    obtain ⟨id, found⟩ := entry
    cases head
    exact ⟨id, entries, rfl⟩

/-- The table ages, and the servers that were turned away stay so. -/
theorem moves (ids : Ids panel.database) (stamped : Stamped panel.database)
    (ages : Ages panel.database later.database)
    (still : ∀ server, TurnedAway panel.memory history server →
      TurnedAway later.memory after server)
    (empty : ∀ semaphore, refusedInPass semaphore after = true →
      later.memory.available semaphore = 0 ∧
        ∃ server, later.memory.slots server = some semaphore)
    (fits : Fits after reached pass) :
    OnTurn later after reached pass where
  lined := turn.lined.ages ids stamped ages still
  tried := by
    intro tried entry first row present same queued
    have listed : entry ∈ pass.entries := List.mem_of_mem_head? first
    rcases ages.stems row present with ⟨old, member, place, waiting⟩ | ⟨new, _⟩
    · exact turn.tried tried entry first old member
        ((id_of_place place).symm.trans same) (waiting queued)
    · obtain ⟨known, member, id, _⟩ := turn.lined.known entry listed
      have bound := ids.bound known member
      omega
  empty := empty
  fits := fits

theorem quiet (ids : Ids panel.database) (stamped : Stamped panel.database)
    (ages : Ages panel.database later.database)
    (slots : ∀ server semaphore, panel.memory.slots server = some semaphore →
      later.memory.slots server = some semaphore)
    (refusals : ∀ semaphore, refusedInPass semaphore after =
      refusedInPass semaphore history)
    (available : ∀ semaphore, refusedInPass semaphore history = true →
      later.memory.available semaphore = panel.memory.available semaphore)
    (fits : Fits history reached pass) :
    OnTurn later after reached pass := by
  refine turn.moves ids stamped ages ?_ ?_ (fits.congr refusals)
  · rintro server ⟨semaphore, slot, refused⟩
    exact ⟨semaphore, slots server semaphore slot, (refusals _).trans refused⟩
  · intro semaphore refused
    rw [refusals] at refused
    obtain ⟨none, server, slot⟩ := turn.empty semaphore refused
    exact ⟨(available semaphore refused).trans none, server,
      slots server semaphore slot⟩

end

theorem pop (turn : OnTurn panel history .scanning pass)
    (served : ∀ entry ∈ pass.entries.head?,
      TurnedAway panel.memory history entry.2 ∨
        ∀ row ∈ panel.database.deployments, row.id = entry.1 →
          row.status ≠ .queued) :
    OnTurn panel history .scanning pass.next where
  lined := by
    have lined := turn.lined
    change Lined _ _ pass.entries.tail
    cases listed : pass.entries with
    | nil => exact .nil _ _
    | cons entry entries =>
      rw [listed] at lined served
      exact lined.pop (served entry rfl)
  tried untried := by cases untried
  empty := turn.empty
  fits := fits_scanning

end OnTurn

section Steps

variable {config : Config} {schema : Schema} {view next : PanelView}
  {op : Op} {input : Input} {answer : op.Answer}
  {phase : DispatcherPhase} {pass : Pass}

/-- A claim that meets the guard is answered. -/
theorem Acts.claim_answered {id : Int}
    {outcome : Except SqlError (Option DeploymentClaim)}
    (accepts : schema.deploymentStatus .running = true)
    (acts : Acts config schema view next role
      (.sql (.claimQueuedDeployment id)) input outcome)
    (permitted : orderlyRelease.op view role
      (.sql (.claimQueuedDeployment id)) input) :
    ∃ found, outcome = .ok found := by
  have done : ∃ result, view.state.database.execute schema
      (.claimQueuedDeployment id) = .ok result := by
    have written : (Database.claimUpdate id).status.all
        schema.deploymentStatus = true := accepts
    simp [Database.execute, Database.claimQueuedDeployment,
      Database.updateDeployments, written, Except.map]
  obtain ⟨result, executed⟩ := done
  have answered := acts.answered
  simp only [Panel.exec, Database.attempt, executed] at answered
  cases input with
  | fault message =>
    cases role with
    | _ => cases permitted
  | _ => exact ⟨result.2, answered.symm⟩

theorem Acts.claim_spends {id : Int} {found : Option DeploymentClaim}
    (acts : Acts config schema view next role
      (.sql (.claimQueuedDeployment id)) input (.ok found))
    {row : DeploymentRow} (present : row ∈ next.state.database.deployments)
    (same : row.id = id) : row.status ≠ .queued := by
  obtain ⟨_, affected, updating⟩ :=
    Database.claimQueuedDeployment_ok acts.executed.1
  rw [(Database.updateDeployments_ok updating).1] at present
  obtain ⟨old, member, ⟨_, rfl⟩ | ⟨missed, rfl⟩⟩ :=
    Relational.cases_of_mem_updateWhere present
  · exact nofun
  · intro queued
    exact Bool.eq_false_iff.mp missed (claimUpdate_hits.mpr ⟨same, queued⟩)

/-- What a pass remembers of an operation that moves nothing. -/
theorem note_harmless (quiet : harmless op = true)
    (answer : op.Answer) :
    Pass.note (.dispatcher phase) pass op answer = pass ∨
      ∃ entries, phase = .scanning ∧
        (⟨.dispatcher phase, op, answer⟩ : PanelEntry) =
          ⟨.dispatcher phase, .sql (.read .queuedDeploymentsGrouped),
            .ok entries⟩ ∧
        Pass.note (.dispatcher phase) pass op answer = ⟨entries, false⟩ := by
  cases op with
  | sql query =>
    cases query with
    | read what =>
      cases what with
      | queuedDeploymentsGrouped =>
        cases phase with
        | scanning =>
          rcases answer with error | entries
          · exact .inl rfl
          · exact .inr ⟨entries, rfl, rfl, rfl⟩
        | _ => exact .inl rfl
      | _ => cases phase <;> exact .inl rfl
    | claimQueuedDeployment id => cases quiet
    | _ => cases phase <;> exact .inl rfl
  | memory op =>
    cases op with
    | tryAcquire | dropPermit => cases quiet
    | _ => cases phase <;> exact .inl rfl
  | spawn child =>
    cases child with
    | worker => cases quiet
    | _ => cases phase <;> exact .inl rfl
  | _ => cases phase <;> exact .inl rfl

variable (ids : Ids view.state.database)
  (stamped : Stamped view.state.database)

include ids stamped

variable {reached : DispatcherPhase}

theorem OnTurn.stays (turn : OnTurn view.state view.history phase pass)
    (acts : Acts config schema view next role op input answer)
    (slots : next.state.memory.slots = view.state.memory.slots)
    (available : next.state.memory.available = view.state.memory.available)
    (untried : ∀ tried, op ≠ .memory (.tryAcquire tried))
    (unfinished : op ≠ .spawn .dispatchLoop)
    (fits : Fits view.history reached pass) :
    OnTurn next.state next.history reached pass := by
  refine turn.quiet ids stamped acts.ages ?_ ?_ ?_ fits
  · intro server semaphore slot
    rw [slots]
    exact slot
  · exact acts.refusals untried unfinished
  · intro semaphore _
    rw [available]

theorem OnTurn.harmless (turn : OnTurn view.state view.history phase pass)
    (acts : Acts config schema view next (.dispatcher phase) op input answer)
    (quiet : harmless op = true) :
    OnTurn next.state next.history phase
      (Pass.note (.dispatcher phase) pass op answer) := by
  have same : SameControl view.state.memory next.state.memory := by
    rw [← acts.state]
    exact (exec_harmless quiet input view.state).1
  have untried : ∀ tried, op ≠ .memory (.tryAcquire tried) := by
    rintro tried rfl
    cases quiet
  have unfinished : op ≠ .spawn .dispatchLoop := by
    rintro rfl
    cases quiet
  rcases @note_harmless op phase pass quiet answer with
    note | ⟨entries, rfl, entry, note⟩
  · rw [note]
    exact turn.stays ids stamped acts same.slots same.available untried
      unfinished turn.fits
  · rw [note]
    cases entry
    have executed : Except.ok (view.state.database,
        view.state.database.read .queuedDeploymentsGrouped) =
        Except.ok (next.state.database, entries) := acts.executed.1
    obtain ⟨table, listed⟩ := Prod.mk.inj (Except.ok.inj executed)
    have still := turn.stays ids stamped acts same.slots same.available
      untried unfinished turn.fits
    refine ⟨?_, fun untried => absurd untried Bool.false_ne_true, still.empty,
      fits_scanning⟩
    rw [← listed, ← table]
    exact .snapshot ids _

variable {semaphore : Nat}

/-- A new semaphore is none that has refused anybody. -/
theorem OnTurn.slotInsert
    (turn : OnTurn view.state view.history (.missing server) pass)
    (permits : Permits config view.state.memory view.labels)
    (acts : Acts config schema view next (.dispatcher (.missing server))
      (.memory (.slotInsert server)) input semaphore) :
    OnTurn next.state next.history (.offered server semaphore) pass := by
  have state := acts.state
  have vacant := permits.vacant _ acts.turns.label_mem server rfl
  refine turn.quiet ids stamped acts.ages ?_ ?_ ?_
    (fits_offered (turn.fits.head server rfl))
  · intro other found slot
    rw [← state]
    change Function.update view.state.memory.slots server _ other = _
    rw [Function.update_of_ne]
    · exact slot
    · rintro rfl
      rw [vacant] at slot
      cases slot
  · exact acts.refusals (by simp) (by simp)
  · intro other refused
    obtain ⟨_, owner, slot⟩ := turn.empty other refused
    have bound := permits.bounded owner other slot
    rw [← state]
    apply Function.update_of_ne
    omega

/-- A permit is refused: the entry leaves the list, and its server has been
turned away. -/
theorem OnTurn.refuse
    (turn : OnTurn view.state view.history (.offered server semaphore) pass)
    (permits : Permits config view.state.memory view.labels)
    (acts : Acts config schema view next
      (.dispatcher (.offered server semaphore))
      (.memory (.tryAcquire semaphore)) input false) :
    OnTurn next.state next.history .scanning pass.next := by
  have slot := permits.known _ acts.turns.label_mem server semaphore rfl
  have none : view.state.memory.available semaphore = 0 ∧
      next.state.memory = view.state.memory := by
    have outcome := acts.outcome
    simp only [Panel.exec, Memory.perform] at outcome
    split at outcome
    · rename_i empty
      exact ⟨empty, (congrArg (fun result => result.1.memory) outcome).symm⟩
    · cases congrArg Prod.snd outcome
  have refusals : ∀ other, refusedInPass other next.history =
      (semaphore == other || refusedInPass other view.history) := by
    intro other
    rw [acts.history]
    change ((semaphore == other && !false) || _) = _
    rw [Bool.not_false, Bool.and_true]
  have moved : OnTurn next.state next.history .scanning pass := by
    refine turn.moves ids stamped acts.ages ?_ ?_ fits_scanning
    · rintro other ⟨found, known, refused⟩
      refine ⟨found, ?_, ?_⟩
      · rw [none.2]
        exact known
      · rw [refusals, refused, Bool.or_true]
    · intro other refused
      rw [none.2]
      rw [refusals, Bool.or_eq_true, beq_iff_eq] at refused
      rcases refused with rfl | before
      · exact ⟨none.1, server, slot⟩
      · exact turn.empty other before
  apply moved.pop
  intro entry first
  obtain ⟨id, entries, listed⟩ := turn.split rfl
  rw [listed] at first
  cases first
  refine .inl ⟨semaphore, ?_, ?_⟩
  · rw [none.2]
    exact slot
  · rw [refusals, beq_self_eq_true, Bool.true_or]

/-- A permit is granted: its semaphore has refused nobody. -/
theorem OnTurn.grant
    (turn : OnTurn view.state view.history (.offered server semaphore) pass)
    (acts : Acts config schema view next
      (.dispatcher (.offered server semaphore))
      (.memory (.tryAcquire semaphore)) input true) :
    OnTurn next.state next.history (.holding server semaphore) pass := by
  have taken : ∃ left, view.state.memory.available semaphore = left + 1 ∧
      next.state.memory = { view.state.memory with
        available := Function.update view.state.memory.available semaphore
          left } := by
    have outcome := acts.outcome
    simp only [Panel.exec, Memory.perform] at outcome
    split at outcome
    · cases congrArg Prod.snd outcome
    · rename_i left available
      exact ⟨left, available,
        (congrArg (fun result => result.1.memory) outcome).symm⟩
  obtain ⟨left, available, state⟩ := taken
  have unrefused : refusedInPass semaphore view.history = false := by
    rw [Bool.eq_false_iff]
    intro refused
    have empty := (turn.empty semaphore refused).1
    omega
  refine turn.quiet ids stamped acts.ages ?_ ?_ ?_
    (fits_holding (turn.fits.head server rfl) unrefused)
  · intro other found slot
    rw [state]
    exact slot
  · intro other
    rw [acts.history]
    change ((semaphore == other && !true) || _) = _
    rw [Bool.not_true, Bool.and_false, Bool.false_or]
  · intro other refused
    rw [state]
    apply Function.update_of_ne
    rintro rfl
    rw [unrefused] at refused
    cases refused

/-- The claim of the first entry has been answered. -/
theorem OnTurn.claim {id : Int}
    {found : Option DeploymentClaim}
    (turn : OnTurn view.state view.history (.holding server semaphore) pass)
    (listed : pass.entries.head?.map Prod.fst = some id)
    (acts : Acts config schema view next
      (.dispatcher (.holding server semaphore))
      (.sql (.claimQueuedDeployment id)) input (.ok found))
    (fits : pass.entries.head?.map Prod.snd = some server →
      refusedInPass semaphore next.history = false →
      Fits next.history reached { pass with tried := true }) :
    OnTurn next.state next.history reached { pass with tried := true } := by
  have memory : next.state.memory = view.state.memory := acts.executed.2
  have still : OnTurn next.state next.history (.holding server semaphore)
      pass :=
    turn.stays ids stamped acts (by rw [memory]) (by rw [memory]) (by simp)
      (by simp) turn.fits
  refine ⟨still.lined, ?_, still.empty, fits (still.fits.head server rfl)
    (still.fits.free server semaphore rfl)⟩
  intro _ entry first row present same
  rw [first] at listed
  cases listed
  exact acts.claim_spends present same

/-- The permit goes back unused: its semaphore has refused nobody. -/
theorem OnTurn.giveBack
    (turn : OnTurn view.state view.history (.holding server semaphore) pass)
    (tried : pass.tried = true)
    (acts : Acts config schema view next
      (.dispatcher (.holding server semaphore))
      (.memory (.dropPermit semaphore)) input ()) :
    OnTurn next.state next.history .scanning pass.next := by
  have state := acts.state
  have unrefused := turn.fits.free server semaphore rfl
  have moved : OnTurn next.state next.history .scanning pass := by
    refine turn.quiet ids stamped acts.ages ?_ ?_ ?_ fits_scanning
    · intro other found slot
      rw [← state]
      exact slot
    · exact acts.refusals (by simp) (by simp)
    · intro other refused
      rw [← state]
      apply Function.update_of_ne
      rintro rfl
      rw [unrefused] at refused
      cases refused
  exact moved.pop fun entry first => .inr (moved.tried tried entry first)

/-- A step of the dispatcher keeps its pass in order. -/
theorem OnTurn.acts (turn : OnTurn view.state view.history phase pass)
    (permits : Permits config view.state.memory view.labels)
    (accepts : schema.deploymentStatus .running = true)
    (acts : Acts config schema view next (.dispatcher phase) op input answer)
    (listed : Pass.allows (.dispatcher phase) pass op)
    (permitted : orderlyRelease.op view (.dispatcher phase) op input)
    (moved : advance (.dispatcher phase) op answer = .dispatcher reached)
    (busy : reached ≠ .closed) :
    OnTurn next.state next.history reached
      (Pass.note (.dispatcher phase) pass op answer) := by
  rcases acts.allowed with quiet | move
  · rw [advance_of_calm rfl op answer quiet] at moved
    cases moved
    exact turn.harmless ids stamped acts quiet
  · have state := acts.state
    cases move with
    | wake =>
      cases moved
      exact turn.stays ids stamped acts (by rw [← state]; rfl)
        (by rw [← state]; rfl) (by simp) (by simp) fits_scanning
    | slotGet server =>
      cases answer with
      | none =>
        cases moved
        exact turn.stays ids stamped acts (by rw [← state]; rfl)
          (by rw [← state]; rfl) (by simp) (by simp) (fits_missing listed)
      | some semaphore =>
        cases moved
        exact turn.stays ids stamped acts (by rw [← state]; rfl)
          (by rw [← state]; rfl) (by simp) (by simp) (fits_offered listed)
    | slotInsert server =>
      cases moved
      exact turn.slotInsert ids stamped permits acts
    | tryAcquire server semaphore =>
      cases answer with
      | false =>
        cases moved
        exact turn.refuse ids stamped permits acts
      | true =>
        cases moved
        exact turn.grant ids stamped acts
    | claim =>
      obtain ⟨found, rfl⟩ := acts.claim_answered accepts permitted
      cases found with
      | none =>
        cases moved
        exact turn.claim ids stamped listed acts fun head free =>
          fits_holding head free
      | some claim =>
        cases moved
        exact turn.claim ids stamped listed acts fun head free =>
          fits_claimed claim rfl head free
    | giveBack server semaphore =>
      cases moved
      exact turn.giveBack ids stamped listed acts
    | hand =>
      cases moved
      have still : OnTurn next.state next.history .scanning pass :=
        turn.stays ids stamped acts (by rw [← state]; rfl)
          (by rw [← state]; rfl) (by simp) (by simp) fits_scanning
      exact still.pop fun entry first =>
        .inr (still.tried (turn.fits.spent _ _ _ rfl) entry first)
    | loop =>
      cases moved
      exact absurd rfl busy

end Steps

namespace FirstComeFirstServed

variable {database after : Database} {claims : List Int}

theorem ages (order : FirstComeFirstServed database claims)
    (ids : Ids database) (stamped : Stamped database)
    (known : ∀ id ∈ claims, id < database.nextId)
    (aged : Ages database after) : FirstComeFirstServed after claims := by
  have origin : ∀ id ∈ claims, ∀ row ∈ after.deployments, row.id = id →
      ∃ old ∈ database.deployments, row.place = old.place := by
    intro id member row present same
    rcases aged.stems row present with ⟨old, oldPresent, place, _⟩ | ⟨new, _⟩
    · exact ⟨old, oldPresent, place⟩
    · have bound := known id member
      omega
  constructor
  · refine order.served.imp_of_mem ?_
    intro later sooner laterMember soonerMember before row present other
      otherPresent rowId otherId servers
    obtain ⟨old, oldPresent, place⟩ :=
      origin sooner soonerMember row present rowId
    obtain ⟨oldOther, oldOtherPresent, otherPlace⟩ :=
      origin later laterMember other otherPresent otherId
    rw [earlier_of_place place otherPlace]
    rw [serverId_of_place place, serverId_of_place otherPlace] at servers
    exact before old oldPresent oldOther oldOtherPresent
      ((id_of_place place).symm.trans rowId)
      ((id_of_place otherPlace).symm.trans otherId) servers
  · intro id member row present rowId other otherPresent queued servers
    obtain ⟨old, oldPresent, place⟩ := origin id member row present rowId
    rcases aged.stems other otherPresent with
      ⟨oldOther, oldOtherPresent, otherPlace, waiting⟩ | ⟨new, created⟩
    · rw [earlier_of_place place otherPlace]
      rw [serverId_of_place place, serverId_of_place otherPlace] at servers
      exact order.waiting id member old oldPresent
        ((id_of_place place).symm.trans rowId) oldOther oldOtherPresent
        (waiting queued) servers
    · rw [earlier_of_place place (rfl : other.place = other.place)]
      exact earlier_new ids stamped oldPresent new created

theorem claim (order : FirstComeFirstServed database claims)
    (ids : Ids database) {target : DeploymentRow}
    (present : target ∈ database.deployments)
    (queued : target.status = .queued)
    (first : ∀ row ∈ database.deployments, row.status = .queued →
      row.serverId = target.serverId → Database.earlier target row) :
    FirstComeFirstServed database (target.id :: claims) := by
  constructor
  · refine List.pairwise_cons.mpr ⟨?_, order.served⟩
    intro sooner member row rowPresent other otherPresent rowId otherId servers
    obtain rfl := ids.eq otherPresent present otherId
    exact order.waiting sooner member row rowPresent rowId other otherPresent
      queued servers
  · intro id member row rowPresent rowId other otherPresent waiting servers
    rcases List.mem_cons.mp member with rfl | older
    · obtain rfl := ids.eq rowPresent present rowId
      exact first other otherPresent waiting servers.symm
    · exact order.waiting id older row rowPresent rowId other otherPresent
        waiting servers

end FirstComeFirstServed

/-- The dispatcher claims the first entry of its pass, which stands in front of
the line of its server. -/
theorem OnTurn.front {config : Config} {view : PanelView} {server : ServerKey}
    {semaphore : Nat} {pass : Pass}
    (turn : OnTurn view.state view.history (.holding server semaphore) pass)
    (ids : Ids view.state.database)
    (permits : Permits config view.state.memory view.labels)
    (present : Role.dispatcher (.holding server semaphore) ∈ view.labels)
    {target : DeploymentRow}
    (member : target ∈ view.state.database.deployments)
    (listed : pass.entries.head?.map Prod.fst = some target.id) :
    ∀ row ∈ view.state.database.deployments, row.status = .queued →
      row.serverId = target.serverId → Database.earlier target row := by
  intro row rowMember queued same
  obtain ⟨id, entries, split⟩ := turn.split rfl
  have lined := turn.lined
  rw [split] at listed lined
  cases listed
  obtain ⟨known, knownMember, knownId, knownServer⟩ :=
    lined.known _ List.mem_cons_self
  obtain rfl := ids.eq knownMember member knownId
  refine lined.first ids member ?_ rowMember queued (same.trans knownServer)
  rintro ⟨found, slot, refused⟩
  have own := permits.known _ present server semaphore rfl
  rw [own] at slot
  cases slot
  rw [turn.fits.free server semaphore rfl] at refused
  cases refused

abbrev PassView := View Op Op.Answer Panel (Role × Pass)

/-- The invariant of the runs with ghosts. -/
structure InTurn (config : Config) (view : PassView) : Prop where
  sane : Sane config view.forget
  stamped : Stamped view.state.database
  known : ∀ id ∈ claimed view.forget.history, id < view.state.database.nextId
  turn : ∀ phase pass, (Role.dispatcher phase, pass) ∈ view.labels →
    phase ≠ .closed → OnTurn view.state view.forget.history phase pass
  order : FirstComeFirstServed view.state.database
    (claimed view.forget.history)

section Runs

variable {config : Config} {schema : Schema} {view next : PassView}

/-- Steps that perform no operation: the dispatcher does not take part. -/
theorem InTurn.aside (inTurn : InTurn config view)
    (sane : Sane config next.forget)
    (ages : Ages view.state.database next.state.database)
    (nextId : next.state.database.nextId = view.state.database.nextId)
    (history : next.history = view.history)
    (same : ∀ phase pass, (Role.dispatcher phase, pass) ∈ next.labels →
      phase ≠ .closed → (Role.dispatcher phase, pass) ∈ view.labels ∧
        next.state.memory.slots = view.state.memory.slots ∧
        next.state.memory.available = view.state.memory.available) :
    InTurn config next := by
  have past : next.forget.history = view.forget.history :=
    congrArg (List.map Entry.forget) history
  have ids := inTurn.sane.owned.ids
  refine ⟨sane, inTurn.stamped.ages ages, ?_, ?_, ?_⟩
  · rw [past, nextId]
    exact inTurn.known
  · intro phase pass member busy
    obtain ⟨before, slots, available⟩ := same phase pass member busy
    have turn := inTurn.turn phase pass before busy
    rw [past]
    refine turn.quiet ids inTurn.stamped ages ?_ (fun _ => rfl) ?_ turn.fits
    · intro server semaphore slot
      rw [slots]
      exact slot
    · intro semaphore _
      rw [available]
  · rw [past]
    exact inTurn.order.ages ids inTurn.stamped inTurn.known ages

/-- The claims that an operation adds are in order. -/
theorem InTurn.serves (inTurn : InTurn config view)
    {pass : Pass} {op : Op} {input : Input} {answer : op.Answer}
    (member : (role, pass) ∈ view.labels)
    (acts : Acts config schema view.forget next.forget role op input answer)
    (listed : Pass.allows role pass op) :
    (∀ id ∈ claimed next.forget.history,
        id < view.state.database.nextId) ∧
      FirstComeFirstServed view.state.database
        (claimed next.forget.history) := by
  have ids := inTurn.sane.owned.ids
  cases claims : claimedRow ⟨role, op, answer⟩ with
  | none =>
    have same : claimed next.forget.history = claimed view.forget.history := by
      rw [acts.history, claimed, List.filterMap_cons_none claims]
      rfl
    rw [same]
    exact ⟨inTurn.known, inTurn.order⟩
  | some id =>
    have more : claimed next.forget.history =
        id :: claimed view.forget.history := by
      rw [acts.history, claimed, List.filterMap_cons_some claims]
      rfl
    have answered : ∃ claim, (⟨role, op, answer⟩ : PanelEntry) =
        ⟨role, .sql (.claimQueuedDeployment id), .ok (some claim)⟩ := by
      unfold claimedRow at claims
      split at claims
      · rename_i found outcome sameOp sameAnswer
        dsimp only at sameOp sameAnswer
        subst sameOp
        cases sameAnswer
        rcases outcome with error | none | claim
        · cases claims
        · cases claims
        · cases claims
          exact ⟨claim, rfl⟩
      · cases claims
    obtain ⟨claim, entry⟩ := answered
    cases entry
    have move : ∃ server semaphore,
        role = .dispatcher (.holding server semaphore) := by
      rcases acts.allowed with quiet | move
      · cases quiet
      · cases move
        exact ⟨_, _, rfl⟩
    obtain ⟨server, semaphore, rfl⟩ := move
    obtain ⟨row, present, _, rfl, queued, _⟩ := acts.claim_some
    have turn := inTurn.turn _ _ member (by simp)
    rw [more]
    constructor
    · intro other found
      rcases List.mem_cons.mp found with rfl | older
      · exact ids.bound row present
      · exact inTurn.known other older
    · exact inTurn.order.claim ids present queued
        (@OnTurn.front config view.forget _ _ _ turn ids inTurn.sane.permits
          (List.mem_map_of_mem member) _ present listed)

section

variable (accepts : schema.deploymentStatus .running = true)

include accepts

section

variable {pass : Pass} {op : Op} {input : Input}
  {answer : op.Answer}
  (acts : Acts config schema view.forget next.forget role op input answer)
  (listed : Pass.allows role pass op)
  (permitted : orderlyRelease.op view.forget role op input)
  (replaced : Replaced ((machine config schema).haunt passes).ended
    (role, pass) (advance role op answer, Pass.note role pass op answer)
    ((((machine config schema).haunt passes).children op).map Task.label)
    view.labels next.labels)

include acts listed permitted replaced

/-- The pass of the dispatcher after a step of anybody. -/
theorem InTurn.turns (inTurn : InTurn config view) {phase : DispatcherPhase}
    {left : Pass}
    (found : (Role.dispatcher phase, left) ∈ next.labels)
    (leading : (Role.dispatcher phase).dispatching = true) :
    OnTurn next.state next.forget.history phase left := by
  have ids := inTurn.sane.owned.ids
  have control := inTurn.sane.control
  have counted : ∀ kind : Role → Bool, view.forget.labels.countP kind =
      view.labels.countP fun label => kind label.1 := by
    intro kind
    exact List.countP_map
  have member : role ∈ view.forget.labels :=
    List.mem_map_of_mem replaced.label_mem
  have busy : phase ≠ .closed := by
    rintro rfl
    cases leading
  have born : (Role.dispatcher phase, left) ∈
      (((machine config schema).haunt passes).children op).map Task.label →
      OnTurn next.state next.forget.history phase left := by
    intro spawned
    rw [acts.history]
    cases op with
    | spawn child =>
      cases child with
      | dispatchLoop =>
        cases List.mem_singleton.mp spawned
        exact .fresh _ fun _ => rfl
      | _ => cases List.mem_singleton.mp spawned
    | _ => cases spawned
  cases acting : role.dispatching with
  | true =>
    rcases replaced.mem_or_two found (fun label => label.1.dispatching)
        acting leading with reached | spawned | two
    · obtain ⟨moved, noted⟩ := Prod.mk.inj reached
      rw [noted]
      cases role with
      | dispatcher current =>
        have turn := inTurn.turn current pass replaced.label_mem (by
          rintro rfl
          cases acting)
        exact turn.acts ids inTurn.stamped inTurn.sane.permits accepts acts
          listed permitted moved.symm busy
      | _ => cases acting
    · exact born spawned
    · have single := control.single
      rw [counted Role.dispatching] at single
      omega
  | false =>
    rcases replaced.mem found with old | reached | spawned
    · have idle : role.recovering = false := by
        rw [Bool.eq_false_iff]
        intro recovering
        have single := control.single
        have first : 0 < view.forget.labels.countP Role.recovering :=
          List.countP_pos_iff.mpr ⟨role, member, recovering⟩
        have second : 0 < view.forget.labels.countP Role.dispatching :=
          List.countP_pos_iff.mpr
            ⟨_, List.mem_map_of_mem old, leading⟩
        omega
      have turn := inTurn.turn phase left old busy
      obtain ⟨slots, refusals, available⟩ :=
        acts.bystands acting idle permitted
      refine turn.quiet ids inTurn.stamped acts.ages ?_ refusals available
        turn.fits
      intro server semaphore slot
      have same : next.state.memory.slots = view.state.memory.slots := slots
      rw [same]
      exact slot
    · obtain ⟨moved, _⟩ := Prod.mk.inj reached
      have retired := advance_dispatching acting op answer
      rw [← moved, leading] at retired
      cases retired
    · exact born spawned

theorem InTurn.operation (inTurn : InTurn config view)
    (sane : Sane config next.forget) :
    InTurn config next := by
  have ids := inTurn.sane.owned.ids
  have served := inTurn.serves replaced.label_mem acts listed
  have ages := acts.ages
  refine ⟨sane, inTurn.stamped.ages ages, ?_, ?_,
    served.2.ages ids inTurn.stamped served.1 ages⟩
  · intro id found
    exact Int.lt_of_lt_of_le (served.1 id found) (ids.acts acts).2
  · intro phase left found busy
    apply inTurn.turns accepts acts listed permitted replaced found
    cases phase with
    | closed => exact absurd rfl busy
    | _ => rfl

end

theorem InTurn.step (inTurn : InTurn config view)
    (step : View.Step ((machine config schema).haunt passes)
      orderlyRelease.haunt view next) :
    InTurn config next := by
  have sane := inTurn.sane.step step.forget
  cases step with
  | @op labels label op input replaced allowed ready permitted =>
    have turns := replaced.forget
    rw [children_born] at turns
    exact inTurn.operation accepts ⟨allowed.1, ready, rfl, turns, rfl⟩
      allowed.2 permitted replaced sane
  | @unwind labels label handler replaced handled permitted =>
    obtain ⟨origin, caught, rfl⟩ := Option.map_eq_some_iff.mp handled
    refine inTurn.aside sane (.refl _) rfl rfl ?_
    intro phase pass member busy
    refine ⟨?_, rfl, rfl⟩
    rcases replaced.mem member with old | reached | spawned
    · exact old
    · have foreign := unwind_foreign caught
      have role : Role.dispatcher phase = origin.label :=
        congrArg Prod.fst reached
      rw [← role] at foreign
      cases foreign
    · cases spawned
  | @arrive left call permitted joined =>
    refine inTurn.aside sane (.refl _) rfl rfl ?_
    intro phase pass member busy
    refine ⟨?_, rfl, rfl⟩
    rcases mem_arrives (joined.imp_right And.left) member with old | new
    · exact old
    · have foreign := call_foreign call
      have role : Role.dispatcher phase = call.role := congrArg Prod.fst new
      rw [← role] at foreign
      cases foreign
  | signal signal =>
    refine inTurn.aside sane (ages_signal signal view.state) ?_ rfl ?_
    · cases signal <;> rfl
    · intro phase pass member busy
      cases signal <;> exact ⟨member, rfl, rfl⟩
  | restart permitted =>
    refine inTurn.aside sane (.refl _) rfl rfl ?_
    intro phase pass member busy
    cases member

end

/-- In every run in which the claiming statement does not fail and no worker
releases its permit to a pass that has turned its server away, the deployments of
every server are claimed in the order of their creation, none while an earlier one
is still queued. -/
theorem deployments_claimed_in_order {database : Database}
    {events : List (Event Input Call Signal)} {pool : PanelPool}
    (ids : Ids database) (stamped : Stamped database)
    (accepts : schema.deploymentStatus .running = true)
    (run : Pool.Run (machine config schema) orderlyRelease (boot database)
      events pool) :
    FirstComeFirstServed pool.state.database (claimed pool.history) := by
  have possible : ∃ after, Pool.Run ((machine config schema).haunt passes)
      orderlyRelease.haunt ((boot database).haunt passes.fresh) events after ∧
      after.forget = pool := run.haunted
  obtain ⟨after, ran, rfl⟩ := possible
  have reached := (ran.reaches (passes_sound config schema)
    (by simp [boot, Pool.haunt])).1
  have initial : InTurn config
      (Pool.view ((boot database).haunt passes.fresh)) := by
    refine ⟨sane_boot config ids, stamped, ?_, ?_, ?_⟩
    · intro id member
      cases member
    · intro phase pass member
      cases member
    · refine ⟨.nil, ?_⟩
      intro id member
      cases member
  exact (reached.invariant (InTurn config) initial fun _ _ inTurn step =>
    inTurn.step accepts step).order

end Runs

/-- One worker per server. -/
def oneWorker : Config where
  deploymentPerServerConcurrency := none
  deploymentQueueMaxSize := none
  base := "/var/lib/openoxide"
  toLowercase text := text

/-- A panel that manages three databases on its own server. -/
def threeDatabases : Database where
  deployments := []
  nextId := 1
  resources := [1, 2, 3].map fun id =>
    { key := .database .postgres id, name := "store", appName := "store-1",
      status := .idle, serverId := none }
  serverManagement := []
  now := 0

/-- Deployments of the three databases are queued one after the other, and a pass
claims the first of them. -/
def threeQueued : List (Event Input Call Signal) :=
  startUp ++
    ([1, 2, 3].flatMap fun id =>
      .arrive (.runDatabase .postgres id .deploy) :: runs 1 12) ++
    runs 0 13

/-- The worker comes to its end, and the next pass claims the second one. -/
theorem deployments_claimed_in_order_two :
    ∃ pool, Pool.Run (machine oneWorker .migrations) orderlyRelease
        (boot threeDatabases) (threeQueued ++ runs 0 17 ++ runs 0 6) pool ∧
      claimed pool.history = [2, 1] ∧
      FirstComeFirstServed pool.state.database (claimed pool.history) := by
  refine Pool.Run.exists_checked (fun pool => claimed pool.history = [2, 1])
    (by decide +kernel) ?_
  intro pool run claims
  have ids : Ids threeDatabases := ⟨List.nodup_nil, by simp [threeDatabases]⟩
  exact ⟨claims, deployments_claimed_in_order ids
    (by simp [Stamped, threeDatabases]) rfl run⟩

/-- The worker comes to its end after the next pass has found no permit for the
second deployment.  The pass goes on with the third one and claims it. -/
def lateRelease : List (Event Input Call Signal) :=
  threeQueued ++ [.signal .interval] ++ runs 1 5 ++ runs 0 17 ++ runs 0 3

theorem third_claimed_before_second :
    ∃ pool, Pool.Run (machine oneWorker .migrations) anyStep
        (boot threeDatabases) lateRelease pool ∧
      claimed pool.history = [3, 1] ∧
      ¬ FirstComeFirstServed pool.state.database (claimed pool.history) := by
  refine Pool.Run.exists_checked (fun pool => claimed pool.history = [3, 1] ∧
    ∃ row ∈ pool.state.database.deployments, row.id = 3 ∧
      ∃ other ∈ pool.state.database.deployments,
        other.status = .queued ∧ row.serverId = other.serverId ∧
          ¬ Database.earlier row other) (by decide +kernel) ?_
  rintro pool run ⟨claims, row, present, id, other, otherPresent, queued,
    servers, overtaken⟩
  refine ⟨claims, ?_⟩
  intro order
  rw [claims] at order
  exact overtaken (order.waiting 3 List.mem_cons_self row present id other
    otherPresent queued servers)

end OpenOxide.Deployment

import OpenOxide.Deployment.Dispatch
import OpenOxide.Deployment.Rows

/-!
# Who works on a row

A claimed row has one owner: the dispatcher that claimed it, then the worker
it is handed to, until that worker gives its permit back.  `Owned` says that
no row has two owners and that no owned row is queued.  Both follow from the
claiming statement, which changes a queued row and makes it a running one in
one step.

`Handing` adds the past: no row is handed to a worker twice, not even across
restarts, because no statement ever queues a row again.
-/

namespace OpenOxide.Deployment

open Concurrency

variable {id : Int} {claim : DeploymentClaim} {role : Role}

namespace Role

/-- The task is the live owner of the row. -/
def owns (id : Int) (role : Role) : Bool :=
  role.claim?.any fun claim => claim.id == id

/-- The claim a dispatcher is about to hand to a worker. -/
def pending : Role → Option DeploymentClaim
  | .dispatcher (.claimed claim _ _) => some claim
  | _ => none

theorem owns_iff :
    role.owns id = true ↔ ∃ claim, role.claim? = some claim ∧ claim.id = id := by
  simp [owns, Option.any_eq_true]

end Role

theorem blind_claim : Blind Role.claim? :=
  {}

theorem blind_pending : Blind Role.pending :=
  {}

/-- Apart from the claiming statement, no move makes an owner. -/
theorem Move.claims {op : Op} (move : Move role op)
    (central : role.aside = false)
    (other : ∀ id, op ≠ .sql (.claimQueuedDeployment id))
    (answer : op.Answer) (kind : Option DeploymentClaim → Bool)
    (nobody : kind none = false) :
    (kind (advance role op answer).claim?).toNat +
        op.born.countP (fun role => kind role.claim?) ≤
      (kind role.claim?).toNat := by
  have newborn : ∀ child : Role, child.claim? = none →
      [child].countP (fun role => kind role.claim?) = 0 := by
    intro child unclaimed
    simp [unclaimed, nobody]
  have none : (kind none).toNat = 0 := by
    rw [nobody]
    rfl
  cases move with
  | claim server semaphore id => exact absurd rfl (other id)
  | hand claim server semaphore =>
    change (kind .none).toNat + [Role.worker ⟨claim, server, semaphore⟩
      .running].countP (fun role => kind role.claim?) ≤
        (kind (some claim)).toNat
    rw [none, List.countP_singleton]
    change 0 + (if kind (some claim) = true then 1 else 0) ≤ _
    cases kind (some claim) <;> exact Nat.le_refl _
  | release work finished =>
    rcases finished with rfl | rfl | rfl <;>
      · change (kind .none).toNat + 0 ≤ _
        rw [none]
        exact Nat.zero_le _
  | launch | loop =>
    change (kind .none).toNat + _ ≤ _
    rw [none, Op.born, newborn _ rfl]
    exact Nat.zero_le _
  | swapStarted =>
    change (kind .none).toNat + 0 ≤ _
    rw [none]
    exact Nat.zero_le _
  | slotGet | tryAcquire => cases answer <;> exact Nat.le_refl _
  | _ => first | exact Nat.le_refl _ | cases central

section Steps

variable {config : Config} {schema : Schema} {guard : PanelGuard}
  {view next : PanelView} {op : Op} {input : Input}
  {answer : op.Answer}

/-- The dispatcher claims a queued row. -/
structure Claims (view next : PanelView) (role : Role) (op : Op)
    (answer : op.Answer) (server : ServerKey) (semaphore : Nat)
    (row : DeploymentRow) : Prop where
  acting : role = .dispatcher (.holding server semaphore)
  statement : op = .sql (.claimQueuedDeployment row.id)
  reached : advance role op answer =
    .dispatcher (.claimed row.claim server semaphore)
  member : row ∈ view.state.database.deployments
  queued : row.status = .queued
  running : ∃ kept ∈ next.state.database.deployments,
    kept.claim = row.claim ∧ kept.status = .running
  count : ∀ kind : Option DeploymentClaim → Bool, kind none = false →
    next.labels.countP (fun role => kind role.claim?) =
      view.labels.countP (fun role => kind role.claim?) +
        (kind (some row.claim)).toNat

variable {kind : Option DeploymentClaim → Bool}

theorem ended_kind
    (nobody : kind none = false) (hasEnded : ended role = true) :
    kind role.claim? = false := by
  rw [(ended_cases hasEnded).2.2.1, nobody]

theorem Acts.claim_some {server : ServerKey} {semaphore : Nat}
    (acts : Acts config schema view next
      (.dispatcher (.holding server semaphore))
      (.sql (.claimQueuedDeployment id)) input (.ok (some claim))) :
    ∃ row ∈ view.state.database.deployments,
      row.claim = claim ∧ row.id = id ∧ row.status = .queued ∧
      ∃ kept ∈ next.state.database.deployments,
        kept.claim = claim ∧ kept.status = .running := by
  obtain ⟨found, affected, updating⟩ :=
    Database.claimQueuedDeployment_ok acts.executed.1
  obtain ⟨row, search, rfl⟩ := Option.map_eq_some_iff.mp found.symm
  have member := List.mem_of_find?_eq_some search
  have hit := List.find?_some search
  have hits := claimUpdate_hits.mp hit
  refine ⟨row, member, rfl, hits.1, hits.2,
    (Database.claimUpdate id).change row, ?_, rfl, rfl⟩
  rw [(Database.updateDeployments_ok updating).1]
  exact Relational.mem_updateWhere.mpr ⟨row, member, if_pos hit⟩

theorem Acts.claim_count
    (acts : Acts config schema view next role op input answer)
    (nobody : kind none = false) :
    next.labels.countP (fun role => kind role.claim?) +
        (kind role.claim?).toNat =
      view.labels.countP (fun role => kind role.claim?) +
        (kind (advance role op answer).claim?).toNat +
        op.born.countP (fun role => kind role.claim?) :=
  Replaced.countP acts.turns (fun role => kind role.claim?)
    (ended_kind nobody)

theorem Acts.claims_row {server : ServerKey} {semaphore : Nat}
    (acts : Acts config schema view next
      (.dispatcher (.holding server semaphore))
      (.sql (.claimQueuedDeployment id)) input (.ok (some claim))) :
    ∃ row, row.claim = claim ∧ Claims view next
      (.dispatcher (.holding server semaphore))
      (.sql (.claimQueuedDeployment id)) (.ok (some claim)) server semaphore
      row := by
  obtain ⟨row, member, rfl, rfl, queued, running⟩ := acts.claim_some
  refine ⟨row, rfl, rfl, rfl, rfl, member, queued, running, ?_⟩
  intro kind nobody
  have numbers := acts.claim_count nobody
  change _ + (kind none).toNat = _ + (kind (some row.claim)).toNat + 0
    at numbers
  rw [nobody] at numbers
  exact numbers

/-- No claim has more owners than before. -/
def Unclaimed (labels left : List Role) : Prop :=
  ∀ kind : Option DeploymentClaim → Bool, kind none = false →
    left.countP (fun role => kind role.claim?) ≤
      labels.countP (fun role => kind role.claim?)

/-- Owners come into being by a claim, and in no other way. -/
theorem Acts.claims
    (acts : Acts config schema view next role op input answer) :
    Unclaimed view.labels next.labels ∨
      ∃ server semaphore row,
        Claims view next role op answer server semaphore row := by
  rcases remote_or_central acts.allowed with remote | ⟨central, move⟩
  · left
    intro kind nobody
    have blind : Blind fun role : Role => kind role.claim? :=
      ⟨fun _ => rfl, fun _ => rfl, fun role aside => by
        rw [blind_claim.aside role aside]⟩
    exact (blind.countP nobody (fun _ => ended_kind nobody) remote
      acts.turns).le
  · by_cases claiming : ∃ id, op = .sql (.claimQueuedDeployment id)
    · obtain ⟨id, rfl⟩ := claiming
      cases move with
      | claim server semaphore =>
        have idle : (advance (.dispatcher (.holding server semaphore))
              (.sql (.claimQueuedDeployment id)) answer).claim? = none →
            Unclaimed view.labels next.labels := by
          intro unclaimed kind nobody
          have numbers := acts.claim_count nobody
          rw [unclaimed, nobody] at numbers
          exact Nat.le_trans (Nat.le_add_right _ _) (Nat.le_of_eq numbers)
        rcases answer with error | found
        · exact Or.inl (idle rfl)
        · cases found with
          | none => exact Or.inl (idle rfl)
          | some claim =>
            obtain ⟨row, _, claims⟩ := acts.claims_row
            exact Or.inr ⟨server, semaphore, row, claims⟩
    · left
      intro kind nobody
      have numbers := acts.claim_count nobody
      have fewer := move.claims central
        (fun id same => claiming ⟨id, same⟩) answer kind nobody
      omega

theorem owner_before {labels left : List Role} {member : Role}
    (fewer : left.countP (fun role => role.claim? == some claim) ≤
      labels.countP fun role => role.claim? == some claim)
    (membership : member ∈ left) (claimed : member.claim? = some claim) :
    ∃ owner ∈ labels, owner.claim? = some claim := by
  have positive : 0 < left.countP
      (fun role => role.claim? == some claim) :=
    List.countP_pos_iff.mpr ⟨member, membership, by simp [claimed]⟩
  obtain ⟨owner, present, same⟩ :=
    List.countP_pos_iff.mp (Nat.lt_of_lt_of_le positive fewer)
  exact ⟨owner, present, by simpa using same⟩

theorem claim_kept {labels left : List Role}
    (fewer : Unclaimed labels left) {member : Role}
    (membership : member ∈ left) (claimed : member.claim? = some claim) :
    ∃ owner ∈ labels, owner.claim? = some claim :=
  owner_before (fewer (fun found => found == some claim) rfl) membership
    claimed

theorem Acts.owner
    (acts : Acts config schema view next role op input answer)
    {member : Role} (membership : member ∈ next.labels)
    (claimed : member.claim? = some claim) :
    (∃ owner ∈ view.labels, owner.claim? = some claim) ∨
      ∃ server semaphore row, claim = row.claim ∧
        Claims view next role op answer server semaphore row := by
  rcases acts.claims with fewer | ⟨server, semaphore, row, claims⟩
  · exact Or.inl (claim_kept fewer membership claimed)
  · by_cases fresh : claim = row.claim
    · exact Or.inr ⟨server, semaphore, row, fresh, claims⟩
    · have count := claims.count (fun found => found == some claim) rfl
      have different : (some row.claim == some claim) = false := by
        simpa using Ne.symm fresh
      rw [different] at count
      exact Or.inl (owner_before (Nat.le_of_eq count) membership claimed)

theorem Claims.owns_count {server : ServerKey} {semaphore : Nat}
    {row : DeploymentRow}
    (claims : Claims view next role op answer server semaphore row)
    (id : Int) :
    next.labels.countP (Role.owns id) =
      view.labels.countP (Role.owns id) + (row.id == id).toNat := by
  have count := claims.count (fun found => found.any
    fun claim => claim.id == id) rfl
  exact count

/-- A step that touches no row and makes no owner. -/
structure Still (view next : PanelView) : Prop where
  rows : next.state.database.deployments = view.state.database.deployments
  nextId : next.state.database.nextId = view.state.database.nextId
  history : next.history = view.history
  claims : ∀ kind : Option DeploymentClaim → Bool, kind none = false →
    next.labels.countP (fun role => kind role.claim?) ≤
      view.labels.countP (fun role => kind role.claim?)

/-- The steps that are not operations of a task are still. -/
theorem acts_or_still
    (step : View.Step (machine config schema) guard view next) :
    (∃ role op input answer,
      Acts config schema view next role op input answer ∧
        guard.op view role op input) ∨ Still view next := by
  cases happens step with
  | acts role op input answer acts permitted =>
    exact Or.inl ⟨role, op, input, answer, acts, permitted⟩
  | panics work phase inside turns state history permitted =>
    refine Or.inr ⟨by rw [state], by rw [state], history, ?_⟩
    intro kind nobody
    have counted := Replaced.countP turns (fun role => kind role.claim?)
      nofun
    have same : Role.claim? (.worker work phase) =
        Role.claim? (.worker work .handling) := by
      rcases inside with rfl | rfl | rfl <;> rfl
    simp only [same, List.countP_nil] at counted
    omega
  | arrives call left joined labels state history permitted =>
    refine Or.inr ⟨by rw [state], by rw [state], history, ?_⟩
    intro kind nobody
    rw [labels]
    apply Nat.le_of_eq
    apply countP_arrives view.labels _ joined
    rw [(call_fresh call).2.2.1, nobody]
  | signalled signal labels state history =>
    refine Or.inr ⟨?_, ?_, history, fun kind _ => by rw [labels]⟩
    · rw [state]
      cases signal <;> rfl
    · rw [state]
      cases signal <;> rfl
  | restarts labels state history permitted =>
    refine Or.inr ⟨by rw [state]; rfl, by rw [state]; rfl, history, ?_⟩
    intro kind _
    rw [labels]
    exact Nat.zero_le _

end Steps

/-- Every live claim is the claim of a row that is not queued, and no row
has two owners. -/
structure Owned (database : Database) (labels : List Role) : Prop where
  ids : Ids database
  row : ∀ role ∈ labels, ∀ claim, role.claim? = some claim →
    ∃ row ∈ database.deployments, row.claim = claim ∧ row.status ≠ .queued
  single : ∀ id, labels.countP (Role.owns id) ≤ 1

namespace Owned

variable {config : Config} {schema : Schema} {guard : PanelGuard}
  {view next : PanelView} {op : Op} {input : Input}
  {answer : op.Answer} {database : Database} {labels : List Role}

theorem of_ids (ids : Ids database) : Owned database [] :=
  ⟨ids, by simp, fun _ => by simp⟩

theorem unowned (owned : Owned database labels) {row : DeploymentRow}
    (member : row ∈ database.deployments) (queued : row.status = .queued) :
    labels.countP (Role.owns row.id) = 0 := by
  rw [List.countP_eq_zero]
  intro role membership owns
  obtain ⟨claim, claimed, same⟩ := Role.owns_iff.mp owns
  obtain ⟨other, present, rfl, notQueued⟩ :=
    owned.row role membership claim claimed
  rw [owned.ids.eq present member same] at notQueued
  exact notQueued queued

section

variable (owned : Owned view.state.database view.labels)

include owned

theorem acts (acts : Acts config schema view next role op input answer) :
    Owned next.state.database next.labels := by
  refine ⟨(owned.ids.acts acts).1, ?_, ?_⟩
  · intro member membership claim claimed
    rcases acts.owner membership claimed with
      ⟨owner, present, owns⟩ | ⟨server, semaphore, row, rfl, claims⟩
    · obtain ⟨row, rowMember, rfl, notQueued⟩ :=
        owned.row owner present claim owns
      obtain ⟨kept, keptMember, same, status⟩ := acts.forward rowMember
      refine ⟨kept, keptMember, same, ?_⟩
      rcases status with unchanged | becomes
      · rw [unchanged]
        exact notQueued
      · exact becomes.ne_queued
    · obtain ⟨kept, keptMember, same, running⟩ := claims.running
      exact ⟨kept, keptMember, same, by rw [running]; nofun⟩
  · intro id
    have before := owned.single id
    rcases acts.claims with fewer | ⟨server, semaphore, row, claims⟩
    · exact Nat.le_trans (fewer _ rfl) before
    · have count := claims.owns_count id
      by_cases same : row.id = id
      · have none := owned.unowned claims.member claims.queued
        rw [same] at none
        have one := Bool.toNat_le (row.id == id)
        omega
      · have other : (row.id == id) = false := by simpa using same
        rw [other] at count
        simp only [Bool.toNat_false] at count
        omega

theorem still (still : Still view next) :
    Owned next.state.database next.labels := by
  refine ⟨⟨?_, ?_⟩, ?_, ?_⟩
  · rw [still.rows]
    exact owned.ids.unique
  · rw [still.rows, still.nextId]
    exact owned.ids.bound
  · intro member membership claim claimed
    obtain ⟨owner, present, owns⟩ :=
      claim_kept still.claims membership claimed
    rw [still.rows]
    exact owned.row owner present claim owns
  · intro id
    exact Nat.le_trans (still.claims _ rfl) (owned.single id)

theorem step (step : View.Step (machine config schema) guard view next) :
    Owned next.state.database next.labels := by
  rcases acts_or_still step with ⟨role, op, input, answer, acts, _⟩ | still
  · exact owned.acts acts
  · exact owned.still still

end

end Owned

abbrev PanelEntry := Entry Op Op.Answer Role

/-- The row that an operation handed to a worker. -/
def handedRow (entry : PanelEntry) : Option Int :=
  match entry.op with
  | .spawn (.worker claim _ _) => some claim.id
  | _ => none

/-- The rows that were handed to workers. -/
def handed (history : List PanelEntry) : List Int :=
  history.filterMap handedRow

/-- No row was handed out twice, no row that was handed out is queued, and
the dispatcher is about to hand out a new one. -/
structure Handing (view : PanelView) : Prop where
  once : (handed view.history).Nodup
  spent : ∀ id ∈ handed view.history,
    id < view.state.database.nextId ∧
      ∀ row ∈ view.state.database.deployments, row.id = id →
        row.status ≠ .queued
  fresh : ∀ role ∈ view.labels, ∀ claim, role.pending = some claim →
    claim.id ∉ handed view.history

theorem Role.pending_dispatching
    (pending : role.pending = some claim) : role.dispatching = true := by
  unfold Role.pending at pending
  split at pending
  · rfl
  · cases pending

theorem Role.pending_claim
    (pending : role.pending = some claim) : role.claim? = some claim := by
  unfold Role.pending at pending
  split at pending
  · exact pending
  · cases pending

theorem Move.not_pending {op : Op} (move : Move role op)
    (central : role.aside = false)
    (other : ∀ id, op ≠ .sql (.claimQueuedDeployment id))
    (answer : op.Answer) :
    (advance role op answer).pending = none := by
  cases move with
  | claim server semaphore id => exact absurd rfl (other id)
  | slotGet server => cases answer <;> rfl
  | tryAcquire server semaphore => cases answer <;> rfl
  | release work finished => rcases finished with rfl | rfl | rfl <;> rfl
  | _ => first | rfl | cases central

namespace Handing

variable {config : Config} {schema : Schema} {guard : PanelGuard}
  {view next : PanelView} {op : Op} {input : Input}
  {answer : op.Answer}

theorem spent_acts (handing : Handing view)
    (ids : Ids view.state.database)
    (acts : Acts config schema view next role op input answer) :
    ∀ id ∈ handed view.history,
      id < next.state.database.nextId ∧
        ∀ row ∈ next.state.database.deployments, row.id = id →
          row.status ≠ .queued := by
  intro id member
  obtain ⟨bound, notQueued⟩ := handing.spent id member
  refine ⟨Int.lt_of_lt_of_le bound (ids.acts acts).2, ?_⟩
  intro row present same
  rcases acts.backward present with
    ⟨old, oldMember, claim, unchanged | becomes⟩ | ⟨new, _, _, _, inserted⟩
  · rw [unchanged]
    apply notQueued old oldMember
    rw [← same]
    exact (congrArg DeploymentClaim.id claim).symm
  · exact becomes.ne_queued
  · rw [inserted] at same
    exact absurd same (Int.ne_of_gt bound)

/-- What is pending was pending before, or was queued before. -/
theorem pending_acts (acts : Acts config schema view next role op input answer)
    {member : Role} (membership : member ∈ next.labels)
    (pending : member.pending = some claim) :
    (∃ old ∈ view.labels, old.pending = some claim) ∨
      ∃ row ∈ view.state.database.deployments,
        row.claim = claim ∧ row.status = .queued := by
  rcases acts.turns.mem membership with old | rfl | born
  · exact Or.inl ⟨member, old, pending⟩
  · rcases remote_or_central acts.allowed with remote | ⟨central, move⟩
    · rw [blind_pending.advance remote answer] at pending
      exact Or.inl ⟨role, acts.turns.label_mem, pending⟩
    · by_cases claiming : ∃ id, op = .sql (.claimQueuedDeployment id)
      · obtain ⟨id, rfl⟩ := claiming
        cases move with
        | claim server semaphore =>
          rcases answer with error | found
          · cases pending
          · cases found with
            | none => cases pending
            | some found =>
              cases pending
              obtain ⟨row, present, same, _, queued, _⟩ := acts.claim_some
              exact Or.inr ⟨row, present, same, queued⟩
      · rw [move.not_pending central (fun id same => claiming ⟨id, same⟩)]
          at pending
        cases pending
  · cases op with
    | spawn child =>
      obtain rfl := List.mem_singleton.mp born
      cases child <;> cases pending
    | _ => cases born

theorem acts (handing : Handing view)
    (owned : Owned view.state.database view.labels)
    (control : Control next.state.memory next.labels)
    (acts : Acts config schema view next role op input answer) :
    Handing next := by
  have spent := handing.spent_acts owned.ids acts
  have pending : ∀ member ∈ next.labels, ∀ claim,
      member.pending = some claim → claim.id ∉ handed view.history := by
    intro member membership claim waiting
    rcases pending_acts acts membership waiting with
      ⟨old, present, same⟩ | ⟨row, present, rfl, queued⟩
    · exact handing.fresh old present claim same
    · intro was
      exact (handing.spent row.id was).2 row present rfl queued
  cases entry : handedRow ⟨role, op, answer⟩ with
  | none =>
    have same : handed next.history = handed view.history := by
      rw [acts.history, handed, List.filterMap_cons_none entry]
      rfl
    exact ⟨by rw [same]; exact handing.once, by rw [same]; exact spent,
      by rw [same]; exact pending⟩
  | some id =>
    have more : handed next.history = id :: handed view.history := by
      rw [acts.history, handed, List.filterMap_cons_some entry]
      rfl
    obtain ⟨claim, server, semaphore, rfl, rfl⟩ :
        ∃ claim server semaphore,
          op = .spawn (.worker claim server semaphore) ∧ claim.id = id := by
      unfold handedRow at entry
      dsimp only at entry
      split at entry
      · exact ⟨_, _, _, rfl, Option.some.inj entry⟩
      · cases entry
    obtain rfl : role = .dispatcher (.claimed claim server semaphore) := by
      rcases acts.allowed with quiet | move
      · cases quiet
      · cases move
        rfl
    have acting := acts.turns.label_mem
    obtain ⟨row, present, same, notQueued⟩ :=
      owned.row _ acting claim rfl
    have state : next.state = view.state := acts.state.symm
    refine ⟨?_, ?_, ?_⟩
    · rw [more]
      exact List.nodup_cons.mpr ⟨handing.fresh _ acting claim rfl, handing.once⟩
    · rw [more]
      intro id member
      rcases List.mem_cons.mp member with rfl | old
      · rw [state, ← same]
        refine ⟨owned.ids.bound row present, ?_⟩
        intro other otherPresent equal
        rw [owned.ids.eq otherPresent present equal]
        exact notQueued
      · exact spent id old
    · intro member membership other waiting
      have single := control.single
      have two := two_le_countP membership
        (acts.turns.reached_mem Bool.false_ne_true)
        (by rintro rfl; cases waiting)
        (Role.pending_dispatching waiting) rfl
      omega

theorem step (handing : Handing view)
    (owned : Owned view.state.database view.labels)
    (control : Control view.state.memory view.labels)
    (step : View.Step (machine config schema) guard view next) :
    Handing next := by
  have controlNext := control.step step
  cases happens step with
  | acts role op input answer acts permitted =>
    exact handing.acts owned controlNext acts
  | panics work phase inside turns state history permitted =>
    refine ⟨by rw [history]; exact handing.once,
      by rw [history, state]; exact handing.spent, ?_⟩
    rw [history]
    intro member membership claim waiting
    rcases turns.mem membership with old | rfl | new
    · exact handing.fresh member old claim waiting
    · cases waiting
    · cases new
  | arrives call left joined labels state history permitted =>
    refine ⟨by rw [history]; exact handing.once,
      by rw [history, state]; exact handing.spent, ?_⟩
    rw [history, labels]
    intro member membership claim waiting
    rcases mem_arrives joined membership with old | rfl
    · exact handing.fresh member old claim waiting
    · have unclaimed := (call_fresh call).2.2.1
      rw [Role.pending_claim waiting] at unclaimed
      cases unclaimed
  | signalled signal labels state history =>
    refine ⟨by rw [history]; exact handing.once, ?_,
      by rw [history, labels]; exact handing.fresh⟩
    rw [history, state]
    cases signal <;> exact handing.spent
  | restarts labels state history permitted =>
    refine ⟨by rw [history]; exact handing.once,
      by rw [history, state]; exact handing.spent, ?_⟩
    rw [labels]
    simp

end Handing

/-- The panel before anything has happened. -/
def boot (database : Database) : PanelPool :=
  { state := ⟨database, Memory.fresh⟩, tasks := [], history := [] }

/-- Every step is allowed. -/
def anyStep : PanelGuard where
  op _ _ _ _ := True
  unwind _ _ := True
  arrive _ _ := True
  restart := True

instance : anyStep.Checkable where
  op _ _ _ _ := .isTrue trivial

/-- A task takes a number of steps in which nothing fails. -/
def runs (index steps : Nat) : List (Event Input Call Signal) :=
  List.replicate steps (.run index .normal)

/-- The queue is started on an idle database: `start` and the retry of the
remote clean-up run to their ends, and the dispatcher waits. -/
def startUp : List (Event Input Call Signal) :=
  .arrive .start :: runs 0 18

section Runs

variable {config : Config} {schema : Schema} {guard : PanelGuard}
  {database : Database} {events : List (Event Input Call Signal)}
  {pool : PanelPool}

theorem boot_reaches
    (run : Pool.Run (machine config schema) guard (boot database) events
      pool) :
    View.Reaches (machine config schema) guard (boot database).view
      pool.view :=
  (run.reaches (machine_sound config schema) (by simp [boot])).1

/-- The invariants that hold whatever calls arrive and whatever fails. -/
structure Sane (config : Config) (view : PanelView) : Prop where
  control : Control view.state.memory view.labels
  permits : Permits config view.state.memory view.labels
  owned : Owned view.state.database view.labels
  handing : Handing view

theorem Sane.step {view next : PanelView} (sane : Sane config view)
    (step : View.Step (machine config schema) guard view next) :
    Sane config next where
  control := sane.control.step step
  permits := sane.permits.step sane.control step
  owned := sane.owned.step step
  handing := sane.handing.step sane.owned sane.control step

theorem sane_boot (config : Config) (ids : Ids database) :
    Sane config (boot database).view where
  control := control_empty _
  permits := permits_fresh config
  owned := .of_ids ids
  handing := ⟨List.nodup_nil, nofun, by simp [boot, Pool.view]⟩

theorem sane_of_reaches (ids : Ids database) {view : PanelView}
    (reached : View.Reaches (machine config schema) guard
      (boot database).view view) :
    Sane config view :=
  reached.invariant (Sane config) (sane_boot config ids)
    fun _ _ sane step => sane.step step

/-- In every run, whatever is called and whatever fails, no server has more
live workers than its limit, and no row is handed to two workers. -/
theorem bounded_dispatch_unique_claim (ids : Ids database)
    (run : Pool.Run (machine config schema) anyStep (boot database) events
      pool) :
    (∀ server, pool.view.labels.countP (Role.liveFor server) ≤
        config.perServerLimit) ∧
      (handed pool.history).Nodup := by
  have sane := sane_of_reaches ids (boot_reaches run)
  exact ⟨sane.permits.live_le, sane.handing.once⟩

/-- In every run one task at most recovers or dispatches, no permit is lost or
made, and every live worker has a row of its own. -/
theorem panel_sane (ids : Ids database)
    (run : Pool.Run (machine config schema) anyStep (boot database) events
      pool) : Sane config pool.view :=
  sane_of_reaches ids (boot_reaches run)

end Runs

/-- Two workers per server, and the default length of the queue. -/
def twoWorkers : Config where
  deploymentPerServerConcurrency := some 2
  deploymentQueueMaxSize := none
  base := "/var/lib/openoxide"
  toLowercase text := text

/-- A panel that manages one resource. -/
def single (key : ResourceKey) (serverId : Option Int) : Database where
  deployments := []
  nextId := 1
  resources :=
    [{ key, name := "shop", appName := "shop-1", status := .idle, serverId }]
  serverManagement := []
  now := 0

theorem ids_single (key : ResourceKey) (serverId : Option Int) :
    Ids (single key serverId) :=
  ⟨List.nodup_nil, by simp [single]⟩

/-- Two calls to deploy a database pass the busy check before either has
inserted its row; then the dispatcher serves both rows. -/
def databaseRace : List (Event Input Call Signal) :=
  startUp ++
    [.arrive (.runDatabase .postgres 1 .deploy),
      .arrive (.runDatabase .postgres 1 .deploy),
      .run 1 .normal, .run 2 .normal] ++
    runs 1 11 ++ runs 1 11 ++ runs 0 12

theorem bounded_dispatch_unique_claim_at_limit :
    ∃ pool, Pool.Run (machine twoWorkers .migrations) anyStep
        (boot (single (.database .postgres 1) none)) databaseRace pool ∧
      pool.view.labels.countP (Role.liveFor none) = 2 ∧
      (∀ server, pool.view.labels.countP (Role.liveFor server) ≤
        twoWorkers.perServerLimit) ∧
      (handed pool.history).Nodup := by
  refine Pool.Run.exists_checked (fun pool =>
    pool.view.labels.countP (Role.liveFor none) = 2) (by decide +kernel) ?_
  intro pool run full
  exact ⟨full, bounded_dispatch_unique_claim (ids_single _ _) run⟩

theorem panel_sane_race :
    ∃ pool, Pool.Run (machine twoWorkers .migrations) anyStep
        (boot (single (.database .postgres 1) none)) databaseRace pool ∧
      Sane twoWorkers pool.view :=
  Pool.Run.exists_checked (fun _ => True) (by decide +kernel)
    fun _ run _ => panel_sane (ids_single _ _) run

end OpenOxide.Deployment

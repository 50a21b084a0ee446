import OpenOxide.PrivateNetwork.Operations

/-!
# The lease of a private network

In every run in which the lease of a server is asked for only while the operations
in progress there still have theirs, at most one operation acts on the tunnel of
the server, and no operation renews or releases a lease of another one.
-/

namespace OpenOxide.PrivateNetwork

open Concurrency

/-- Where an operation is with its lease. -/
inductive NetworkStage where
  | outside
  | acting (serverId : Int) (operation : Operation) (token : Nat)
  | deleting (serverId : Int) (token : Nat)
  | ending (serverId : Int) (operation : Operation) (token : Nat)
deriving DecidableEq

namespace NetworkStage

/-- The lease that an operation in progress has acquired and not yet released. -/
def lease : NetworkStage → Option (Int × Operation × Nat)
  | .outside => none
  | .acting serverId operation token => some (serverId, operation, token)
  | .deleting serverId token => some (serverId, .teardown, token)
  | .ending serverId operation token => some (serverId, operation, token)

def isInProgress (serverId : Int) (stage : NetworkStage) : Bool :=
  stage.lease.any fun lease => lease.1 == serverId

/-- The operation acts on the tunnel and takes the lease to be its own. -/
def isActing (serverId : Int) : NetworkStage → Bool
  | .acting other _ _ => other == serverId
  | .deleting other _ => other == serverId
  | _ => false

/-- A teardown that has torn down deletes the row; every other operation that
returns is at its end. -/
def returned (serverId : Int) (operation : Operation) (token : Nat)
    (outcome : Except String Unit) : NetworkStage :=
  match operation, outcome with
  | .teardown, .ok _ => .deleting serverId token
  | operation, _ => .ending serverId operation token

end NetworkStage

/-- The operations on the store outside of a lease. -/
def NetworkOp.isOutside : NetworkOp → Bool
  | .poll _ | .complete _ | .renew _ _ | .release _ _ => false
  | _ => true

/-- What an operation may do next. -/
inductive NetworkStage.Allows : NetworkStage → NetworkOp → Prop where
  | free (op : NetworkOp) (free : op.isOutside = true) : Allows .outside op
  | poll (serverId : Int) (operation : Operation) (token : Nat) :
      Allows (.acting serverId operation token) (.poll serverId)
  | complete (serverId : Int) (operation : Operation) (token : Nat) :
      Allows (.acting serverId operation token) (.complete serverId)
  | get (serverId : Int) (operation : Operation) (token : Nat) :
      Allows (.acting serverId operation token) (.get serverId)
  | assertServer (serverId : Int) (operation : Operation) (token : Nat) :
      Allows (.acting serverId operation token) (.assertServer serverId)
  | upsert (serverId : Int) (operation : Operation) (token : Nat)
      (mode : ConnectionMode) :
      Allows (.acting serverId operation token) (.upsert serverId mode)
  | renew (serverId : Int) (operation : Operation) (token : Nat) :
      Allows (.acting serverId operation token) (.renew serverId operation)
  | delete (serverId : Int) (token : Nat) :
      Allows (.deleting serverId token) (.deleteRow serverId)
  | release (serverId : Int) (operation : Operation) (token : Nat) :
      Allows (.ending serverId operation token) (.release serverId operation)

def NetworkStage.advance (stage : NetworkStage) (op : NetworkOp)
    (answer : op.Ret) : NetworkStage :=
  match stage, op, answer with
  | .outside, .acquire serverId operation, .ok (some token) =>
    .acting serverId operation token
  | .acting serverId operation token, .poll _, .returns outcome =>
    .returned serverId operation token outcome
  | .acting serverId operation token, .complete _, outcome =>
    .returned serverId operation token outcome
  | .acting serverId operation token, .renew _ _, .ok false =>
    .ending serverId operation token
  | .deleting serverId token, .deleteRow _, _ =>
    .ending serverId .teardown token
  | .ending .., .release .., _ => .outside
  | stage, _, _ => stage

def networkProtocol : Protocol NetworkOp NetworkOp.Ret NetworkStage where
  allows := NetworkStage.Allows
  advance := NetworkStage.advance

/-- The calls of the service. -/
inductive NetworkCall where
  | setup (serverId : Int) (polls : Nat)
  | repair (serverId : Int) (polls : Nat)
  | reSetup (serverId : Int) (polls : Nat)
  | rotate (serverId : Int) (polls : Nat)
  | teardown (serverId : Int) (polls : Nat)
  | disable (serverId : Int)
  | update (serverId : Int) (mode : ConnectionMode)

abbrev NetworkTask := Task NetworkOp NetworkOp.Ret NetworkStage

def NetworkCall.action : NetworkCall → NetworkAction Unit
  | .setup serverId polls => setupTransport serverId polls
  | .repair serverId polls => repairTransport serverId polls
  | .reSetup serverId polls => reSetupTransport serverId polls
  | .rotate serverId polls => rotateWireguard serverId polls
  | .teardown serverId polls => teardownTransport serverId polls
  | .disable serverId => PrivateNetwork.disable serverId
  | .update serverId mode => PrivateNetwork.update serverId mode

def NetworkCall.task (call : NetworkCall) : NetworkTask :=
  ⟨.outside, do
    let _ ← call.action.run
    pure ()⟩

abbrev NetworkMachine := Machine NetworkOp NetworkOp.Ret NetworkStore
  NetworkInput NetworkStage NetworkCall Empty

abbrev NetworkGuard := Guard NetworkOp NetworkOp.Ret NetworkStore NetworkInput
  NetworkStage NetworkCall

abbrev NetworkView := View NetworkOp NetworkOp.Ret NetworkStore NetworkStage

abbrev NetworkPool := Pool NetworkOp NetworkOp.Ret NetworkStore NetworkStage

abbrev NetworkEntry := Entry NetworkOp NetworkOp.Ret NetworkStage

/-- A request may be dropped where it waits, and a restart finds the table as it
was. -/
def networkMachine : NetworkMachine where
  protocol := networkProtocol
  ready _ _ := true
  exec := networkExec
  children _ := []
  serve := NetworkCall.task
  unwind _ := some ⟨.outside, pure ()⟩
  signal signal := signal.elim
  restart store := store
  ended stage := stage = .outside

/-- The statements of `get_model`. -/
def NetworkOp.isModel (serverId : Int) : NetworkOp → Bool
  | .get other => other == serverId
  | .assertServer other => other == serverId
  | .upsert other _ => other == serverId
  | _ => false

theorem only_getModel (serverId : Int) :
    (getModel serverId).run.Only fun op => op.isModel serverId = true := by
  refine Program.Only.andThen (Program.only_perform (beq_self_eq_true _))
    fun row => ?_
  cases row with
  | some row => trivial
  | none =>
    refine Program.Only.andThen (Program.only_perform (beq_self_eq_true _))
      fun _ => ?_
    refine Program.Only.andThen (Program.only_perform (beq_self_eq_true _))
      fun _ => trivial

variable {stage : NetworkStage} {serverId : Int}

theorem follows_getModel (serverId : Int) (reads : stage = .outside ∨
      ∃ operation token, stage = .acting serverId operation token) :
    networkProtocol.Follows stage (getModel serverId).run
      fun _ reached => reached = stage := by
  apply Protocol.follows_only _ (only_getModel serverId)
  · intro op model
    cases op with
    | get other | assertServer other | upsert other =>
      obtain rfl := beq_iff_eq.mp model
      rcases reads with rfl | ⟨operation, token, rfl⟩
      · exact .free _ rfl
      · first
        | exact .get ..
        | exact .assertServer ..
        | exact .upsert ..
    | _ => cases model
  · intro op answer model
    cases op with
    | get | assertServer | upsert =>
      rcases reads with rfl | ⟨operation, token, rfl⟩ <;> rfl
    | _ => cases model

theorem follows_conclude (serverId : Int) (operation : Operation)
    (token : Nat) (outcome : Except String Unit) :
    networkProtocol.Follows (.returned serverId operation token outcome)
      (conclude serverId operation outcome)
      fun _ reached => reached = .ending serverId operation token := by
  cases operation with
  | teardown =>
    cases outcome with
    | ok value => exact ⟨.delete serverId token, fun _ => rfl⟩
    | error message => rfl
  | setup | repair | rotate =>
    rfl

theorem follows_selectLoop (serverId : Int) (operation : Operation)
    (token polls : Nat) :
    networkProtocol.Follows (.acting serverId operation token)
      (selectLoop serverId operation polls)
      fun _ reached => reached = .ending serverId operation token := by
  induction polls with
  | zero =>
    exact ⟨.complete serverId operation token, fun outcome =>
      follows_conclude serverId operation token outcome⟩
  | succ polls induction =>
    refine ⟨.poll serverId operation token, fun answer => ?_⟩
    cases answer with
    | acts => exact induction
    | reads =>
      change networkProtocol.Follows (.acting serverId operation token)
        ((getModel serverId).run >>= fun _ =>
          selectLoop serverId operation polls) _
      refine (Protocol.follows_bind _).mpr ?_
      apply (follows_getModel serverId
        (.inr ⟨operation, token, rfl⟩)).weaken
      rintro _ reached rfl
      exact induction
    | returns outcome =>
      exact follows_conclude serverId operation token outcome
    | tick =>
      refine ⟨.renew serverId operation token, fun renewed => ?_⟩
      rcases renewed with message | renewed
      · exact induction
      · cases renewed with
        | true => exact induction
        | false => rfl

/-- The action begins and ends outside of a lease. -/
def StaysOutside {α : Type} (action : NetworkAction α) : Prop :=
  networkProtocol.Follows .outside action.run
    fun _ reached => reached = .outside

theorem follows_withOperation (serverId : Int) (operation : Operation)
    (polls : Nat) : StaysOutside (withOperation serverId operation polls) := by
  refine ⟨.free _ rfl, fun acquired => ?_⟩
  rcases acquired with message | acquired
  · rfl
  cases acquired with
  | none => rfl
  | some token =>
    refine (Protocol.follows_liftThen _).mpr ?_
    apply (follows_selectLoop serverId operation token polls).weaken
    rintro result reached rfl
    refine ⟨.release serverId operation token, fun released => ?_⟩
    rcases result with message | value
    · rfl
    · rcases released with message | value
      · rfl
      · rfl

theorem follows_after {α β : Type} {first : NetworkAction α}
    {next : α → NetworkAction β} (before : StaysOutside first)
    (after : ∀ value, StaysOutside (next value)) :
    StaysOutside (first >>= next) := by
  refine (Protocol.follows_andThen _).mpr (before.weaken ?_)
  rintro outcome reached rfl
  rcases outcome with message | value
  · rfl
  · exact after value

theorem follows_action (call : NetworkCall) : StaysOutside call.action := by
  have model : ∀ serverId, StaysOutside (getModel serverId) :=
    fun serverId => follows_getModel serverId (.inl rfl)
  have managed : ∀ serverId,
      StaysOutside (requireManagedWireguard serverId) := by
    intro serverId
    refine follows_after (model serverId) fun mode => ?_
    split <;> rfl
  have external : ∀ serverId operation polls,
      StaysOutside (unlessExternal serverId operation polls) := by
    intro serverId operation polls
    refine follows_after (model serverId) fun mode => ?_
    split
    · exact ⟨.free _ rfl, fun _ => rfl⟩
    · exact follows_withOperation serverId operation polls
  cases call with
  | setup serverId polls => exact external serverId .setup polls
  | repair serverId polls => exact external serverId .repair polls
  | reSetup serverId polls =>
    refine follows_after (managed serverId) fun _ => ?_
    refine follows_after ?_ fun _ =>
      follows_withOperation serverId .setup polls
    exact ⟨.free _ rfl, fun _ => rfl⟩
  | rotate serverId polls =>
    exact follows_after (managed serverId) fun _ =>
      follows_withOperation serverId .rotate polls
  | teardown serverId polls =>
    refine follows_after (model serverId) fun mode => ?_
    split
    · exact ⟨.free _ rfl, fun _ => rfl⟩
    · exact follows_withOperation serverId .teardown polls
  | disable serverId =>
    refine follows_after ⟨.free _ rfl, fun _ => rfl⟩ fun _ => ?_
    refine follows_after ⟨.free _ rfl, fun _ => rfl⟩ fun _ => ?_
    exact ⟨.free _ rfl, fun _ => rfl⟩
  | update serverId mode =>
    refine follows_after ⟨.free _ rfl, fun _ => rfl⟩ fun _ => ?_
    cases mode with
    | directSsh | managedWireguard =>
      exact ⟨.free _ rfl, fun _ => rfl⟩
    | externalPrivateNetwork =>
      exact follows_after ⟨.free _ rfl, fun _ => rfl⟩ fun _ =>
        ⟨.free _ rfl, fun _ => rfl⟩

theorem network_sound : networkMachine.Sound := by
  constructor
  · intro op task member
    cases member
  · intro call
    exact (Protocol.follows_bind _).mpr (follows_action call)
  · intro label task handled
    cases handled
    rfl

/-- An operation in progress still has its lease at the given time: the row of
its server has its operation, with a lease that lasts. -/
def NetworkStage.keepsLease (serverId now : Int) (store : NetworkStore)
    (stage : NetworkStage) : Bool :=
  match stage.lease with
  | none => true
  | some (other, operation, _) => other != serverId ||
      (store.rows serverId).any fun row => row.operation == some operation &&
        row.operationLeaseUntil.any fun lease => now ≤ lease

/-- The lease of a server is asked for only while every operation in progress
there keeps its own. -/
def leasesKept : NetworkGuard where
  op view _ op input :=
    match op with
    | .acquire serverId _ => ∀ stage ∈ view.labels, stage.keepsLease serverId
        (view.state.clock + input.elapsed) view.state = true
    | _ => True
  unwind _ _ := True
  arrive _ _ := True
  restart := True

/-- What an operation that renews or releases can hit is its own lease. -/
def OwnLease (store : NetworkStore) (stage : NetworkStage) : Prop :=
  ∀ serverId operation token,
    stage.lease = some (serverId, operation, token) →
      ∀ row, store.rows serverId = some row →
        ∀ held, row.operation = some held → row.acquiredBy = some token

structure Leased (view : NetworkView) : Prop where
  single : ∀ serverId,
    view.labels.countP (NetworkStage.isInProgress serverId) ≤ 1
  own : ∀ stage ∈ view.labels, OwnLease view.state stage

/-- Every lease that is there afterwards was there before. -/
def Calmed (before after : NetworkStore) : Prop :=
  ∀ serverId row, after.rows serverId = some row →
    row.operation = none ∨
      ∃ old, before.rows serverId = some old ∧
        old.operation = row.operation ∧ old.acquiredBy = row.acquiredBy

theorem OwnLease.calmed {before after : NetworkStore}
    (own : OwnLease before stage) (calmed : Calmed before after) :
    OwnLease after stage := by
  intro serverId operation token leased row stored held known
  rcases calmed serverId row stored with none | ⟨old, found, same, owner⟩
  · rw [none] at known
    cases known
  · rw [← owner]
    exact own serverId operation token leased old found held (same.trans known)

section Exec

variable {input : NetworkInput} {store : NetworkStore}

theorem Calmed.refl : Calmed store store :=
  fun _ row stored => .inr ⟨row, stored, rfl, rfl⟩

theorem Calmed.attempt {α : Type} {result : NetworkStore × α}
    (calmed : Calmed store result.1) :
    Calmed store (input.attempt store result).1 := by
  rw [NetworkInput.attempt]
  cases input.fault with
  | none => exact calmed
  | some message => exact Calmed.refl

theorem Calmed.setRow {row : Option Network}
    (kept : ∀ new, row = some new → new.operation = none ∨
      ∃ old, store.rows serverId = some old ∧
        old.operation = new.operation ∧ old.acquiredBy = new.acquiredBy) :
    Calmed store (store.setRow serverId row) := by
  intro other new stored
  change (if other = serverId then row else store.rows other) = some new
    at stored
  by_cases same : other = serverId
  · rw [if_pos same] at stored
    rw [same]
    exact kept new stored
  · rw [if_neg same] at stored
    exact .inr ⟨new, stored, rfl, rfl⟩

theorem calmed_performOp {op : NetworkOp}
    (other : ∀ serverId operation, op ≠ .acquire serverId operation) :
    Calmed store (performOp op input store).1 := by
  cases op with
  | acquire serverId operation => exact absurd rfl (other serverId operation)
  | upsert serverId mode =>
    apply Calmed.attempt
    apply Calmed.setRow
    intro new equal
    rw [← Option.some.inj equal]
    cases store.rows serverId with
    | none => exact .inl rfl
    | some row => exact .inr ⟨row, rfl, rfl, rfl⟩
  | deleteRow serverId =>
    exact Calmed.attempt (Calmed.setRow fun new none => nomatch none)
  | forceRelease serverId =>
    apply Calmed.attempt
    apply Calmed.setRow
    intro new equal
    obtain ⟨row, -, rfl⟩ := Option.map_eq_some_iff.mp equal
    exact .inl rfl
  | renew serverId operation =>
    apply Calmed.attempt
    rw [NetworkStore.renewOperation]
    split
    next row stored =>
      split
      · apply Calmed.setRow
        intro new equal
        rw [← Option.some.inj equal]
        exact .inr ⟨row, stored, rfl, rfl⟩
      · exact Calmed.refl
    next _ => exact Calmed.refl
  | release serverId operation =>
    apply Calmed.attempt
    rw [NetworkStore.releaseOperation]
    split
    next row stored =>
      split
      · apply Calmed.setRow
        intro new equal
        rw [← Option.some.inj equal]
        exact .inl rfl
      · exact Calmed.refl
    next _ => exact Calmed.refl
  | quickDown | poll =>
    exact Calmed.refl
  | assertServer | get | verifyExternal | complete =>
    exact Calmed.attempt Calmed.refl

end Exec

section Steps

variable {view : NetworkView} {labels : List NetworkStage}
  {label reached : NetworkStage}

theorem Leased.idle (idle : view.labels = []) : Leased view where
  single serverId := by simp [idle]
  own stage member := by simp [idle] at member

variable {state : NetworkStore}

/-- A step of an operation that acquires nothing. -/
theorem Leased.moves (leased : Leased view)
    (replaced : Replaced networkMachine.ended label reached [] view.labels
      labels)
    (calmed : Calmed view.state state)
    (same : reached.lease = none ∨ reached.lease = label.lease)
    (history : List NetworkEntry) : Leased ⟨state, labels, history⟩ := by
  constructor
  · intro serverId
    refine replaced.countP_le_one (leased.single serverId) fun busy => .inl ?_
    rw [NetworkStage.isInProgress] at busy ⊢
    rcases same with none | equal
    · rw [none] at busy
      cases busy
    · rw [← equal]
      exact busy
  · intro stage member
    rcases replaced.mem_alone member with old | rfl
    · exact (leased.own stage old).calmed calmed
    · rcases same with none | equal
      · intro serverId operation token known
        rw [none] at known
        cases known
      · have own := (leased.own label replaced.label_mem).calmed calmed
        intro serverId operation token known
        exact own serverId operation token (equal.symm.trans known)

variable {input : NetworkInput}

/-- A lease is taken from a row that is free, or else the rows stay. -/
theorem acquire_cases {operation : Operation}
    {store : NetworkStore} {answer : (NetworkOp.acquire serverId
      operation).Ret}
    (ran : networkExec (.acquire serverId operation) input store =
      (state, answer)) :
    (∃ row new token, store.rows serverId = some row ∧
        NetworkStore.isFree (store.clock + input.elapsed) row = true ∧
        new.acquiredBy = some token ∧ answer = .ok (some token) ∧
        ∀ other, state.rows other =
          if other = serverId then some new else store.rows other) ∨
      NetworkStage.outside.advance (.acquire serverId operation) answer =
        .outside ∧ state.rows = store.rows := by
  obtain rfl : _ = state := congrArg Prod.fst ran
  obtain rfl : _ = answer := congrArg Prod.snd ran
  rw [networkExec, performOp, NetworkInput.attempt,
    NetworkStore.acquireOperation]
  cases input.fault with
  | some message => exact .inr ⟨rfl, rfl⟩
  | none =>
    cases stored : store.rows serverId with
    | none => exact .inr ⟨rfl, rfl⟩
    | some row =>
      dsimp only
      cases free : NetworkStore.isFree (store.clock + input.elapsed) row
        with
      | false => exact .inr ⟨rfl, rfl⟩
      | true =>
        exact .inl ⟨row, _, store.nextToken, rfl, free, rfl, rfl,
          fun _ => rfl⟩

theorem not_free_of_kept {serverId now : Int} {store : NetworkStore}
    {row : Network} (busy : stage.isInProgress serverId = true)
    (kept : stage.keepsLease serverId now store = true)
    (stored : store.rows serverId = some row) :
    NetworkStore.isFree now row = false := by
  rw [NetworkStage.isInProgress, Option.any_eq_true] at busy
  obtain ⟨⟨other, operation, token⟩, leased, same⟩ := busy
  rw [NetworkStage.keepsLease, leased] at kept
  dsimp only at kept
  rw [bne, same, Bool.not_true, Bool.false_or, stored, Option.any_some,
    Bool.and_eq_true, Option.any_eq_true] at kept
  obtain ⟨held, lease, lasting, late⟩ := kept
  rw [NetworkStore.isFree, beq_iff_eq.mp held, lasting, Option.isNone_some,
    Option.any_some, Bool.false_or]
  exact decide_eq_false (Int.not_lt.mpr (of_decide_eq_true late))

theorem Leased.acquire (leased : Leased view) {operation : Operation}
    {answer : (NetworkOp.acquire serverId operation).Ret}
    (ran : networkExec (.acquire serverId operation) input view.state =
      (state, answer))
    (replaced : Replaced networkMachine.ended .outside
      (NetworkStage.outside.advance (.acquire serverId operation) answer) []
      view.labels labels)
    (kept : ∀ stage ∈ view.labels, stage.keepsLease serverId
      (view.state.clock + input.elapsed) view.state = true)
    (history : List NetworkEntry) : Leased ⟨state, labels, history⟩ := by
  rcases acquire_cases ran with
    ⟨row, new, token, stored, free, mine, rfl, rows⟩ | ⟨stays, rows⟩
  · have alone : ∀ stage ∈ view.labels,
        stage.isInProgress serverId = false := by
      intro stage member
      rw [Bool.eq_false_iff]
      intro busy
      have held := not_free_of_kept busy (kept stage member) stored
      rw [free] at held
      cases held
    constructor
    · intro other
      refine replaced.countP_le_one (leased.single other) fun busy => .inr ?_
      obtain rfl : serverId = other := beq_iff_eq.mp busy
      simpa [List.countP_eq_zero] using alone
    · intro stage member other kind held leasing found known current holds
      rw [rows other] at known
      rcases replaced.mem_alone member with old | rfl
      · by_cases same : other = serverId
        · have busy : stage.isInProgress serverId = true := by
            rw [NetworkStage.isInProgress, leasing, Option.any_some, same,
              beq_self_eq_true]
          rw [alone stage old] at busy
          cases busy
        · rw [if_neg same] at known
          exact leased.own stage old other kind held leasing found known
            current holds
      · obtain ⟨rfl, rfl, rfl⟩ : serverId = other ∧ operation = kind ∧
            token = held := by
          have equal : some (serverId, operation, token) =
            some (other, kind, held) := leasing
          simpa using equal
        rw [if_pos rfl] at known
        rw [← Option.some.inj known]
        exact mine
  · rw [stays] at replaced
    apply leased.moves replaced _ (.inl rfl) history
    intro other row stored
    rw [rows] at stored
    exact .inr ⟨row, stored, rfl, rfl⟩

theorem returned_lease (serverId : Int) (operation : Operation) (token : Nat)
    (outcome : Except String Unit) :
    (NetworkStage.returned serverId operation token outcome).lease =
      some (serverId, operation, token) := by
  cases operation with
  | teardown => cases outcome <;> rfl
  | setup | repair | rotate =>
    rfl

theorem Leased.operation (leased : Leased view) {op : NetworkOp}
    (replaced : Replaced networkMachine.ended label
      (label.advance op (networkExec op input view.state).2) []
      view.labels labels)
    (allowed : label.Allows op)
    (permitted : leasesKept.op view label op input)
    (history : List NetworkEntry) :
    Leased ⟨(networkExec op input view.state).1, labels, history⟩ := by
  have calmed : (∀ serverId operation, op ≠ .acquire serverId operation) →
      Calmed view.state (networkExec op input view.state).1 := fun other =>
    @calmed_performOp input { view.state with
      clock := view.state.clock + input.elapsed } op other
  cases allowed with
  | free _ free =>
    cases op with
    | acquire serverId operation =>
      exact leased.acquire rfl replaced permitted history
    | _ => exact leased.moves replaced (calmed (by simp)) (.inl rfl) history
  | poll serverId operation token =>
    refine leased.moves replaced (calmed (by simp)) (.inr ?_) history
    change ((NetworkStage.acting serverId operation token).advance
      (.poll serverId) input.poll).lease = _
    cases input.poll with
    | returns outcome => exact returned_lease _ _ _ outcome
    | _ => rfl
  | complete =>
    exact leased.moves replaced (calmed (by simp))
      (.inr (returned_lease _ _ _ _)) history
  | get | assertServer | upsert | delete =>
    exact leased.moves replaced (calmed (by simp)) (.inr rfl) history
  | renew serverId operation token =>
    refine leased.moves replaced (calmed (by simp)) (.inr ?_) history
    rcases (networkExec (.renew serverId operation) input view.state).2
      with message | renewed
    · rfl
    · cases renewed <;> rfl
  | release =>
    exact leased.moves replaced (calmed (by simp)) (.inl rfl) history

theorem Leased.step {next : NetworkView} (leased : Leased view)
    (step : View.Step networkMachine leasesKept view next) : Leased next := by
  cases step with
  | op replaced allowed ready permitted =>
    exact leased.operation replaced allowed permitted _
  | unwind replaced handled _ =>
    cases handled
    exact leased.moves replaced Calmed.refl (.inl rfl) _
  | arrive call _ left =>
    rcases left with rfl | ⟨rfl, -⟩
    · constructor
      · intro serverId
        rw [List.countP_append]
        exact leased.single serverId
      · refine List.forall_mem_append.mpr ⟨leased.own,
          List.forall_mem_singleton.mpr ?_⟩
        intro serverId operation token leasing
        cases leasing
    · rw [List.append_nil]
      exact leased
  | signal signal => exact signal.elim
  | restart _ => exact .idle rfl

end Steps

/-- In every run in which the lease of a server is asked for only while the
operations in progress there still have theirs, at most one operation acts on the
tunnel of a server, and a lease that an operation can renew or release is one
that it has acquired. -/
theorem lease_safe {start pool : NetworkPool}
    {events : List (Event NetworkInput NetworkCall Empty)}
    (idle : start.tasks = [])
    (run : Pool.Run networkMachine leasesKept start events pool)
    (serverId : Int) :
    pool.tasks.countP (fun task => task.label.isActing serverId) ≤ 1 ∧
      ∀ task ∈ pool.tasks, ∀ operation token,
        task.label.lease = some (serverId, operation, token) →
          ∀ row, pool.state.rows serverId = some row →
            row.operation = some operation →
              row.acquiredBy = some token := by
  have empty : start.view.labels = [] := by
    rw [Pool.view, idle, List.map_nil]
  have reached := (run.reaches network_sound (by simp [idle])).1
  have leased : Leased pool.view := by
    apply reached.invariant Leased (.idle empty)
    exact fun view next known step => known.step step
  constructor
  · have counted := leased.single serverId
    have acting : pool.view.labels.countP
        (NetworkStage.isActing serverId) ≤ 1 :=
      Nat.le_trans (List.countP_mono_left fun stage _ acting => by
        cases stage with
        | acting | deleting => exact acting
        | outside | ending => cases acting) counted
    rw [Pool.view, List.countP_map] at acting
    exact acting
  · intro task member operation token leasing row stored held
    exact leased.own task.label (List.mem_map_of_mem member) serverId operation
      token leasing row stored operation held

instance : leasesKept.Checkable where
  op view _ op input := by
    cases op with
    | acquire serverId operation =>
      exact inferInstanceAs (Decidable (∀ stage ∈ view.labels,
        stage.keepsLease serverId (view.state.clock + input.elapsed)
          view.state = true))
    | _ => exact .isTrue trivial

/-- One server with a managed network. -/
def managedServer : NetworkPool where
  state := {
    rows := fun serverId =>
      if serverId = 1 then some ⟨.managedWireguard, none, none, none⟩ else none
    nextToken := 0
    clock := 0 }
  tasks := []
  history := []

def goesOn (index elapsed : Nat) (poll : Poll) :
    Event NetworkInput NetworkCall Empty :=
  .run index ⟨elapsed, none, poll⟩

/-- A setup that acts on the tunnel when its heartbeat ticks. -/
def setupWithHeartbeat : List (Event NetworkInput NetworkCall Empty) :=
  [.arrive (.setup 1 5), goesOn 0 0 .acts, goesOn 0 0 .acts, goesOn 0 9 .acts,
    goesOn 0 1 .tick, goesOn 0 0 .tick]

theorem lease_safe_setup :
    ∃ pool, managedServer.tasks = [] ∧
      Pool.Run networkMachine leasesKept managedServer
        (setupWithHeartbeat ++ [.arrive (.rotate 1 5), goesOn 1 0 .acts,
          goesOn 1 29 .acts]) pool ∧
      (pool.tasks.countP (fun task => task.label.isActing 1) ≤ 1 ∧
        ∀ task ∈ pool.tasks, ∀ operation token,
          task.label.lease = some (1, operation, token) →
            ∀ row, pool.state.rows 1 = some row →
              row.operation = some operation →
                row.acquiredBy = some token) := by
  simp only [exists_and_left]
  refine ⟨rfl, Pool.Run.exists_checked (fun _ => True) (by decide +kernel) ?_⟩
  intro pool run _
  exact lease_safe rfl run 1

/-- A setup again takes the lease of a setup that goes on: both act on the
tunnel, and the heartbeat of the first renews the lease of the second. -/
theorem re_setup_takes_lease :
    ∃ events pool, Pool.Run networkMachine .free managedServer events pool ∧
      pool.tasks.countP (fun task => task.label.isActing 1) = 2 ∧
      pool.tasks.any (fun task => task.label == .acting 1 .setup 0) = true ∧
      (pool.state.rows 1).any (fun row => row.operation == some .setup &&
        row.acquiredBy == some 1) = true := by
  refine ⟨setupWithHeartbeat ++ [.arrive (.reSetup 1 5), goesOn 1 0 .acts,
    goesOn 1 0 .acts, goesOn 1 0 .acts], ?_⟩
  exact Pool.Run.exists_checked _ (by decide +kernel) fun _ _ both => both

end OpenOxide.PrivateNetwork

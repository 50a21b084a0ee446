import OpenOxide.Concurrency.Pool

/-!
# Operations on a private network

`ServerPrivateNetworkService` changes the tunnel of a server under a lease: the
columns `operation` and `operation_lease_until` of the server's row.  The lease is
known by the kind of its operation alone, and a heartbeat renews it while the
operation goes on.

The row also says which operation has acquired its lease.  No statement of the
code reads that column; it is there to say whose lease a statement changes.

What an operation does between its statements is left to its input: at each poll
it acts on the tunnel, reads the row, lets the heartbeat tick or returns.  The
number of polls is part of the request.
-/

namespace OpenOxide.PrivateNetwork

open Concurrency

/-- `server_private_networks.connection_mode`. -/
inductive ConnectionMode where
  | directSsh
  | managedWireguard
  | externalPrivateNetwork
deriving DecidableEq

/-- The kinds of operations. -/
inductive Operation where
  | setup
  | repair
  | rotate
  | teardown
deriving DecidableEq

/-- A row of `server_private_networks`. -/
structure Network where
  connectionMode : ConnectionMode
  operation : Option Operation
  operationLeaseUntil : Option Int
  acquiredBy : Option Nat

structure NetworkStore where
  rows : Int → Option Network
  nextToken : Nat
  clock : Int

def operationLeaseSeconds : Int := 30

namespace NetworkStore

variable (serverId : Int)

/-- The row of the server is replaced. -/
def setRow (row : Option Network) (store : NetworkStore) : NetworkStore :=
  { store with
    rows := fun other => if other = serverId then row else store.rows other }

/-- An insert that meets a row leaves the columns of the lease as they are. -/
def upsert (connectionMode : ConnectionMode)
    (store : NetworkStore) : NetworkStore :=
  store.setRow serverId (some
    (match store.rows serverId with
    | some row => { row with connectionMode }
    | none => ⟨connectionMode, none, none, none⟩))

/-- No operation, or one whose lease is over. -/
def isFree (now : Int) (row : Network) : Bool :=
  row.operation.isNone || row.operationLeaseUntil.any fun lease => lease < now

/-- One `UPDATE`, if the row is free. -/
def acquireOperation (operation : Operation)
    (store : NetworkStore) : NetworkStore × Option Nat :=
  match store.rows serverId with
  | none => (store, none)
  | some row =>
    if isFree store.clock row then
      ({ store.setRow serverId (some { row with
          operation := some operation
          operationLeaseUntil := some (store.clock + operationLeaseSeconds)
          acquiredBy := some store.nextToken }) with
        nextToken := store.nextToken + 1 }, some store.nextToken)
    else (store, none)

def cleared (row : Network) : Network :=
  { row with operation := none, operationLeaseUntil := none, acquiredBy := none }

/-- Only an operation of the same name. -/
def releaseOperation (operation : Operation)
    (store : NetworkStore) : NetworkStore :=
  match store.rows serverId with
  | some row =>
    if row.operation = some operation then
      store.setRow serverId (some (cleared row))
    else store
  | none => store

/-- Whatever is in progress. -/
def forceReleaseOperation (store : NetworkStore) : NetworkStore :=
  store.setRow serverId ((store.rows serverId).map cleared)

/-- Only an operation of the same name. -/
def renewOperation (operation : Operation)
    (store : NetworkStore) : NetworkStore × Bool :=
  match store.rows serverId with
  | some row =>
    if row.operation = some operation then
      (store.setRow serverId (some { row with
        operationLeaseUntil := some (store.clock + operationLeaseSeconds) }),
        true)
    else (store, false)
  | none => (store, false)

end NetworkStore

/-- What happens next in an operation that waits. -/
inductive Poll where
  | acts
  | reads
  | tick
  | returns (outcome : Except String Unit)

/-- The statements and effects of the service. -/
inductive NetworkOp where
  | assertServer (serverId : Int)
  | get (serverId : Int)
  | upsert (serverId : Int) (connectionMode : ConnectionMode)
  | verifyExternal (serverId : Int)
  | quickDown (serverId : Int)
  | deleteRow (serverId : Int)
  | forceRelease (serverId : Int)
  | acquire (serverId : Int) (operation : Operation)
  | poll (serverId : Int)
  | complete (serverId : Int)
  | renew (serverId : Int) (operation : Operation)
  | release (serverId : Int) (operation : Operation)

@[reducible] def NetworkOp.Ret : NetworkOp → Type
  | .assertServer _ => Except String Unit
  | .get _ => Except String (Option Network)
  | .upsert _ _ => Except String Unit
  | .verifyExternal _ => Except String Unit
  | .quickDown _ => Unit
  | .deleteRow _ => Except String Unit
  | .forceRelease _ => Except String Unit
  | .acquire _ _ => Except String (Option Nat)
  | .poll _ => Poll
  | .complete _ => Except String Unit
  | .renew _ _ => Except String Bool
  | .release _ _ => Except String Unit

/-- The seconds before a statement, whether it fails, and what a poll finds. -/
structure NetworkInput where
  elapsed : Nat
  fault : Option String
  poll : Poll

def NetworkInput.attempt {α : Type} (input : NetworkInput)
    (store : NetworkStore) (result : NetworkStore × α) :
    NetworkStore × Except String α :=
  match input.fault with
  | some message => (store, .error message)
  | none => (result.1, .ok result.2)

def performOp (op : NetworkOp) (input : NetworkInput) (store : NetworkStore) :
    NetworkStore × op.Ret :=
  match op with
  | .assertServer _ => input.attempt store (store, ())
  | .get serverId => input.attempt store (store, store.rows serverId)
  | .upsert serverId connectionMode =>
    input.attempt store (store.upsert serverId connectionMode, ())
  | .verifyExternal _ => input.attempt store (store, ())
  | .quickDown _ => (store, ())
  | .deleteRow serverId =>
    input.attempt store (store.setRow serverId none, ())
  | .forceRelease serverId =>
    input.attempt store (store.forceReleaseOperation serverId, ())
  | .acquire serverId operation =>
    input.attempt store (store.acquireOperation serverId operation)
  | .poll _ => (store, input.poll)
  | .complete _ => input.attempt store (store, ())
  | .renew serverId operation =>
    input.attempt store (store.renewOperation serverId operation)
  | .release serverId operation =>
    input.attempt store (store.releaseOperation serverId operation, ())

def networkExec (op : NetworkOp) (input : NetworkInput)
    (store : NetworkStore) : NetworkStore × op.Ret :=
  performOp op input { store with clock := store.clock + input.elapsed }

abbrev NetworkProgram := Program NetworkOp NetworkOp.Ret

abbrev NetworkAction := ExceptT String NetworkProgram

def NetworkOp.perform (op : NetworkOp) : NetworkProgram op.Ret :=
  Program.perform op

variable (serverId : Int)

/-- A missing row is inserted for a managed network. -/
def getModel : NetworkAction ConnectionMode := do
  match ← ExceptT.mk (NetworkOp.get serverId).perform with
  | some row => pure row.connectionMode
  | none => do
      ExceptT.mk (NetworkOp.assertServer serverId).perform
      ExceptT.mk (NetworkOp.upsert serverId .managedWireguard).perform
      pure .managedWireguard

/-- An operation that returns; a teardown deletes the row before. -/
def conclude (operation : Operation)
    (outcome : Except String Unit) : NetworkProgram (Except String Unit) :=
  match operation, outcome with
  | .teardown, .ok _ => (NetworkOp.deleteRow serverId).perform
  | _, outcome => pure outcome

/-- The loop of `with_operation`: the operation goes on, or the heartbeat renews
its lease. -/
def selectLoop (serverId : Int) (operation : Operation) :
    Nat → NetworkProgram (Except String Unit)
  | 0 => do
      let outcome ← (NetworkOp.complete serverId).perform
      conclude serverId operation outcome
  | polls + 1 => do
      match ← (NetworkOp.poll serverId).perform with
      | .acts => selectLoop serverId operation polls
      | .reads => do
          let _ ← (getModel serverId).run
          selectLoop serverId operation polls
      | .returns outcome => conclude serverId operation outcome
      | .tick => do
          match ← (NetworkOp.renew serverId operation).perform with
          | .ok true => selectLoop serverId operation polls
          | .ok false =>
            pure (.error "private-network operation lease was lost")
          | .error _ => selectLoop serverId operation polls

/-- The body runs between lease and release. -/
def withOperation (operation : Operation) (polls : Nat) :
    NetworkAction Unit := do
  match ← ExceptT.mk (NetworkOp.acquire serverId operation).perform with
  | none => throw "another private-network operation is running"
  | some _ => do
      let result ← ExceptT.lift (selectLoop serverId operation polls)
      let release ←
        ExceptT.lift (NetworkOp.release serverId operation).perform
      match result, release with
      | .error error, _ => throw error
      | .ok _, .error error => throw error
      | .ok _, .ok _ => pure ()

/-- Other networks have no keys here. -/
def requireManagedWireguard : NetworkAction Unit := do
  let mode ← getModel serverId
  if mode = .managedWireguard then pure ()
  else throw "key rotation is only available for OpenOxide-managed WireGuard"

/-- Setup and repair, which only verify an external network. -/
def unlessExternal (operation : Operation) (polls : Nat) :
    NetworkAction Unit := do
  let mode ← getModel serverId
  if mode = .externalPrivateNetwork then
    ExceptT.mk (NetworkOp.verifyExternal serverId).perform
  else withOperation serverId operation polls

variable (polls : Nat)

def setupTransport : NetworkAction Unit :=
  unlessExternal serverId .setup polls

def repairTransport : NetworkAction Unit :=
  unlessExternal serverId .repair polls

/-- Takes the lease from whoever has it. -/
def reSetupTransport : NetworkAction Unit := do
  requireManagedWireguard serverId
  let _ ← ExceptT.lift (NetworkOp.forceRelease serverId).perform
  withOperation serverId .setup polls

def rotateWireguard : NetworkAction Unit := do
  requireManagedWireguard serverId
  withOperation serverId .rotate polls

/-- An external network has only its row. -/
def teardownTransport : NetworkAction Unit := do
  let mode ← getModel serverId
  if mode = .externalPrivateNetwork then
    ExceptT.mk (NetworkOp.deleteRow serverId).perform
  else withOperation serverId .teardown polls

/-- The interface goes down on both ends, whatever comes of it. -/
def disable : NetworkAction Unit := do
  ExceptT.mk (NetworkOp.assertServer serverId).perform
  ExceptT.lift (NetworkOp.quickDown serverId).perform
  ExceptT.mk (NetworkOp.deleteRow serverId).perform

/-- An update whose input has passed its checks. -/
def update (mode : ConnectionMode) : NetworkAction Unit := do
  ExceptT.mk (NetworkOp.assertServer serverId).perform
  match mode with
  | .directSsh => ExceptT.mk (NetworkOp.deleteRow serverId).perform
  | .externalPrivateNetwork => do
      ExceptT.mk (NetworkOp.verifyExternal serverId).perform
      ExceptT.mk (NetworkOp.upsert serverId mode).perform
  | .managedWireguard =>
    ExceptT.mk (NetworkOp.upsert serverId mode).perform

end OpenOxide.PrivateNetwork

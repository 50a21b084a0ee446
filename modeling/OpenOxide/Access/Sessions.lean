import OpenOxide.Access.Directory
import OpenOxide.Concurrency.Pool

/-!
# Sessions and their tokens

The part of `AuthService` that writes `jwt_tokens`, as programs whose operations
are the statements and transactions that other requests can come between.

A token text stands for its claims: a text that the server has signed is known by
the claims in `signed`, and no other text passes the signature check.  Random
identifiers are taken from a counter, so they are never drawn twice.  A pair of
tokens is made right before the transaction that stores it, and nobody sees it
before the commit, so both are one operation here.
-/

namespace OpenOxide.Access

open Relational Concurrency

/-- The `type` claim. -/
inductive TokenType where
  | access
  | refresh
deriving DecidableEq

structure Claims where
  userId : Int
  jti : Nat
  tokenType : TokenType
  exp : Int
deriving DecidableEq

structure TokenPair where
  accessToken : Claims
  refreshToken : Claims

/-- A row of `jwt_tokens`. -/
structure JwtToken where
  jti : Nat
  userId : Int
  isBlacklist : Bool
  expiredAt : Int
  sessionId : Option Nat
  tokenKind : TokenType
deriving DecidableEq

structure Account where
  id : Int
  email : Option String
  password : String

/-- A row of `password_reset_tokens`. -/
structure PasswordResetToken where
  userId : Int
  tokenHash : String
  expiresAt : Int
  used : Bool

structure AuthStore where
  accounts : List Account
  tokens : List JwtToken
  resets : List PasswordResetToken
  signed : List Claims
  nextUuid : Nat

structure JwtConfig where
  accessExpiry : Int
  refreshExpiry : Int
  debugSkipTimeCheck : Bool

namespace AuthStore

variable (config : JwtConfig)

/-- `JwtService::validate_refresh_token`, with the leeway of the library. -/
def validateRefreshToken (now : Int) (token : Claims)
    (store : AuthStore) : Bool :=
  store.signed.contains token && token.tokenType == .refresh &&
    (config.debugSkipTimeCheck || decide (now - 60 ≤ token.exp))

/-- Known, not revoked and not expired. -/
def isTokenActive (now : Int) (jti : Nat) (store : AuthStore) : Bool :=
  store.tokens.any fun row =>
    row.jti == jti && !row.isBlacklist && decide (now < row.expiredAt)

def sessionIdForJti (jti : Nat) (store : AuthStore) : Option Nat :=
  (store.tokens.find? fun row => row.jti == jti).bind JwtToken.sessionId

/-- Put the rows that the condition hits on the blacklist. -/
def blacklistWhere (hits : JwtToken → Bool) (store : AuthStore) : AuthStore :=
  { store with
    tokens := updateWhere hits (fun row => { row with isBlacklist := true })
      store.tokens }

def blacklistByJti (jti : Nat) : AuthStore → AuthStore :=
  blacklistWhere fun row => row.jti == jti

def blacklistAllByUser (userId : Int) : AuthStore → AuthStore :=
  blacklistWhere fun row => row.userId == userId && !row.isBlacklist

def isOfSession (userId : Int) (sessionId : Nat) (row : JwtToken) : Bool :=
  row.userId == userId && row.sessionId == some sessionId

/-- The tokens of one session; whether there is one. -/
def revokeSession (userId : Int) (sessionId : Nat) (store : AuthStore) :
    AuthStore × Bool :=
  (store.blacklistWhere fun row =>
      isOfSession userId sessionId row && !row.isBlacklist,
    store.tokens.any fun row =>
      isOfSession userId sessionId row && !row.isBlacklist)

/-- The pair that `generate_token_pair` makes next. -/
def nextPair (now userId : Int) (store : AuthStore) : TokenPair where
  accessToken := ⟨userId, store.nextUuid, .access, now + config.accessExpiry⟩
  refreshToken :=
    ⟨userId, store.nextUuid + 1, .refresh, now + config.refreshExpiry⟩

def rowOf (sessionId : Nat) (claims : Claims) : JwtToken where
  jti := claims.jti
  userId := claims.userId
  isBlacklist := false
  expiredAt := claims.exp
  sessionId := some sessionId
  tokenKind := claims.tokenType

/-- `generate_token_pair` and `store_token_pair`. -/
def storeTokenPair (now userId : Int) (sessionId : Nat)
    (store : AuthStore) : AuthStore × TokenPair :=
  let pair := store.nextPair config now userId
  ({ store with
      tokens := store.tokens ++ [rowOf sessionId pair.accessToken,
        rowOf sessionId pair.refreshToken]
      signed := store.signed ++ [pair.accessToken, pair.refreshToken]
      nextUuid := store.nextUuid + 2 }, pair)

/-- The end of `refresh`: the old token goes and a new pair comes, in one
transaction. -/
def rotate (now : Int) (jti : Nat) (userId : Int)
    (sessionId : Nat) (store : AuthStore) : AuthStore × TokenPair :=
  (store.blacklistByJti jti).storeTokenPair config now userId sessionId

/-- The token that `PasswordResetTokenRepository::complete` consumes. -/
def usableReset (now : Int) (tokenHash : String)
    (reset : PasswordResetToken) : Bool :=
  reset.tokenHash == tokenHash && !reset.used && decide (now < reset.expiresAt)

/-- A new password, and all tokens revoked. -/
def completeReset (now : Int) (tokenHash password : String)
    (store : AuthStore) : AuthStore × Bool :=
  match store.resets.find? (usableReset now tokenHash) with
  | none => (store, false)
  | some reset =>
    ({ store.blacklistAllByUser reset.userId with
      resets := updateWhere (usableReset now tokenHash)
        (fun reset => { reset with used := true }) store.resets
      accounts := updateWhere (fun account => account.id == reset.userId)
        (fun account => { account with password }) store.accounts }, true)

end AuthStore

/-- The statements and effects that the calls run. -/
inductive AuthOp where
  | validateRefreshToken (token : Claims)
  | isTokenActive (jti : Nat)
  | sessionIdForJti (jti : Nat)
  | newUuid
  | userById (id : Int)
  | userByEmail (email : String)
  | verifyPassword (password encoded : String)
  | verifySecondFactor (userId : Int)
  | hashPassword (password : String)
  | rotate (jti : Nat) (userId : Int) (sessionId : Nat)
  | issueTokenPair (userId : Int) (sessionId : Nat)
  | blacklistAllByUser (userId : Int)
  | revokeSession (userId : Int) (sessionId : Nat)
  | completeReset (tokenHash password : String)
  | returns (token : Claims) (outcome : Except AuthError TokenPair)

/-- The answer of an operation that can fail. -/
@[reducible] def AuthOp.Ret : AuthOp → Type
  | .validateRefreshToken _ => Except AuthError Unit
  | .isTokenActive _ => Except AuthError Bool
  | .sessionIdForJti _ => Except AuthError (Option Nat)
  | .newUuid => Nat
  | .userById _ => Except AuthError (Option Account)
  | .userByEmail _ => Except AuthError (Option Account)
  | .verifyPassword _ _ => Except AuthError Unit
  | .verifySecondFactor _ => Except AuthError Unit
  | .hashPassword _ => Except AuthError String
  | .rotate .. => Except AuthError TokenPair
  | .issueTokenPair .. => Except AuthError TokenPair
  | .blacklistAllByUser _ => Except AuthError Unit
  | .revokeSession .. => Except AuthError Bool
  | .completeReset .. => Except AuthError Bool
  | .returns .. => Unit

/-- What the outside decides about one operation: the time, whether it fails, and
the text of a hash. -/
structure AuthInput where
  now : Int
  fault : Option AuthError
  hash : String

/-- An operation that fails changes nothing. -/
def AuthInput.attempt {α : Type} (input : AuthInput) (store : AuthStore)
    (result : AuthStore × α) : AuthStore × Except AuthError α :=
  match input.fault with
  | some failure => (store, .error failure)
  | none => (result.1, .ok result.2)

/-- What an operation does and answers. -/
def authExec (config : JwtConfig) (op : AuthOp) (input : AuthInput)
    (store : AuthStore) : AuthStore × op.Ret :=
  match op with
  | .validateRefreshToken token =>
    (store, if store.validateRefreshToken config input.now token then .ok ()
      else .error .invalidToken)
  | .isTokenActive jti =>
    input.attempt store (store, store.isTokenActive input.now jti)
  | .sessionIdForJti jti =>
    input.attempt store (store, store.sessionIdForJti jti)
  | .newUuid => ({ store with nextUuid := store.nextUuid + 1 }, store.nextUuid)
  | .userById id =>
    input.attempt store
      (store, store.accounts.find? fun account => account.id == id)
  | .userByEmail email =>
    input.attempt store
      (store, store.accounts.find? fun account => account.email == some email)
  | .verifyPassword _ _ => input.attempt store (store, ())
  | .verifySecondFactor _ => input.attempt store (store, ())
  | .hashPassword _ => input.attempt store (store, input.hash)
  | .rotate jti userId sessionId =>
    input.attempt store (store.rotate config input.now jti userId sessionId)
  | .issueTokenPair userId sessionId =>
    input.attempt store
      (store.storeTokenPair config input.now userId sessionId)
  | .blacklistAllByUser userId =>
    input.attempt store (store.blacklistAllByUser userId, ())
  | .revokeSession userId sessionId =>
    input.attempt store (store.revokeSession userId sessionId)
  | .completeReset tokenHash password =>
    input.attempt store (store.completeReset input.now tokenHash password)
  | .returns _ _ => (store, ())

abbrev AuthProgram := Program AuthOp AuthOp.Ret

abbrev AuthAction := ExceptT AuthError AuthProgram

def AuthOp.perform (op : AuthOp) : AuthProgram op.Ret :=
  Program.perform op

/-- A revoked token is invalid. -/
def ensureTokenActive (jti : Nat) : AuthAction Unit := do
  let active : Bool ← ExceptT.mk (AuthOp.isTokenActive jti).perform
  if active then pure () else throw .invalidToken

/-- The session of the token, or a new one. -/
def sessionOf (jti : Nat) : AuthAction Nat := do
  match ← ExceptT.mk (AuthOp.sessionIdForJti jti).perform with
  | some sessionId => pure sessionId
  | none => ExceptT.lift AuthOp.newUuid.perform

def getUserById (id : Int) : AuthAction Account := do
  match ← ExceptT.mk (AuthOp.userById id).perform with
  | some account => pure account
  | none => throw (.database .rowNotFound)

/-- `AuthService::refresh`. -/
def refresh (token : Claims) : AuthAction TokenPair := do
  ExceptT.mk (AuthOp.validateRefreshToken token).perform
  ensureTokenActive token.jti
  let sessionId ← sessionOf token.jti
  let user ← getUserById token.userId
  ExceptT.mk (AuthOp.rotate token.jti user.id sessionId).perform

/-- `AuthService::login`. -/
def login (email password : String) : AuthAction TokenPair := do
  match ← ExceptT.mk (AuthOp.userByEmail email).perform with
  | none => throw .invalidCredentials
  | some user => do
      ExceptT.mk (AuthOp.verifyPassword password user.password).perform
      ExceptT.mk (AuthOp.verifySecondFactor user.id).perform
      let sessionId ← ExceptT.lift AuthOp.newUuid.perform
      ExceptT.mk (AuthOp.issueTokenPair user.id sessionId).perform

def logoutAll (userId : Int) : AuthAction Unit :=
  ExceptT.mk (AuthOp.blacklistAllByUser userId).perform

def revokeSession (userId : Int) (sessionId : Nat) : AuthAction Bool :=
  ExceptT.mk (AuthOp.revokeSession userId sessionId).perform

/-- `AuthService::reset_password`; the request carries the digest of its
token. -/
def resetPassword (tokenHash password : String) : AuthAction Unit := do
  let hash : String ← ExceptT.mk (AuthOp.hashPassword password).perform
  let completed : Bool ←
    ExceptT.mk (AuthOp.completeReset tokenHash hash).perform
  if completed then pure () else throw .invalidResetToken

/-- The calls that read or write sessions. -/
inductive AuthCall where
  | refresh (token : Claims)
  | login (email password : String)
  | logoutAll (userId : Int)
  | revokeSession (userId : Int) (sessionId : Nat)
  | resetPassword (tokenHash password : String)

/-- How far a request has come.  The stages of a refresh remember what the next
statement is about. -/
inductive AuthStage where
  | refreshing (token : Claims)
  | validated (token : Claims)
  | checked (token : Claims)
  | unlocated (token : Claims)
  | located (token : Claims) (sessionId : Nat)
  | subject (token : Claims) (sessionId : Nat) (userId : Int)
  | rotated (token : Claims)
  | failed (token : Claims)
  | plain
  | ended

/-- The operations of the requests other than refreshes. -/
def AuthOp.isPlain : AuthOp → Bool
  | .newUuid | .userByEmail _ | .verifyPassword _ _ | .verifySecondFactor _ =>
    true
  | .hashPassword _ | .issueTokenPair _ _ | .blacklistAllByUser _ => true
  | .revokeSession _ _ | .completeReset _ _ => true
  | _ => false

/-- What a call may do next. -/
inductive AuthStage.Allows : AuthStage → AuthOp → Prop where
  | validate (token : Claims) :
      Allows (.refreshing token) (.validateRefreshToken token)
  | check (token : Claims) :
      Allows (.validated token) (.isTokenActive token.jti)
  | locate (token : Claims) :
      Allows (.checked token) (.sessionIdForJti token.jti)
  | begin (token : Claims) : Allows (.unlocated token) .newUuid
  | find (token : Claims) (sessionId : Nat) :
      Allows (.located token sessionId) (.userById token.userId)
  | rotate (token : Claims) (sessionId : Nat) (userId : Int) :
      Allows (.subject token sessionId userId)
        (.rotate token.jti userId sessionId)
  | succeed (token : Claims) (pair : TokenPair) :
      Allows (.rotated token) (.returns token (.ok pair))
  | fail (token : Claims) (failure : AuthError) :
      Allows (.failed token) (.returns token (.error failure))
  | plain (op : AuthOp) (plain : op.isPlain = true) : Allows .plain op

/-- Where a call is after an answer. -/
def AuthStage.advance (stage : AuthStage) (op : AuthOp) (answer : op.Ret) :
    AuthStage :=
  match stage, op, answer with
  | .refreshing token, .validateRefreshToken _, .ok _ => .validated token
  | .refreshing token, .validateRefreshToken _, .error _ => .failed token
  | .validated token, .isTokenActive _, .ok true => .checked token
  | .validated token, .isTokenActive _, _ => .failed token
  | .checked token, .sessionIdForJti _, .ok (some sessionId) =>
    .located token sessionId
  | .checked token, .sessionIdForJti _, .ok none => .unlocated token
  | .checked token, .sessionIdForJti _, .error _ => .failed token
  | .unlocated token, .newUuid, sessionId => .located token sessionId
  | .located token sessionId, .userById _, .ok (some account) =>
    .subject token sessionId account.id
  | .located token _, .userById _, _ => .failed token
  | .subject token _ _, .rotate .., .ok _ => .rotated token
  | .subject token _ _, .rotate .., .error _ => .failed token
  | .rotated _, .returns .., _ => .ended
  | .failed _, .returns .., _ => .ended
  | stage, _, _ => stage

def authProtocol : Protocol AuthOp AuthOp.Ret AuthStage where
  allows := AuthStage.Allows
  advance := AuthStage.advance

abbrev AuthTask := Task AuthOp AuthOp.Ret AuthStage

def plainTask {α : Type} (action : AuthAction α) : AuthTask :=
  ⟨.plain, do
    let _ ← action.run
    pure ()⟩

/-- The task of a request; a refresh ends by handing its outcome back. -/
def AuthCall.task : AuthCall → AuthTask
  | .refresh token => ⟨.refreshing token, do
      let outcome ← (Access.refresh token).run
      (AuthOp.returns token outcome).perform⟩
  | .login email password => plainTask (Access.login email password)
  | .logoutAll userId => plainTask (Access.logoutAll userId)
  | .revokeSession userId sessionId =>
    plainTask (Access.revokeSession userId sessionId)
  | .resetPassword tokenHash password =>
    plainTask (Access.resetPassword tokenHash password)

abbrev AuthMachine :=
  Machine AuthOp AuthOp.Ret AuthStore AuthInput AuthStage AuthCall Empty

abbrev AuthGuard := Guard AuthOp AuthOp.Ret AuthStore AuthInput AuthStage AuthCall

abbrev AuthView := View AuthOp AuthOp.Ret AuthStore AuthStage

abbrev AuthPool := Pool AuthOp AuthOp.Ret AuthStore AuthStage

abbrev AuthEntry := Entry AuthOp AuthOp.Ret AuthStage

/-- A panic ends the process, and a restart finds the tables as they were. -/
def authMachine (config : JwtConfig) : AuthMachine where
  protocol := authProtocol
  ready _ _ := true
  exec := authExec config
  children _ := []
  serve := AuthCall.task
  unwind _ := none
  signal signal := signal.elim
  restart store := store
  ended stage := stage = .plain ∨ stage = .ended

/-- The stage in which a refresh has its outcome. -/
def AuthStage.concluded (token : Claims) : Except AuthError TokenPair → AuthStage
  | .ok _ => .rotated token
  | .error _ => .failed token

theorem follows_refresh (token : Claims) :
    authProtocol.Follows (.refreshing token) (refresh token).run
      fun outcome reached => reached = .concluded token outcome := by
  refine ⟨.validate token, fun valid => ?_⟩
  cases valid with
  | error failure => rfl
  | ok value =>
  refine (Protocol.follows_andThen _).mpr ?_
  refine ⟨.check token, fun active => ?_⟩
  cases active with
  | error failure => rfl
  | ok active =>
  cases active with
  | false => rfl
  | true =>
  refine (Protocol.follows_andThen _).mpr ?_
  have rest : ∀ sessionId, authProtocol.Follows (.located token sessionId)
      (getUserById token.userId >>= fun user => ExceptT.mk
        (AuthOp.rotate token.jti user.id sessionId).perform).run
      fun outcome reached => reached = .concluded token outcome := by
    intro sessionId
    refine (Protocol.follows_andThen _).mpr ?_
    refine ⟨.find token sessionId, fun found => ?_⟩
    cases found with
    | error failure => rfl
    | ok found =>
    cases found with
    | none => rfl
    | some account =>
      refine ⟨.rotate token sessionId account.id, fun outcome => ?_⟩
      cases outcome with
      | error | ok =>
        rfl
  refine ⟨.locate token, fun located => ?_⟩
  cases located with
  | error failure => rfl
  | ok located =>
  cases located with
  | some sessionId => exact rest sessionId
  | none => exact ⟨.begin token, rest⟩

theorem only_login (email password : String) :
    (login email password).run.Only fun op => op.isPlain = true := by
  refine Program.Only.andThen (Program.only_perform rfl) fun found => ?_
  cases found with
  | none => trivial
  | some user =>
    refine Program.Only.andThen (Program.only_perform rfl) fun _ => ?_
    refine Program.Only.andThen (Program.only_perform rfl) fun _ => ?_
    refine Program.Only.andThen (Program.Only.lift (Program.only_perform rfl))
      fun _ => ?_
    exact Program.only_perform rfl

theorem only_resetPassword (tokenHash password : String) :
    (resetPassword tokenHash password).run.Only
      fun op => op.isPlain = true := by
  refine Program.Only.andThen (Program.only_perform rfl) fun _ => ?_
  refine Program.Only.andThen (Program.only_perform rfl) fun completed => ?_
  cases completed <;> trivial

theorem follows_plain {config : JwtConfig} {α : Type} {action : AuthAction α}
    (only : action.run.Only fun op => op.isPlain = true) :
    (authMachine config).TaskFollows (plainTask action) := by
  refine (Protocol.follows_bind _).mpr ?_
  apply (authProtocol.follows_only only (fun op plain => .plain op plain)
    (fun op _ _ => by cases op <;> rfl)).weaken
  intro _ reached same
  exact .inl same

theorem authMachine_sound (config : JwtConfig) : (authMachine config).Sound where
  children _ _ member := by cases member
  unwind _ _ handled := by cases handled
  serve call := by
    cases call with
    | refresh token =>
      refine (Protocol.follows_bind _).mpr ?_
      apply (follows_refresh token).weaken
      intro outcome reached concluded
      subst concluded
      cases outcome with
      | ok pair => exact ⟨.succeed token pair, fun _ => .inr rfl⟩
      | error failure => exact ⟨.fail token failure, fun _ => .inr rfl⟩
    | login email password => exact follows_plain (only_login email password)
    | logoutAll | revokeSession =>
      exact follows_plain (Program.only_perform rfl)
    | resetPassword tokenHash password =>
      exact follows_plain (only_resetPassword tokenHash password)

end OpenOxide.Access
